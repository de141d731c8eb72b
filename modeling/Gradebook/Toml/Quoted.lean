import Gradebook.Text.Decimal

/-!
# TOML strings

A string is written in one of four styles: basic with escapes or literal without, each on one line
between single delimiters or on several between triple ones.  A line break that follows the opening
of a string on several lines does not belong to it.
-/

namespace Gradebook.Toml

def isControl (c : Char) : Bool :=
  (c.toNat < 0x20 && c ≠ '\t') || c.toNat == 0x7F

def isLineSpace (c : Char) : Bool :=
  c == ' ' || c == '\t'

def charOfHex? (ds : List Char) : Option Char := do
  let n ← Text.ofDigits? 16 ds
  if n < 0xD800 ∨ (0xDFFF < n ∧ n ≤ 0x10FFFF) then some (Char.ofNat n) else none

def shortEscape? : Char → Option Char
  | 'b' => some '\x08'
  | 't' => some '\t'
  | 'n' => some '\n'
  | 'f' => some '\x0c'
  | 'r' => some '\r'
  | '"' => some '"'
  | '\\' => some '\\'
  | _ => none

def prepend (c : Char) (r : Option (List Char × List Char)) : Option (List Char × List Char) :=
  r.map fun (cs, rest) => (c :: cs, rest)

def basicBody : List Char → Option (List Char × List Char)
  | [] => none
  | '"' :: rest => some ([], rest)
  | '\\' :: 'u' :: a :: b :: c :: d :: rest =>
    (charOfHex? [a, b, c, d]).bind fun x => prepend x (basicBody rest)
  | '\\' :: 'U' :: a :: b :: c :: d :: e :: f :: g :: h :: rest =>
    (charOfHex? [a, b, c, d, e, f, g, h]).bind fun x => prepend x (basicBody rest)
  | '\\' :: e :: rest => (shortEscape? e).bind fun x => prepend x (basicBody rest)
  | c :: rest => if isControl c || c = '\\' then none else prepend c (basicBody rest)

def literalBody : List Char → Option (List Char × List Char)
  | [] => none
  | '\'' :: rest => some ([], rest)
  | c :: rest => if isControl c then none else prepend c (literalBody rest)

/-- The end of a string on several lines after three of its quotes: up to two more belong to the
string. -/
def closeLines (quote : Char) (rest : List Char) : List Char × List Char :=
  let extra := (rest.take 2).takeWhile (· = quote)
  (extra, rest.drop extra.length)

/-- A backslash before this text joins lines: only white space stands before the line's end. -/
def joinsLines (rest : List Char) : Bool :=
  match rest.dropWhile isLineSpace with
  | '\n' :: _ | '\r' :: '\n' :: _ => true
  | _ => false

/-- A basic string on several lines up to its closing quotes, and what follows; `skipping` tells
that white space and line breaks are passed over after a joined line. -/
def basicLines (skipping : Bool) : List Char → Option (List Char × List Char)
  | [] => none
  | '"' :: '"' :: '"' :: rest => some (closeLines '"' rest)
  | '\\' :: 'u' :: a :: b :: c :: d :: rest =>
    (charOfHex? [a, b, c, d]).bind fun x => prepend x (basicLines false rest)
  | '\\' :: 'U' :: a :: b :: c :: d :: e :: f :: g :: h :: rest =>
    (charOfHex? [a, b, c, d, e, f, g, h]).bind fun x => prepend x (basicLines false rest)
  | '\\' :: rest =>
    if joinsLines rest then basicLines true rest
    else
      match rest with
      | e :: rest => (shortEscape? e).bind fun x => prepend x (basicLines false rest)
      | [] => none
  | '\r' :: '\n' :: rest =>
    if skipping then basicLines true rest else prepend '\n' (basicLines false rest)
  | c :: rest =>
    if skipping && (isLineSpace c || c = '\n') then basicLines true rest
    else if c = '\n' then prepend c (basicLines false rest)
    else if isControl c then none
    else prepend c (basicLines false rest)

def literalLines : List Char → Option (List Char × List Char)
  | [] => none
  | '\'' :: '\'' :: '\'' :: rest => some (closeLines '\'' rest)
  | '\r' :: '\n' :: rest => prepend '\n' (literalLines rest)
  | c :: rest => if c ≠ '\n' && isControl c then none else prepend c (literalLines rest)

def dropLineBreak : List Char → List Char
  | '\n' :: rest | '\r' :: '\n' :: rest => rest
  | rest => rest

def readLineString? : List Char → Option (List Char × List Char)
  | '"' :: rest => basicBody rest
  | '\'' :: rest => literalBody rest
  | _ => none

def readString? : List Char → Option (List Char × List Char)
  | '"' :: '"' :: '"' :: rest => basicLines false (dropLineBreak rest)
  | '\'' :: '\'' :: '\'' :: rest => literalLines (dropLineBreak rest)
  | s => readLineString? s

end Gradebook.Toml
