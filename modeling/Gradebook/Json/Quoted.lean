/-!
# JSON strings

A string is written between quotes, with escapes for the quote, the backslash and the control
characters.  Reading also takes escaped code units; two that form a surrogate pair are one
character, and a surrogate without its partner makes the string unreadable.
-/

namespace Gradebook.Json

def hexDigit (n : Nat) : Char :=
  if n < 10 then Char.ofNat (48 + n) else Char.ofNat (87 + n)

def escapeChar (c : Char) : List Char :=
  match c with
  | '"' => ['\\', '"']
  | '\\' => ['\\', '\\']
  | '\n' => ['\\', 'n']
  | '\r' => ['\\', 'r']
  | '\t' => ['\\', 't']
  | '\x08' => ['\\', 'b']
  | '\x0c' => ['\\', 'f']
  | c =>
    if c.toNat < 0x20 then
      ['\\', 'u', '0', '0', hexDigit (c.toNat / 16), hexDigit (c.toNat % 16)]
    else [c]

def quote (s : List Char) : List Char :=
  '"' :: s.flatMap escapeChar ++ ['"']

/-- A part of a string as it is written: a character, or an escaped code unit of sixteen bits. -/
inductive Piece where
  | char (c : Char)
  | codeUnit (n : Nat)
deriving DecidableEq

def hexValue? (c : Char) : Option Nat :=
  if c.isDigit then some (c.toNat - 48)
  else if 'a' ≤ c ∧ c ≤ 'f' then some (c.toNat - 87)
  else if 'A' ≤ c ∧ c ≤ 'F' then some (c.toNat - 55)
  else none

def codeUnit? (a b c d : Char) : Option Nat := do
  let a ← hexValue? a
  let b ← hexValue? b
  let c ← hexValue? c
  let d ← hexValue? d
  some (((a * 16 + b) * 16 + c) * 16 + d)

def shortEscape? : Char → Option Char
  | '"' => some '"'
  | '\\' => some '\\'
  | '/' => some '/'
  | 'b' => some '\x08'
  | 'f' => some '\x0c'
  | 'n' => some '\n'
  | 'r' => some '\r'
  | 't' => some '\t'
  | _ => none

/-- The pieces up to the closing quote, and what follows it.  A control character ends the
reading without a string. -/
def pieces? : List Char → Option (List Piece × List Char)
  | [] => none
  | '"' :: rest => some ([], rest)
  | '\\' :: 'u' :: a :: b :: c :: d :: rest => do
    let n ← codeUnit? a b c d
    let (ps, r) ← pieces? rest
    some (.codeUnit n :: ps, r)
  | '\\' :: e :: rest => do
    let c ← shortEscape? e
    let (ps, r) ← pieces? rest
    some (.char c :: ps, r)
  | c :: rest =>
    if c.toNat < 0x20 then none
    else do
      let (ps, r) ← pieces? rest
      some (.char c :: ps, r)

def isHighSurrogate (n : Nat) : Bool := 0xD800 ≤ n && n ≤ 0xDBFF

def isLowSurrogate (n : Nat) : Bool := 0xDC00 ≤ n && n ≤ 0xDFFF

/-- The characters of pieces, if every surrogate has its partner. -/
def joinPieces? : List Piece → Option (List Char)
  | [] => some []
  | .char c :: rest => (c :: ·) <$> joinPieces? rest
  | .codeUnit n :: rest =>
    if isHighSurrogate n then
      match rest with
      | .codeUnit m :: rest =>
        if isLowSurrogate m then
          (Char.ofNat (0x10000 + (n - 0xD800) * 0x400 + (m - 0xDC00)) :: ·) <$> joinPieces? rest
        else none
      | _ => none
    else if isLowSurrogate n then none
    else (Char.ofNat n :: ·) <$> joinPieces? rest

theorem pieces?_length {s r : List Char} {ps : List Piece} (h : pieces? s = some (ps, r)) :
    r.length < s.length := by
  fun_induction pieces? s generalizing ps r with
  | case1 => simp at h
  | case2 rest => simp_all
  | case3 a b c d rest ih =>
    simp only [Option.bind_eq_bind, Option.bind_eq_some_iff] at h
    obtain ⟨n, -, ⟨qs, t⟩, ht, hr⟩ := h
    have := ih ht
    simp_all
    omega
  | case4 e rest hne ih =>
    simp only [Option.bind_eq_bind, Option.bind_eq_some_iff] at h
    obtain ⟨c, -, ⟨qs, t⟩, ht, hr⟩ := h
    have := ih ht
    simp_all
    omega
  | case5 => simp at h
  | case6 c rest hc hu he hs ih =>
    simp only [Option.bind_eq_bind, Option.bind_eq_some_iff] at h
    obtain ⟨⟨qs, t⟩, ht, hr⟩ := h
    have := ih ht
    simp_all
    omega

end Gradebook.Json
