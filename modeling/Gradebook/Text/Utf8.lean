/-!
# Bytes as text

The characters of bytes that should be UTF-8.  Where they are not, a replacement character stands
for each longest run of bytes that begins a character without finishing it, and for each byte that
begins none.
-/

namespace Gradebook.Text

def replacement : Char := '\uFFFD'

def isContinuation (b : UInt8) : Bool := 0x80 ≤ b && b ≤ 0xBF

def continuationCount (first : UInt8) : Nat :=
  if 0xC2 ≤ first && first ≤ 0xDF then 1
  else if 0xE0 ≤ first && first ≤ 0xEF then 2
  else if 0xF0 ≤ first && first ≤ 0xF4 then 3
  else 0

/-- Whether a second byte may follow a first one: no overlong form, no surrogate, nothing past
the last character. -/
def isSecond (first second : UInt8) : Bool :=
  if first = 0xE0 then 0xA0 ≤ second && second ≤ 0xBF
  else if first = 0xED then 0x80 ≤ second && second ≤ 0x9F
  else if first = 0xF0 then 0x90 ≤ second && second ≤ 0xBF
  else if first = 0xF4 then 0x80 ≤ second && second ≤ 0x8F
  else isContinuation second

def followers (first : UInt8) (rest : List UInt8) : Nat :=
  match rest with
  | [] => 0
  | second :: more =>
    if continuationCount first = 0 || !isSecond first second then 0
    else 1 + ((more.take (continuationCount first - 1)).takeWhile isContinuation).length

def charOfBytes (first : UInt8) (rest : List UInt8) : Char :=
  let lead := match rest.length with
    | 1 => first.toNat % 0x20
    | 2 => first.toNat % 0x10
    | 3 => first.toNat % 0x08
    | _ => first.toNat
  Char.ofNat (rest.foldl (fun n b => 0x40 * n + b.toNat % 0x40) lead)

/-- The characters of bytes, with replacements. -/
def lossyUtf8 : List UInt8 → List Char
  | [] => []
  | first :: rest =>
    let n := followers first rest
    let c := if first < 0x80 || (n ≠ 0 && n = continuationCount first) then
      charOfBytes first (rest.take n) else replacement
    c :: lossyUtf8 (rest.drop n)
termination_by bytes => bytes.length
decreasing_by simp only [List.length_drop, List.length_cons]; omega

end Gradebook.Text
