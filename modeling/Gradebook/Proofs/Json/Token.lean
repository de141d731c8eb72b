import Gradebook.Json.Token
import Gradebook.Proofs.Json.Quoted
import Gradebook.Proofs.Text.Decimal

/-!
# Tokens read back

A written token is read back as itself; only a number depends on what follows, which must not go
on with it.  White space between tokens is passed over.
-/

namespace Gradebook.Json

/-- What follows a number does not go on with it. -/
def EndsNumber (rest : List Char) : Prop :=
  ∀ c ∈ rest.head?, isNumberChar c = false

theorem endsNumber_nil : EndsNumber [] := by
  intro c h
  cases h

theorem endsNumber_cons {c : Char} {rest : List Char} (h : isNumberChar c = false) :
    EndsNumber (c :: rest) := by
  intro d hd
  cases hd
  exact h

theorem isNumberChar_of_isDigit {c : Char} (h : c.isDigit = true) : isNumberChar c = true := by
  simp [isNumberChar, h]

theorem isIntegerPart_digits (n : Nat) : isIntegerPart (Text.digits n) = true := by
  cases n with
  | zero => rfl
  | succ n =>
    have hfirst := Text.head?_digits_ne_zero (Nat.succ_pos n)
    obtain ⟨d, ds, hd⟩ := List.exists_cons_of_ne_nil (Text.digits_ne_nil (n + 1))
    rw [hd] at hfirst ⊢
    unfold isIntegerPart
    split
    next h => cases h
    next h => exact absurd (congrArg some (List.cons.inj h).1) hfirst
    next => rfl

theorem digitRun_digits (n : Nat) : Text.digitRun (Text.digits n) = (Text.digits n, []) := by
  have h := Text.digitRun_append (fun c => Text.isDigit_of_mem_digits (n := n) (c := c))
    Text.endsDigits_nil
  rwa [List.append_nil] at h

theorem digits_ne_minus (n : Nat) (rest : List Char) : Text.digits n ≠ '-' :: rest := by
  intro h
  have hmem : '-' ∈ Text.digits n := by rw [h]; exact List.mem_cons_self
  exact absurd (Text.isDigit_of_mem_digits hmem) (by decide)

theorem digits_ne_zero {n : Nat} (h : 0 < n) : Text.digits n ≠ ['0'] := by
  intro he
  have hfirst := Text.head?_digits_ne_zero h
  rw [he] at hfirst
  exact hfirst rfl

theorem numberToken?_digits (n : Nat) :
    numberToken? (Text.digits n) = some (.integer n) := by
  unfold numberToken?
  split
  next negative unsigned h =>
    split at h
    next heq => exact absurd heq (digits_ne_minus n _)
    next =>
      obtain ⟨rfl, rfl⟩ := Prod.mk.inj h
      simp [digitRun_digits, isIntegerPart_digits, isFractionAndExponent, isExponent,
        Text.digitsValue_digits]

theorem numberToken?_minus_digits {n : Nat} (h : 0 < n) :
    numberToken? ('-' :: Text.digits n) = some (.integer (-n)) := by
  simp [numberToken?, digitRun_digits, isIntegerPart_digits, isFractionAndExponent, isExponent,
    Text.digitsValue_digits, digits_ne_zero h]

theorem numberToken?_writeInteger (n : Int) :
    numberToken? (writeInteger n) = some (.integer n) := by
  unfold writeInteger
  split
  · have hn : -((n.natAbs : Nat) : Int) = n := by omega
    rw [numberToken?_minus_digits (by omega), hn]
  · have hn : ((n.natAbs : Nat) : Int) = n := by omega
    rw [numberToken?_digits, hn]

theorem isNumberChar_of_mem_writeInteger {n : Int} {c : Char} (h : c ∈ writeInteger n) :
    isNumberChar c = true := by
  unfold writeInteger at h
  split at h
  · rcases List.mem_cons.1 h with rfl | h
    · decide
    · exact isNumberChar_of_isDigit (Text.isDigit_of_mem_digits h)
  · exact isNumberChar_of_isDigit (Text.isDigit_of_mem_digits h)

theorem token?_of_number {c : Char} (h : c.isDigit = true ∨ c = '-') (rest : List Char) :
    token? c rest = (numberToken? (c :: rest.takeWhile isNumberChar)).map
      fun t => (t, rest.dropWhile isNumberChar) := by
  unfold token?
  split
  all_goals first
    | rfl
    | exact absurd h (by decide)

theorem numberToken?_start {c : Char} {rest : List Char} {t : Token}
    (h : numberToken? (c :: rest) = some t) : c.isDigit = true ∨ c = '-' := by
  by_cases hm : c = '-'
  · exact .inr hm
  · left
    by_cases hd : c.isDigit = true
    · exact hd
    · simp [numberToken?, Text.digitRun, hm, hd, isIntegerPart] at h

/-- A token that can be read back from what is written for it. -/
def Token.IsWritable : Token → Prop
  | decimal literal =>
    numberToken? literal = some (.decimal literal) ∧ ∀ c ∈ literal, isNumberChar c = true
  | string s => s.isSome = true
  | _ => True

def Token.MayPrecede (t : Token) (rest : List Char) : Prop :=
  match t with
  | integer _ | decimal _ => EndsNumber rest
  | _ => True

theorem isSpace_of_number {c : Char} (h : c.isDigit = true ∨ c = '-') : isSpace c = false := by
  cases hs : isSpace c with
  | false => rfl
  | true =>
    simp only [isSpace, Bool.or_eq_true, beq_iff_eq] at hs
    rcases hs with ((rfl | rfl) | rfl) | rfl <;> exact absurd h (by decide)

theorem tokens?_nil : tokens? [] = some [] := by
  rw [tokens?]

theorem tokens?_space {c : Char} (h : isSpace c = true) (rest : List Char) :
    tokens? (c :: rest) = tokens? rest := by
  rw [tokens?, if_pos h]

theorem tokens?_spaces {s : List Char} (h : ∀ c ∈ s, isSpace c = true) (rest : List Char) :
    tokens? (s ++ rest) = tokens? rest := by
  induction s with
  | nil => rfl
  | cons c s ih =>
    rw [List.cons_append, tokens?_space (h c List.mem_cons_self),
      ih fun d hd => h d (List.mem_cons_of_mem c hd)]

theorem tokens?_cons {c : Char} {rest r : List Char} {t : Token} (hs : isSpace c = false)
    (h : token? c rest = some (t, r)) : tokens? (c :: rest) = (t :: ·) <$> tokens? r := by
  rw [tokens?, if_neg (by simp [hs])]
  split
  next h' => rw [h] at h'; cases h'
  next h' =>
    rw [h] at h'
    cases h'
    rfl

theorem tokens?_number {literal rest : List Char} {t : Token}
    (h : numberToken? literal = some t) (hl : ∀ c ∈ literal, isNumberChar c = true)
    (hr : EndsNumber rest) : tokens? (literal ++ rest) = (t :: ·) <$> tokens? rest := by
  cases literal with
  | nil => cases h
  | cons c more =>
    have hstart := numberToken?_start h
    have hmore : ∀ d ∈ more, isNumberChar d = true := fun d hd => hl d (List.mem_cons_of_mem c hd)
    rw [List.cons_append]
    apply tokens?_cons (isSpace_of_number hstart)
    rw [token?_of_number hstart, Text.takeWhile_append_of_ends hmore hr,
      Text.dropWhile_append_of_ends hmore hr, h]
    rfl

theorem tokens?_quote (s rest : List Char) :
    tokens? (quote s ++ rest) = (.string (some (String.ofList s)) :: ·) <$> tokens? rest := by
  have hq : quote s ++ rest = '"' :: (s.flatMap escapeChar ++ '"' :: rest) := by
    simp [quote]
  rw [hq]
  apply tokens?_cons (by decide)
  simp only [token?, pieces?_quoted, joinPieces?_pieceOf, Option.map_some]

theorem tokens?_write {t : Token} {rest : List Char} (ht : t.IsWritable)
    (hrest : t.MayPrecede rest) : tokens? (t.write ++ rest) = (t :: ·) <$> tokens? rest := by
  cases t with
  | integer n =>
    exact tokens?_number (numberToken?_writeInteger n)
      (fun c => isNumberChar_of_mem_writeInteger) hrest
  | decimal literal => exact tokens?_number ht.1 ht.2 hrest
  | string s =>
    obtain ⟨s, rfl⟩ := Option.isSome_iff_exists.1 ht
    have h := tokens?_quote s.toList rest
    rwa [String.ofList_toList] at h
  | bool b => cases b <;> exact tokens?_cons (by decide) rfl
  | openArray => exact tokens?_cons (by decide) rfl
  | closeArray => exact tokens?_cons (by decide) rfl
  | openObject => exact tokens?_cons (by decide) rfl
  | closeObject => exact tokens?_cons (by decide) rfl
  | comma => exact tokens?_cons (by decide) rfl
  | colon => exact tokens?_cons (by decide) rfl
  | null => exact tokens?_cons (by decide) rfl

end Gradebook.Json
