import Gradebook.Json.Quoted

/-!
# Quoted strings read back

What `quote` writes is read back as the same characters, whatever follows the closing quote.  A
control character without a short escape is read as a code unit, which is never a surrogate.
-/

namespace Gradebook.Json

theorem hexValue?_hexDigit : ∀ n, n < 16 → hexValue? (hexDigit n) = some n := by decide

theorem codeUnit?_hexDigits (n : Nat) (h : n < 0x20) :
    codeUnit? '0' '0' (hexDigit (n / 16)) (hexDigit (n % 16)) = some n := by
  have h0 : hexValue? '0' = some 0 := by decide
  have hhi : hexValue? (hexDigit (n / 16)) = some (n / 16) := hexValue?_hexDigit _ (by omega)
  have hlo : hexValue? (hexDigit (n % 16)) = some (n % 16) := hexValue?_hexDigit _ (by omega)
  simp only [codeUnit?, h0, hhi, hlo, Option.bind_eq_bind, Option.bind_some, Option.some.injEq]
  omega

/-- A control character that is written by its number. -/
def IsNumbered (c : Char) : Prop :=
  c.toNat < 0x20 ∧ c ≠ '\n' ∧ c ≠ '\r' ∧ c ≠ '\t' ∧ c ≠ '\x08' ∧ c ≠ '\x0c'

instance (c : Char) : Decidable (IsNumbered c) := inferInstanceAs (Decidable (_ ∧ _))

/-- The piece that the written form of a character is read as. -/
def pieceOf (c : Char) : Piece :=
  if IsNumbered c then .codeUnit c.toNat else .char c

theorem pieces?_cons_plain {c : Char} (rest : List Char) (hc : ¬ c.toNat < 0x20) (hq : c ≠ '"')
    (hb : c ≠ '\\') :
    pieces? (c :: rest) = (pieces? rest).map fun p => (.char c :: p.1, p.2) := by
  rw [pieces?.eq_def]
  split
  next h => cases h
  next h => exact absurd (List.cons.inj h).1 hq
  next h => exact absurd (List.cons.inj h).1 hb
  next h => exact absurd (List.cons.inj h).1 hb
  next h =>
    obtain ⟨rfl, rfl⟩ := List.cons.inj h
    simp only [if_neg hc, Option.bind_eq_bind, Option.map_eq_bind, Function.comp_def]

theorem pieces?_shortEscape {e c : Char} (h : shortEscape? e = some c) (rest : List Char) :
    pieces? ('\\' :: e :: rest) = (pieces? rest).map fun p => (.char c :: p.1, p.2) := by
  have he : e ≠ 'u' := by
    rintro rfl
    cases h
  rw [pieces?]
  · simp only [h, Option.bind_eq_bind, Option.bind_some, Option.map_eq_bind, Function.comp_def]
  · intro a b c d tail hu _
    exact he hu

theorem pieces?_escapeChar (c : Char) (rest : List Char) :
    pieces? (escapeChar c ++ rest) =
      (pieces? rest).map fun p => (pieceOf c :: p.1, p.2) := by
  unfold escapeChar
  split
  -- the short escapes, then an escape by number or the character itself
  iterate 7 exact pieces?_shortEscape rfl rest
  rename_i hq hb hn hr ht hbs hff
  by_cases hc : c.toNat < 0x20
  · have hp : pieceOf c = .codeUnit c.toNat := if_pos ⟨hc, hn, hr, ht, hbs, hff⟩
    rw [if_pos hc, hp]
    simp only [List.cons_append, List.nil_append, pieces?, codeUnit?_hexDigits _ hc,
      Option.bind_eq_bind, Option.bind_some, Option.map_eq_bind, Function.comp_def]
  · have hp : pieceOf c = .char c := if_neg fun h => hc h.1
    rw [if_neg hc, hp]
    exact pieces?_cons_plain rest hc hq hb

theorem pieces?_quoted (s rest : List Char) :
    pieces? (s.flatMap escapeChar ++ '"' :: rest) = some (s.map pieceOf, rest) := by
  induction s with
  | nil => simp [pieces?]
  | cons c s ih =>
    rw [List.flatMap_cons, List.append_assoc, pieces?_escapeChar, ih]
    rfl

theorem joinPieces?_codeUnit {n : Nat} (rest : List Piece) (h : n < 0xD800) :
    joinPieces? (.codeUnit n :: rest) = (Char.ofNat n :: ·) <$> joinPieces? rest := by
  have hhigh : isHighSurrogate n = false := by
    simp only [isHighSurrogate, Bool.and_eq_false_iff, decide_eq_false_iff_not]
    omega
  have hlow : isLowSurrogate n = false := by
    simp only [isLowSurrogate, Bool.and_eq_false_iff, decide_eq_false_iff_not]
    omega
  rw [joinPieces?.eq_def]
  simp only [hhigh, hlow, Bool.false_eq_true, if_false]

theorem joinPieces?_pieceOf (s : List Char) : joinPieces? (s.map pieceOf) = some s := by
  induction s with
  | nil => rfl
  | cons c s ih =>
    rw [List.map_cons]
    by_cases h : IsNumbered c
    · have hlt : c.toNat < 0xD800 := by have := h.1; omega
      rw [pieceOf, if_pos h, joinPieces?_codeUnit _ hlt, ih, Char.ofNat_toNat]
      rfl
    · rw [pieceOf, if_neg h, joinPieces?, ih]
      rfl

end Gradebook.Json
