import Gradebook.Text.Blank
import Gradebook.Text.Decimal

/-!
# Decimal numbers read back

The digits of a number, padded or not, are read back as that number, and reading stops where they
end.
-/

namespace Gradebook.Text

theorem isDigit_of_mem_digits {n : Nat} {c : Char} (h : c ∈ digits n) : c.isDigit = true :=
  Nat.isDigit_of_mem_toDigits (by decide) (by decide) h

theorem digits_ne_nil (n : Nat) : digits n ≠ [] :=
  Nat.toDigits_ne_nil

theorem digits_of_lt {n : Nat} (h : n < 10) : digits n = [n.digitChar] :=
  Nat.toDigits_of_lt_base h

theorem digits_of_le {n : Nat} (h : 10 ≤ n) : digits n = digits (n / 10) ++ [(n % 10).digitChar] :=
  Nat.toDigits_of_base_le (by decide) h

theorem head?_digits_ne_zero {n : Nat} (h : 0 < n) : (digits n).head? ≠ some '0' := by
  -- the first digit stays first when the last one is taken off
  induction n using Nat.strongRecOn with
  | ind n ih =>
    by_cases hn : n < 10
    · have hall : ∀ m, m < 10 → 0 < m → m.digitChar ≠ '0' := by decide
      rw [digits_of_lt hn]
      simpa using hall n hn h
    · have hfirst := ih (n / 10) (by omega) (by omega)
      obtain ⟨d, ds, hd⟩ := List.exists_cons_of_ne_nil (digits_ne_nil (n / 10))
      rw [hd] at hfirst
      rw [digits_of_le (by omega), hd]
      exact hfirst

theorem isBlank_of_isDigit {c : Char} (h : c.isDigit = true) : isBlank c = false := by
  simp only [Char.isDigit, Bool.and_eq_true, decide_eq_true_eq] at h
  have hlo : 48 ≤ c.toNat := h.1
  have hhi : c.toNat ≤ 57 := h.2
  simp only [isBlank, Bool.or_eq_false_iff, Bool.and_eq_false_iff, decide_eq_false_iff_not,
    beq_eq_false_iff_ne]
  omega

theorem isDigit_of_mem_padded {width n : Nat} {c : Char} (h : c ∈ padded width n) :
    c.isDigit = true := by
  rw [padded, List.mem_append] at h
  rcases h with h | h
  · rw [List.eq_of_mem_replicate h]
    decide
  · exact isDigit_of_mem_digits h

theorem padded_ne_nil (width n : Nat) : padded width n ≠ [] := by
  intro h
  exact digits_ne_nil n (List.append_eq_nil_iff.1 h).2

theorem digitsValue_padded (width n : Nat) : digitsValue (padded width n) = n := by
  rw [digitsValue, padded, Nat.ofDigitChars_append, Nat.ofDigitChars_replicate_zero, Nat.mul_zero]
  exact digitsValue_digits n

theorem length_padded {width n : Nat} (hw : 0 < width) (h : n < tenTo width) :
    (padded width n).length = width := by
  have hle : (digits n).length ≤ width := (Nat.length_toDigits_le_iff (by decide) hw).2 h
  rw [padded, List.length_append, List.length_replicate]
  omega

/-- What follows a number does not go on with it. -/
def EndsDigits (rest : List Char) : Prop :=
  ∀ c ∈ rest.head?, c.isDigit = false

theorem endsDigits_nil : EndsDigits [] := by
  intro c h
  cases h

theorem endsDigits_cons {c : Char} {rest : List Char} (h : c.isDigit = false) :
    EndsDigits (c :: rest) := by
  intro d hd
  cases hd
  exact h

theorem takeWhile_append_of_ends {p : Char → Bool} {ds rest : List Char}
    (hds : ∀ c ∈ ds, p c = true) (hrest : ∀ c ∈ rest.head?, p c = false) :
    (ds ++ rest).takeWhile p = ds := by
  rw [List.takeWhile_append_of_pos hds]
  cases rest with
  | nil => simp
  | cons c rest => simp [hrest c rfl]

theorem dropWhile_append_of_ends {p : Char → Bool} {ds rest : List Char}
    (hds : ∀ c ∈ ds, p c = true) (hrest : ∀ c ∈ rest.head?, p c = false) :
    (ds ++ rest).dropWhile p = rest := by
  rw [List.dropWhile_append_of_pos hds]
  cases rest with
  | nil => simp
  | cons c rest => simp [hrest c rfl]

theorem digitRun_append {ds rest : List Char} (hds : ∀ c ∈ ds, c.isDigit = true)
    (hrest : EndsDigits rest) : digitRun (ds ++ rest) = (ds, rest) := by
  rw [digitRun, takeWhile_append_of_ends hds hrest, dropWhile_append_of_ends hds hrest]

/-- Digits that fill the width, or that end before it, are what a bounded run takes. -/
theorem takeWhile_take_append {width : Nat} {ds rest : List Char}
    (hds : ∀ c ∈ ds, c.isDigit = true) (hlen : ds.length ≤ width)
    (hend : ds.length = width ∨ EndsDigits rest) :
    ((ds ++ rest).take width).takeWhile Char.isDigit = ds := by
  rw [List.take_append, List.take_of_length_le hlen]
  apply takeWhile_append_of_ends hds
  intro c hc
  rcases hend with h | h
  · rw [h, Nat.sub_self, List.take_zero] at hc
    cases hc
  · cases rest with
    | nil => simp at hc
    | cons d rest =>
      cases hk : width - ds.length with
      | zero => simp [hk] at hc
      | succ k =>
        rw [hk] at hc
        exact h c hc

theorem number?_append {width : Nat} {ds rest : List Char} (hds : ∀ c ∈ ds, c.isDigit = true)
    (hne : ds ≠ []) (hlen : ds.length ≤ width) (hend : ds.length = width ∨ EndsDigits rest) :
    number? width (ds ++ rest) = some (digitsValue ds, rest) := by
  have htake := takeWhile_take_append hds hlen hend
  cases ds with
  | nil => exact absurd rfl hne
  | cons d ds =>
    simp only [number?, htake]
    rw [List.drop_left]

theorem number?_padded {width n : Nat} (rest : List Char) (hw : 0 < width) (h : n < tenTo width) :
    number? width (padded width n ++ rest) = some (n, rest) := by
  have hlen := length_padded hw h
  rw [number?_append (fun c => isDigit_of_mem_padded) (padded_ne_nil width n) (by omega)
    (.inl hlen), digitsValue_padded]

end Gradebook.Text
