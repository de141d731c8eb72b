import Gradebook.Toml.Layout

/-!
# TOML strings read back

A string is read back as its characters in whichever style it is written, as long as no quote
follows it.  Up to two quotes at its end stand right before the closing ones.
-/

namespace Gradebook.Toml

/-- The ways in which a character other than a quote is written in a basic string. -/
inductive Written (lines : Bool) (c : Char) : List Char → Prop
  | short {e : Char} (h : shortEscape? e = some c) : Written lines c ['\\', e]
  | numbered {a b d e : Char} (h : charOfHex? [a, b, d, e] = some c) :
    Written lines c ['\\', 'u', a, b, d, e]
  | plain (hquote : c ≠ '"') (hslash : c ≠ '\\')
    (h : isControl c = false ∨ lines = true ∧ c = '\n') : Written lines c [c]

theorem charOfHex?_hexDigits : ∀ n, n < 128 →
    charOfHex? (Text.hexDigits 4 n) = some (Char.ofNat n) := by
  decide

theorem written_escapeChar (lines : Bool) {c : Char} (hquote : c ≠ '"') :
    Written lines c (escapeChar lines c) := by
  unfold escapeChar
  split
  case h_3 =>
    cases lines with
    | true => exact .plain (by decide) (by decide) (.inr ⟨rfl, rfl⟩)
    | false => exact .short rfl
  case h_7 _ _ _ _ _ hslash =>
    split
    next hcontrol =>
      have hlow : c.toNat < 128 := by
        simp [isControl] at hcontrol
        omega
      have hread := charOfHex?_hexDigits c.toNat hlow
      rw [Char.ofNat_toNat] at hread
      exact .numbered hread
    next hcontrol => exact .plain hquote hslash (.inl (eq_false_of_ne_true hcontrol))
  all_goals exact .short rfl

theorem shortEscape?_some {e c : Char} (h : shortEscape? e = some c) :
    e ∈ ['b', 't', 'n', 'f', 'r', '"', '\\'] := by
  unfold shortEscape? at h
  split at h <;> first | decide | cases h

theorem Written.head {lines : Bool} {c : Char} {w : List Char} (h : Written lines c w) :
    ∃ d more, w = d :: more ∧ d ≠ '"' ∧ (c ≠ '\n' → isControl d = false) := by
  cases h with
  | short | numbered => exact ⟨'\\', _, rfl, by decide, fun _ => by decide⟩
  | plain hquote hslash h =>
    exact ⟨c, [], rfl, hquote, fun hline => h.resolve_right fun hbreak => hline hbreak.2⟩

/-- On several lines a quote is escaped only behind two others. -/
theorem escape_cons (lines : Bool) (quotes : Nat) (c : Char) (s : List Char) :
    c = '"' ∧ lines = true ∧ quotes < 2 ∧
        escape lines quotes (c :: s) = '"' :: escape lines (quotes + 1) s ∨
      ∃ w, Written lines c w ∧ escape lines quotes (c :: s) = w ++ escape lines 0 s := by
  by_cases hc : c = '"'
  · subst hc
    by_cases hquotes : (lines && quotes < 2) = true
    · obtain ⟨hlines, hfew⟩ := Bool.and_eq_true_iff.1 hquotes
      exact .inl ⟨rfl, hlines, of_decide_eq_true hfew,
        by rw [escape, if_pos rfl, if_pos hquotes]⟩
    · exact .inr ⟨['\\', '"'], .short rfl, by rw [escape, if_pos rfl, if_neg hquotes]; rfl⟩
  · exact .inr ⟨_, written_escapeChar lines hc, by rw [escape, if_neg hc]⟩

theorem basicBody_written {c : Char} {w : List Char} (h : Written false c w) (rest : List Char) :
    basicBody (w ++ rest) = prepend c (basicBody rest) := by
  cases h with
  | short h =>
    have he := shortEscape?_some h
    simp only [List.mem_cons, List.not_mem_nil, or_false] at he
    rcases he with rfl | rfl | rfl | rfl | rfl | rfl | rfl <;> simp [basicBody, h]
  | numbered h => simp [basicBody, h]
  | plain hquote hslash h =>
    have hcontrol : isControl c = false := by simpa using h
    rw [List.singleton_append, basicBody.eq_def]
    split <;> simp_all

theorem basicBody_escape (quotes : Nat) (s rest : List Char) :
    basicBody (escape false quotes s ++ '"' :: rest) = some (s, rest) := by
  induction s generalizing quotes with
  | nil => rfl
  | cons c s ih =>
    obtain ⟨-, hlines, -⟩ | ⟨w, hw, hescape⟩ := escape_cons false quotes c s
    · cases hlines
    · rw [hescape, List.append_assoc, basicBody_written hw, ih]
      rfl

theorem literalBody_append {s : List Char} (h : ∀ c ∈ s, c ≠ '\'' ∧ isControl c = false)
    (rest : List Char) : literalBody (s ++ '\'' :: rest) = some (s, rest) := by
  induction s with
  | nil => rfl
  | cons c s ih =>
    obtain ⟨hquote, hcontrol⟩ := h c List.mem_cons_self
    have hrest := ih fun d hd => h d (List.mem_cons_of_mem c hd)
    rw [List.cons_append, literalBody.eq_def]
    split <;> simp_all [prepend]

/-! ### Basic strings on several lines -/

theorem basicLines_written {c : Char} {w : List Char} (h : Written true c w) (rest : List Char) :
    basicLines false (w ++ rest) = prepend c (basicLines false rest) := by
  cases h with
  | short h =>
    have he := shortEscape?_some h
    simp only [List.mem_cons, List.not_mem_nil, or_false] at he
    rcases he with rfl | rfl | rfl | rfl | rfl | rfl | rfl <;>
      simp [basicLines, joinsLines, isLineSpace, h]
  | numbered h => simp [basicLines, h]
  | plain hquote hslash h =>
    obtain hcontrol | ⟨-, rfl⟩ := h
    · have hline : c ≠ '\n' ∧ c ≠ '\r' := by constructor <;> rintro rfl <;> cases hcontrol
      rw [List.singleton_append, basicLines.eq_def]
      split
      case h_7 h =>
        obtain ⟨rfl, rfl⟩ := List.cons.inj h
        simp [hline, hcontrol]
      all_goals simp_all
    · simp [basicLines]

/-- A quote that does not begin three of them belongs to the string. -/
theorem basicLines_quote {rest : List Char} (h : ∀ more, rest ≠ '"' :: '"' :: more) :
    basicLines false ('"' :: rest) = prepend '"' (basicLines false rest) := by
  rw [basicLines.eq_def]
  split
  case h_7 hquote =>
    obtain ⟨rfl, rfl⟩ := List.cons.inj hquote
    rfl
  all_goals simp_all

/-- What follows the closing quotes of a string on several lines begins with no quote. -/
theorem closeLines_replicate {quote : Char} {n : Nat} (hn : n ≤ 2) {rest : List Char}
    (hrest : rest.head? ≠ some quote) :
    closeLines quote (List.replicate n quote ++ rest) = (List.replicate n quote, rest) := by
  have hfew : n = 0 ∨ n = 1 ∨ n = 2 := by omega
  cases rest with
  | nil => rcases hfew with rfl | rfl | rfl <;> simp [closeLines, List.replicate]
  | cons c rest =>
    have hc : c ≠ quote := fun h => hrest (congrArg some h)
    rcases hfew with rfl | rfl | rfl <;> simp [closeLines, List.replicate, hc]

theorem basicLines_escape (quotes : Nat) (s : List Char) {rest : List Char}
    (hrest : rest.head? ≠ some '"') :
    basicLines false (escape true quotes s ++ '"' :: '"' :: '"' :: rest) = some (s, rest) := by
  induction s generalizing quotes with
  | nil => exact congrArg some (closeLines_replicate (n := 0) (by omega) hrest)
  | cons c s ih =>
    obtain ⟨rfl, -, hquotes, hescape⟩ | ⟨w, hw, hescape⟩ := escape_cons true quotes c s
    · rw [hescape, List.cons_append]
      -- the string ends with its last quotes, or the next character is no quote
      have hinner (h : ∀ more, escape true (quotes + 1) s ++ '"' :: '"' :: '"' :: rest ≠
          '"' :: '"' :: more) :
          basicLines false ('"' :: (escape true (quotes + 1) s ++ '"' :: '"' :: '"' :: rest)) =
            some ('"' :: s, rest) := by
        rw [basicLines_quote h, ih]
        rfl
      cases s with
      | nil => exact congrArg some (closeLines_replicate (n := 1) (by omega) hrest)
      | cons d s =>
        obtain ⟨rfl, -, -, hescape'⟩ | ⟨w, hw, hescape'⟩ := escape_cons true (quotes + 1) d s
        · cases s with
          | nil =>
            rw [hescape']
            exact congrArg some (closeLines_replicate (n := 2) (by omega) hrest)
          | cons e s =>
            obtain ⟨-, -, hmany, -⟩ | ⟨w, hw, hescape''⟩ :=
              escape_cons true (quotes + 1 + 1) e s
            · omega
            · obtain ⟨x, more, rfl, hx, -⟩ := hw.head
              apply hinner
              simp [hescape', hescape'', hx]
        · obtain ⟨x, more, rfl, hx, -⟩ := hw.head
          apply hinner
          simp [hescape', hx]
    · rw [hescape, List.append_assoc, basicLines_written hw, ih]
      rfl

/-! ### Literal strings on several lines -/

theorem hasTriple_tail {quote c : Char} {s : List Char} (h : hasTriple quote (c :: s) = false) :
    hasTriple quote s = false := by
  match s with
  | [] => rfl
  | [_] => rfl
  | a :: b :: rest =>
    rw [hasTriple, Bool.or_eq_false_iff] at h
    exact h.2

theorem literalLines_plain {c : Char} (hc : c = '\n' ∨ isControl c = false) {rest : List Char}
    (h : c = '\'' → ∀ more, rest ≠ '\'' :: '\'' :: more) :
    literalLines (c :: rest) = prepend c (literalLines rest) := by
  have hreturn : c ≠ '\r' := by
    rintro rfl
    revert hc
    decide
  rw [literalLines.eq_def]
  split
  case h_4 hcons =>
    obtain ⟨rfl, rfl⟩ := List.cons.inj hcons
    obtain rfl | hcontrol := hc
    · rfl
    · simp [hcontrol]
  all_goals simp_all

theorem literalLines_append {s : List Char} (hplain : ∀ c ∈ s, c = '\n' ∨ isControl c = false)
    (htriple : hasTriple '\'' s = false) {rest : List Char} (hrest : rest.head? ≠ some '\'') :
    literalLines (s ++ '\'' :: '\'' :: '\'' :: rest) = some (s, rest) := by
  induction s with
  | nil => exact congrArg some (closeLines_replicate (n := 0) (by omega) hrest)
  | cons c s ih =>
    have hnext := ih (fun d hd => hplain d (List.mem_cons_of_mem c hd)) (hasTriple_tail htriple)
    have hinner (h : c = '\'' → ∀ more, s ++ '\'' :: '\'' :: '\'' :: rest ≠ '\'' :: '\'' :: more) :
        literalLines (c :: s ++ '\'' :: '\'' :: '\'' :: rest) = some (c :: s, rest) := by
      rw [List.cons_append, literalLines_plain (hplain c List.mem_cons_self) h, hnext]
      rfl
    by_cases hc : c = '\''
    · subst hc
      match s with
      | [] => exact congrArg some (closeLines_replicate (n := 1) (by omega) hrest)
      | [d] =>
        by_cases hd : d = '\''
        · subst hd
          exact congrArg some (closeLines_replicate (n := 2) (by omega) hrest)
        · apply hinner
          simp [hd]
      | d :: e :: s =>
        apply hinner
        intro _ more heq
        simp [hasTriple] at htriple heq
        exact htriple.1 heq.1 heq.2.1
    · exact hinner fun h => absurd h hc

/-! ### Strings of all styles -/

theorem Style.of_literal {s : List Char} (h : Style.of s = .literal) :
    ∀ c ∈ s, c ≠ '\'' ∧ isControl c = false := by
  simp only [Style.of] at h
  split at h
  · cases h
  split at h
  next hliteral =>
    simp at hliteral
    obtain ⟨⟨hplain, hline⟩, hquote⟩ := hliteral
    intro c hc
    refine ⟨fun hquoted => hquote (hquoted ▸ hc), (hplain c hc).resolve_left fun hbreak => ?_⟩
    exact hline (hbreak ▸ hc)
  split at h
  · cases h
  split at h
  · cases h
  split at h <;> cases h

theorem Style.of_literalLines {s : List Char} (h : Style.of s = .literalLines) :
    hasTriple '\'' s = false ∧ ∀ c ∈ s, c = '\n' ∨ isControl c = false := by
  simp only [Style.of] at h
  split at h
  · cases h
  split at h
  · cases h
  split at h
  · cases h
  split at h
  next hlines =>
    simp at hlines
    exact ⟨hlines.2, hlines.1⟩
  next => split at h <;> cases h

/-- The line break after the opening is passed over, and no other. -/
theorem dropLineBreak_opening {s rest : List Char}
    (h : '\n' ∉ s → ∀ c ∈ rest.head?, isControl c = false) :
    dropLineBreak (opening s ++ rest) = rest := by
  unfold opening
  split
  · rfl
  next hline =>
    have hhead := h (by simpa using hline)
    rw [List.nil_append, dropLineBreak.eq_def]
    split <;> simp_all [isControl]

theorem head?_escape (quotes : Nat) {s : List Char} (hline : '\n' ∉ s) (rest : List Char) :
    ∀ c ∈ (escape true quotes s ++ '"' :: rest).head?, isControl c = false := by
  cases s with
  | nil =>
    rintro c ⟨⟩
    decide
  | cons d s =>
    have hd : d ≠ '\n' := fun h => hline (h ▸ List.mem_cons_self)
    obtain ⟨-, -, -, hescape⟩ | ⟨w, hw, hescape⟩ := escape_cons true quotes d s
    · rw [hescape]
      rintro c ⟨⟩
      decide
    · obtain ⟨x, more, rfl, -, hx⟩ := hw.head
      rw [hescape]
      rintro c ⟨⟩
      exact hx hd

/-- Behind a string on one line no quote may follow. -/
theorem readString?_of_line {quote : Char} (hquote : quote = '"' ∨ quote = '\'') {rest : List Char}
    (h : ∀ more, rest ≠ quote :: quote :: more) :
    readString? (quote :: rest) = readLineString? (quote :: rest) := by
  rcases hquote with rfl | rfl <;>
    (rw [readString?.eq_def]; split <;> simp_all)

theorem readString?_writeString (s rest : List Char)
    (hrest : ∀ c ∈ rest.head?, c ≠ '"' ∧ c ≠ '\'') :
    readString? (writeString s ++ rest) = some (s, rest) := by
  have hdouble : rest.head? ≠ some '"' := fun h => (hrest _ h).1 rfl
  have hsingle : rest.head? ≠ some '\'' := fun h => (hrest _ h).2 rfl
  unfold writeString
  cases hstyle : Style.of s with
  | basic =>
    simp only [List.cons_append, List.append_assoc, List.nil_append]
    rw [readString?_of_line (.inl rfl)]
    · exact basicBody_escape 0 s rest
    intro more heq
    cases s with
    | nil => exact hdouble (congrArg List.head? (List.cons.inj heq).2)
    | cons c s =>
      obtain ⟨-, hlines, -⟩ | ⟨w, hw, hescape⟩ := escape_cons false 0 c s
      · cases hlines
      · obtain ⟨x, more, rfl, hx, -⟩ := hw.head
        rw [hescape] at heq
        exact hx (List.cons.inj heq).1
  | literal =>
    have hs := Style.of_literal hstyle
    simp only [List.cons_append, List.append_assoc, List.nil_append]
    rw [readString?_of_line (.inr rfl)]
    · exact literalBody_append hs rest
    intro more heq
    cases s with
    | nil => exact hsingle (congrArg List.head? (List.cons.inj heq).2)
    | cons c s => exact (hs c List.mem_cons_self).1 (List.cons.inj heq).1
  | basicLines =>
    have hread := basicLines_escape 0 s hdouble
    have hbreak : dropLineBreak (opening s ++ (escape true 0 s ++ '"' :: '"' :: '"' :: rest)) =
        escape true 0 s ++ '"' :: '"' :: '"' :: rest :=
      dropLineBreak_opening fun hline => head?_escape 0 hline ('"' :: '"' :: rest)
    simp only [List.cons_append, List.append_assoc, List.nil_append, readString?, hbreak]
    exact hread
  | literalLines =>
    obtain ⟨htriple, hplain⟩ := Style.of_literalLines hstyle
    have hread := literalLines_append hplain htriple hsingle
    have hbreak : dropLineBreak (opening s ++ (s ++ '\'' :: '\'' :: '\'' :: rest)) =
        s ++ '\'' :: '\'' :: '\'' :: rest := by
      apply dropLineBreak_opening
      intro hline c hc
      cases s with
      | nil =>
        cases hc
        decide
      | cons d s =>
        cases hc
        exact (hplain _ List.mem_cons_self).resolve_left fun h => hline (h ▸ List.mem_cons_self)
    simp only [List.cons_append, List.append_assoc, List.nil_append, readString?, hbreak]
    exact hread

end Gradebook.Toml
