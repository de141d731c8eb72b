import Gradebook.Command.Typed
import Gradebook.Proofs.Text.Words
import Mathlib.Logic.ExistsUnique

/-!
# The grammar of typed commands

How a list of words is read, as a relation with one rule for each form of a line, and from it what a
typed line asks for.  Each line is read by the grammar in exactly one way, which is the way it is
parsed.
-/

namespace Gradebook

/-- A token names a status by its sign in either case, or by the word that stands for the third. -/
def Status.Names (status : Status) (token : String) : Prop :=
  Text.upper token = status.symbol ∨ status = .partly ∧ Text.upper token = "PARTIAL"

theorem Status.ofToken?_eq_some_iff {token : String} {status : Status} :
    ofToken? token = some status ↔ status.Names token := by
  unfold ofToken? Names
  constructor
  · intro h
    split at h
    next hupper => cases h; exact .inl hupper
    next hupper => cases h; exact .inl hupper
    next hupper => cases h; exact .inl hupper
    next hupper => cases h; exact .inr ⟨rfl, hupper⟩
    next => cases h
  · rintro (hupper | ⟨rfl, hupper⟩)
    · rw [hupper]
      cases status <;> rfl
    · rw [hupper]
      rfl

namespace Command

/-! ### Amounts -/

def IsSign (c : Char) : Prop :=
  c = '+' ∨ c = '-'

/-- The digits in front of a text, as far as they go. -/
def LeadingDigits (s ds : List Char) : Prop :=
  ∃ rest, s = ds ++ rest ∧ (∀ d ∈ ds, d.isDigit = true) ∧ Text.EndsDigits rest

theorem takeWhile_isDigit_eq_iff {s ds : List Char} :
    s.takeWhile Char.isDigit = ds ↔ LeadingDigits s ds := by
  constructor
  · rintro rfl
    refine ⟨s.dropWhile Char.isDigit, List.takeWhile_append_dropWhile.symm, ?_, ?_⟩
    · exact List.all_eq_true.1 List.all_takeWhile
    · intro c hc
      have hnot := List.head?_dropWhile_not Char.isDigit s
      rw [Option.mem_def.1 hc] at hnot
      simpa using hnot
  · rintro ⟨rest, rfl, hds, hrest⟩
    exact Text.takeWhile_append_of_ends hds hrest

/-- The digits that a token gives an amount by, of which there may be none.  They come after the
sign, if the token begins with one. -/
inductive AmountDigits : List Char → List Char → Prop
  | signed {c : Char} {s ds : List Char} (hc : IsSign c) (hds : LeadingDigits s ds) :
    AmountDigits (c :: s) ds
  | unsigned {s ds : List Char} (hs : ∀ c ∈ s.head?, ¬ IsSign c) (hds : LeadingDigits s ds) :
    AmountDigits s ds

theorem amountDigits_signed {c : Char} (hc : IsSign c) (s : List Char) :
    amountDigits (c :: s) = s.takeWhile Char.isDigit := by
  rcases hc with rfl | rfl <;> rfl

theorem amountDigits_unsigned {s : List Char} (hs : ∀ c ∈ s.head?, ¬ IsSign c) :
    amountDigits s = s.takeWhile Char.isDigit := by
  unfold amountDigits
  split
  next => exact absurd (.inl rfl) (hs '+' rfl)
  next => exact absurd (.inr rfl) (hs '-' rfl)
  next => rfl

theorem amountDigits_eq_iff {s ds : List Char} : amountDigits s = ds ↔ AmountDigits s ds := by
  constructor
  · intro h
    by_cases hs : ∀ c ∈ s.head?, ¬ IsSign c
    · rw [amountDigits_unsigned hs] at h
      exact .unsigned hs (takeWhile_isDigit_eq_iff.1 h)
    · cases s with
      | nil => exact absurd nofun hs
      | cons c s =>
        have hc : IsSign c := by simpa using hs
        rw [amountDigits_signed hc] at h
        exact .signed hc (takeWhile_isDigit_eq_iff.1 h)
  · intro h
    cases h with
    | signed hc hds => rw [amountDigits_signed hc, takeWhile_isDigit_eq_iff.2 hds]
    | unsigned hs hds => rw [amountDigits_unsigned hs, takeWhile_isDigit_eq_iff.2 hds]

/-- The amount of a token is the number that its digits write, held at the largest count. -/
inductive ReadsAmount (token : String) : Except CommandError Count → Prop
  | number {ds : List Char} {n : Count} (hds : AmountDigits token.toList ds) (hne : ds ≠ [])
      (hn : n.val = min (Text.digitsValue ds) maxCount) : ReadsAmount token (.ok n)
  | nothing (hds : AmountDigits token.toList []) : ReadsAmount token (.error (.noAmount token))

theorem amount_eq_iff {token : String} {r : Except CommandError Count} :
    amount token = r ↔ ReadsAmount token r := by
  unfold amount
  constructor
  · rintro rfl
    cases hds : amountDigits token.toList with
    | nil => exact .nothing (amountDigits_eq_iff.1 hds)
    | cons d ds =>
      refine .number (amountDigits_eq_iff.1 hds) (List.cons_ne_nil d ds) ?_
      rw [Count.val_clamp, Int.toNat_natCast]
  · intro h
    cases h with
    | @number ds n hds hne hn =>
      obtain ⟨d, ds, rfl⟩ := List.exists_cons_of_ne_nil hne
      have hclamp : Count.clamp (Text.digitsValue (d :: ds)) = n := by
        rw [Count.mk.injEq, Count.val_clamp, hn, Int.toNat_natCast]
      simp only [amountDigits_eq_iff.2 hds, hclamp]
    | nothing hds => simp only [amountDigits_eq_iff.2 hds]

/-! ### Lines -/

/-- A word that names neither homework nor stamps nor a penalty. -/
def IsPlain (head : String) : Prop :=
  head ∉ homeworkHeads ∧ head ∉ stampHeads ∧ head ∉ penaltyHeads

/-- How a line of words is read. -/
inductive Reads : List String → Except CommandError Command → Prop
  | nothing : Reads [] (.error (.tooFewWords ""))
  | homework {head : String} (hhead : head ∈ homeworkHeads) :
    Reads [head] (.ok (.assignHomework unspecified unspecified))
  | homeworkOfUnit {head unit : String} (hhead : head ∈ homeworkHeads) :
    Reads [head, unit] (.ok (.assignHomework unit unspecified))
  | homeworkOfRange {head unit word : String} {words : List String}
      (hhead : head ∈ homeworkHeads) :
    Reads (head :: unit :: word :: words)
      (.ok (.assignHomework unit (" ".intercalate (word :: words))))
  | stamps {head : String} (hhead : head ∈ stampHeads) : Reads [head] (.ok .ignored)
  | stampsUnsigned {head token : String} {words : List String} (hhead : head ∈ stampHeads)
      (hsign : ∀ c ∈ token.toList.head?, ¬ IsSign c) : Reads (head :: token :: words) (.ok .ignored)
  | stampsAdded {head token : String} {words : List String} {n : Count}
      (hhead : head ∈ stampHeads) (hsign : token.toList.head? = some '+')
      (hn : ReadsAmount token (.ok n)) : Reads (head :: token :: words) (.ok (.addStamps n))
  | stampsRemoved {head token : String} {words : List String} {n : Count}
      (hhead : head ∈ stampHeads) (hsign : token.toList.head? = some '-')
      (hn : ReadsAmount token (.ok n)) : Reads (head :: token :: words) (.ok (.removeStamps n))
  | stampsOfNothing {head token : String} {words : List String} {c : Char} {e : CommandError}
      (hhead : head ∈ stampHeads) (hsign : token.toList.head? = some c) (hc : IsSign c)
      (he : ReadsAmount token (.error e)) : Reads (head :: token :: words) (.error e)
  | penalty {head : String} (hhead : head ∈ penaltyHeads) : Reads [head] (.ok (.penalty .zero))
  | penaltyOf {head token : String} {words : List String} {n : Count}
      (hhead : head ∈ penaltyHeads) (hn : ReadsAmount token (.ok n)) :
    Reads (head :: token :: words) (.ok (.penalty n))
  | penaltyOfNothing {head token : String} {words : List String} {e : CommandError}
      (hhead : head ∈ penaltyHeads) (he : ReadsAmount token (.error e)) :
    Reads (head :: token :: words) (.error e)
  | lonely {head : String} (hhead : IsPlain head) : Reads [head] (.error (.tooFewWords head))
  | gradeWithoutStatus {unit question : String} (hhead : IsPlain unit) :
    Reads [unit, question] (.error (.unknownStatus ""))
  | gradeOfStranger {unit question token : String} {words : List String} (hhead : IsPlain unit)
      (hstatus : ∀ status : Status, ¬ status.Names token) :
    Reads (unit :: question :: token :: words) (.error (.unknownStatus (Text.upper token)))
  | graded {unit question token : String} {words : List String} {status : Status}
      (hhead : IsPlain unit) (hstatus : status.Names token) :
    Reads (unit :: question :: token :: words) (.ok (.recordGrade unit question status))

theorem parse_homework {input head : String} {words : List String}
    (hwords : Text.words input = head :: words) (hhead : head ∈ homeworkHeads) :
    parse input = .ok (homework words) := by
  simp only [parse, hwords, if_pos hhead]

theorem reads_homework {head : String} (hhead : head ∈ homeworkHeads) (words : List String) :
    Reads (head :: words) (.ok (homework words)) := by
  cases words with
  | nil => exact .homework hhead
  | cons unit range =>
    cases range with
    | nil => exact .homeworkOfUnit hhead
    | cons word rest => exact .homeworkOfRange hhead

theorem not_homework_of_stamps {head : String} (hhead : head ∈ stampHeads) :
    head ∉ homeworkHeads := by
  revert head
  decide

theorem parse_stamps {input head : String} {words : List String}
    (hwords : Text.words input = head :: words) (hhead : head ∈ stampHeads) :
    parse input = stamps words := by
  simp only [parse, hwords, if_neg (not_homework_of_stamps hhead), if_pos hhead]

theorem stamps_unsigned {token : String} (hsign : ∀ c ∈ token.toList.head?, ¬ IsSign c)
    (words : List String) : stamps (token :: words) = .ok .ignored := by
  simp only [stamps]
  split
  next heq => exact absurd (.inl rfl) (hsign '+' (by rw [heq]; rfl))
  next heq => exact absurd (.inr rfl) (hsign '-' (by rw [heq]; rfl))
  next => rfl

theorem stamps_plus {token : String} (hsign : token.toList.head? = some '+')
    (words : List String) : stamps (token :: words) = .addStamps <$> amount token := by
  obtain ⟨s, hs⟩ := List.head?_eq_some_iff.1 hsign
  simp only [stamps, hs]

theorem stamps_minus {token : String} (hsign : token.toList.head? = some '-')
    (words : List String) : stamps (token :: words) = .removeStamps <$> amount token := by
  obtain ⟨s, hs⟩ := List.head?_eq_some_iff.1 hsign
  simp only [stamps, hs]

theorem reads_stamps {head : String} (hhead : head ∈ stampHeads) (words : List String) :
    Reads (head :: words) (stamps words) := by
  cases words with
  | nil => exact .stamps hhead
  | cons token words =>
    have hread : ReadsAmount token (amount token) := amount_eq_iff.1 rfl
    by_cases hplus : token.toList.head? = some '+'
    · rw [stamps_plus hplus]
      cases hn : amount token with
      | error e => exact .stampsOfNothing hhead hplus (.inl rfl) (hn ▸ hread)
      | ok n => exact .stampsAdded hhead hplus (hn ▸ hread)
    · by_cases hminus : token.toList.head? = some '-'
      · rw [stamps_minus hminus]
        cases hn : amount token with
        | error e => exact .stampsOfNothing hhead hminus (.inr rfl) (hn ▸ hread)
        | ok n => exact .stampsRemoved hhead hminus (hn ▸ hread)
      · have hsign : ∀ c ∈ token.toList.head?, ¬ IsSign c := by
          rintro c hc (rfl | rfl)
          · exact hplus hc
          · exact hminus hc
        rw [stamps_unsigned hsign]
        exact .stampsUnsigned hhead hsign

theorem not_stamps_of_penalty {head : String} (hhead : head ∈ penaltyHeads) :
    head ∉ homeworkHeads ∧ head ∉ stampHeads := by
  revert head
  decide

theorem parse_sheets {input head : String} {words : List String}
    (hwords : Text.words input = head :: words) (hhead : head ∈ penaltyHeads) :
    parse input = sheets words := by
  obtain ⟨hhomework, hstamps⟩ := not_stamps_of_penalty hhead
  simp only [parse, hwords, if_neg hhomework, if_neg hstamps, if_pos hhead]

theorem reads_sheets {head : String} (hhead : head ∈ penaltyHeads) (words : List String) :
    Reads (head :: words) (sheets words) := by
  cases words with
  | nil => exact .penalty hhead
  | cons token words =>
    have hread : ReadsAmount token (amount token) := amount_eq_iff.1 rfl
    have hsheets : sheets (token :: words) = .penalty <$> amount token := rfl
    rw [hsheets]
    cases hn : amount token with
    | error e => exact .penaltyOfNothing hhead (hn ▸ hread)
    | ok n => exact .penaltyOf hhead (hn ▸ hread)

theorem parse_grade {input head : String} {words : List String}
    (hwords : Text.words input = head :: words) (hhead : IsPlain head) :
    parse input = grade input (head :: words) := by
  obtain ⟨hhomework, hstamps, hpenalty⟩ := hhead
  simp only [parse, hwords, if_neg hhomework, if_neg hstamps, if_neg hpenalty]

theorem grade_lonely {input head : String} (hwords : Text.words input = [head]) :
    grade input [head] = .error (.tooFewWords head) := by
  rw [grade, Text.trim_of_one_word (Text.words_eq_iff.1 hwords)]
  exact nofun

theorem grade_stranger {input unit question token : String} {words : List String}
    (hstatus : ∀ status : Status, ¬ status.Names token) :
    grade input (unit :: question :: token :: words) =
      .error (.unknownStatus (Text.upper token)) := by
  have hnone : Status.ofToken? token = none := by
    rw [Option.eq_none_iff_forall_ne_some]
    intro status h
    exact hstatus status (Status.ofToken?_eq_some_iff.1 h)
  simp only [grade, List.headD_cons, hnone]

theorem grade_named {input unit question token : String} {words : List String} {status : Status}
    (hstatus : status.Names token) :
    grade input (unit :: question :: token :: words) = .ok (.recordGrade unit question status) := by
  simp only [grade, List.headD_cons, Status.ofToken?_eq_some_iff.2 hstatus]

theorem reads_grade {input head : String} {words : List String}
    (hwords : Text.words input = head :: words) (hhead : IsPlain head) :
    Reads (head :: words) (grade input (head :: words)) := by
  cases words with
  | nil =>
    rw [grade_lonely hwords]
    exact .lonely hhead
  | cons question words =>
    cases words with
    | nil => exact .gradeWithoutStatus hhead
    | cons token words =>
      by_cases hstatus : ∃ status : Status, status.Names token
      · obtain ⟨status, hstatus⟩ := hstatus
        rw [grade_named hstatus]
        exact .graded hhead hstatus
      · have hstranger : ∀ status : Status, ¬ status.Names token := not_exists.1 hstatus
        rw [grade_stranger hstranger]
        exact .gradeOfStranger hhead hstranger

/-! ### All lines -/

theorem parse_nothing {input : String} (hwords : Text.words input = []) :
    parse input = .error (.tooFewWords "") := by
  simp only [parse, hwords, Text.trim_of_no_words (Text.words_eq_iff.1 hwords)]

theorem reads_parse (input : String) : Reads (Text.words input) (parse input) := by
  cases hwords : Text.words input with
  | nil =>
    rw [parse_nothing hwords]
    exact .nothing
  | cons head words =>
    by_cases hhomework : head ∈ homeworkHeads
    · rw [parse_homework hwords hhomework]
      exact reads_homework hhomework words
    · by_cases hstamps : head ∈ stampHeads
      · rw [parse_stamps hwords hstamps]
        exact reads_stamps hstamps words
      · by_cases hpenalty : head ∈ penaltyHeads
        · rw [parse_sheets hwords hpenalty]
          exact reads_sheets hpenalty words
        · have hplain : IsPlain head := ⟨hhomework, hstamps, hpenalty⟩
          rw [parse_grade hwords hplain]
          exact reads_grade hwords hplain

theorem Reads.parse_eq {input : String} {r : Except CommandError Command}
    (h : Reads (Text.words input) r) : parse input = r := by
  generalize hwords : Text.words input = ws at h
  cases h with
  | nothing => exact parse_nothing hwords
  | homework hhead | homeworkOfUnit hhead | homeworkOfRange hhead =>
    exact parse_homework hwords hhead
  | stamps hhead => exact parse_stamps hwords hhead
  | stampsUnsigned hhead hsign => rw [parse_stamps hwords hhead, stamps_unsigned hsign]
  | stampsAdded hhead hsign hn =>
    rw [parse_stamps hwords hhead, stamps_plus hsign, amount_eq_iff.2 hn]
    rfl
  | stampsRemoved hhead hsign hn =>
    rw [parse_stamps hwords hhead, stamps_minus hsign, amount_eq_iff.2 hn]
    rfl
  | stampsOfNothing hhead hsign hc he =>
    rw [parse_stamps hwords hhead]
    rcases hc with rfl | rfl
    · rw [stamps_plus hsign, amount_eq_iff.2 he]
      rfl
    · rw [stamps_minus hsign, amount_eq_iff.2 he]
      rfl
  | penalty hhead => exact parse_sheets hwords hhead
  | @penaltyOf _ token words n hhead hn =>
    have hsheets : sheets (token :: words) = .penalty <$> amount token := rfl
    rw [parse_sheets hwords hhead, hsheets, amount_eq_iff.2 hn]
    rfl
  | @penaltyOfNothing _ token words e hhead he =>
    have hsheets : sheets (token :: words) = .penalty <$> amount token := rfl
    rw [parse_sheets hwords hhead, hsheets, amount_eq_iff.2 he]
    rfl
  | lonely hhead => rw [parse_grade hwords hhead, grade_lonely hwords]
  | gradeWithoutStatus hhead => exact parse_grade hwords hhead
  | gradeOfStranger hhead hstatus => rw [parse_grade hwords hhead, grade_stranger hstatus]
  | graded hhead hstatus => rw [parse_grade hwords hhead, grade_named hstatus]

/-- A text is parsed by its words alone, the text in an error included. -/
theorem parse_eq_of_words_eq {input other : String} (h : Text.words input = Text.words other) :
    parse input = parse other := by
  have hreads := reads_parse other
  rw [← h] at hreads
  exact hreads.parse_eq

/-- Every text is cut into its words in one way, and what it is parsed as is what the grammar reads
its words as. -/
theorem parse_follows_grammar (input : String) :
    (∃! ws, Text.IsWords input ws) ∧
      ∀ r, parse input = r ↔ ∃ ws, Text.IsWords input ws ∧ Reads ws r := by
  have hwords : Text.IsWords input (Text.words input) := Text.words_eq_iff.1 rfl
  refine ⟨⟨_, hwords, fun ws hws => (Text.words_eq_iff.2 hws).symm⟩, ?_⟩
  intro r
  constructor
  · rintro rfl
    exact ⟨_, hwords, reads_parse input⟩
  · rintro ⟨ws, hws, hread⟩
    rw [← Text.words_eq_iff.2 hws] at hread
    exact hread.parse_eq

/-- Zeros in front and what follows the digits do not matter. -/
example : parse " !도장 +007장 algebra" = .ok (.addStamps ⟨7, by decide⟩) := by cbv

end Command

end Gradebook
