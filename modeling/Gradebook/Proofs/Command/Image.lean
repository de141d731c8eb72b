import Gradebook.Proofs.Command.Grammar

/-!
# Commands that can be typed

The commands that some line asks for: a grade whose unit and question are words, where the unit
does not begin another form; homework whose unit is a word and whose range is words with single
spaces between them; stamps and penalties of every amount; and the ignored command.  Each of them
has a line of its own form.
-/

namespace Gradebook

namespace Command

open Text (IsWord IsSpaced)

/-- What the parts of a command are like when a line asks for it. -/
def CanBeTyped : Command → Prop
  | recordGrade unit question _ => IsWord unit ∧ IsPlain unit ∧ IsWord question
  | assignHomework unit range => IsWord unit ∧ IsSpaced range.toList
  | addStamps _ | removeStamps _ | penalty _ | ignored => True

theorem isWord_unspecified : IsWord unspecified := by decide +kernel

/-- A command is read off words, so its parts are words or words with spaces between them. -/
theorem Reads.canBeTyped {ws : List String} {c : Command} (h : Reads ws (.ok c))
    (hws : ∀ w ∈ ws, IsWord w) : c.CanBeTyped := by
  cases h with
  | homework => exact ⟨isWord_unspecified, isWord_unspecified.isSpaced⟩
  | homeworkOfUnit => exact ⟨hws _ (by simp), isWord_unspecified.isSpaced⟩
  | homeworkOfRange =>
    obtain ⟨-, hrest⟩ := List.forall_mem_cons.1 hws
    obtain ⟨hunit, hrange⟩ := List.forall_mem_cons.1 hrest
    exact ⟨hunit, Text.isSpaced_intercalate hrange⟩
  | graded hplain =>
    obtain ⟨hunit, hrest⟩ := List.forall_mem_cons.1 hws
    exact ⟨hunit, hplain, hrest _ List.mem_cons_self⟩
  | stamps | stampsUnsigned | stampsAdded | stampsRemoved | penalty | penaltyOf => exact trivial

theorem canBeTyped_of_parse {input : String} {c : Command} (h : parse input = .ok c) :
    c.CanBeTyped := by
  have hreads := reads_parse input
  rw [h] at hreads
  exact hreads.canBeTyped fun w => Text.isWord_of_mem_words

/-- An amount behind a sign. -/
def signed (sign : Char) (n : Count) : String :=
  String.ofList (sign :: Text.digits n.val)

/-- The words of a line that asks for a command. -/
def lineWords : Command → List String
  | recordGrade unit question status => [unit, question, status.symbol]
  | assignHomework unit range => "!homework" :: unit :: Text.words range
  | addStamps n => ["!stamp", signed '+' n]
  | removeStamps n => ["!stamp", signed '-' n]
  | penalty n => ["!penalty", signed '+' n]
  | ignored => ["!stamp"]

def line (c : Command) : String :=
  " ".intercalate c.lineWords

theorem toList_signed (sign : Char) (n : Count) :
    (signed sign n).toList = sign :: Text.digits n.val :=
  String.toList_ofList

theorem isWord_signed {sign : Char} (hsign : IsSign sign) (n : Count) : IsWord (signed sign n) := by
  rw [IsWord, toList_signed, List.forall_mem_cons]
  refine ⟨List.cons_ne_nil _ _, ?_, ?_⟩
  · rcases hsign with rfl | rfl <;> rfl
  · intro c hc
    exact Text.isBlank_of_isDigit (Text.isDigit_of_mem_digits hc)

theorem isWord_symbol (status : Status) : IsWord status.symbol := by
  cases status <;> decide +kernel

theorem names_symbol (status : Status) : status.Names status.symbol := by
  refine .inl ?_
  cases status <;> decide +kernel

theorem readsAmount_signed {sign : Char} (hsign : IsSign sign) (n : Count) :
    ReadsAmount (signed sign n) (.ok n) := by
  have hdigits : LeadingDigits (Text.digits n.val) (Text.digits n.val) :=
    ⟨[], (List.append_nil _).symm, fun d => Text.isDigit_of_mem_digits, Text.endsDigits_nil⟩
  have hamount : AmountDigits (signed sign n).toList (Text.digits n.val) := by
    rw [toList_signed]
    exact .signed hsign hdigits
  refine .number hamount (Text.digits_ne_nil _) ?_
  rw [Text.digitsValue_digits, Nat.min_eq_left n.le_max]

theorem isWord_of_mem_lineWords {c : Command} (h : c.CanBeTyped) :
    ∀ w ∈ c.lineWords, IsWord w := by
  have hhead : ∀ head ∈ ["!homework", "!stamp", "!penalty"], IsWord head := by decide +kernel
  have hstamp : IsWord "!stamp" := hhead _ (by decide)
  have hamount {head : String} (h : IsWord head) {sign : Char} (hsign : IsSign sign) (n : Count) :
      ∀ w ∈ [head, signed sign n], IsWord w := by
    rw [List.forall_mem_cons, List.forall_mem_singleton]
    exact ⟨h, isWord_signed hsign n⟩
  cases c with
  | recordGrade unit question status =>
    obtain ⟨hunit, -, hquestion⟩ := h
    rw [lineWords, List.forall_mem_cons, List.forall_mem_cons, List.forall_mem_singleton]
    exact ⟨hunit, hquestion, isWord_symbol status⟩
  | assignHomework unit range =>
    obtain ⟨hunit, -⟩ := h
    rw [lineWords, List.forall_mem_cons, List.forall_mem_cons]
    exact ⟨hhead _ (by decide), hunit, fun w => Text.isWord_of_mem_words⟩
  | addStamps n => exact hamount hstamp (.inl rfl) n
  | removeStamps n => exact hamount hstamp (.inr rfl) n
  | penalty n => exact hamount (hhead _ (by decide)) (.inl rfl) n
  | ignored =>
    rw [lineWords, List.forall_mem_singleton]
    exact hstamp

theorem reads_homework_of_range {range : String} (hrange : IsSpaced range.toList) (unit : String) :
    Reads ("!homework" :: unit :: Text.words range) (.ok (.assignHomework unit range)) := by
  have hback := hrange.intercalate_words
  have hne : Text.words range ≠ [] := by
    intro hnone
    rw [hnone, String.intercalate_nil] at hback
    exact hrange.nonempty (by rw [← hback]; rfl)
  obtain ⟨word, rest, hwords⟩ := List.exists_cons_of_ne_nil hne
  have hreads := @Reads.homeworkOfRange "!homework" unit word rest (by decide)
  rwa [← hwords, hback] at hreads

theorem reads_lineWords {c : Command} (h : c.CanBeTyped) : Reads c.lineWords (.ok c) := by
  have hstamp : "!stamp" ∈ stampHeads := by decide
  have hfirst (sign : Char) (n : Count) : (signed sign n).toList.head? = some sign := by
    rw [toList_signed, List.head?_cons]
  cases c with
  | recordGrade unit question status => exact .graded h.2.1 (names_symbol status)
  | assignHomework unit range => exact reads_homework_of_range h.2 unit
  | addStamps n => exact .stampsAdded hstamp (hfirst '+' n) (readsAmount_signed (.inl rfl) n)
  | removeStamps n => exact .stampsRemoved hstamp (hfirst '-' n) (readsAmount_signed (.inr rfl) n)
  | penalty n => exact .penaltyOf (by decide) (readsAmount_signed (.inl rfl) n)
  | ignored => exact .stamps hstamp

theorem parse_line {c : Command} (h : c.CanBeTyped) : parse c.line = .ok c := by
  apply Reads.parse_eq
  rw [line, Text.words_intercalate (isWord_of_mem_lineWords h)]
  exact reads_lineWords h

/-- The line of a command is words with single spaces between them. -/
theorem isSpaced_line {c : Command} (h : c.CanBeTyped) : IsSpaced c.line.toList := by
  have hne : c.lineWords ≠ [] := by
    cases c <;> exact List.cons_ne_nil _ _
  obtain ⟨w, ws, hws⟩ := List.exists_cons_of_ne_nil hne
  have hwords := isWord_of_mem_lineWords h
  rw [hws] at hwords
  rw [line, hws]
  exact Text.isSpaced_intercalate hwords

theorem exists_parse_iff (c : Command) : (∃ input, parse input = .ok c) ↔ c.CanBeTyped :=
  ⟨fun ⟨_, h⟩ => canBeTyped_of_parse h, fun h => ⟨c.line, parse_line h⟩⟩

/-- A unit may look like an amount, or like the head of another form in other letters. -/
example : ∀ unit ∈ ["+1", "!Stamp", "unspecified"], CanBeTyped (.recordGrade unit "-" .partly) := by
  unfold CanBeTyped IsPlain
  decide +kernel

end Command

end Gradebook
