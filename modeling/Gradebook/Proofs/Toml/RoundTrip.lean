import Gradebook.Proofs.Text.Decimal
import Gradebook.Proofs.Toml.Quoted

/-!
# Tables read back

The text of a table is read back as the header and one entry for each of its texts.  Names that
differ then define the table with these texts, in their order.
-/

namespace Gradebook.Toml

/-! ### Keys -/

/-- A character with which a written key may begin. -/
def StartsKey (c : Char) : Prop :=
  isBareChar c = true ∨ c = '"' ∨ c = '\''

instance (c : Char) : Decidable (StartsKey c) := inferInstanceAs (Decidable (_ ∨ _))

theorem writeKey_head (k : List Char) : ∃ c more, writeKey k = c :: more ∧ StartsKey c := by
  unfold writeKey
  split
  next hbare =>
    cases k with
    | nil => simp at hbare
    | cons c k =>
      simp at hbare
      exact ⟨c, k, rfl, .inl hbare.1⟩
  next =>
    split
    · exact ⟨_, _, rfl, .inr (.inl rfl)⟩
    · split
      · exact ⟨_, _, rfl, .inr (.inr rfl)⟩
      · exact ⟨_, _, rfl, .inr (.inl rfl)⟩

theorem readKeyPart?_writeKey (k : List Char) {rest : List Char}
    (hrest : ∀ c ∈ rest.head?, isBareChar c = false) :
    readKeyPart? (writeKey k ++ rest) = some (String.ofList k, rest) := by
  have hquoted (body : List Char) (h : readLineString? (body ++ rest) = some (k, rest)) :
      readKeyPart? (body ++ rest) = some (String.ofList k, rest) := by
    simp only [readKeyPart?, h]
  unfold writeKey
  split
  next hbare =>
    cases k with
    | nil => simp at hbare
    | cons c k =>
      have hall : ∀ d ∈ c :: k, isBareChar d = true := by simpa using hbare
      have hline : readLineString? (c :: k ++ rest) = none := by
        have hc := hall c List.mem_cons_self
        rw [readLineString?.eq_def]
        split <;> simp_all [isBareChar]
      simp only [readKeyPart?, hline, Text.takeWhile_append_of_ends hall hrest,
        Text.dropWhile_append_of_ends hall hrest]
  next =>
    have hbasic : readLineString? ('"' :: escape false 0 k ++ ['"'] ++ rest) = some (k, rest) := by
      simpa [readLineString?] using basicBody_escape 0 k rest
    split
    · exact hquoted _ hbasic
    next hescaped =>
      split
      next hliteral =>
        apply hquoted
        have hplain : ∀ c ∈ k, c ≠ '\'' ∧ isControl c = false := by
          simp only [Bool.or_eq_true, Bool.and_eq_true, not_or, not_and, List.any_eq_true,
            List.contains_iff_mem] at hescaped hliteral
          intro c hc
          refine ⟨?_, eq_false_of_ne_true fun h => hescaped.1 ⟨c, hc, h⟩⟩
          rintro rfl
          obtain ⟨hslash, hquote⟩ := hescaped.2 hc
          exact hliteral.elim hslash hquote
        simpa [readLineString?] using literalBody_append hplain rest
      next => exact hquoted _ hbasic

theorem skipLineSpace_of_key {c : Char} (h : StartsKey c) (rest : List Char) :
    skipLineSpace (c :: rest) = c :: rest := by
  have hspace : isLineSpace c = false := by
    cases hs : isLineSpace c with
    | false => rfl
    | true =>
      simp [isLineSpace] at hs
      rcases hs with rfl | rfl <;> revert h <;> decide
  simp [skipLineSpace, hspace]

theorem readKey?_writeKey (k rest : List Char)
    (hrest : ∀ c ∈ rest.head?, isBareChar c = false)
    (hdot : ∀ more, skipLineSpace rest ≠ '.' :: more) :
    readKey? (writeKey k ++ rest).length (writeKey k ++ rest) =
      some ([String.ofList k], skipLineSpace rest) := by
  obtain ⟨c, more, hkey, hc⟩ := writeKey_head k
  have hskip : skipLineSpace (writeKey k ++ rest) = writeKey k ++ rest := by
    rw [hkey, List.cons_append, skipLineSpace_of_key hc]
  have hlength : (writeKey k ++ rest).length = (more ++ rest).length + 1 := by
    rw [hkey, List.cons_append, List.length_cons]
  simp only [hlength, readKey?, hskip, readKeyPart?_writeKey k hrest, Option.bind_eq_bind,
    Option.bind_some]

/-! ### Statements -/

/-- A line that begins with a character of a key or of a header holds a statement. -/
theorem endLine?_of_statement {c : Char} (h : StartsKey c ∨ c = '[') (rest : List Char) :
    endLine? (c :: rest) = none := by
  have hne (d : Char) (hd : ¬ (StartsKey d ∨ d = '[')) : c ≠ d := fun hcd => hd (hcd ▸ h)
  have hspace : skipLineSpace (c :: rest) = c :: rest := by
    obtain hkey | rfl := h
    · exact skipLineSpace_of_key hkey rest
    · rfl
  have hcomment : skipComment? (c :: rest) = some (c :: rest) := by
    have := hne '#' (by decide)
    rw [skipComment?.eq_def]
    split <;> simp_all
  have hbreak := hne '\n' (by decide)
  have hreturn := hne '\r' (by decide)
  simp only [endLine?, hspace, hcomment, Option.bind_eq_bind, Option.bind_some]
  split <;> simp_all

theorem readStatement?_header (header : List Char) (rest : List Char) :
    readStatement? ('[' :: (writeKey header ++ ']' :: rest)) =
      some (.header [String.ofList header], rest) := by
  obtain ⟨c, more, hkey, hc⟩ := writeKey_head header
  have hread := readKey?_writeKey header (']' :: rest) (by rintro c ⟨⟩; decide)
    (by intro _ h; cases h)
  have hskip : skipLineSpace (']' :: rest) = ']' :: rest := rfl
  have hbracket : c ≠ '[' := by
    rintro rfl
    revert hc
    decide
  rw [hskip] at hread
  rw [readStatement?.eq_def]
  split
  next h => simp [hkey, hbracket] at h
  next h =>
    obtain rfl := (List.cons.inj h).2
    simp only [hread, Option.bind_eq_bind, Option.bind_some]
    rfl
  next h => exact absurd rfl (h _)

theorem writeString_head (s : List Char) :
    ∃ c more, writeString s = c :: more ∧ (c = '"' ∨ c = '\'') := by
  unfold writeString
  split
  · exact ⟨_, _, rfl, .inl rfl⟩
  · exact ⟨_, _, rfl, .inr rfl⟩
  · exact ⟨_, _, rfl, .inl rfl⟩
  · exact ⟨_, _, rfl, .inr rfl⟩

theorem readValue?_writeString (n : Nat) (s : List Char) (rest : List Char) :
    readValue? (n + 1) 0 (writeString s ++ '\n' :: rest) =
      some (.string (String.ofList s), '\n' :: rest) := by
  obtain ⟨c, more, hstring, hc⟩ := writeString_head s
  have hread := readString?_writeString s ('\n' :: rest) (by rintro c ⟨⟩; decide)
  rw [hstring, List.cons_append] at hread ⊢
  rcases hc with rfl | rfl <;> simp [readValue?, hread]

theorem readStatement?_writeEntry (e : String × String) (rest : List Char) :
    readStatement? (writeEntry e ++ rest) = some (.entry [e.1] (.string e.2), '\n' :: rest) := by
  obtain ⟨c, more, hkey, hc⟩ := writeKey_head e.1.toList
  obtain ⟨d, left, hstring, hd⟩ := writeString_head e.2.toList
  have hentry : writeEntry e ++ rest =
      writeKey e.1.toList ++ ' ' :: '=' :: ' ' :: (writeString e.2.toList ++ '\n' :: rest) := by
    simp [writeEntry]
  have hread := readKey?_writeKey e.1.toList
    (' ' :: '=' :: ' ' :: (writeString e.2.toList ++ '\n' :: rest))
    (by rintro c ⟨⟩; decide) (by intro _ h; cases h)
  have hequals : skipLineSpace (' ' :: '=' :: ' ' :: (writeString e.2.toList ++ '\n' :: rest)) =
      '=' :: ' ' :: (writeString e.2.toList ++ '\n' :: rest) := rfl
  have hspace : skipLineSpace (' ' :: (writeString e.2.toList ++ '\n' :: rest)) =
      writeString e.2.toList ++ '\n' :: rest := by
    have hstart := skipLineSpace_of_key (.inr hd) (left ++ '\n' :: rest)
    rw [hstring, List.cons_append]
    exact hstart
  have hbracket : c ≠ '[' := by
    rintro rfl
    revert hc
    decide
  rw [hequals] at hread
  rw [hentry, readStatement?.eq_def]
  split
  next h => simp [hkey, hbracket] at h
  next h => simp [hkey, hbracket] at h
  next =>
    simp only [hread, hspace, readValue?_writeString, Option.bind_eq_bind, Option.bind_some,
      String.ofList_toList]
    rfl

theorem endLine?_break (rest : List Char) : endLine? ('\n' :: rest) = some rest :=
  rfl

/-- A statement and the end of its line are read before the statements of the other lines. -/
theorem readStatements?_line {n : Nat} {c : Char} {more rest : List Char} {statement : Statement}
    (hc : StartsKey c ∨ c = '[')
    (h : readStatement? (c :: more) = some (statement, '\n' :: rest)) :
    readStatements? (n + 1) (c :: more) = (statement :: ·) <$> readStatements? n rest := by
  have hspace : skipLineSpace (c :: more) = c :: more := by
    obtain hkey | rfl := hc
    · exact skipLineSpace_of_key hkey more
    · rfl
  simp only [readStatements?, endLine?_of_statement hc, hspace, h, endLine?_break,
    Option.bind_eq_bind, Option.bind_some]

theorem readStatements?_entries {n : Nat} {entries : List (String × String)}
    (hn : entries.length < n) :
    readStatements? n (entries.flatMap writeEntry) =
      some (entries.map fun e => .entry [e.1] (.string e.2)) := by
  induction entries generalizing n with
  | nil =>
    obtain ⟨m, rfl⟩ := Nat.exists_eq_add_of_lt hn
    simp [readStatements?, endLine?, skipLineSpace, skipComment?]
  | cons e entries ih =>
    obtain ⟨m, rfl⟩ : ∃ m, n = m + 1 := ⟨n - 1, by omega⟩
    obtain ⟨c, more, hkey, hc⟩ := writeKey_head e.1.toList
    have hread := readStatement?_writeEntry e (entries.flatMap writeEntry)
    have hentry : writeEntry e ++ entries.flatMap writeEntry =
        c :: (more ++ [' ', '=', ' '] ++ writeString e.2.toList ++ ['\n'] ++
          entries.flatMap writeEntry) := by
      simp [writeEntry, hkey]
    rw [List.flatMap_cons]
    rw [hentry] at hread ⊢
    rw [readStatements?_line (.inl hc) hread, ih (by simp at hn; omega)]
    rfl

theorem length_le_flatMap_writeEntry (entries : List (String × String)) :
    entries.length ≤ (entries.flatMap writeEntry).length := by
  induction entries with
  | nil => exact Nat.le_refl 0
  | cons e entries ih =>
    have hpos : 0 < (writeEntry e).length := by
      simp only [writeEntry, List.length_append, List.length_singleton]
      omega
    simp only [List.flatMap_cons, List.length_cons, List.length_append]
    omega

/-! ### Documents -/

/-- A table of texts under its header, under construction. -/
def tableOf (header : String) (entries : List (String × String)) : Document :=
  ⟨[(header, .table ⟨false, false⟩ (entries.map fun e => (e.1, .leaf (.string e.2))))], [header]⟩

theorem add?_header (header : String) :
    Document.add? ⟨[], []⟩ (.header [header]) = some (tableOf header []) := by
  rfl

theorem add?_entry {header : String} {entries : List (String × String)} {e : String × String}
    (hnew : e.1 ∉ entries.map Prod.fst) :
    (tableOf header entries).add? (.entry [e.1] (.string e.2)) =
      some (tableOf header (entries ++ [e])) := by
  have hlookup : (entries.map fun e => (e.1, Item.leaf (.string e.2))).lookup e.1 = none := by
    rw [List.lookup_eq_none_iff]
    intro p hp
    obtain ⟨f, hf, rfl⟩ := List.mem_map.1 hp
    have hne : e.1 ≠ f.1 := fun h => hnew (h ▸ List.mem_map_of_mem hf)
    simpa using hne
  simp [Document.add?, tableOf, Entries.within, Entries.define, hlookup, Entries.replace]

theorem foldlM_add? {header : String} (done : List (String × String))
    {entries : List (String × String)} (h : ((done ++ entries).map Prod.fst).Nodup) :
    (entries.map fun e => Statement.entry [e.1] (.string e.2)).foldlM Document.add?
      (tableOf header done) = some (tableOf header (done ++ entries)) := by
  induction entries generalizing done with
  | nil => simp
  | cons e entries ih =>
    have hnew : e.1 ∉ done.map Prod.fst := by
      rw [List.map_append, List.map_cons] at h
      exact fun hmem => (List.nodup_append.1 h).2.2 _ hmem _ List.mem_cons_self rfl
    have hsplit : done ++ e :: entries = done ++ [e] ++ entries := by simp
    rw [hsplit] at h ⊢
    rw [List.map_cons, List.foldlM_cons, add?_entry hnew]
    exact ih _ h

theorem toEntries_map {α : Type} (name : α → String) (value : α → Value) (l : List α) :
    toEntries (l.map fun a => (name a, .leaf (value a))) = l.map fun a => (name a, value a) := by
  induction l with
  | nil => simp [toEntries]
  | cons a l ih => simp [toEntries, Item.toValue, ih]

theorem read?_writeTable (header : String) {entries : List (String × String)}
    (h : (entries.map Prod.fst).Nodup) :
    read? (writeTable header entries) =
      some [(header, .table (entries.map fun e => (e.1, .string e.2)))] := by
  have hheader := readStatement?_header header.toList ('\n' :: entries.flatMap writeEntry)
  have hlength := length_le_flatMap_writeEntry entries
  obtain ⟨text, htext⟩ : ∃ text, text = writeKey header.toList ++
      ']' :: '\n' :: entries.flatMap writeEntry := ⟨_, rfl⟩
  have hchars : (writeTable header entries).toList = '[' :: text := by
    simp [writeTable, htext]
  have hstatements : readStatements? (text.length + 1 + 1) ('[' :: text) =
      some (.header [header] :: entries.map fun e => .entry [e.1] (.string e.2)) := by
    rw [← htext] at hheader
    rw [readStatements?_line (.inr rfl) hheader, readStatements?_entries]
    · simp
    · simp only [htext, List.length_cons, List.length_append]
      omega
  have hread : read? (writeTable header entries) =
      (readStatements? (text.length + 1 + 1) ('[' :: text)).bind fun statements =>
        (statements.foldlM Document.add? ⟨[], []⟩).bind fun d => some (toEntries d.entries) := by
    rw [read?, hchars]
    rfl
  rw [hread, hstatements, Option.bind_some, List.foldlM_cons, add?_header, Option.bind_eq_bind,
    Option.bind_some, foldlM_add? [] h]
  simp [tableOf, toEntries, Item.toValue, toEntries_map]

end Gradebook.Toml
