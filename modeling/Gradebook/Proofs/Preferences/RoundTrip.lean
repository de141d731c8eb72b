import Gradebook.Proofs.Files.Agreement
import Gradebook.Proofs.Preferences
import Gradebook.Proofs.Toml.RoundTrip

/-!
# Preferences read back

Preferences that are read are sorted, and so are those that a change makes of them.  Sorted ones are
read back from their text as they are, and so from the file that they are saved in.
-/

namespace Gradebook.Preferences

open FileTree (LeadsTo AgreesBut)

def IsSorted (p : Preferences) : Prop :=
  p.entries.Pairwise fun a b => a.1 < b.1

theorem isSorted_empty : empty.IsSorted :=
  .nil

theorem mem_insert {name text : String} {es : List (String × String)} {e : String × String}
    (h : e ∈ insert name text es) : e = (name, text) ∨ e ∈ es := by
  induction es with
  | nil => simpa [insert] using h
  | cons f es ih =>
    rw [insert] at h
    split at h
    · simpa using h
    · split at h
      · rcases List.mem_cons.1 h with hnew | hlater
        · exact .inl hnew
        · exact .inr (List.mem_cons_of_mem f hlater)
      · rcases List.mem_cons.1 h with rfl | hlater
        · exact .inr List.mem_cons_self
        · exact (ih hlater).imp_right (List.mem_cons_of_mem f)

theorem IsSorted.set {p : Preferences} (h : p.IsSorted) (name text : String) :
    (p.set name text).IsSorted := by
  obtain ⟨es⟩ := p
  unfold IsSorted Preferences.set at *
  simp only at h ⊢
  induction es with
  | nil => exact List.pairwise_singleton _ _
  | cons e es ih =>
    obtain ⟨hfirst, hrest⟩ := List.pairwise_cons.1 h
    rw [insert]
    split
    next hbefore =>
      refine List.pairwise_cons.2 ⟨fun f hf => ?_, h⟩
      rcases List.mem_cons.1 hf with rfl | hlater
      · exact hbefore
      · exact String.lt_trans hbefore (hfirst f hlater)
    next hnot =>
      split
      next hsame => exact List.pairwise_cons.2 ⟨fun f hf => hsame ▸ hfirst f hf, hrest⟩
      next hdiffer =>
        -- neither before nor equal, so the name comes after the first one
        have hafter : e.1 < name := by
          apply String.not_le.1
          intro hle
          exact hdiffer (String.le_antisymm hle (String.not_lt.1 hnot))
        refine List.pairwise_cons.2 ⟨fun f hf => ?_, ih hrest⟩
        rcases mem_insert hf with rfl | hlater
        · exact hafter
        · exact hfirst f hlater

theorem IsSorted.erase {p : Preferences} (h : p.IsSorted) (name : String) :
    (p.erase name).IsSorted :=
  h.sublist List.filter_sublist

theorem isSorted_of_ofTable? {es : List (String × Toml.Value)} {p : Preferences}
    (h : ofTable? es = some p) : p.IsSorted := by
  unfold ofTable? at h
  generalize hstart : empty = start at h
  have hsorted : start.IsSorted := hstart ▸ isSorted_empty
  clear hstart
  induction es generalizing start with
  | nil =>
    cases h
    exact hsorted
  | cons e es ih =>
    rw [List.foldlM_cons] at h
    obtain ⟨name, v⟩ := e
    cases v with
    | string text => exact ih (start.set name text) h (hsorted.set name text)
    | _ => cases h

theorem isSorted_of_read? {text : String} {p : Preferences} (h : read? text = some p) :
    p.IsSorted := by
  simp only [read?, Option.bind_eq_bind, Option.bind_eq_some_iff] at h
  obtain ⟨es, -, h⟩ := h
  split at h
  · cases h
    exact isSorted_empty
  · exact isSorted_of_ofTable? h
  · cases h

theorem isSorted_of_load {t : FileTree} {home : Home} {p : Preferences}
    (h : load t home = .ok p) : p.IsSorted := by
  simp only [load] at h
  split at h
  · cases h
    exact isSorted_empty
  · split at h
    · cases h
    · split at h
      next hread =>
        cases h
        exact isSorted_of_read? hread
      next => cases h

theorem insert_last {name text : String} {es : List (String × String)}
    (h : ∀ e ∈ es, e.1 < name) : insert name text es = es ++ [(name, text)] := by
  induction es with
  | nil => rfl
  | cons e es ih =>
    have hfirst := h e List.mem_cons_self
    have hne : name ≠ e.1 := fun he => String.lt_irrefl name (he ▸ hfirst)
    rw [insert, if_neg (String.lt_asymm hfirst), if_neg hne,
      ih fun f hf => h f (List.mem_cons_of_mem e hf)]
    rfl

theorem foldlM_ofTable? (done es : List (String × String))
    (h : (done ++ es).Pairwise fun a b => a.1 < b.1) :
    (es.map fun e => (e.1, Toml.Value.string e.2)).foldlM (fun p (name, v) =>
      match v with
      | .string text => some (p.set name text)
      | _ => none) (⟨done⟩ : Preferences) = some ⟨done ++ es⟩ := by
  induction es generalizing done with
  | nil => simp
  | cons e es ih =>
    have hlast : insert e.1 e.2 done = done ++ [e] :=
      insert_last fun f hf => (List.pairwise_append.1 h).2.2 f hf e List.mem_cons_self
    have hsplit : done ++ e :: es = done ++ [e] ++ es := by simp
    rw [hsplit] at h ⊢
    rw [List.map_cons, List.foldlM_cons]
    simp only [Preferences.set, hlast, Option.bind_eq_bind, Option.bind_some]
    exact ih _ h

theorem read?_layout {p : Preferences} (h : p.IsSorted) : read? p.layout = some p := by
  have hnames : (p.entries.map Prod.fst).Nodup := by
    rw [List.Nodup, List.pairwise_map]
    apply List.Pairwise.imp _ h
    intro a b hlt he
    exact String.lt_irrefl b.1 (he ▸ hlt)
  have htable : ofTable? (p.entries.map fun e => (e.1, Toml.Value.string e.2)) = some p := by
    have hfold := foldlM_ofTable? [] p.entries h
    exact hfold
  simp only [read?, layout, Toml.read?_writeTable table hnames, Option.bind_eq_bind,
    Option.bind_some, List.lookup_cons_self, htable]

theorem lookup_filter_name (keep : String → Bool) (name : String) (es : List (String × String)) :
    (es.filter fun e => keep e.1).lookup name = if keep name then es.lookup name else none := by
  induction es with
  | nil => simp
  | cons e es ih =>
    obtain ⟨first, text⟩ := e
    rw [List.filter_cons]
    by_cases hname : name = first
    · subst hname
      cases hkeep : keep name <;> simp [hkeep, ih]
    · have hother : (name == first) = false := by simpa using hname
      cases keep first <;> simp [List.lookup_cons, hother, ih]

theorem get?_erase (p : Preferences) (name other : String) :
    (p.erase name).get? other = if other = name then none else p.get? other := by
  have hlookup := lookup_filter_name (fun n => decide (n ≠ name)) other p.entries
  by_cases hother : other = name <;> simpa [get?, Preferences.erase, hother] using hlookup

theorem erase_eq_self {p : Preferences} {name : String} (h : p.get? name = none) :
    p.erase name = p := by
  obtain ⟨es⟩ := p
  have hkeep : ∀ e ∈ es, decide (e.1 ≠ name) = true := by
    intro e he
    have hne := List.lookup_eq_none_iff.1 h e he
    exact decide_eq_true fun heq => absurd heq.symm (by simpa using hne)
  exact congrArg Preferences.mk (List.filter_eq_self.2 hkeep)

/-- What stands at the path of the file decides what is loaded. -/
def loadEntry (home : Home) : Option Node → Except Problem Preferences
  | none => .ok empty
  | some .directory => .error (.unreadable (fileName home) .isADirectory)
  | some (.file (.bytes _)) => .error (.unreadable (fileName home) .notText)
  | some (.file (.text text)) => (read? text).elim (.error .malformed) .ok

theorem load_eq (t : FileTree) (home : Home) :
    load t home = loadEntry home (t.find (filePath home)).toOption := by
  cases hfind : t.find (filePath home) with
  | error cause =>
    simp only [load, FileTree.contains, hfind]
    rfl
  | ok n =>
    simp only [load, FileTree.contains, FileTree.readText, hfind]
    cases n with
    | directory => rfl
    | file content =>
      cases content with
      | bytes b => rfl
      | text text =>
        simp only [Except.toOption, loadEntry]
        cases read? text <;> rfl

theorem load_of_agreesBut {names : List String} {t u : FileTree} (h : t.AgreesBut names u)
    (hname : "config.toml" ∉ names) (home : Option Home) : load u home = load t home := by
  cases home with
  | none => rfl
  | some home => rw [load_eq, load_eq, filePath_eq, h.find_append _ isEntryName_file hname]

theorem Rewrites.agreesBut {t u : FileTree} (h : Rewrites t u) :
    t.AgreesBut ["config.toml"] u := by
  intro place
  obtain hsame | ⟨front, old, new, hplace, hold, hnew⟩ := h.node?_eq_or place
  · exact .inl hsame
  · refine .inr ⟨⟨front, _, List.mem_singleton_self _, hplace⟩, ?_, ?_⟩
    · rw [hold]
      exact nofun
    · rw [hnew]
      exact nofun

/-- Where some preferences can be saved, any are, in a directory that is there by then. -/
theorem save_eq {t : FileTree} {home : Home} {q : Preferences} (h : (save t home q).1 = none) :
    ∃ (made : FileTree) (place : Path), made.LeadsTo (directoryPath home) place ∧
      made.node? (place ++ ["config.toml"]) ≠ some .directory ∧
      ∀ p, save t home p =
        (none, made.put (place ++ ["config.toml"]) (.file (.text p.layout))) := by
  simp only [save] at h
  cases hreach : t.reachDirectory (directoryPath home) with
  | mk problem made =>
    rw [hreach] at h
    cases problem with
    | some cause => cases h
    | none =>
      obtain ⟨place, hplace⟩ := FileTree.leadsTo_reachDirectory hreach
      have hfree : made.node? (place ++ ["config.toml"]) ≠ some .directory := by
        intro hdirectory
        have hlocate := hplace.locate_append isEntryName_file
        rw [← filePath_eq] at hlocate
        simp only [FileTree.writeText, hlocate, hdirectory] at h
        cases h
      refine ⟨made, place, hplace, hfree, fun p => ?_⟩
      have hsame : save t home p = save made home p := by
        simp only [save, hreach, FileTree.reachDirectory_of_leadsTo hplace]
      rw [hsame, save_there hplace hfree]

theorem save_ok {t u : FileTree} {home : Home} {p : Preferences}
    (h : save t home p = (none, u)) :
    ∃ place, u.LeadsTo (directoryPath home) place ∧
      u.node? (place ++ ["config.toml"]) = some (.file (.text p.layout)) := by
  obtain ⟨made, place, hplace, hfree, hsave⟩ := save_eq (congrArg Prod.fst h)
  rw [hsave] at h
  cases h
  refine ⟨place, hplace.put _ hfree, ?_⟩
  rw [FileTree.node?_put_entry, if_pos rfl]

theorem load_saved {t u : FileTree} {home : Home} {p : Preferences} (hp : p.IsSorted)
    (h : save t home p = (none, u)) : load u home = .ok p := by
  obtain ⟨place, hplace, hnode⟩ := save_ok h
  have hfind := hplace.find_append isEntryName_file
  rw [hnode, ← filePath_eq] at hfind
  rw [load_eq, hfind, loadEntry, read?_layout hp]
  rfl

/-- Once a text is taken out, what is loaded is what was there without it. -/
theorem load_cleared {t u : FileTree} {home : Option Home} {name : String}
    (h : clear t home name = (none, u)) :
    ∃ p, load t home = .ok p ∧ load u home = .ok (p.erase name) := by
  unfold clear at h
  cases hload : load t home with
  | error problem =>
    rw [hload] at h
    cases h
  | ok p =>
    obtain ⟨home, rfl⟩ := home_of_load hload
    refine ⟨p, rfl, ?_⟩
    simp only [hload] at h
    split at h
    · exact load_saved ((isSorted_of_load hload).erase name) h
    next hnone =>
      cases h
      have habsent : p.get? name = none := by simpa using hnone
      rw [erase_eq_self habsent, hload]

end Gradebook.Preferences
