import Gradebook.Proofs.Files.Directories
import Gradebook.Proofs.Store.Faithful
import Gradebook.Store.Folder

/-!
# Collections kept in a directory

A save goes through three states of the tree of files: the directory made, the temporary file
written, the file moved.  Whatever state it ends in, the only collection file that can have changed
is the one that was saved, and it has changed only where the save succeeds.
-/

namespace Gradebook

open CollectionStore (load loading save)
open FileTree (IsEntryName LeadsTo)

namespace FolderStore

theorem decode_encode (c : Collection) (records : List c.Record) :
    decode c (encode c records) = .ok records := by
  have hread := c.read?_pretty_toJson records
  simp only [decode, decoding, encode, c.isAllBlank_pretty_toJson records, Bool.false_eq_true,
    if_false, hread, Fallible.value_run_pure]

/-- Text is refused where it is not blank and does not hold records. -/
theorem decode_error_iff (c : Collection) (text : String) :
    (∃ f, decode c text = .error f) ↔
      Text.isAllBlank text = false ∧ (Json.Value.read? text).bind c.ofJson? = none := by
  unfold decode decoding
  cases Text.isAllBlank text with
  | true =>
    constructor
    · rintro ⟨f, hf⟩
      cases hf
    · rintro ⟨hblank, -⟩
      cases hblank
  | false =>
    cases (Json.Value.read? text).bind c.ofJson? with
    | some records =>
      constructor
      · rintro ⟨f, hf⟩
        cases hf
      · rintro ⟨-, hrecords⟩
        cases hrecords
    | none => exact ⟨fun _ => ⟨rfl, rfl⟩, fun _ => ⟨_, rfl⟩⟩

theorem isEntryName_fileName (c : Collection) : IsEntryName (fileName c) := by
  cases c <;> refine ⟨?_, ?_, ?_, ?_⟩ <;> decide

theorem isEntryName_temporaryName (c : Collection) : IsEntryName (temporaryName c) := by
  cases c <;> refine ⟨?_, ?_, ?_, ?_⟩ <;> decide

theorem fileName_ne_temporaryName (c d : Collection) : fileName c ≠ temporaryName d := by
  cases c <;> cases d <;> decide

theorem fileName_ne {c d : Collection} (h : c ≠ d) : fileName c ≠ fileName d := by
  cases c <;> cases d <;> first | exact absurd rfl h | decide

theorem temporaryName_ne {c d : Collection} (h : c ≠ d) : temporaryName c ≠ temporaryName d := by
  cases c <;> cases d <;> first | exact absurd rfl h | decide

/-! ### Loading -/

/-- What stands at the path of a collection's file. -/
def stored? (s : FolderStore) (c : Collection) : Option Node :=
  (s.tree.find (s.filePath c)).toOption

theorem stored?_of_leadsTo {s : FolderStore} {base : Path} (h : s.tree.LeadsTo s.directory base)
    (c : Collection) : s.stored? c = s.tree.node? (base ++ [fileName c]) := by
  rw [stored?, filePath, h.find_append (isEntryName_fileName c)]

theorem stored?_of_missing {s : FolderStore} (h : ∀ base, ¬ s.tree.LeadsTo s.directory base)
    (c : Collection) : s.stored? c = none := by
  rw [stored?, filePath]
  cases hfind : s.tree.find (s.directory ++ [fileName c]) with
  | error p => rfl
  | ok n =>
    obtain ⟨base, hbase⟩ := FileTree.leadsTo_of_find_append hfind
    exact absurd hbase (h base)

def loadEntry (c : Collection) : Option Node → Except Fault (List c.Record)
  | none => .ok []
  | some .directory => .error (Fault.ofFileProblem .isADirectory).value
  | some (.file (.bytes _)) => .error (Fault.ofFileProblem .notText).value
  | some (.file (.text text)) => decode c text

theorem load_eq (s : FolderStore) (c : Collection) : load s c = loadEntry c (s.stored? c) := by
  unfold stored?
  cases hfind : s.tree.find (s.filePath c) with
  | error p => simp [load, loading, FileTree.contains, hfind, Except.toOption, loadEntry]
  | ok n =>
    have hthere : s.tree.contains (s.filePath c) = true := by
      rw [FileTree.contains, hfind]
      rfl
    simp only [load, loading, hthere, if_true, FileTree.readText, hfind]
    cases n with
    | directory => rfl
    | file content => cases content <;> rfl

theorem load_of_leadsTo {s : FolderStore} {base : Path} (h : s.tree.LeadsTo s.directory base)
    (c : Collection) : load s c = loadEntry c (s.tree.node? (base ++ [fileName c])) := by
  rw [load_eq, stored?_of_leadsTo h]

theorem load_of_missing {s : FolderStore} (h : ∀ base, ¬ s.tree.LeadsTo s.directory base)
    (c : Collection) : load s c = .ok [] := by
  rw [load_eq, stored?_of_missing h]
  rfl

/-! ### Saving -/

theorem writeText_temporary {made : FileTree} {s : FolderStore} {base : Path}
    (hbase : made.LeadsTo s.directory base) (c : Collection) (text : String) :
    made.writeText (s.temporaryPath c) text =
      if made.node? (base ++ [temporaryName c]) = some .directory then .error .isADirectory
      else .ok (made.put (base ++ [temporaryName c]) (.file (.text text))) := by
  have hlocate := hbase.locate_append (isEntryName_temporaryName c)
  simp only [FileTree.writeText, temporaryPath, hlocate]
  split
  next hnode => rw [if_pos hnode]
  next hnode => rw [if_neg hnode]

theorem moveFile_temporary {written : FileTree} {s : FolderStore} {base : Path} {c : Collection}
    {content : Content} (hbase : written.LeadsTo s.directory base)
    (hsource : written.node? (base ++ [temporaryName c]) = some (.file content)) :
    written.moveFile (s.temporaryPath c) (s.filePath c) =
      if written.node? (base ++ [fileName c]) = some .directory then .error .isADirectory
      else .ok ((written.erase (base ++ [temporaryName c])).put (base ++ [fileName c])
        (.file content)) := by
  have hlocate := hbase.locate_append (isEntryName_temporaryName c)
  have htarget := hbase.locate_append (isEntryName_fileName c)
  simp only [FileTree.moveFile, temporaryPath, filePath, hlocate, htarget, hsource]
  cases written.node? (base ++ [fileName c]) with
  | none => rfl
  | some n => cases n <;> rfl

/-- A save in a directory that is there: the temporary file is written unless a directory is in
its way, and moved unless a directory is in the way of the collection's file. -/
theorem write_there {s : FolderStore} {base : Path} (hbase : s.tree.LeadsTo s.directory base)
    (c : Collection) (text : String) :
    s.write c text =
      if s.tree.node? (base ++ [temporaryName c]) = some .directory then
        (some (Fault.ofFileProblem .isADirectory).value, s.tree)
      else if s.tree.node? (base ++ [fileName c]) = some .directory then
        (some (Fault.underCode .storageError FileProblem.isADirectory.message).value,
          s.tree.put (base ++ [temporaryName c]) (.file (.text text)))
      else
        (none, ((s.tree.put (base ++ [temporaryName c]) (.file (.text text))).erase
          (base ++ [temporaryName c])).put (base ++ [fileName c]) (.file (.text text))) := by
  simp only [write, writing, FileTree.reachDirectory_of_leadsTo hbase,
    writeText_temporary hbase c text]
  by_cases htemp : s.tree.node? (base ++ [temporaryName c]) = some .directory
  · simp only [if_pos htemp, Counted.value_map]
  · have hwritten := hbase.put (.file (.text text)) htemp
    have hsource : (s.tree.put (base ++ [temporaryName c]) (.file (.text text))).node?
        (base ++ [temporaryName c]) = some (.file (.text text)) := by
      rw [FileTree.node?_put_entry, if_pos rfl]
    have hfile : (s.tree.put (base ++ [temporaryName c]) (.file (.text text))).node?
        (base ++ [fileName c]) = s.tree.node? (base ++ [fileName c]) := by
      rw [FileTree.node?_put_entry, if_neg (fileName_ne_temporaryName c c)]
    simp only [if_neg htemp, moveFile_temporary hwritten hsource, hfile]
    by_cases hdir : s.tree.node? (base ++ [fileName c]) = some .directory
    · simp only [if_pos hdir, Counted.value_map]
    · simp only [if_neg hdir, Counted.value_pure]

theorem write_unreached {s : FolderStore} {p : FileProblem} {left : FileTree}
    (hreach : s.tree.reachDirectory s.directory = (some p, left)) (c : Collection)
    (text : String) : s.write c text = (some (Fault.ofFileProblem p).value, left) := by
  simp only [write, writing, hreach, Counted.value_map]

/-- Once the directory can be made, a save goes on as if it had been there. -/
theorem write_made {s : FolderStore} {made : FileTree}
    (hmake : s.tree.reachDirectory s.directory = (none, made)) (c : Collection) (text : String) :
    s.write c text = write { s with tree := made } c text := by
  obtain ⟨base, hbase⟩ := FileTree.leadsTo_reachDirectory hmake
  simp only [write, writing, hmake, FileTree.reachDirectory_of_leadsTo hbase]
  rfl

/-- What a save leaves of the tree in which its directory has been made.  Nothing changes but the
temporary file, which is gone after success, and then the file of the collection. -/
structure Leaves (s : FolderStore) (c : Collection) (text : String) (made : FileTree) (base : Path)
    (fault : Option Fault) (tree : FileTree) : Prop where
  found : made.LeadsTo s.directory base
  stays : tree.LeadsTo s.directory base
  elsewhere : ∀ place, place ≠ base ++ [temporaryName c] → place ≠ base ++ [fileName c] →
    tree.node? place = made.node? place
  file : tree.node? (base ++ [fileName c]) =
    if fault.isNone then some (.file (.text text)) else made.node? (base ++ [fileName c])
  temporary : fault = none → tree.node? (base ++ [temporaryName c]) = none

theorem Leaves.entry {s : FolderStore} {c : Collection} {text : String} {made tree : FileTree}
    {base : Path} {fault : Option Fault} (h : s.Leaves c text made base fault tree) {name : String}
    (hname : name ≠ temporaryName c) :
    tree.node? (base ++ [name]) =
      if fault.isNone = true ∧ name = fileName c then some (.file (.text text))
      else made.node? (base ++ [name]) := by
  by_cases hfile : name = fileName c
  · subst hfile
    rw [h.file]
    simp only [and_true]
  · rw [if_neg fun hboth => hfile hboth.2]
    apply h.elsewhere
    · rwa [Ne, FileTree.append_singleton_inj]
    · rwa [Ne, FileTree.append_singleton_inj]

theorem leaves_there {s : FolderStore} {base : Path} (hbase : s.tree.LeadsTo s.directory base)
    (c : Collection) (text : String) :
    s.Leaves c text s.tree base (s.write c text).1 (s.write c text).2 := by
  rw [write_there hbase]
  split
  next => exact ⟨hbase, hbase, fun _ _ _ => rfl, rfl, nofun⟩
  next htemp =>
    have htempRoot := FileTree.ne_nil_of_node? htemp
    have hwritten := hbase.put (.file (.text text)) htemp
    have hfile : (s.tree.put (base ++ [temporaryName c]) (.file (.text text))).node?
        (base ++ [fileName c]) = s.tree.node? (base ++ [fileName c]) := by
      rw [FileTree.node?_put_entry, if_neg (fileName_ne_temporaryName c c)]
    split
    next =>
      -- the temporary file stays behind
      refine ⟨hbase, hwritten, ?_, hfile, nofun⟩
      intro place hplace _
      rw [FileTree.node?_put _ _ _ htempRoot, if_neg hplace]
    next hdir =>
      have hfileRoot := FileTree.ne_nil_of_node? hdir
      refine ⟨hbase, ?_, ?_, ?_, fun _ => ?_⟩
      · apply LeadsTo.put
        · apply hwritten.erase
          rw [FileTree.node?_put_entry, if_pos rfl]
          exact nofun
        · rw [FileTree.node?_erase_entry, if_neg (fileName_ne_temporaryName c c), hfile]
          exact hdir
      · intro place hplace hother
        rw [FileTree.node?_put _ _ _ hfileRoot, if_neg hother, FileTree.node?_erase _ _ htempRoot,
          if_neg hplace, FileTree.node?_put _ _ _ htempRoot, if_neg hplace]
      · rw [FileTree.node?_put_entry, if_pos rfl]
        rfl
      · rw [FileTree.node?_put_entry, if_neg (fileName_ne_temporaryName c c).symm,
          FileTree.node?_erase_entry, if_pos rfl]

/-- A save fails as its directory cannot be made, or it makes the directory and goes on there. -/
theorem write_spec {s : FolderStore} {c : Collection} {text : String} {fault : Option Fault}
    {tree : FileTree} (h : s.write c text = (fault, tree)) :
    (∃ p, fault = some (Fault.ofFileProblem p).value ∧
        s.tree.reachDirectory s.directory = (some p, tree)) ∨
      ∃ made base, s.tree.reachDirectory s.directory = (none, made) ∧
        s.Leaves c text made base fault tree := by
  cases hreach : s.tree.reachDirectory s.directory with
  | mk problem made =>
    cases problem with
    | some p =>
      rw [write_unreached hreach] at h
      cases h
      exact .inl ⟨p, rfl, rfl⟩
    | none =>
      obtain ⟨base, hbase⟩ := FileTree.leadsTo_reachDirectory hreach
      have hleaves := leaves_there (s := { s with tree := made }) hbase c text
      rw [← write_made hreach, h] at hleaves
      exact .inr ⟨made, base, rfl, hleaves.found, hleaves.stays, hleaves.elsewhere, hleaves.file,
        hleaves.temporary⟩

theorem write_succeeds {s : FolderStore} {made : FileTree} {base : Path} (c : Collection)
    (text : String) (hmake : s.tree.reachDirectory s.directory = (none, made))
    (hbase : made.LeadsTo s.directory base)
    (htemp : made.node? (base ++ [temporaryName c]) ≠ some .directory)
    (hfile : made.node? (base ++ [fileName c]) ≠ some .directory) :
    (s.write c text).1 = none := by
  rw [write_made hmake, write_there (s := { s with tree := made }) hbase, if_neg htemp,
    if_neg hfile]

theorem save_eq (s : FolderStore) (c : Collection) (records : List c.Record) :
    save s c records =
      ((s.write c (encode c records)).1, { s with tree := (s.write c (encode c records)).2 }) :=
  rfl

theorem load_saved {s : FolderStore} {c : Collection} {records : List c.Record}
    (h : (save s c records).1 = none) : load (save s c records).2 c = .ok records := by
  rw [save_eq] at h ⊢
  simp only at h
  obtain ⟨p, hfault, -⟩ | ⟨made, base, -, hleaves⟩ := write_spec (Prod.eta _).symm
  · rw [h] at hfault
    cases hfault
  · have hfile := hleaves.file
    rw [h, Option.isNone_none, if_pos rfl] at hfile
    rw [load_of_leadsTo (s := ⟨_, s.directory⟩) hleaves.stays, hfile]
    exact decode_encode c records

/-- Where its directory cannot be made, a store finds nothing before or after the attempt. -/
theorem stored?_unreached {s : FolderStore} {p : FileProblem} {left : FileTree}
    (h : s.tree.reachDirectory s.directory = (some p, left)) (c : Collection) :
    s.stored? c = none ∧ stored? { s with tree := left } c = none := by
  constructor
  · apply stored?_of_missing
    intro base hbase
    rw [FileTree.reachDirectory_of_leadsTo hbase] at h
    cases h
  · apply stored?_of_missing
    intro base hbase
    have hmissing := FileTree.not_isDirectory_makeDirectoriesUp s.directory.reverse h
    have hdir := (FileTree.isDirectory_iff left s.directory).2 ⟨base, hbase⟩
    rw [List.reverse_reverse, hdir] at hmissing
    cases hmissing

/-- But for the collection that it saves, a save changes what stands at the files' paths only by
making the directory. -/
theorem stored?_save {s : FolderStore} {c d : Collection} (records : List c.Record)
    (h : d ≠ c ∨ (save s c records).1 ≠ none) :
    (save s c records).2.stored? d = s.stored? d ∨
      ∃ made, s.tree.makeDirectories s.directory = .ok made ∧
        (save s c records).2.stored? d = stored? { s with tree := made } d := by
  rw [save_eq] at h ⊢
  simp only at h
  obtain ⟨p, -, hreach⟩ | ⟨made, base, hmake, hleaves⟩ := write_spec (Prod.eta _).symm
  · obtain ⟨hbefore, hafter⟩ := stored?_unreached hreach d
    exact .inl (hafter.trans hbefore.symm)
  · have hsame : ¬ ((s.write c (encode c records)).1.isNone = true ∧ fileName d = fileName c) := by
      intro ⟨hsaved, hname⟩
      rcases h with hother | hfailed
      · exact fileName_ne hother hname
      · exact hfailed (Option.isNone_iff_eq_none.1 hsaved)
    have hentry := hleaves.entry (fileName_ne_temporaryName d c)
    rw [if_neg hsame] at hentry
    refine .inr ⟨made, FileTree.makeDirectories_of_reach hmake, ?_⟩
    rw [stored?_of_leadsTo (s := ⟨_, s.directory⟩) hleaves.stays, hentry,
      stored?_of_leadsTo (s := ⟨made, s.directory⟩) hleaves.found]

/-! ### Directories that stay in view -/

/-- Making the directory, where it is missing, brings nothing into view at the path of a
collection's file.  A path that steps up out of a missing directory can lead past it to files that
are there already. -/
def KeepsView (s : FolderStore) : Prop :=
  ∀ made, s.tree.makeDirectories s.directory = .ok made →
    ∀ c : Collection, stored? { s with tree := made } c = s.stored? c

theorem keepsView_of_leadsTo {s : FolderStore} {base : Path}
    (h : s.tree.LeadsTo s.directory base) : s.KeepsView := by
  intro made hmake c
  rw [FileTree.makeDirectories_of_leadsTo h] at hmake
  cases hmake
  rfl

theorem keepsView_of_wellFormed {s : FolderStore} (htree : s.tree.IsWellFormed)
    (hpath : s.tree.isDirectory s.directory = true ∨ ".." ∉ s.directory) : s.KeepsView := by
  by_cases hthere : ∃ base, s.tree.LeadsTo s.directory base
  · obtain ⟨base, hbase⟩ := hthere
    exact keepsView_of_leadsTo hbase
  · have hmissing : ∀ base, ¬ s.tree.LeadsTo s.directory base := fun base hbase =>
      hthere ⟨base, hbase⟩
    have hup : ".." ∉ s.directory := by
      rcases hpath with hdir | hup
      · exact absurd ((FileTree.isDirectory_iff _ _).1 hdir) hthere
      · exact hup
    intro made hmake c
    -- the file lies deeper than making the directory reaches, and it was not there before, as its
    -- directory was missing
    obtain ⟨base, hbase⟩ := FileTree.leadsTo_makeDirectories hmake
    have hplace : base = FileTree.named s.directory := by
      rw [FileTree.place_of_walk hup (FileTree.walk_of_locate hbase.1), List.nil_append]
    have hdeep : (FileTree.named s.directory).length < (base ++ [fileName c]).length := by
      rw [hplace, List.length_append, List.length_singleton]
      exact Nat.lt_succ_self _
    rw [stored?_of_leadsTo (s := ⟨made, s.directory⟩) hbase,
      FileTree.makeDirectories_frame hmake hdeep, stored?_of_missing hmissing,
      htree.node?_missing hup hbase hmissing]

/-- Making the directory, where it is missing, changes no collection that is loaded. -/
def IsSettled (s : FolderStore) : Prop :=
  ∀ made, s.tree.makeDirectories s.directory = .ok made →
    ∀ c : Collection, load { s with tree := made } c = load s c

theorem KeepsView.isSettled {s : FolderStore} (h : s.KeepsView) : s.IsSettled := by
  intro made hmake c
  rw [load_eq, load_eq]
  exact congrArg (loadEntry c) (h made hmake c)

theorem isSettled_of_wellFormed {s : FolderStore} (htree : s.tree.IsWellFormed)
    (hpath : s.tree.isDirectory s.directory = true ∨ ".." ∉ s.directory) : s.IsSettled :=
  (keepsView_of_wellFormed htree hpath).isSettled

def hiddenEntry : LogEntry :=
  ⟨"log-1", "student-1", "algebra", "12", .incorrect, .epoch⟩

/-- A directory reached through a missing one, which holds a file already. -/
def hidden : FolderStore where
  tree := ⟨[(["b", fileName .grades], .file (.text (encode .grades [hiddenEntry]))),
    (["b"], .directory)]⟩
  directory := ["a", "..", "b"]

theorem load_hidden (c : Collection) : load hidden c = .ok [] := by
  apply load_of_missing
  intro base hbase
  have hmissing : hidden.tree.locate hidden.directory = .error .missing := rfl
  rw [hbase.1] at hmissing
  cases hmissing

theorem reachDirectory_hidden :
    hidden.tree.reachDirectory hidden.directory = (none, hidden.tree.put ["a"] .directory) := by
  have hnames : hidden.directory.reverse = ["b", "..", "a"] := rfl
  have hpath : hidden.tree.makeDirectory ["a", "..", "b"] = .error .missing := rfl
  have hup : hidden.tree.makeDirectory ["a", ".."] = .error .missing := rfl
  have hfirst : hidden.tree.makeDirectory ["a"] = .ok (hidden.tree.put ["a"] .directory) := rfl
  have hthere : (hidden.tree.put ["a"] .directory).isDirectory ["a", "..", "b"] = true := rfl
  have hupThere : (hidden.tree.put ["a"] .directory).isDirectory ["a", ".."] = true := rfl
  have hagain : (hidden.tree.put ["a"] .directory).makeDirectory ["a", "..", "b"] =
      .error .alreadyThere := rfl
  have hupAgain : (hidden.tree.put ["a"] .directory).makeDirectory ["a", ".."] =
      .error .alreadyThere := rfl
  simp [FileTree.reachDirectory, FileTree.makeDirectoriesUp, FileTree.namesAbove, hnames, hpath,
    hup, hfirst, hthere, hupThere, hagain, hupAgain]

/-- Saving the students brings the file of grades into view. -/
theorem save_hidden (students : List Student) :
    (save hidden .students students).1 = none ∧
      load (save hidden .students students).2 .grades = .ok [hiddenEntry] := by
  have hbase : (hidden.tree.put ["a"] .directory).LeadsTo hidden.directory ["b"] := ⟨rfl, rfl⟩
  have htemp : (hidden.tree.put ["a"] .directory).node? (["b"] ++ [temporaryName .students]) =
      none := rfl
  have hfile : (hidden.tree.put ["a"] .directory).node? (["b"] ++ [fileName .students]) =
      none := rfl
  have hgrades : (hidden.tree.put ["a"] .directory).node? (["b"] ++ [fileName .grades]) =
      some (.file (.text (encode .grades [hiddenEntry]))) := rfl
  have hsaved : (save hidden .students students).1 = none := by
    rw [save_eq]
    apply write_succeeds .students _ reachDirectory_hidden hbase
    · rw [htemp]
      exact nofun
    · rw [hfile]
      exact nofun
  refine ⟨hsaved, ?_⟩
  rw [save_eq] at hsaved ⊢
  simp only at hsaved
  obtain ⟨p, hfault, -⟩ | ⟨made, base, hmake, hleaves⟩ := write_spec (Prod.eta _).symm
  · rw [hsaved] at hfault
    cases hfault
  · rw [reachDirectory_hidden] at hmake
    cases hmake
    have hplace : base = ["b"] := by
      have hlocate := hbase.1
      rw [hleaves.found.1] at hlocate
      exact Except.ok.inj hlocate
    subst hplace
    have hentry := hleaves.entry (fileName_ne_temporaryName .grades .students)
    have hname : fileName .grades ≠ fileName .students := fileName_ne (by decide)
    rw [if_neg fun h => hname h.2, hgrades] at hentry
    rw [load_of_leadsTo (s := ⟨_, hidden.directory⟩) hleaves.stays, hentry]
    exact decode_encode .grades [hiddenEntry]

theorem load_save {s : FolderStore} (hs : s.IsSettled) {c d : Collection}
    (records : List c.Record) (h : d ≠ c ∨ (save s c records).1 ≠ none) :
    load (save s c records).2 d = load s d := by
  rw [load_eq]
  obtain hsame | ⟨made, hmake, hmade⟩ := stored?_save records h
  · rw [hsame, load_eq]
  · -- the entry is the one after making the directory, which brought nothing into view
    rw [hmade, ← hs made hmake d, load_eq]

/-- Every attempt to save, also one that fails, ends what making the directory can bring to
view. -/
theorem keepsView_save (s : FolderStore) (c : Collection) (records : List c.Record) :
    (save s c records).2.KeepsView := by
  rw [save_eq]
  obtain ⟨p, -, hreach⟩ | ⟨made, base, -, hleaves⟩ := write_spec (Prod.eta _).symm
  · -- the next attempt fails as well, so no directory is made that could bring anything into view
    intro made hmake
    obtain ⟨q, hagain⟩ := FileTree.makeDirectoriesUp_again s.directory.reverse hreach
    cases hagain.symm.trans (FileTree.makeDirectories_ok hmake)
  · exact keepsView_of_leadsTo (s := ⟨_, s.directory⟩) hleaves.stays

theorem savesFaithfully : SavesFaithfully FolderStore IsSettled where
  inOrder c records _ := (keepsView_save _ c records).isSettled
  load_saved _ hsaved := load_saved hsaved
  load_failed hs hfailed := load_save hs _ (.inr hfailed)
  load_other records hs hother := load_save hs records (.inl hother)

end FolderStore

/-! ### Saved records -/

/-- The text that a save writes holds the records, and a save that succeeds leaves them to be
loaded, in a directory and in memory. -/
theorem saved_records_are_loaded (c : Collection) (records : List c.Record) :
    FolderStore.decode c (FolderStore.encode c records) = .ok records ∧
      (∀ s s' : FolderStore, save s c records = (none, s') → load s' c = .ok records) ∧
      (∀ s s' : MemoryStore, save s c records = (none, s') → load s' c = .ok records) ∧
      ∀ s : MemoryStore, s.readOnly = false →
        ∃ s', save s c records = (none, s') ∧ load s' c = .ok records := by
  refine ⟨FolderStore.decode_encode c records, ?_, ?_, ?_⟩
  · intro s s' hsave
    have hsaved : (save s c records).1 = none := by rw [hsave]
    have hload := FolderStore.load_saved hsaved
    rwa [hsave] at hload
  · intro s s' hsave
    have hsaved : (save s c records).1 = none := by rw [hsave]
    have hload := MemoryStore.savesFaithfully.load_saved trivial hsaved
    rwa [hsave] at hload
  · intro s hmode
    exact ⟨_, MemoryStore.save_writable c records hmode, MemoryStore.load_put s c records⟩

theorem saved_leap_second_is_loaded :
    let e : LogEntry :=
      ⟨"", "\"\\", "\u0000한", "", .partly, ⟨1483228799, 1500000000, by decide⟩⟩
    ∃ s', save (FolderStore.mk .empty []) .grades [e] = (none, s') ∧
      load s' .grades = .ok [e] := by
  intro e
  have hbase : FileTree.empty.LeadsTo [] [] := FileTree.leadsTo_nil _
  have hnone : ∀ name, FileTree.empty.node? ([] ++ [name]) = none := fun name => rfl
  have hsaved : (save (FolderStore.mk .empty []) .grades [e]).1 = none := by
    rw [FolderStore.save_eq]
    apply FolderStore.write_succeeds .grades _ (FileTree.reachDirectory_of_leadsTo hbase) hbase
    · rw [hnone]
      exact nofun
    · rw [hnone]
      exact nofun
  have hsave : save (FolderStore.mk .empty []) .grades [e] =
      (none, (save (FolderStore.mk .empty []) .grades [e]).2) := by
    rw [← hsaved]
  exact ⟨_, hsave, (saved_records_are_loaded .grades [e]).2.1 _ _ hsave⟩

end Gradebook
