import Gradebook.Proofs.Files.Tree

/-!
# Making directories

Making directories ends with the directory asked for and changes no entry that lies deeper than
the path can lead.  In a tree where every entry is in a directory, nothing is found below a missing
one unless the path steps up.
-/

namespace Gradebook.FileTree

/-! ### Making directories -/

theorem makeDirectory_ok {t made : FileTree} {path : Path} (h : t.makeDirectory path = .ok made) :
    ∃ place, t.locate path = .ok place ∧ t.node? place = none ∧ made = t.put place .directory := by
  unfold makeDirectory at h
  cases hlocate : t.locate path with
  | error p => simp [hlocate] at h
  | ok place =>
    cases hnode : t.node? place with
    | some n => simp [hlocate, hnode] at h
    | none =>
      simp only [hlocate, hnode] at h
      exact ⟨place, rfl, hnode, (Except.ok.inj h).symm⟩

theorem keepsDirectories_makeDirectory {t made : FileTree} {path : Path}
    (h : t.makeDirectory path = .ok made) : t.KeepsDirectories made := by
  obtain ⟨place, -, hnode, rfl⟩ := makeDirectory_ok h
  apply keepsDirectories_put
  rw [hnode]
  exact nofun

theorem isDirectory_makeDirectory {t made : FileTree} {path : Path}
    (h : t.makeDirectory path = .ok made) : made.isDirectory path = true := by
  have hkeep := keepsDirectories_makeDirectory h
  obtain ⟨place, hlocate, hnode, rfl⟩ := makeDirectory_ok h
  have hroot : place ≠ [] := ne_nil_of_node? (by rw [hnode]; exact nofun)
  have hplace : (t.put place .directory).node? place = some .directory := by
    rw [node?_put t _ _ hroot, if_pos rfl]
  exact (isDirectory_iff _ _).2 ⟨place, hkeep.locate hlocate, hplace⟩

/-- Making directories succeeds in one of four ways; the names are given from the last. -/
theorem makeDirectoriesUp_cons_ok {t made : FileTree} {name : String} {above : List String}
    (h : t.makeDirectoriesUp (name :: above) = (none, made)) :
    t.makeDirectory (name :: above).reverse = .ok made ∨
      (made = t ∧ t.isDirectory (name :: above).reverse = true) ∨
      ∃ u, t.makeDirectoriesUp (namesAbove (name :: above)) = (none, u) ∧
        (u.makeDirectory (name :: above).reverse = .ok made ∨
          made = u ∧ u.isDirectory (name :: above).reverse = true) := by
  rw [makeDirectoriesUp] at h
  cases hdirect : t.makeDirectory (name :: above).reverse with
  | ok u =>
    simp only [hdirect] at h
    cases h
    exact .inl rfl
  | error p =>
    have hthere : ∀ (u : FileTree) (q : FileProblem),
        (if u.isDirectory (name :: above).reverse then (none, u) else (some q, u)) =
          (none, made) → made = u ∧ u.isDirectory (name :: above).reverse = true := by
      intro u q hu
      split at hu
      next hdir =>
        cases hu
        exact ⟨rfl, hdir⟩
      next => cases hu
    simp only [hdirect] at h
    split at h
    next heq => cases heq
    next =>
      cases habove : t.makeDirectoriesUp (namesAbove (name :: above)) with
      | mk q u =>
        cases q with
        | some q => simp [habove] at h
        | none =>
          simp only [habove] at h
          refine .inr (.inr ⟨u, rfl, ?_⟩)
          cases hlast : u.makeDirectory (name :: above).reverse with
          | ok done =>
            simp only [hlast] at h
            cases h
            exact .inl rfl
          | error q =>
            simp only [hlast] at h
            exact .inr (hthere u q h)
    next => exact .inr (.inl (hthere t _ h))

/-- Making directories fails at the directory itself, above it, or at it once those above are
there. -/
theorem makeDirectoriesUp_cons_error {t left : FileTree} {name : String} {above : List String}
    {p : FileProblem} (h : t.makeDirectoriesUp (name :: above) = (some p, left)) :
    (left = t ∧ p ≠ .missing ∧ t.makeDirectory (name :: above).reverse = .error p ∧
        t.isDirectory (name :: above).reverse = false) ∨
      t.makeDirectoriesUp (namesAbove (name :: above)) = (some p, left) ∨
      (t.makeDirectoriesUp (namesAbove (name :: above)) = (none, left) ∧
        left.makeDirectory (name :: above).reverse = .error p ∧
        left.isDirectory (name :: above).reverse = false) := by
  rw [makeDirectoriesUp] at h
  have hthere : ∀ (u : FileTree) (q : FileProblem),
      (if u.isDirectory (name :: above).reverse then (none, u) else (some q, u)) =
        (some p, left) → left = u ∧ q = p ∧ u.isDirectory (name :: above).reverse = false := by
    intro u q hu
    split at hu
    next => cases hu
    next hdir =>
      cases hu
      exact ⟨rfl, rfl, Bool.not_eq_true _ ▸ hdir⟩
  split at h
  next => cases h
  next hmissing =>
    cases habove : t.makeDirectoriesUp (namesAbove (name :: above)) with
    | mk q u =>
      cases q with
      | some q =>
        simp only [habove] at h
        cases h
        exact .inr (.inl rfl)
      | none =>
        simp only [habove] at h
        split at h
        next => cases h
        next q hlast =>
          obtain ⟨rfl, rfl, hdir⟩ := hthere u q h
          exact .inr (.inr ⟨rfl, hlast, hdir⟩)
  next q hother hdirect =>
    obtain ⟨rfl, rfl, hdir⟩ := hthere t q h
    exact .inl ⟨rfl, hother, hdirect, hdir⟩

theorem length_namesAbove_lt (name : String) (above : List String) :
    (namesAbove (name :: above)).length < (name :: above).length := by
  simp only [namesAbove, List.length_cons]
  split
  · rw [List.length_drop]
    omega
  · omega

theorem isDirectory_makeDirectoriesUp {t made : FileTree} : (names : List String) →
    t.makeDirectoriesUp names = (none, made) → made.isDirectory names.reverse = true
  | [], h => by
    rw [makeDirectoriesUp] at h
    cases h
    exact (isDirectory_iff _ _).2 ⟨[], t.leadsTo_nil⟩
  | name :: above, h => by
    obtain hdirect | ⟨rfl, hdir⟩ | ⟨u, -, hlast⟩ := makeDirectoriesUp_cons_ok h
    · exact isDirectory_makeDirectory hdirect
    · exact hdir
    · obtain hmade | ⟨rfl, hdir⟩ := hlast
      · exact isDirectory_makeDirectory hmade
      · exact hdir

theorem makeDirectories_ok {t made : FileTree} {path : Path}
    (h : t.makeDirectories path = .ok made) : t.reachDirectory path = (none, made) := by
  unfold makeDirectories at h
  split at h
  next heq =>
    cases h
    exact heq
  next => cases h

theorem makeDirectories_of_reach {t made : FileTree} {path : Path}
    (h : t.reachDirectory path = (none, made)) : t.makeDirectories path = .ok made := by
  simp only [makeDirectories, h]

theorem leadsTo_reachDirectory {t made : FileTree} {path : Path}
    (h : t.reachDirectory path = (none, made)) : ∃ place, made.LeadsTo path place := by
  have hdir := isDirectory_makeDirectoriesUp path.reverse h
  rw [List.reverse_reverse] at hdir
  exact (isDirectory_iff made path).1 hdir

theorem leadsTo_makeDirectories {t made : FileTree} {path : Path}
    (h : t.makeDirectories path = .ok made) : ∃ place, made.LeadsTo path place :=
  leadsTo_reachDirectory (makeDirectories_ok h)

theorem makeDirectoriesUp_of_isDirectory {t : FileTree} {names : List String}
    (hdir : t.isDirectory names.reverse = true) : t.makeDirectoriesUp names = (none, t) := by
  obtain ⟨place, hlocate, hnode⟩ := (isDirectory_iff t _).1 hdir
  cases names with
  | nil => rw [makeDirectoriesUp]
  | cons name above =>
    have hmake : t.makeDirectory (name :: above).reverse = .error .alreadyThere := by
      simp only [makeDirectory, hlocate, hnode]
    rw [makeDirectoriesUp]
    simp only [hmake, hdir, if_true]

theorem reachDirectory_of_leadsTo {t : FileTree} {path place : Path} (h : t.LeadsTo path place) :
    t.reachDirectory path = (none, t) := by
  apply makeDirectoriesUp_of_isDirectory
  rw [List.reverse_reverse]
  exact (isDirectory_iff t path).2 ⟨place, h⟩

theorem makeDirectories_of_leadsTo {t : FileTree} {path place : Path} (h : t.LeadsTo path place) :
    t.makeDirectories path = .ok t :=
  makeDirectories_of_reach (reachDirectory_of_leadsTo h)

/-- The names above are the front of the path, which has at least one more. -/
theorem reverse_namesAbove (name : String) (above : List String) :
    ∃ more last, (name :: above).reverse =
      (namesAbove (name :: above)).reverse ++ more ++ [last] := by
  have hsuffix : namesAbove (name :: above) <:+ above := by
    simp only [namesAbove]
    split
    · exact List.drop_suffix 1 above
    · exact List.suffix_refl above
  obtain ⟨more, hmore⟩ := List.reverse_prefix.2 hsuffix
  exact ⟨more, name, by rw [List.reverse_cons, hmore]⟩

theorem isDirectory_above {t : FileTree} {name : String} {above : List String} {place : Path}
    (h : t.locate (name :: above).reverse = .ok place) :
    t.isDirectory (namesAbove (name :: above)).reverse = true := by
  obtain ⟨more, last, hpath⟩ := reverse_namesAbove name above
  rw [hpath] at h
  exact isDirectory_of_append more ((isDirectory_iff t _).2 (leadsTo_of_locate_append h))

/-- Where making directories fails, the directory is not there afterwards. -/
theorem not_isDirectory_makeDirectoriesUp {t left : FileTree} {p : FileProblem} :
    (names : List String) → t.makeDirectoriesUp names = (some p, left) →
      left.isDirectory names.reverse = false
  | [], h => by
    rw [makeDirectoriesUp] at h
    cases h
  | name :: above, h => by
    obtain ⟨rfl, -, -, hdir⟩ | habove | ⟨-, -, hdir⟩ := makeDirectoriesUp_cons_error h
    · exact hdir
    · have hmissing := not_isDirectory_makeDirectoriesUp (namesAbove (name :: above)) habove
      apply eq_false_of_ne_true
      intro hdir
      obtain ⟨place, hplace⟩ := (isDirectory_iff left _).1 hdir
      exact Bool.false_ne_true (hmissing.symm.trans (isDirectory_above hplace.1))
    · exact hdir
termination_by names => names.length
decreasing_by exact length_namesAbove_lt name above

theorem makeDirectoriesUp_stays {t : FileTree} {name : String} {above : List String}
    {p : FileProblem} {r : Option FileProblem}
    (hmake : t.makeDirectory (name :: above).reverse = .error p)
    (hdir : t.isDirectory (name :: above).reverse = false)
    (habove : t.makeDirectoriesUp (namesAbove (name :: above)) = (r, t)) :
    ∃ q, t.makeDirectoriesUp (name :: above) = (some q, t) := by
  rw [makeDirectoriesUp]
  simp only [hmake, habove, hdir, Bool.false_eq_true, if_false]
  split
  next heq => cases heq
  next =>
    cases r with
    | some q => exact ⟨q, rfl⟩
    | none =>
      simp only [hmake, hdir, Bool.false_eq_true, if_false]
      exact ⟨_, rfl⟩
  next => exact ⟨_, rfl⟩

/-- Where making directories fails, it fails again in the tree that is left, and leaves that. -/
theorem makeDirectoriesUp_again {t left : FileTree} {p : FileProblem} :
    (names : List String) → t.makeDirectoriesUp names = (some p, left) →
      ∃ q, left.makeDirectoriesUp names = (some q, left)
  | [], h => by
    rw [makeDirectoriesUp] at h
    cases h
  | name :: above, h => by
    have hmissing := not_isDirectory_makeDirectoriesUp _ h
    obtain ⟨rfl, -, -, -⟩ | habove | ⟨habove, hlast, -⟩ := makeDirectoriesUp_cons_error h
    · exact ⟨p, h⟩
    · obtain ⟨q, hagain⟩ := makeDirectoriesUp_again (namesAbove (name :: above)) habove
      -- the directory above is missing, so nothing can be made in it
      cases hmake : left.makeDirectory (name :: above).reverse with
      | error q => exact makeDirectoriesUp_stays hmake hmissing hagain
      | ok made =>
        obtain ⟨place, hlocate, -⟩ := makeDirectory_ok hmake
        have habsent := not_isDirectory_makeDirectoriesUp _ habove
        exact absurd (habsent.symm.trans (isDirectory_above hlocate)) Bool.false_ne_true
    · have hthere := isDirectory_makeDirectoriesUp _ habove
      exact makeDirectoriesUp_stays hlast hmissing (makeDirectoriesUp_of_isDirectory hthere)
termination_by names => names.length
decreasing_by exact length_namesAbove_lt name above

/-- A tree that holds what another holds, and beyond it only directories. -/
def AddsDirectories (t u : FileTree) : Prop :=
  ∀ place, u.node? place = t.node? place ∨
    t.node? place = none ∧ u.node? place = some .directory

theorem AddsDirectories.refl (t : FileTree) : t.AddsDirectories t :=
  fun _ => .inl rfl

theorem AddsDirectories.trans {t u v : FileTree} (h : t.AddsDirectories u)
    (h' : u.AddsDirectories v) : t.AddsDirectories v := by
  intro place
  obtain hsame | ⟨hnone, hdir⟩ := h' place
  · rw [hsame]
    exact h place
  · obtain hold | ⟨-, hthere⟩ := h place
    · exact .inr ⟨hold ▸ hnone, hdir⟩
    · cases hnone.symm.trans hthere

theorem addsDirectories_makeDirectory {t made : FileTree} {path : Path}
    (h : t.makeDirectory path = .ok made) : t.AddsDirectories made := by
  obtain ⟨new, -, hnone, rfl⟩ := makeDirectory_ok h
  have hroot : new ≠ [] := ne_nil_of_node? (by rw [hnone]; exact nofun)
  intro place
  rw [node?_put t _ _ hroot]
  split
  next heq => exact .inr ⟨heq ▸ hnone, rfl⟩
  next => exact .inl rfl

theorem addsDirectories_makeDirectoriesUp {t u : FileTree} {r : Option FileProblem} :
    (names : List String) → t.makeDirectoriesUp names = (r, u) → t.AddsDirectories u
  | [], h => by
    rw [makeDirectoriesUp] at h
    cases h
    exact .refl t
  | name :: above, h => by
    cases r with
    | none =>
      obtain hdirect | ⟨rfl, -⟩ | ⟨v, habove, hlast⟩ := makeDirectoriesUp_cons_ok h
      · exact addsDirectories_makeDirectory hdirect
      · exact .refl _
      · have hup := addsDirectories_makeDirectoriesUp (namesAbove (name :: above)) habove
        obtain hmade | ⟨rfl, -⟩ := hlast
        · exact hup.trans (addsDirectories_makeDirectory hmade)
        · exact hup
    | some p =>
      obtain ⟨rfl, -⟩ | habove | ⟨habove, -⟩ := makeDirectoriesUp_cons_error h
      · exact .refl _
      · exact addsDirectories_makeDirectoriesUp (namesAbove (name :: above)) habove
      · exact addsDirectories_makeDirectoriesUp (namesAbove (name :: above)) habove
termination_by names => names.length
decreasing_by all_goals exact length_namesAbove_lt name above

/-! ### How deep a path leads -/

/-- The names of a path that can lead further down. -/
def named (path : Path) : Path :=
  path.filter (· ≠ ".")

theorem length_named_reverse (names : List String) :
    (named names.reverse).length = (named names).length := by
  unfold named
  rw [List.filter_reverse, List.length_reverse]

theorem length_of_walk {t : FileTree} {path here place : Path}
    (h : t.walk here path = .ok place) : place.length ≤ here.length + (named path).length := by
  -- a bound only, as a step up is one of the names and leads back
  induction path generalizing here with
  | nil =>
    cases h
    exact Nat.le_add_right ..
  | cons name path ih =>
    unfold walk at h
    split at h
    · cases h
    · cases h
    · split at h
      next hdot =>
        have hle := ih h
        simp only [named, List.filter_cons, hdot] at hle ⊢
        simpa using hle
      next hdot =>
        have hcons : named (name :: path) = name :: named path := by
          simp [named, hdot]
        rw [hcons, List.length_cons]
        split at h
        next =>
          have hle := ih h
          rw [List.length_dropLast] at hle
          omega
        next =>
          split at h
          · cases h
          · have hle := ih h
            rw [List.length_append, List.length_singleton] at hle
            omega

theorem place_of_walk {t : FileTree} {path here place : Path} (hup : ".." ∉ path)
    (h : t.walk here path = .ok place) : place = here ++ named path := by
  induction path generalizing here with
  | nil =>
    cases h
    exact (List.append_nil _).symm
  | cons name path ih =>
    rw [List.mem_cons, not_or] at hup
    obtain ⟨hname, hpath⟩ := hup
    unfold walk at h
    split at h
    · cases h
    · cases h
    · split at h
      next hdot =>
        rw [ih hpath h]
        simp [named, hdot]
      next hdot =>
        rw [if_neg (Ne.symm hname)] at h
        split at h
        · cases h
        · rw [ih hpath h]
          simp [named, hdot]

/-- Making directories changes no entry deeper than its path. -/
theorem makeDirectory_frame {t made : FileTree} {path : Path} (h : t.makeDirectory path = .ok made)
    {place : Path} (hdeep : (named path).length < place.length) :
    made.node? place = t.node? place := by
  obtain ⟨new, hlocate, hnode, rfl⟩ := makeDirectory_ok h
  have hlength := length_of_walk (walk_of_locate hlocate)
  have hroot : new ≠ [] := ne_nil_of_node? (by rw [hnode]; exact nofun)
  have hne : place ≠ new := by
    intro he
    rw [he] at hdeep
    simp only [List.length_nil] at hlength
    omega
  rw [node?_put t _ _ hroot, if_neg hne]

theorem length_named_namesAbove (name : String) (above : List String) :
    (named (namesAbove (name :: above))).length ≤ (named (name :: above)).length := by
  have hsub : (namesAbove (name :: above)).Sublist (name :: above) := by
    simp only [namesAbove]
    split
    · exact (List.drop_sublist 1 above).trans (List.sublist_cons_self name above)
    · exact List.sublist_cons_self name above
  exact (hsub.filter _).length_le

theorem makeDirectoriesUp_frame {t made : FileTree} {place : Path} : (names : List String) →
    t.makeDirectoriesUp names = (none, made) → (named names).length < place.length →
      made.node? place = t.node? place
  | [], h, _ => by
    rw [makeDirectoriesUp] at h
    cases h
    rfl
  | name :: above, h, hdeep => by
    have hpath : (named (name :: above).reverse).length < place.length := by
      rwa [length_named_reverse]
    obtain hdirect | ⟨rfl, -⟩ | ⟨u, habove, hlast⟩ := makeDirectoriesUp_cons_ok h
    · exact makeDirectory_frame hdirect hpath
    · rfl
    · -- the names above are not always the tail, so the recursion is on the number of names
      have hu := makeDirectoriesUp_frame (namesAbove (name :: above)) habove
        (Nat.lt_of_le_of_lt (length_named_namesAbove name above) hdeep)
      obtain hmade | ⟨rfl, -⟩ := hlast
      · rw [makeDirectory_frame hmade hpath, hu]
      · exact hu
termination_by names => names.length
decreasing_by exact length_namesAbove_lt name above

theorem makeDirectories_frame {t made : FileTree} {path place : Path}
    (h : t.makeDirectories path = .ok made) (hdeep : (named path).length < place.length) :
    made.node? place = t.node? place := by
  apply makeDirectoriesUp_frame path.reverse (makeDirectories_ok h)
  rwa [length_named_reverse]

/-! ### Entries of directories -/

/-- Every entry is an entry of a directory. -/
def IsWellFormed (t : FileTree) : Prop :=
  ∀ place name, t.node? (place ++ [name]) ≠ none → t.node? place = some .directory

theorem isWellFormed_empty : FileTree.empty.IsWellFormed := by
  intro place name h
  exact absurd (by simp [node?, empty]) h

theorem isWellFormed_of_entries {t : FileTree}
    (h : ∀ e ∈ t.nodes, t.node? e.1.dropLast = some .directory) : t.IsWellFormed := by
  intro place name hnode
  have hroot : place ++ [name] ≠ [] := by simp
  rw [node?, if_neg hroot] at hnode
  obtain ⟨n, hn⟩ := Option.ne_none_iff_exists'.1 hnode
  obtain ⟨before, after, hsplit, -⟩ := List.lookup_eq_some_iff.1 hn
  have hmem : (place ++ [name], n) ∈ t.nodes := by simp [hsplit]
  have habove := h _ hmem
  rwa [List.dropLast_concat] at habove

theorem IsWellFormed.directory_above {t : FileTree} (h : t.IsWellFormed) (place : Path) :
    ∀ below : Path, t.node? (place ++ below) = some .directory →
      t.node? place = some .directory := by
  intro below
  induction below generalizing place with
  | nil =>
    intro hnode
    rwa [List.append_nil] at hnode
  | cons name below ih =>
    intro hnode
    have hnext : t.node? (place ++ [name]) = some .directory := by
      apply ih
      rwa [List.append_assoc, List.singleton_append]
    apply h place name
    rw [hnext]
    exact nofun

theorem IsWellFormed.walk_eq {t u : FileTree} (h : t.IsWellFormed) {path here place : Path}
    (hup : ".." ∉ path) (hwalk : u.walk here path = .ok place)
    (hplace : t.node? place = some .directory) : t.walk here path = .ok place := by
  -- the way goes down only, so every directory on it lies above the place
  have hwhole := place_of_walk hup hwalk
  induction path generalizing here with
  | nil => exact hwalk
  | cons name path ih =>
    have hhere : t.node? here = some .directory := by
      apply h.directory_above here (named (name :: path))
      rw [← hwhole, hplace]
    rw [List.mem_cons, not_or] at hup
    obtain ⟨hname, hpath⟩ := hup
    unfold walk at hwalk ⊢
    simp only [hhere]
    split at hwalk
    · cases hwalk
    · cases hwalk
    · split at hwalk
      next hdot =>
        rw [if_pos hdot]
        exact ih hpath hwalk (place_of_walk hpath hwalk)
      next hdot =>
        rw [if_neg (Ne.symm hname)] at hwalk
        rw [if_neg hdot, if_neg (Ne.symm hname)]
        split at hwalk
        · cases hwalk
        next hsize =>
          rw [if_neg hsize]
          exact ih hpath hwalk (place_of_walk hpath hwalk)

theorem IsWellFormed.leadsTo {t u : FileTree} (h : t.IsWellFormed) {path place : Path}
    (hup : ".." ∉ path) (hpath : u.LeadsTo path place)
    (hplace : t.node? place = some .directory) : t.LeadsTo path place := by
  refine ⟨?_, hplace⟩
  have hwalk := walk_of_locate hpath.1
  have hlocate := hpath.1
  unfold locate at hlocate ⊢
  split at hlocate
  · cases hlocate
  next hnull =>
    rw [if_neg hnull]
    exact h.walk_eq hup hwalk hplace

/-- A directory that is missing holds no entry where a path without steps up would lead. -/
theorem IsWellFormed.node?_missing {t u : FileTree} (h : t.IsWellFormed) {path place : Path}
    (hup : ".." ∉ path) (hpath : u.LeadsTo path place)
    (hmissing : ∀ base, ¬ t.LeadsTo path base) (name : String) :
    t.node? (place ++ [name]) = none := by
  cases hfound : t.node? (place ++ [name]) with
  | none => rfl
  | some n =>
    have hplace := h place name (by rw [hfound]; exact Option.some_ne_none n)
    exact absurd (h.leadsTo hup hpath hplace) (hmissing place)

end Gradebook.FileTree
