import Gradebook.Terminal.Arguments

/-!
# Command lines for a student

A student named by any text, and a line of any words, are read as they are given where the name
follows an equals sign and the words follow two dashes.
-/

namespace Gradebook.Terminal

/-- The flag for a student, with its value. -/
def studentFlag (key : String) : String :=
  "--student=" ++ key

theorem toList_studentFlag (key : String) :
    (studentFlag key).toList =
      '-' :: '-' :: 's' :: 't' :: 'u' :: 'd' :: 'e' :: 'n' :: 't' :: '=' :: key.toList :=
  String.toList_append

theorem classify_studentFlag {s : Shape} (h : s.flagNamed? "student" = some .student)
    (key : String) : s.classify (studentFlag key) = .flag .student (some key) := by
  have hname : String.ofList (('s' :: 't' :: 'u' :: 'd' :: 'e' :: 'n' :: 't' :: '=' ::
      key.toList).takeWhile (· ≠ '=')) = "student" := rfl
  have hvalue : ('s' :: 't' :: 'u' :: 'd' :: 'e' :: 'n' :: 't' :: '=' ::
      key.toList).dropWhile (· ≠ '=') = '=' :: key.toList := rfl
  simp only [Shape.classify, toList_studentFlag, hname, hvalue, h, String.ofList_toList]

theorem studentFlag_ne_dashes (key : String) : studentFlag key ≠ "--" := by
  intro h
  have hlist := congrArg String.toList h
  rw [toList_studentFlag] at hlist
  cases hlist

namespace Level

/-- What has been read once a student is given. -/
def forStudent (key : String) (operands : List String) : Level :=
  ⟨[(.student, key)], operands, none⟩

theorem read_studentFlag {s : Shape} (hnames : s.names = [])
    (hflag : s.flagNamed? "student" = some .student) (key : String) (rest : List String) :
    empty.read s false (studentFlag key :: rest) = (forStudent key []).read s false rest := by
  have hline : empty.isInLine s = false := Bool.and_false _
  have htake : empty.takeFlag .student (some key) = .ok (forStudent key []) := rfl
  have hnext : decide (studentFlag key = "--") = false :=
    decide_eq_false (studentFlag_ne_dashes key)
  rw [read, hline, hnames, classify_studentFlag hflag, hnext]
  simp only [htake]
  rfl

theorem read_operands (flags : List Flag) (l : Level) (h : l.pending = none)
    (words : List String) :
    l.read (.line flags) true words = .ok ({ l with operands := l.operands ++ words }, none) := by
  induction words generalizing l with
  | nil => rw [read, List.append_nil]
  | cons word words ih =>
    have hword : l.takePlain (.line flags) true word =
        .ok { l with operands := l.operands ++ [word] } := by
      simp only [takePlain, settle, h, Shape.hasRoom, if_true]
    simp only [read, Bool.true_or, if_true, hword]
    rw [ih { l with operands := l.operands ++ [word] } h, List.append_assoc]
    rfl

end Level

variable (key : String) (environment : List (String × String))

theorem ofLevels_forStudent (operands : List String) :
    General.ofLevels [.forStudent key operands, .empty] environment =
      General.ofLevels [.empty] environment :=
  rfl

theorem readLevels_group {n : Nat} {path : List String} {names : List String} {name : String}
    {levels : List Level} {args : List String} {last : List String}
    (hshape : Shape.ofPath? path = some (.group names))
    (hname : (Shape.group names).names.contains name = true) (hhelp : name ≠ Shape.helpName)
    (hbelow : readLevels n (path ++ [name]) args = .ok (last, levels)) :
    readLevels (n + 1) path (name :: args) = .ok (last, levels ++ [.empty]) := by
  have hread : Level.empty.read (.group names) false (name :: args) =
      .ok (.empty, some (name, args)) := by
    rw [Level.read, hname]
    rfl
  rw [readLevels, hshape]
  simp only [hread, if_neg hhelp, hbelow]
  rfl

theorem readLevels_last {n : Nat} {path : List String} {s : Shape} {level : Level}
    {args : List String} (hshape : Shape.ofPath? path = some s) (hgroup : ∀ names, s ≠ .group names)
    (hread : Level.empty.read s false args = .ok (level, none)) (hsettled : level.pending = none) :
    readLevels (n + 1) path args = .ok (path, [level]) := by
  rw [readLevels, hshape]
  simp only [hread, Level.settle, hsettled]
  cases s with
  | group names => exact absurd rfl (hgroup names)
  | single | line => rfl

theorem readArguments_console :
    readArguments ["console", studentFlag key] environment =
      (General.ofLevels [.empty] environment).map fun general => (general, .console (some key)) := by
  have hread : Level.empty.read (.single [.student] 0) false [studentFlag key] =
      .ok (.forStudent key [], none) := Level.read_studentFlag rfl rfl key []
  have hlevels : readLevels maxLevels [] ["console", studentFlag key] =
      .ok (["console"], [.forStudent key [], .empty]) :=
    readLevels_group rfl rfl (by decide) (readLevels_last rfl (by nofun) hread rfl)
  simp only [readArguments, hlevels, ofLevels_forStudent]
  cases General.ofLevels [.empty] environment <;> rfl

theorem readArguments_run (word : String) (words : List String) :
    readArguments ("run" :: studentFlag key :: "--" :: word :: words) environment =
      (General.ofLevels [.empty] environment).map fun general =>
        (general, .run (some key) (word :: words)) := by
  have hread : Level.empty.read (.line [.student]) false
      (studentFlag key :: "--" :: word :: words) =
        .ok (.forStudent key (word :: words), none) := by
    rw [Level.read_studentFlag rfl rfl]
    exact Level.read_operands [.student] (.forStudent key []) rfl (word :: words)
  have hlevels : readLevels maxLevels [] ("run" :: studentFlag key :: "--" :: word :: words) =
      .ok (["run"], [.forStudent key (word :: words), .empty]) :=
    readLevels_group rfl rfl (by decide) (readLevels_last rfl (by nofun) hread rfl)
  simp only [readArguments, hlevels, ofLevels_forStudent]
  cases General.ofLevels [.empty] environment <;> rfl

end Gradebook.Terminal
