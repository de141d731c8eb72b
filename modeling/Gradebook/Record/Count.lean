/-!
# Counts

Stamp balances, awards and penalty sheets are counts of at most 2^32 - 1.  A number outside the
range is brought to its nearer end.  A change of a count is a word, a signed number of 64 bits;
where the sum of the two is no word, the program panics.
-/

namespace Gradebook

abbrev maxCount : Nat := 4294967295

/-- A count of stamps or sheets. -/
structure Count where
  val : Nat
  le_max : val ≤ maxCount
deriving DecidableEq

namespace Count

def clamp (n : Int) : Count :=
  ⟨min n.toNat maxCount, Nat.min_le_right ..⟩

/-- The count equal to a number, if there is one. -/
def ofInt? (n : Int) : Option Count :=
  if 0 ≤ n ∧ n ≤ maxCount then some (clamp n) else none

def zero : Count := ⟨0, by decide⟩

instance : Inhabited Count := ⟨zero⟩
instance : ToString Count := ⟨fun n => toString n.val⟩

/-- The count after a change of any size, held at the ends of the range. -/
def adjust (n : Count) (delta : Int) : Count :=
  clamp (n.val + delta)

@[simp] theorem val_clamp (n : Int) : (clamp n).val = min n.toNat maxCount := rfl

theorem clamp_val (n : Count) : clamp n.val = n := by
  cases n with
  | mk v h => simp [clamp, Nat.min_eq_left h]

theorem adjust_mono (n : Count) {a b : Int} (h : a ≤ b) :
    (n.adjust a).val ≤ (n.adjust b).val := by
  simp only [adjust, val_clamp]
  omega

end Count

/-- Whether a number is a signed number of 64 bits. -/
def fitsWord (n : Int) : Bool :=
  -9223372036854775808 ≤ n && n ≤ 9223372036854775807

/-- Why the program cannot go on. -/
inductive Panic where
  | addOverflow
deriving DecidableEq, Repr

def Panic.message : Panic → String
  | addOverflow => "attempt to add with overflow"

/-- The sum of two words. -/
def addWords (a b : Int) : Except Panic Int :=
  if fitsWord (a + b) then .ok (a + b) else .error .addOverflow

/-- The count after a change by a word, which is added before the sum is held at the ends of the
range. -/
def Count.adjustByWord (n : Count) (delta : Int) : Except Panic Count :=
  (addWords n.val delta).map clamp

end Gradebook
