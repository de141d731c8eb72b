import Gradebook.Workbook

/-!
# Operations on a workbook

The operations of a workbook as data, and runs of them with the answers they give.
-/

namespace Gradebook

/-- An operation on a workbook. -/
inductive Operation where
  | addStudent (name : String)
  | select (id : StudentId)
  | runCommand (input : String)
  | completeHomework (id : StudentId) (homework : RecordId)
  | resetStamps (id : StudentId)
deriving DecidableEq

inductive Answer where
  | student (result : Except Fault Student)
  | outcome (o : Outcome)
  | done (result : Except Fault Unit)

namespace Workbook

variable {σ κ : Type} [CollectionStore σ] [IdClock κ]

def perform (w : Workbook σ κ) : Operation → Answer × Workbook σ κ
  | .addStudent name => (.student (w.addStudent name).1, (w.addStudent name).2)
  | .select id => (.student (w.select id).1, (w.select id).2)
  | .runCommand input => (.outcome (w.runCommand input).1, (w.runCommand input).2)
  | .completeHomework id homework =>
    (.done (w.completeHomework id homework).1, (w.completeHomework id homework).2)
  | .resetStamps id => (.done (w.resetStamps id).1, (w.resetStamps id).2)

def run (w : Workbook σ κ) : List Operation → List Answer × Workbook σ κ
  | [] => ([], w)
  | o :: rest =>
    let (answer, next) := w.perform o
    let (answers, last) := next.run rest
    (answer :: answers, last)

def after (w : Workbook σ κ) (ops : List Operation) : Workbook σ κ :=
  (w.run ops).2

theorem after_cons (w : Workbook σ κ) (o : Operation) (ops : List Operation) :
    w.after (o :: ops) = (w.perform o).2.after ops := rfl

theorem run_cons (w : Workbook σ κ) (o : Operation) (ops : List Operation) :
    w.run (o :: ops) =
      ((w.perform o).1 :: ((w.perform o).2.run ops).1, ((w.perform o).2.run ops).2) := rfl

theorem after_induction {P : Workbook σ κ → Prop} (hstep : ∀ w o, P w → P (w.perform o).2)
    (ops : List Operation) {w : Workbook σ κ} (h : P w) : P (w.after ops) := by
  induction ops generalizing w with
  | nil => exact h
  | cons o ops ih =>
    rw [after_cons]
    exact ih (hstep w o h)

end Workbook

end Gradebook
