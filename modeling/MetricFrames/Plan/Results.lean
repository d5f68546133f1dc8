import MetricFrames.Plan.Frames

/-!
# Results that grow

An answer is read into a result that may have frames already. Frames are added as they are complete,
so those before a fault stay. When all of the answer was read, the frames that it added get their
link, unit and labels; the earlier ones are left as they were.
-/

namespace MetricFrames

namespace QueryResult

/-- The result with further frames. -/
def add (r : QueryResult) (frames : List Frame) : QueryResult :=
  { r with frames := r.frames ++ frames }

/-- The result with its frames changed from a position on. -/
def changeFrom (r : QueryResult) (start : Nat) (change : Frame → Frame) : QueryResult :=
  { r with frames := r.frames.take start ++ (r.frames.drop start).map change }

@[simp] theorem changeFrom_add (r : QueryResult) (frames : List Frame) (change : Frame → Frame) :
    (r.add frames).changeFrom r.frames.length change = r.add (frames.map change) := by
  simp [add, changeFrom]

end QueryResult

namespace QueryPlan

/-- Gives the frames from a position on the link of a plan, the unit of its answer and the labels
that were read. An answer without series has no frames to give them to. -/
def decorateFrom (p : QueryPlan) (ranIn : Data) (answer : QueryAnswer)
    (labels : List (String × String)) (start : Nat) (result : QueryResult) :
    QueryResult × Option Failure :=
  if answer.isEmpty then (result, none)
  else
    match p.link ranIn with
    | .error f => (result, some (.fault f))
    | .ok url =>
      (result.changeFrom start fun f => withCustom (p.custom labels) (f.decorate url answer.unit),
        none)

/-- Reads the answer to a plan that ran in the project `ranIn` into a result. -/
def readInto (p : QueryPlan) (ranIn : Data) (executed : String) (answer : QueryAnswer)
    (result : QueryResult) : QueryResult × Option Failure :=
  let r := p.readParts executed answer
  let grown := result.add r.frames
  match r.fault with
  | some f => (grown, some (readingFailure p.refId f))
  | none => p.decorateFrom ranIn answer r.labels result.frames.length grown

/-- An answer adds the frames that it comes to by itself. -/
theorem readInto_eq (p : QueryPlan) (ranIn : Data) (executed : String) (answer : QueryAnswer)
    (result : QueryResult) :
    p.readInto ranIn executed answer result =
      (result.add (p.frames ranIn executed answer).1, (p.frames ranIn executed answer).2) := by
  rw [readInto, frames]
  cases (p.readParts executed answer).fault with
  | some f => rfl
  | none =>
    dsimp only
    rw [decorateFrom, decorate]
    split
    · rfl
    · cases p.link ranIn with
      | error f => rfl
      | ok url => exact Prod.ext (QueryResult.changeFrom_add ..) rfl

end QueryPlan
end MetricFrames
