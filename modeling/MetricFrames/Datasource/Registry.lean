import MetricFrames.Datasource.Instance

/-!
# The registry of instances

Instances are kept for later batches: one for each datasource, until its settings change. The
registry also remembers the instances that were replaced, which are closed. Instances are known by
the number under which they were made.
-/

namespace MetricFrames

/-- All instances ever made, in order, and the number of the current one of each datasource. -/
structure Registry where
  made : List Instance := []
  current : List (Int × Nat) := []

namespace Registry

/-- The number of the current instance of a datasource. -/
def current? (r : Registry) (id : Int) : Option Nat :=
  (r.current.find? fun c => c.1 == id).map (·.2)

/-- The instance with a number. -/
def instance? (r : Registry) (n : Nat) : Option Instance := r.made[n]?

/-- Changes the instance with a number. -/
def modify (r : Registry) (n : Nat) (change : Instance → Instance) : Registry :=
  { r with made := r.made.modify n change }

/-- Closes the instance with a number. -/
def close (r : Registry) (n : Nat) : Registry := r.modify n fun i => { i with closed := true }

/-- Adds an instance as the current one of its datasource. -/
def insert (r : Registry) (i : Instance) : Registry :=
  let n := r.made.length
  let others := r.current.filter fun c => c.1 != i.settings.id
  ⟨r.made ++ [i], others ++ [(i.settings.id, n)]⟩

/-- Whether two settings were changed last at the same time. -/
def sameUpdate : Option Timestamp → Option Timestamp → Bool
  | none, none => true
  | some s, some t => s.same t
  | _, _ => false

/-- Makes a new instance and adds it. -/
def make (r : Registry) (host : Host) (s : Settings) : Except Failure Nat × Registry :=
  match Instance.build host s with
  | .ok i => (.ok r.made.length, r.insert i)
  | .error failure => (.error failure, r)

/-- The number of the instance for some settings: the current one if the settings did not change,
else a new one. The one that it replaces is closed first. -/
def get (r : Registry) (host : Host) (s : Settings) : Except Failure Nat × Registry :=
  match r.current? s.id with
  | none => r.make host s
  | some n =>
    match r.instance? n with
    | none => r.make host s
    | some i =>
      if sameUpdate i.settings.updated s.updated then (.ok n, r)
      else (r.close n).make host s

/-- What work for an instance comes to: its value or a failure, the registry afterwards, and what
was exchanged. -/
structure Outcome (α : Type) where
  result : Except Failure α
  registry : Registry
  exchange : Exchange := {}

/-- Works with the instance that has a number; the instance keeps its token. -/
def work {α : Type} (r : Registry) (n : Nat) (task : Instance → Work α) : Outcome α :=
  match r.instance? n with
  | none => ⟨.error (.fault .indexOutOfRange), r, {}⟩
  | some i =>
    let (result, exchange) := (task i).run.run { tokens := i.tokens }
    ⟨result, r.modify n fun i => { i with tokens := exchange.tokens }, exchange⟩

/-- Works with the instance for some settings. -/
def workFor {α : Type} (r : Registry) (host : Host) (s : Settings) (task : Instance → Work α) :
    Outcome α :=
  match r.get host s with
  | (.error failure, r) => ⟨.error failure, r, {}⟩
  | (.ok n, r) => r.work n task

/-- Closes all current instances and forgets which they were. -/
def dispose (r : Registry) : Registry :=
  { r.current.foldl (fun r c => r.close c.2) r with current := [] }

end Registry
end MetricFrames
