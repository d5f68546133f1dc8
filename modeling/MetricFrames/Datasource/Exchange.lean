import MetricFrames.Failure

/-!
# Exchanges with servers

What a piece of work meets outside is data: how the two servers answer, what the clock shows, and
when the work is cancelled. `Exchange` records the requests of one piece of work, together with the
token of the metadata server that is kept for later; `Work` is a computation over it that may fail.
Failing keeps the record.
-/

namespace MetricFrames

/-- The surroundings of a piece of work. The answer of a server may depend on all requests that it
got before. The clock shows `now` when the work starts, and `answered` when an answer of the
metadata server is there; unless it is said otherwise, no time passes. The work counts as cancelled
once `cancelAfter` requests went to the service. -/
structure Surroundings where
  service : List Web.Request → Web.Request → Web.Answer
  metadata : List Web.Request → Web.Request → Web.Answer
  metadataAddress : String
  now : Binary64
  answered : Binary64 := now
  cancelAfter : Option Nat := none

/-- A token that is used again until it expires. -/
structure TokenCache where
  token : Option Data := none
  expires : Binary64 := .zero false

/-- The token that is still valid, if there is one. -/
def TokenCache.valid? (c : TokenCache) (now : Binary64) : Option Data :=
  if now.lt c.expires then c.token else none

/-- The requests to the service and to the metadata server, and the token kept. -/
structure Exchange where
  sent : List Web.Request := []
  asked : List Web.Request := []
  tokens : TokenCache := {}

/-- Work that exchanges requests and may fail. -/
abbrev Work := ExceptT Failure (StateM Exchange)

namespace Work

variable {α : Type}

/-- A value, or a fault that ends the work. -/
def ofFault : Except Fault α → Work α
  | .ok a => pure a
  | .error f => throw (.fault f)

/-- Work of which a failure is turned into another one. -/
def mapFailure (change : Failure → Failure) (work : Work α) : Work α :=
  tryCatch work fun failure => throw (change failure)

/-- Whether the work was cancelled. -/
def isCancelled (s : Surroundings) (e : Exchange) : Bool :=
  match s.cancelAfter with
  | some n => n ≤ e.sent.length
  | none => false

/-- Stops if the work was cancelled. -/
def checkCancelled (s : Surroundings) (point : CancelPoint) : Work Unit := do
  if isCancelled s (← get) then throw (.cancelled point)

/-- Sends a request to the service. -/
def sendToService (s : Surroundings) (request : Web.Request) : Work Web.Answer := do
  let e ← get
  set { e with sent := e.sent ++ [request] }
  return s.service e.sent request

/-- Sends a request to the metadata server. -/
def sendToMetadata (s : Surroundings) (request : Web.Request) : Work Web.Answer := do
  let e ← get
  set { e with asked := e.asked ++ [request] }
  return s.metadata e.asked request

end Work
end MetricFrames
