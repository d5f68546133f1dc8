import MetricFrames.Proofs.Datasource.Requests
import MetricFrames.Proofs.Work.Standalone

/-!
# Sending with tokens of the host

An instance whose tokens come from the host asks nobody else before it sends a message, so what a
message comes to depends on the answer of the service alone. If that answer does not depend on
earlier requests, sending stands alone (`standalone_send`).
-/

namespace MetricFrames.Instance

open Work

/-- Whether requests take their tokens from the host, if they have any: the machine's own
credentials are never asked. -/
structure UsesHostToken (i : Instance) : Prop where
  authentication : i.authentication = .token
  bearer : i.bearer ≠ some .ambient

/-- Instances of datasources that are to use tokens of the host do so. -/
theorem usesHostToken_of_build {host : Host} {settings : Settings} {i : Instance}
    (hb : build host settings = .ok i) (hs : settings.authentication = .ok .token) :
    i.UsesHostToken := by
  simp only [build, hs] at hb
  split at hb
  · cases hb
  · split at hb
    · cases hb
    · cases hb
      refine ⟨rfl, ?_⟩
      cases ht : host.token <;> simp [bearerOf, ht]

/-- An instance that puts no token into its requests. -/
def bare : Instance where
  settings := {}
  authentication := .token
  bearer := none
  base := ⟨"https".toList, { host := "monitoring".toList }, ['/'], none, none⟩
  timeout := .zero false
  hasMetadata := false

theorem usesHostToken_bare : bare.UsesHostToken := ⟨rfl, by simp [bare]⟩

/-- What an instance with tokens of the host puts into the header of a request. -/
def hostAuthorization (i : Instance) (address : Web.Address) : Option String :=
  match i.bearer with
  | some (.fixed token) => some ("Bearer " ++ token)
  | _ => address.authority.authorization?

variable {i : Instance}

theorem authorization_eq (hi : i.UsesHostToken) (s : Surroundings) (address : Web.Address) :
    i.authorization s address = pure (i.hostAuthorization address) := by
  rw [authorization, hostAuthorization]
  cases hb : i.bearer with
  | none => rfl
  | some bearer =>
    cases bearer with
    | fixed token => rfl
    | ambient => exact absurd hb hi.bearer

theorem defaultProject_eq (hi : i.UsesHostToken) (s : Surroundings) :
    i.defaultProject s = pure i.settings.defaultProject := by
  rw [defaultProject, hi.authentication]

/-- The request of a message that has an address. -/
theorem runFrom_prepare (hi : i.UsesHostToken) (ho : i.closed = false) (s : Surroundings)
    {m : Message} {address : Web.Address} (ha : i.addressOf m = .ok address) (e : Exchange) :
    (i.prepare s m).runFrom e =
      (.ok {
        method := m.method
        address := String.ofList address.text
        authorization := i.hostAuthorization address
        body := m.body }, e) := by
  rw [prepare, ha, ofFault_ok, pure_bind, ho, authorization_eq hi]
  rfl

/-- A message that has an address is sent and answered. -/
theorem exists_answered (hi : i.UsesHostToken) (ho : i.closed = false) (s : Surroundings)
    {m : Message} {address : Web.Address} (ha : i.addressOf m = .ok address) (e : Exchange) :
    ∃ request e', request.address = String.ofList address.text ∧
      Answered s i m e request (s.service e.sent request) e' :=
  ⟨_, _, rfl, e, runFrom_prepare hi ho s ha e, rfl, rfl⟩

theorem standalone_prepare (hi : i.UsesHostToken) (s : Surroundings) (m : Message) :
    Standalone (i.prepare s m) := by
  refine .bind (.ofFault _) fun address => ?_
  rw [authorization_eq hi]
  split
  · exact .bind (.throw _) fun _ => .bind (.mapFailure _ (.pure _)) fun _ => .pure _
  · exact .bind (.mapFailure _ (.pure _)) fun _ => .pure _

theorem standalone_replyIn {s : Surroundings} (hs : s.cancelAfter = none) (m : Message)
    (request : Web.Request) (answer : Web.Answer) : Standalone (replyIn s m request answer) := by
  cases answer with
  | reply status body =>
    exact .bind (.ofFault _) fun _ => .bind (.checkCancelled hs _) fun _ => .pure _
  | failed message => exact .throw _
  | broken f => exact .throw _

theorem standalone_send (hi : i.UsesHostToken) {s : Surroundings} (hc : s.cancelAfter = none)
    {api : Web.Request → Web.Answer} (hs : s.service = fun _ => api) (m : Message) :
    Standalone (i.send s m) := by
  refine .bind (.checkCancelled hc _) fun _ => ?_
  refine .bind (standalone_prepare hi s m) fun request => ?_
  exact .bind (.sendToService hs request) fun answer => standalone_replyIn hc m request answer

end MetricFrames.Instance
