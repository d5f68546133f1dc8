import MetricFrames.Datasource.Instance
import MetricFrames.Proofs.Work.Quiet

/-!
# Requests of a datasource

All that comes before a request is quiet: its address, its token and the project it is for. A
request says what its message says (`Answered.carries`). What a message comes to is settled by the
answer to its request (`Answered.runFrom_send`).
-/

namespace MetricFrames

open Work

/-! ### Credentials -/

namespace Credentials

variable {s : Surroundings}

/-- Reading the answer of the metadata server. -/
theorem quiet_answerOf (answer : Except Failure (Except MetadataProblem String))
    (problem : MetadataProblem → CredentialProblem) :
    Quiet (match answer with
      | .ok (.ok text) => Pure.pure text
      | .ok (.error p) => throw (.credentials (problem p))
      | .error failure => throw failure) := by
  split
  · exact .pure _
  · exact .throw _
  · exact .throw _

theorem quiet_ask (closed : Bool) (path : String) (query : List (String × String))
    (problem : MetadataProblem → CredentialProblem) : Quiet (ask s closed path query problem) := by
  refine .bind (.ofFault _) fun request => ?_
  have hsend := Quiet.bind (.sendToMetadata s request) fun answer =>
    quiet_answerOf (body request answer) problem
  split
  · exact .bind (.throw _) fun _ => hsend
  · exact hsend

theorem quiet_keep (g : Grant) : Quiet (keep s g) :=
  .bind (fun _ => rfl) fun _ => .bind (.ofFault _) fun _ => .bind (fun _ => rfl) fun _ => .pure _

theorem quiet_token (closed : Bool) : Quiet (token s closed) := by
  refine .bind .get fun e => ?_
  split
  · exact .pure _
  · refine .bind (.mapFailure _ (quiet_ask _ _ _ _)) fun text => ?_
    split
    · exact quiet_keep _
    · exact .throw _

theorem quiet_project (closed : Bool) : Quiet (project s closed) := by
  refine .bind (quiet_ask _ _ _ _) fun text => ?_
  dsimp only
  split
  · exact .bind (.throw _) fun _ => .pure _
  · exact .pure _

end Credentials

/-! ### Instances -/

namespace Instance

variable {s : Surroundings}

theorem quiet_defaultProject (i : Instance) : Quiet (i.defaultProject s) := by
  rw [defaultProject]
  split
  · exact .pure _
  · have hrest : Quiet (do
        let _ ← Credentials.token s i.closed
        return (.text (← Credentials.project s i.closed) : Data)) :=
      .bind (Credentials.quiet_token _) fun _ =>
        .bind (Credentials.quiet_project _) fun _ => .pure _
    split
    · exact .bind (.throw _) fun _ => hrest
    · exact hrest

theorem quiet_authorization (i : Instance) (address : Web.Address) :
    Quiet (i.authorization s address) := by
  rw [authorization]
  split
  · exact .pure _
  · exact .pure _
  · exact .bind (Credentials.quiet_token _) fun _ => .pure _

theorem quiet_prepare (i : Instance) (m : Message) : Quiet (i.prepare s m) := by
  refine .bind (.ofFault _) fun address => ?_
  have hrest : Quiet (do
      let authorization ← Work.mapFailure ofQuery (i.authorization s address)
      return {
        method := m.method
        address := String.ofList address.text
        authorization := authorization
        body := m.body : Web.Request }) :=
    .bind (.mapFailure _ (quiet_authorization i address)) fun _ => .pure _
  split
  · exact .bind (.throw _) fun _ => hrest
  · exact hrest

/-- A request says what its message says, below the base address of the instance. -/
structure Carries (i : Instance) (m : Message) (request : Web.Request) : Prop where
  method : request.method = m.method
  body : request.body = m.body
  address : ∃ address, i.addressOf m = .ok address ∧ request.address = String.ofList address.text

theorem carries_of_prepare_ok {i : Instance} {m : Message} {e e' : Exchange}
    {request : Web.Request} (h : (i.prepare s m).runFrom e = (.ok request, e')) :
    i.Carries m request := by
  obtain ⟨address, e₁, ha, h⟩ := exists_of_runFrom_bind_ok h
  have haddress : i.addressOf m = .ok address := eq_ok_of_runFrom_ofFault ha
  dsimp only at h
  split at h
  · cases h
  · obtain ⟨authorization, e₂, -, h⟩ := exists_of_runFrom_bind_ok h
    cases h
    exact ⟨rfl, rfl, address, haddress, rfl⟩

/-- Only an open instance makes a request. -/
theorem closed_of_prepare_ok {i : Instance} {m : Message} {e e' : Exchange}
    {request : Web.Request} (h : (i.prepare s m).runFrom e = (.ok request, e')) :
    i.closed = false := by
  obtain ⟨address, e₁, -, h⟩ := exists_of_runFrom_bind_ok h
  dsimp only at h
  split at h
  · cases h
  · next ho => simpa using ho

/-- A message goes out as a request and is answered; `e'` is the record afterwards. -/
def Answered (s : Surroundings) (i : Instance) (m : Message) (e : Exchange)
    (request : Web.Request) (answer : Web.Answer) (e' : Exchange) : Prop :=
  ∃ e₁, (i.prepare s m).runFrom e = (.ok request, e₁) ∧ s.service e₁.sent request = answer ∧
    e' = { e₁ with sent := e₁.sent ++ [request] }

section

variable {i : Instance} {m : Message} {e e' : Exchange} {request : Web.Request}
  {answer : Web.Answer}

theorem Answered.sent (h : Answered s i m e request answer e') :
    e'.sent = e.sent ++ [request] := by
  obtain ⟨e₁, hp, -, rfl⟩ := h
  have hq := quiet_prepare (s := s) i m e
  rw [hp] at hq
  rw [← hq]

theorem Answered.carries (h : Answered s i m e request answer e') : i.Carries m request := by
  obtain ⟨e₁, hp, -, -⟩ := h
  exact carries_of_prepare_ok hp

theorem runFrom_send_unprepared (hc : isCancelled s e = false) {x : Failure}
    (h : (i.prepare s m).runFrom e = (.error x, e')) : (i.send s m).runFrom e = (.error x, e') := by
  rw [send, runFrom_bind_ok (runFrom_checkCancelled_false hc _)]
  exact runFrom_bind_error h

theorem Answered.runFrom_send (hc : isCancelled s e = false)
    (h : Answered s i m e request answer e') :
    (i.send s m).runFrom e = (replyIn s m request answer).runFrom e' := by
  obtain ⟨e₁, hp, rfl, rfl⟩ := h
  rw [send, runFrom_bind_ok (runFrom_checkCancelled_false hc _), runFrom_bind_ok hp]
  exact runFrom_bind_ok (runFrom_sendToService s request e₁)

theorem quiet_replyIn (s : Surroundings) (m : Message) (request : Web.Request) :
    ∀ answer, Quiet (replyIn s m request answer)
  | .failed _ => .throw _
  | .broken _ => .throw _
  | .reply _ _ => .bind (.ofFault _) fun _ => .bind (.checkCancelled s _) fun _ => .pure _

theorem runFrom_replyIn_reply (hc : s.cancelAfter = none) {status : Nat} {body : String}
    (hk : Web.Address.checkKind request.address = .ok ()) :
    (replyIn s m request (.reply status body)).runFrom e = (.ok (status, body), e) := by
  rw [replyIn, hk]
  exact runFrom_bind_ok (runFrom_checkCancelled_none hc _ e)

end

end Instance
end MetricFrames
