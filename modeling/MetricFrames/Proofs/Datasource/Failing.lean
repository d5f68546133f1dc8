import MetricFrames.Datasource.Instance
import MetricFrames.Proofs.Work.Failing

/-!
# How requests fail

The credentials of a machine fail with problems of their own or with faults. By the time a message
is sent they count as problems of the query, so sending fails as a plan that runs does
(`failsOnly_send`).
-/

namespace MetricFrames

open Work

/-! ### Credentials -/

namespace Credentials

variable {s : Surroundings}

theorem ofCredentials_body {request : Web.Request} {answer : Web.Answer} {x : Failure}
    (h : body request answer = .error x) : x.ofCredentials = true := by
  cases answer with
  | failed message => cases h
  | broken f =>
    cases h
    rfl
  | reply status text =>
    rw [body] at h
    split at h
    · cases h
      rfl
    · cases h

theorem failsOnly_ask (closed : Bool) (path : String) (query : List (String × String))
    (problem : MetadataProblem → CredentialProblem) :
    FailsOnly Failure.ofCredentials (ask s closed path query problem) := by
  refine .bind (.ofFault (fun _ => rfl) _) fun request => ?_
  refine .guard rfl (.bind (fun e x h => by cases h) fun answer => ?_)
  split
  · exact .pure _
  · exact .throw rfl
  · next hx => exact .throw (ofCredentials_body hx)

theorem ofCredentials_grantOf {d : Data} {x : Failure} (h : grantOf d = .error x) :
    x.ofCredentials = true := by
  rw [grantOf] at h
  split at h
  · cases h
    rfl
  · dsimp only at h
    split at h
    · cases h
      rfl
    · split at h
      · cases h
      · cases h
        rfl
      · cases h
        rfl

theorem ofCredentials_readGrant {text : String} {x : Failure} (h : readGrant text = .error x) :
    x.ofCredentials = true := by
  rw [readGrant] at h
  dsimp only at h
  split at h
  · cases h
    rfl
  · split at h
    · exact ofCredentials_grantOf h
    · cases h
      rfl

theorem failsOnly_keep (g : Grant) : FailsOnly Failure.ofCredentials (keep s g) := by
  refine .bind (fun e x h => by cases h) fun _ => ?_
  refine .bind (.ofFault (fun _ => rfl) _) fun expires => ?_
  exact .bind (fun e x h => by cases h) fun _ => .pure _

theorem ofCredentials_ofToken {x : Failure} (h : x.ofCredentials = true) :
    (ofToken x).ofCredentials = true := by
  obtain ⟨problem, rfl⟩ | ⟨f, rfl⟩ := Failure.cases_of_ofCredentials h
  · rfl
  · rw [ofToken]
    split
    · rfl
    · rfl

theorem failsOnly_token (closed : Bool) : FailsOnly Failure.ofCredentials (token s closed) := by
  refine .bind .get fun e => ?_
  split
  · exact .pure _
  · refine .bind (.mapFailure (fun _ => ofCredentials_ofToken) (failsOnly_ask _ _ _ _)) fun text => ?_
    split
    · exact failsOnly_keep _
    · next hx => exact .throw (ofCredentials_readGrant hx)

theorem failsOnly_project (closed : Bool) : FailsOnly Failure.ofCredentials (project s closed) := by
  refine .bind (failsOnly_ask _ _ _ _) fun text => ?_
  exact .guard rfl (.pure _)

end Credentials

/-! ### Instances -/

namespace Instance

variable {s : Surroundings}

theorem failsOnly_defaultProject (i : Instance) :
    FailsOnly Failure.ofCredentials (i.defaultProject s) := by
  rw [defaultProject]
  split
  · exact .pure _
  · exact .guard rfl (.bind (Credentials.failsOnly_token _) fun _ =>
      .bind (Credentials.failsOnly_project _) fun _ => .pure _)

theorem failsOnly_authorization (i : Instance) (address : Web.Address) :
    FailsOnly Failure.ofCredentials (i.authorization s address) := by
  rw [authorization]
  split
  · exact .pure _
  · exact .pure _
  · exact .bind (Credentials.failsOnly_token _) fun _ => .pure _

theorem ofRun_ofQuery {x : Failure} (h : x.ofCredentials = true) : (ofQuery x).ofRun = true := by
  obtain ⟨problem, rfl⟩ | ⟨f, rfl⟩ := Failure.cases_of_ofCredentials h
  · rfl
  · rfl

theorem failsOnly_prepare (i : Instance) (m : Message) :
    FailsOnly Failure.ofRun (i.prepare s m) := by
  refine .bind (.ofFault (fun _ => rfl) _) fun address => ?_
  have hauthorization : FailsOnly Failure.ofRun
      (Work.mapFailure ofQuery (i.authorization s address)) :=
    .mapFailure (fun _ => ofRun_ofQuery) (failsOnly_authorization i address)
  exact .guard rfl (.bind hauthorization fun _ => .pure _)

theorem failsOnly_checkCancelled (s : Surroundings) (point : CancelPoint) :
    FailsOnly Failure.ofRun (Work.checkCancelled s point) := by
  intro e x h
  rw [runFrom_checkCancelled] at h
  split at h
  · cases h
    rfl
  · cases h

theorem failsOnly_replyIn (s : Surroundings) (m : Message) (request : Web.Request) :
    ∀ answer, FailsOnly Failure.ofRun (replyIn s m request answer)
  | .failed _ => .throw rfl
  | .broken _ => .throw rfl
  | .reply _ _ =>
    .bind (.ofFault (fun _ => rfl) _) fun _ => .bind (failsOnly_checkCancelled s _) fun _ => .pure _

theorem failsOnly_send (i : Instance) (s : Surroundings) (m : Message) :
    FailsOnly Failure.ofRun (i.send s m) := by
  refine .bind (failsOnly_checkCancelled s _) fun _ => ?_
  refine .bind (failsOnly_prepare i m) fun request => ?_
  exact .bind (fun e x h => by cases h) fun answer => failsOnly_replyIn s m request answer

end Instance
end MetricFrames
