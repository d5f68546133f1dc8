import MetricFrames.Proofs.Plan.Running
import MetricFrames.Proofs.Work.Cutting

/-!
# Runs of plans that are cut short

A message is dropped before its request goes out if the work was cancelled, and its reply is
dropped if the work was cancelled meanwhile. So a plan that is cancelled with its `k`-th request
runs as without a cancellation up to that request and sends no more (`cutAt_run`). It comes to
nothing then: a reply is dropped, and any other answer ends it (`haltsAt_run`).
-/

namespace MetricFrames

open Work

variable {k : Nat} {s : Surroundings} {i : Instance}

namespace Instance

variable {m : Message}

theorem cutAt_replyIn (request : Web.Request) :
    ∀ answer, CutAt k (replyIn s.uncancelled m request answer)
      (replyIn (s.cancelledAfter k) m request answer)
  | .failed _ => .of_quiet (.throw _)
  | .broken _ => .of_quiet (.throw _)
  | .reply _ _ =>
    .bind (.of_quiet (.ofFault _)) fun _ => .bind (.checkCancelled s k _) fun _ =>
      .of_quiet (.pure _)

theorem cutAt_send (s : Surroundings) (k : Nat) (i : Instance) (m : Message) :
    CutAt k (i.send s.uncancelled m) (i.send (s.cancelledAfter k) m) := by
  -- What a request says does not depend on the cancellation.
  have hsame : i.prepare (s.cancelledAfter k) m = i.prepare s.uncancelled m := rfl
  refine .of_guard _ ?_
  rw [hsame]
  exact .after_quiet (quiet_prepare i m) fun request =>
    .after_request request (cutAt_replyIn request)

/-- What ends the work if a request came too late: its answer, unless that is a reply, which is
dropped. -/
inductive Late (s : Surroundings) (before : List Web.Request) (request : Web.Request) :
    Failure → Prop
  | transport {message : String} (answered : s.service before request = .failed message) :
      Late s before request (.query (.transport message))
  | broken {f : Fault} (answered : s.service before request = .broken f) :
      Late s before request (.fault f)
  | kind {status : Nat} {body : String} {f : Fault}
      (answered : s.service before request = .reply status body)
      (unknown : Web.Address.checkKind request.address = .error f) :
      Late s before request (.fault f)
  | dropped {status : Nat} {body : String} {point : CancelPoint}
      (answered : s.service before request = .reply status body)
      (known : Web.Address.checkKind request.address = .ok ()) :
      Late s before request (.cancelled point)

theorem exists_late {before : List Web.Request} {request : Web.Request} {e : Exchange}
    (hk : k ≤ e.sent.length) :
    ∃ x, ((replyIn (s.cancelledAfter k) m request (s.service before request)).runFrom e).1 =
      .error x ∧ Late s before request x := by
  have hc : isCancelled (s.cancelledAfter k) e = true := isCancelled_eq_true_of_le hk
  cases hanswer : s.service before request with
  | failed message => exact ⟨_, rfl, .transport hanswer⟩
  | broken f => exact ⟨_, rfl, .broken hanswer⟩
  | reply status body =>
    rw [replyIn]
    cases hkind : Web.Address.checkKind request.address with
    | error f => exact ⟨_, rfl, .kind hanswer hkind⟩
    | ok u =>
      rw [ofFault_ok, pure_bind, runFrom_bind_error (runFrom_checkCancelled_true hc _)]
      exact ⟨_, rfl, .dropped hanswer hkind⟩

theorem haltsAt_send (s : Surroundings) (k : Nat) (i : Instance) (m : Message) :
    HaltsAt k (Late s) (i.send (s.cancelledAfter k) m) := by
  refine .bind (.of_quiet (.checkCancelled _ _)) fun _ => ?_
  refine .bind (.of_quiet (quiet_prepare i m)) fun request => ?_
  refine .of_request request (quiet_replyIn _ m request) fun e he => ?_
  have hlate : k ≤ (e.sent ++ [request]).length := by
    rw [List.length_append]
    exact Nat.le_of_eq he.symm
  exact exists_late hlate

end Instance

namespace QueryPlan

/-! ### Pages -/

variable {F : Format} {ask : String → Instance.Message}

theorem quiet_replyOf {α : Type} (decode : String → Except Rejection α) (reply : Nat × String) :
    Quiet (replyOf decode reply) := by
  rw [replyOf]
  split
  · split
    · exact .pure _
    · exact .throw _
  · exact .throw _

theorem cutAt_fetchPages (budget : Nat) (token : String) :
    CutAt k (fetchPages (F.fetchPage s.uncancelled i ask) F.nextToken budget token)
      (fetchPages (F.fetchPage (s.cancelledAfter k) i ask) F.nextToken budget token) := by
  induction budget generalizing token with
  | zero =>
    rw [fetchPages, fetchPages]
    exact .of_quiet (.pure _)
  | succ budget ih =>
    have hpage : CutAt k (F.fetchPage s.uncancelled i ask token)
        (F.fetchPage (s.cancelledAfter k) i ask token) :=
      .bind (Instance.cutAt_send s k i _) fun reply => .of_quiet (quiet_replyOf _ reply)
    refine .bind hpage fun page => ?_
    split
    · exact .of_quiet (.pure _)
    · exact .bind (ih _) fun pages => .of_quiet (.pure _)

theorem haltsAt_fetchPages (budget : Nat) (token : String) :
    HaltsAt k (Instance.Late s)
      (fetchPages (F.fetchPage (s.cancelledAfter k) i ask) F.nextToken budget token) := by
  induction budget generalizing token with
  | zero => exact .of_quiet (.pure _)
  | succ budget ih =>
    have hpage : HaltsAt k (Instance.Late s) (F.fetchPage (s.cancelledAfter k) i ask token) :=
      .bind (Instance.haltsAt_send s k i _) fun reply => .of_quiet (quiet_replyOf _ reply)
    refine .bind hpage fun page => ?_
    split
    · exact .of_quiet (.pure _)
    · exact .bind (ih _) fun pages => .of_quiet (.pure _)

/-! ### Runs -/

theorem cutAt_run (s : Surroundings) (k : Nat) (i : Instance) (p : QueryPlan) :
    CutAt k (p.run s.uncancelled i) (p.run (s.cancelledAfter k) i) := by
  have hproject : p.project (s.cancelledAfter k) i = p.project s.uncancelled i := rfl
  rw [run, run, hproject]
  refine .bind (.of_quiet (quiet_project p)) fun project => ?_
  refine .bind (.of_quiet (.ofFault _)) fun executed => ?_
  rw [fetch_eq, fetch_eq]
  refine .bind ?_ fun answer => .of_quiet (.pure _)
  exact .bind (cutAt_fetchPages _ _) fun pages => .of_quiet (.pure _)

theorem haltsAt_run (s : Surroundings) (k : Nat) (i : Instance) (p : QueryPlan) :
    HaltsAt k (Instance.Late s) (p.run (s.cancelledAfter k) i) := by
  refine .bind (.of_quiet (quiet_project p)) fun project => ?_
  refine .bind (.of_quiet (.ofFault _)) fun executed => ?_
  rw [fetch_eq]
  refine .bind ?_ fun answer => .of_quiet (.pure _)
  exact .bind (haltsAt_fetchPages _ _) fun pages => .of_quiet (.pure _)

end QueryPlan
end MetricFrames
