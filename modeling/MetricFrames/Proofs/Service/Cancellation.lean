import MetricFrames.Proofs.Data.Stepwise
import MetricFrames.Proofs.Datasource.Registry
import MetricFrames.Proofs.Plan.Cutting
import MetricFrames.Proofs.Service.Answering

/-!
# Batches that are cancelled

A batch that is cancelled before it starts, or with its `k`-th request to the service, sends the
first `k` requests of the same batch without a cancellation and no more
(`queryData_sent_cancelledAfter`). As a rule it has no results then. The exception is a last query
whose request fails on the way: nothing looks for a cancellation after that (`queryData_cancelled`).
-/

namespace MetricFrames.Service

open Work

variable {host : Host} {k : Nat} {s : Surroundings} {i : Instance} {r r' : Registry} {b : Batch}
  {n : Nat} {e e' : Exchange} {results results' : Results}

/-! ### Requests of a cancelled batch -/

theorem quiet_resultOf (read : List Frame × Option Failure) : Quiet (resultOf read) := by
  obtain ⟨frames, _ | x⟩ := read
  · exact .pure _
  · cases x with
    | query problem => exact .pure _
    | batch problem => exact .throw _
    | cancelled point => exact .throw _
    | credentials problem => exact .throw _
    | fault f => exact .throw _

theorem quiet_ofBuilt {α : Type} : ∀ built : Except Failure α, Quiet (ofBuilt built)
  | .ok a => .pure a
  | .error x => .throw x

theorem cutAt_attempt {α : Type} {whole cut : Work α} (h : CutAt k whole cut) :
    CutAt k (attempt whole) (attempt cut) := by
  refine .tryCatch (.map _ h) fun x => .of_quiet ?_
  cases x with
  | query problem => exact .pure _
  | batch problem => exact .throw _
  | cancelled point => exact .throw _
  | credentials problem => exact .throw _
  | fault f => exact .throw _

theorem cutAt_answer (s : Surroundings) (k : Nat) (i : Instance) (p : QueryPlan)
    (read : QueryPlan.Finished → List Frame × Option Failure) :
    CutAt k (answer s.uncancelled i p read) (answer (s.cancelledAfter k) i p read) := by
  refine .bind (cutAt_attempt (QueryPlan.cutAt_run s k i p)) fun outcome => .of_quiet ?_
  cases outcome with
  | error problem => exact .pure _
  | ok finished => exact quiet_resultOf _

theorem cutAt_answerPlans (s : Surroundings) (k : Nat) (i : Instance) (results : Results)
    (plans : List QueryPlan) :
    CutAt k (answerPlans s.uncancelled i results plans)
      (answerPlans (s.cancelledAfter k) i results plans) := by
  induction plans generalizing results with
  | nil => exact .of_quiet (.pure _)
  | cons p plans ih =>
    have hplan : CutAt k (answerPlan s.uncancelled i p) (answerPlan (s.cancelledAfter k) i p) :=
      .bind (.checkCancelled s k _) fun _ => cutAt_answer s k i p _
    exact .bind hplan fun result => ih _

theorem quiet_answerDefaultProject (s : Surroundings) (i : Instance) (refId : String) :
    Quiet (answerDefaultProject s i refId) :=
  .bind (.mapFailure _ (i.quiet_defaultProject)) fun _ => .pure _

theorem cutAt_answerRemarks (s : Surroundings) (k : Nat) (i : Instance)
    (queries : List BatchQuery) :
    CutAt k (answerRemarks s.uncancelled i queries)
      (answerRemarks (s.cancelledAfter k) i queries) := by
  refine .bind (.of_quiet (quiet_ofBuilt _)) fun plans => ?_
  cases plans with
  | nil => exact .of_quiet (.pure _)
  | cons p plans => exact .bind (cutAt_answer s k i p _) fun result => .of_quiet (.pure _)

theorem cutAt_answerFor (s : Surroundings) (k : Nat) (i : Instance) (purpose : String)
    (first : BatchQuery) (queries : List BatchQuery) :
    CutAt k (answerFor s.uncancelled i purpose first queries)
      (answerFor (s.cancelledAfter k) i purpose first queries) := by
  rw [answerFor, answerFor]
  split
  · exact cutAt_answerRemarks s k i queries
  · split
    · -- Finding the default project sends nothing to the service.
      have hsame : answerDefaultProject (s.cancelledAfter k) i first.refId =
          answerDefaultProject s.uncancelled i first.refId := rfl
      rw [hsame]
      exact .of_quiet (quiet_answerDefaultProject _ i _)
    · exact .bind (.of_quiet (quiet_ofBuilt _)) fun plans => cutAt_answerPlans s k i [] plans

theorem sent_workFor {α : Type} {whole cut : Instance → Work α}
    (h : ∀ i, CutAt k (whole i) (cut i)) (host : Host) (r : Registry) (settings : Settings) :
    (r.workFor host settings cut).exchange.sent =
      (r.workFor host settings whole).exchange.sent.take k := by
  rw [Registry.workFor, Registry.workFor]
  rcases r.get host settings with ⟨x | n, r₁⟩
  · exact List.take_nil.symm
  · dsimp only
    rw [Registry.work, Registry.work]
    cases r₁.instance? n with
    | none => exact List.take_nil.symm
    | some i => exact (h i).sent_of_le (Nat.zero_le k)

/-- A batch that is cancelled before it starts or with its `k`-th request sends its first `k`
requests, or all of them if there are fewer. -/
theorem queryData_sent_cancelledAfter (host : Host) (s : Surroundings) (r : Registry) (b : Batch)
    (k : Nat) :
    let whole := (queryData host s.uncancelled r b).exchange.sent
    let cut := (queryData host (s.cancelledAfter k) r b).exchange.sent
    cut = whole.take k ∧ cut.length = min k whole.length := by
  intro whole cut
  have hcut : cut = whole.take k := by
    show (queryData host (s.cancelledAfter k) r b).exchange.sent =
      (queryData host s.uncancelled r b).exchange.sent.take k
    rw [queryData, queryData]
    cases b.queries with
    | nil => exact List.take_nil.symm
    | cons first rest =>
      dsimp only
      cases Query.purposeOf first.payload with
      | error rejection => exact List.take_nil.symm
      | ok purpose =>
        exact sent_workFor (fun i => cutAt_answerFor s k i purpose first _) host r b.datasource
  exact ⟨hcut, by rw [hcut, List.length_take]⟩

/-! ### Results of a cancelled batch -/

/-- What stands for a plan that failed: the result that reports a problem of the query, or else the
failure. -/
def contained : Failure → Except Failure QueryResult
  | .query problem => .ok { error := some problem.message }
  | failure => .error failure

theorem exists_late_of_answerPlan {p : QueryPlan} (hlt : e.sent.length < k)
    (hle : k ≤ ((answerPlan (s.cancelledAfter k) i p).runFrom e).2.sent.length) :
    ∃ before request x,
      ((answerPlan (s.cancelledAfter k) i p).runFrom e).1 = contained x ∧
      ((answerPlan (s.cancelledAfter k) i p).runFrom e).2.sent = before ++ [request] ∧
      before.length + 1 = k ∧ Instance.Late s before request x := by
  have hrun := QueryPlan.haltsAt_run s k i p e hlt
  rw [runFrom_answerPlan (isCancelled_eq_false_of_lt hlt)] at hle ⊢
  rcases h : (p.run (s.cancelledAfter k) i).runFrom e with ⟨x | finished, e₁⟩
  · rw [h] at hrun hle
    have hreached : k ≤ e₁.sent.length := by cases x <;> exact hle
    obtain ⟨before, request, y, hy, hsent, hlen, hlate⟩ := hrun hreached
    cases hy
    refine ⟨before, request, x, ?_, ?_, hlen, hlate⟩
    · cases x <;> rfl
    · cases x <;> exact hsent
  · rw [h] at hrun hle
    dsimp only at hle
    rw [quiet_resultOf] at hle
    obtain ⟨before, request, y, hy, -⟩ := hrun hle
    cases hy

theorem exists_of_contained_eq_ok {x : Failure} {result : QueryResult}
    (h : contained x = .ok result) :
    ∃ problem : QueryProblem, x = .query problem ∧ result = { error := some problem.message } := by
  cases x with
  | query problem =>
    cases h
    exact ⟨problem, rfl, rfl⟩
  | batch problem => cases h
  | cancelled point => cases h
  | credentials problem => cases h
  | fault f => cases h

/-- What ends a batch after one of its plans failed and others follow that were cancelled. -/
def ends : Failure → Failure → Prop
  | .query _ => fun y => ∃ point, y = .cancelled point
  | failure => fun y => y = failure

theorem ends_of_contained_eq_error {x y : Failure} (h : contained x = .error y) : ends x y := by
  cases x with
  | query problem => cases h
  | batch problem => exact (Except.error.inj h).symm
  | cancelled point => exact (Except.error.inj h).symm
  | credentials problem => exact (Except.error.inj h).symm
  | fault f => exact (Except.error.inj h).symm

/-- The first plan finds out that the batch was cancelled before. -/
theorem runFrom_answerPlans_cancelled {plans : List QueryPlan} (h : isCancelled s e = true)
    (hne : plans ≠ []) :
    ∃ point, (answerPlans s i results plans).runFrom e = (.error (.cancelled point), e) := by
  obtain ⟨p, rest, rfl⟩ := List.exists_cons_of_ne_nil hne
  refine ⟨.query p.refId, runFrom_bind_error ?_⟩
  rw [answerPlan]
  exact runFrom_bind_error (runFrom_checkCancelled_true h _)

/-- If some plans come as far as the `k`-th request, a batch in which others follow fails. -/
theorem exists_late_of_answerPlans_append {before : List QueryPlan} {p : QueryPlan}
    {after : List QueryPlan} (hlt : e.sent.length < k)
    (hle : k ≤ ((answerPlans (s.cancelledAfter k) i results before).runFrom e).2.sent.length) :
    let out := (answerPlans (s.cancelledAfter k) i results (before ++ p :: after)).runFrom e
    ∃ sent request x y, out.1 = .error y ∧ out.2.sent = sent ++ [request] ∧
      sent.length + 1 = k ∧ Instance.Late s sent request x ∧ ends x y := by
  induction before generalizing results e with
  | nil => exact absurd hle (Nat.not_le.mpr hlt)
  | cons q before ih =>
    have hlast := exists_late_of_answerPlan (s := s) (i := i) (p := q) hlt
    rw [List.cons_append]
    rw [answerPlans] at hle ⊢
    rcases hq : (answerPlan (s.cancelledAfter k) i q).runFrom e with ⟨y | result, e₁⟩
    · rw [hq] at hlast
      rw [runFrom_bind_error hq] at hle ⊢
      obtain ⟨sent, request, x, hx, hsent, hlen, hlate⟩ := hlast hle
      exact ⟨sent, request, x, y, rfl, hsent, hlen, hlate, ends_of_contained_eq_error hx.symm⟩
    · rw [hq] at hlast
      rw [runFrom_bind_ok hq] at hle ⊢
      by_cases hmid : e₁.sent.length < k
      · exact ih hmid hle
      · -- The plan has a result, and the next one finds the batch cancelled.
        have hreached : k ≤ e₁.sent.length := Nat.not_lt.mp hmid
        obtain ⟨sent, request, x, hx, hsent, hlen, hlate⟩ := hlast hreached
        obtain ⟨problem, rfl, -⟩ := exists_of_contained_eq_ok hx.symm
        have hne : before ++ p :: after ≠ [] := by simp
        obtain ⟨point, hnext⟩ := runFrom_answerPlans_cancelled (i := i)
          (isCancelled_eq_true_of_le hreached) hne
        rw [hnext]
        exact ⟨sent, request, _, _, rfl, hsent, hlen, hlate, point, rfl⟩

theorem answerPlans_singleton (s : Surroundings) (i : Instance) (results : Results)
    (p : QueryPlan) :
    answerPlans s i results [p] = results.put p.refId <$> answerPlan s i p :=
  (map_eq_pure_bind ..).symm

/-- If only the last plan comes as far as the `k`-th request, its failure is contained. -/
theorem exists_late_of_answerPlans_last {before : List QueryPlan} {p : QueryPlan}
    (hbefore : ((answerPlans (s.cancelledAfter k) i [] before).runFrom e).2.sent.length < k)
    (hle : k ≤
      ((answerPlans (s.cancelledAfter k) i [] (before ++ [p])).runFrom e).2.sent.length) :
    let out := (answerPlans (s.cancelledAfter k) i [] (before ++ [p])).runFrom e
    ∃ sent request x, ∃ results : Results, out.1 = (contained x).map (results.put p.refId) ∧
      out.2.sent = sent ++ [request] ∧ sent.length + 1 = k ∧ Instance.Late s sent request x := by
  rw [answerPlans_append] at hle ⊢
  rcases h : (answerPlans (s.cancelledAfter k) i [] before).runFrom e with ⟨y | results, e₁⟩
  · rw [h] at hbefore
    rw [runFrom_bind_error h] at hle
    exact absurd hle (Nat.not_le.mpr hbefore)
  · rw [h] at hbefore
    rw [runFrom_bind_ok h, answerPlans_singleton, runFrom_map] at hle ⊢
    obtain ⟨sent, request, x, hx, hsent, hlen, hlate⟩ := exists_late_of_answerPlan hbefore hle
    exact ⟨sent, request, x, results, by rw [hx], hsent, hlen, hlate⟩

theorem exists_late_of_answerPlans {before : List QueryPlan} {p : QueryPlan}
    (hlt : e.sent.length < k)
    (hle : k ≤
      ((answerPlans (s.cancelledAfter k) i [] (before ++ [p])).runFrom e).2.sent.length) :
    let out := (answerPlans (s.cancelledAfter k) i [] (before ++ [p])).runFrom e
    let reached := ((answerPlans (s.cancelledAfter k) i [] before).runFrom e).2.sent.length
    ∃ sent request x, out.2.sent = sent ++ [request] ∧ sent.length + 1 = k ∧
      Instance.Late s sent request x ∧
      (k ≤ reached ∧ (∃ y, out.1 = .error y ∧ ends x y) ∨
        reached < k ∧ ∃ results : Results, out.1 = (contained x).map (results.put p.refId)) := by
  intro out reached
  by_cases hreached : k ≤ reached
  · obtain ⟨sent, request, x, y, hy, hsent, hlen, hlate, hends⟩ :=
      exists_late_of_answerPlans_append hlt hreached
    exact ⟨sent, request, x, hsent, hlen, hlate, .inl ⟨hreached, y, hy, hends⟩⟩
  · have hbefore := Nat.not_le.mp hreached
    obtain ⟨sent, request, x, results, hr, hsent, hlen, hlate⟩ :=
      exists_late_of_answerPlans_last hbefore hle
    exact ⟨sent, request, x, hsent, hlen, hlate, .inr ⟨hbefore, results, hr⟩⟩

theorem eq_error_of_not_query {x : Failure} {id : String} {r : Except Failure Results}
    {followed last : Prop} (hx : ∀ problem, x ≠ .query problem)
    (h : followed ∧ (∃ y, r = .error y ∧ ends x y) ∨
      last ∧ ∃ results : Results, r = (contained x).map (results.put id)) : r = .error x := by
  rcases h with ⟨-, y, rfl, hends⟩ | ⟨-, results, rfl⟩
  · cases x with
    | query problem => exact absurd rfl (hx problem)
    | batch problem | cancelled point | credentials problem | fault f => exact congrArg _ hends
  · cases x with
    | query problem => exact absurd rfl (hx problem)
    | batch problem | cancelled point | credentials problem | fault f => rfl

/-- What the answer to a late request makes of a batch: whether its plan is followed by others only
matters if the request failed on the way. -/
theorem result_of_late {before : List Web.Request} {request : Web.Request} {x : Failure}
    {id : String} {r : Except Failure Results} {reached : Nat}
    (hlate : Instance.Late s before request x)
    (hr : k ≤ reached ∧ (∃ y, r = .error y ∧ ends x y) ∨
      reached < k ∧ ∃ results : Results, r = (contained x).map (results.put id)) :
    match s.service before request with
    | .reply _ _ =>
      match Web.Address.checkKind request.address with
      | .ok () => ∃ point, r = .error (.cancelled point)
      | .error f => r = .error (.fault f)
    | .broken f => r = .error (.fault f)
    | .failed message =>
      (k ≤ reached → ∃ point, r = .error (.cancelled point)) ∧
      (reached < k → ∃ results, r = .ok results ∧
        results.get? id = some { error := some (QueryProblem.transport message).message }) := by
  cases hlate with
  | transport answered =>
    rw [answered]
    rcases hr with ⟨hle, y, hy, point, rfl⟩ | ⟨hlt, results, hr⟩
    · exact ⟨fun _ => ⟨point, hy⟩, fun h => absurd hle (Nat.not_le.mpr h)⟩
    · refine ⟨fun h => absurd hlt (Nat.not_lt.mpr h), fun _ => ⟨_, hr, ?_⟩⟩
      rw [Members.get?_put, if_pos rfl]
  | broken answered =>
    rw [answered]
    exact eq_error_of_not_query nofun hr
  | kind answered unknown =>
    rw [answered]
    dsimp only
    rw [unknown]
    exact eq_error_of_not_query nofun hr
  | dropped answered known =>
    rw [answered]
    dsimp only
    rw [known]
    exact ⟨_, eq_error_of_not_query nofun hr⟩

/-! ### Whole batches -/

/-- Whether a batch with these queries is of none of the reserved kinds. -/
def IsRegular (queries : List BatchQuery) : Prop :=
  ∃ first rest purpose, queries = first :: rest ∧ Query.purposeOf first.payload = .ok purpose ∧
    purpose ≠ Query.remarksPurpose ∧ purpose ≠ Query.defaultProjectPurpose

theorem queryData_of_isRegular {plans : List QueryPlan} (hr : IsRegular b.queries)
    (hplans : QueryPlan.ofBatch b.queries = .ok plans) (host : Host) (s : Surroundings)
    (r : Registry) :
    queryData host s r b = r.workFor host b.datasource fun i => answerPlans s i [] plans := by
  obtain ⟨first, rest, purpose, hq, hp, hremarks, hdefault⟩ := hr
  have htask : ∀ i, answerFor s i purpose first b.queries = answerPlans s i [] plans := by
    intro i
    rw [answerFor, if_neg hremarks, if_neg hdefault, answerRegular_eq hplans]
  simp only [queryData, hq, hp]
  rw [← hq]
  exact congrArg _ (funext htask)

theorem workFor_eq {α : Type} {settings : Settings} (hget : r.get host settings = (.ok n, r'))
    (hi : r'.instance? n = some i) (task : Instance → Work α) :
    (r.workFor host settings task).result = ((task i).runFrom { tokens := i.tokens }).1 ∧
      (r.workFor host settings task).exchange = ((task i).runFrom { tokens := i.tokens }).2 := by
  rw [Registry.workFor, hget]
  dsimp only
  rw [Registry.work, hi]
  exact ⟨rfl, rfl⟩

/-- The queries before the last one of a batch, as a batch of their own. -/
theorem exists_plans_of_earlier {earlier : List BatchQuery} {last : BatchQuery}
    {plans : List QueryPlan} (hr : IsRegular b.queries) (hq : b.queries = earlier ++ [last])
    (hplans : QueryPlan.ofBatch b.queries = .ok plans)
    (hget : r.get host b.datasource = (.ok n, r')) (hi : r'.instance? n = some i) :
    ∃ before p, plans = before ++ [p] ∧ p.refId = last.refId ∧
      (queryData host s r { b with queries := earlier }).exchange.sent =
        ((answerPlans s i [] before).runFrom { tokens := i.tokens }).2.sent := by
  obtain ⟨first, rest, hfirst, hall⟩ := QueryPlan.exists_of_ofBatch_eq_ok hplans
  rw [hq] at hall
  obtain ⟨before, p, after, rfl, hbefore, hp, hafter⟩ := exists_of_forall₂_append_cons hall
  cases hafter
  refine ⟨before, p, rfl, QueryPlan.refId_ofBatchQuery hp, ?_⟩
  cases earlier with
  | nil =>
    cases hbefore
    rfl
  | cons q earlier =>
    obtain ⟨first', rest', purpose, hfirst', hpurpose⟩ := hr
    rw [hq] at hfirst hfirst'
    obtain rfl := (List.cons.inj hfirst).1
    obtain rfl := (List.cons.inj hfirst').1
    have hregular : IsRegular (q :: earlier) := ⟨q, earlier, purpose, rfl, hpurpose⟩
    have hbuilt : QueryPlan.ofBatch (q :: earlier) = .ok before :=
      (mapM_eq_ok_iff _ _ _).mpr hbefore
    rw [queryData_of_isRegular (b := { b with queries := q :: earlier }) hregular hbuilt,
      (workFor_eq hget hi _).2]

/-- A regular batch that is cancelled before it starts fails. If it is cancelled with its `k`-th
request, that request is the last one, and the answer to it says what becomes of the batch: a reply
is dropped and the batch is cancelled; so it is after a failure on the way, if the queries before
the last one come as far as this request. If they do not, the request is one of the last query, and
then the batch returns: with the failure as a problem of that query. -/
theorem queryData_cancelled {plans : List QueryPlan} (hr : IsRegular b.queries)
    (hplans : QueryPlan.ofBatch b.queries = .ok plans)
    (hn : (r.get host b.datasource).1 = .ok n)
    (hk : k ≤ (queryData host (s.cancelledAfter k) r b).exchange.sent.length) :
    let out := queryData host (s.cancelledAfter k) r b
    (k = 0 → ∃ point, out.result = .error (.cancelled point)) ∧
    ∀ before request, out.exchange.sent = before ++ [request] → before.length + 1 = k ∧
      match s.service before request with
      | .reply _ _ =>
        match Web.Address.checkKind request.address with
        | .ok () => ∃ point, out.result = .error (.cancelled point)
        | .error f => out.result = .error (.fault f)
      | .broken f => out.result = .error (.fault f)
      | .failed message => ∀ earlier last, b.queries = earlier ++ [last] →
        let reached := (queryData host (s.cancelledAfter k) r
          { b with queries := earlier }).exchange.sent.length
        (k ≤ reached → ∃ point, out.result = .error (.cancelled point)) ∧
        (reached < k → ∃ results, out.result = .ok results ∧
          results.get? last.refId =
            some { error := some (QueryProblem.transport message).message }) := by
  intro out
  rcases hget : r.get host b.datasource with ⟨_, r'⟩
  rw [hget] at hn
  subst hn
  obtain ⟨-, i, hi⟩ := Registry.current_of_get hget
  obtain ⟨first, rest, hfirst, -⟩ := QueryPlan.exists_of_ofBatch_eq_ok hplans
  obtain ⟨earlier, last, hq⟩ : ∃ earlier last, b.queries = earlier ++ [last] :=
    ⟨_, _, (List.dropLast_append_getLast (hfirst ▸ List.cons_ne_nil first rest)).symm⟩
  obtain ⟨before, p, rfl, hid, hearlier⟩ :=
    exists_plans_of_earlier (s := s.cancelledAfter k) hr hq hplans hget hi
  obtain ⟨hresult, hexchange⟩ :=
    workFor_eq hget hi fun i => answerPlans (s.cancelledAfter k) i [] (before ++ [p])
  rw [← queryData_of_isRegular hr hplans host (s.cancelledAfter k) r] at hresult hexchange
  rw [hexchange] at hk
  have hstart : k = 0 → ∃ point,
      (answerPlans (s.cancelledAfter k) i [] (before ++ [p])).runFrom { tokens := i.tokens } =
        (.error (.cancelled point), { tokens := i.tokens }) := by
    rintro rfl
    exact runFrom_answerPlans_cancelled rfl (by simp)
  constructor
  · intro hzero
    obtain ⟨point, hrun⟩ := hstart hzero
    exact ⟨point, hresult.trans (by rw [hrun])⟩
  · intro sent request hsent
    rw [hexchange] at hsent
    have hpos : 0 < k := by
      refine Nat.pos_of_ne_zero fun hzero => ?_
      obtain ⟨point, hrun⟩ := hstart hzero
      rw [hrun] at hsent
      simp at hsent
    obtain ⟨sent', request', x, hsent', hlen, hlate, hends⟩ :=
      exists_late_of_answerPlans hpos hk
    obtain ⟨rfl, hrequest⟩ := List.append_inj' (hsent.symm.trans hsent') rfl
    cases hrequest
    rw [← hresult, ← hearlier, hid] at hends
    have hanswer := result_of_late hlate hends
    refine ⟨hlen, ?_⟩
    cases hservice : s.service sent request with
    | reply status body =>
      rw [hservice] at hanswer
      exact hanswer
    | broken f =>
      rw [hservice] at hanswer
      exact hanswer
    | failed message =>
      rw [hservice] at hanswer
      intro earlier' last' hq'
      obtain ⟨rfl, hlast⟩ := List.append_inj' (hq.symm.trans hq') rfl
      cases hlast
      exact hanswer

/-- Surroundings in which every request to the service fails on the way. -/
def down : Surroundings := .answering fun _ => .failed "down"

/-- Two queries for one datasource. -/
def pair : Batch := { queries := [.written "A" "x", .written "B" "y"] }

/-- The first of two queries fails while the batch is cancelled; the second one finds that out. -/
theorem queryData_cancelled_first : ∃ point,
    (queryData {} (down.cancelledAfter 1) {} pair).result = .error (.cancelled point) := by
  have hpurpose : Query.purposeOf (BatchQuery.written "A" "x").payload = .ok "" := by
    decide +kernel
  have hregular : IsRegular pair.queries := ⟨_, _, "", rfl, hpurpose, by decide, by decide⟩
  have hplanned : (QueryPlan.ofBatch pair.queries).toBool = true := by decide +kernel
  have hget : (({} : Registry).get {} pair.datasource).1 = .ok 0 := by decide +kernel
  have hsent : (queryData {} (down.cancelledAfter 1) {} pair).exchange.sent.length = 1 := by
    decide +kernel
  have hearlier : 1 ≤ (queryData {} (down.cancelledAfter 1) {}
      { datasource := pair.datasource, queries := [.written "A" "x"] }).exchange.sent.length := by
    decide +kernel
  cases hplans : QueryPlan.ofBatch pair.queries with
  | error x =>
    rw [hplans] at hplanned
    cases hplanned
  | ok plans =>
    obtain ⟨request, hrequest⟩ := List.length_eq_one_iff.mp hsent
    obtain ⟨-, hlate⟩ := queryData_cancelled (s := down) hregular hplans hget
      (Nat.le_of_eq hsent.symm)
    obtain ⟨-, hanswer⟩ := hlate [] request hrequest
    exact (hanswer [.written "A" "x"] (.written "B" "y") rfl).1 hearlier

/-- The only query of a batch fails while the batch is cancelled: the batch returns all the same. -/
theorem queryData_cancelled_returns : ∃ results,
    (queryData {} (down.cancelledAfter 1) {} { queries := [.written "A" "x"] }).result =
        .ok results ∧
      (queryData {} (down.cancelledAfter 1) {}
        { queries := [.written "A" "x"] }).exchange.sent.length = 1 := by
  have hids : refIdsOf (queryData {} (down.cancelledAfter 1) {}
      { queries := [.written "A" "x"] }).result = some ["A"] := by decide +kernel
  have hsent : (queryData {} (down.cancelledAfter 1) {}
      { queries := [.written "A" "x"] }).exchange.sent.length = 1 := by decide +kernel
  obtain ⟨results, hresult, -⟩ := exists_of_refIdsOf hids
  exact ⟨results, hresult, hsent⟩

end MetricFrames.Service
