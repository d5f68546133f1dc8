import MetricFrames.Proofs.Datasource.Sending
import MetricFrames.Proofs.Service.Answering

/-!
# Independence of the queries of a batch

With tokens of the host, a service whose answers do not depend on earlier requests, and no
cancellation, running a plan stands alone (`standalone_answerPlan`). A batch that returns therefore
has, for each of its ids, the result of the last query with that id as if it were the only one of a
batch, and sends the requests of its queries one query after another
(`answerRegular_independent`).
-/

namespace MetricFrames.Service

open Work

/-! ### One plan -/

theorem standalone_fetchPages {Page : Type} {fetch : String → Work Page}
    (hf : ∀ token, Standalone (fetch token)) (nextToken : Page → String) (budget : Nat)
    (token : String) : Standalone (QueryPlan.fetchPages fetch nextToken budget token) := by
  induction budget generalizing token with
  | zero => exact .pure _
  | succ budget ih =>
    refine .bind (hf token) fun page => ?_
    split
    · exact .pure _
    · exact .bind (ih _) fun pages => .pure _

theorem standalone_replyOf {α : Type} (decode : String → Except Rejection α)
    (reply : Nat × String) : Standalone (QueryPlan.replyOf decode reply) := by
  rw [QueryPlan.replyOf]
  split
  · split
    · exact .pure _
    · exact .throw _
  · exact .throw _

section

variable {i : Instance} {s : Surroundings} {api : Web.Request → Web.Answer}

theorem standalone_project (hi : i.UsesHostToken) (p : QueryPlan) :
    Standalone (p.project s i) := by
  rw [QueryPlan.project]
  split
  · exact .pure _
  · rw [Instance.defaultProject_eq hi]
    exact .mapFailure _ (.pure _)

theorem standalone_fetch (hi : i.UsesHostToken) (hc : s.cancelAfter = none)
    (hs : s.service = fun _ => api) (p : QueryPlan) (project executed : String) :
    Standalone (p.fetch s i project executed) := by
  have hsend : ∀ token, Standalone (i.send s (p.message project executed token)) :=
    fun token => Instance.standalone_send hi hc hs _
  rw [QueryPlan.fetch]
  split
  · refine .bind (standalone_fetchPages (fun token => ?_) _ _ _) fun pages => .pure _
    exact .bind (hsend token) fun reply => standalone_replyOf _ reply
  · refine .bind (standalone_fetchPages (fun token => ?_) _ _ _) fun pages => .pure _
    exact .bind (hsend token) fun reply => standalone_replyOf _ reply

theorem standalone_run (hi : i.UsesHostToken) (hc : s.cancelAfter = none)
    (hs : s.service = fun _ => api) (p : QueryPlan) : Standalone (p.run s i) := by
  refine .bind (standalone_project hi p) fun project => ?_
  refine .bind (.ofFault _) fun executed => ?_
  exact .bind (standalone_fetch hi hc hs p _ _) fun answer => .pure _

theorem standalone_attempt {α : Type} {work : Work α} (hw : Standalone work) :
    Standalone (attempt work) := by
  refine .tryCatch (.map _ hw) fun x => ?_
  cases x with
  | query problem => exact .pure _
  | batch problem => exact .throw _
  | cancelled point => exact .throw _
  | credentials problem => exact .throw _
  | fault f => exact .throw _

theorem standalone_resultOf (r : List Frame × Option Failure) : Standalone (resultOf r) := by
  obtain ⟨frames, _ | x⟩ := r
  · exact .pure _
  · cases x with
    | query problem => exact .pure _
    | batch problem => exact .throw _
    | cancelled point => exact .throw _
    | credentials problem => exact .throw _
    | fault f => exact .throw _

/-- Running a plan and reading its answer stands alone. -/
theorem standalone_answerPlan (hi : i.UsesHostToken) (hc : s.cancelAfter = none)
    (hs : s.service = fun _ => api) (p : QueryPlan) : Standalone (answerPlan s i p) := by
  refine .bind (.checkCancelled hc _) fun _ => ?_
  refine .bind (standalone_attempt (standalone_run hi hc hs p)) fun outcome => ?_
  cases outcome with
  | error problem => exact .pure _
  | ok finished => exact standalone_resultOf _

end

/-! ### All plans of a batch -/

section

variable {i : Instance} {s : Surroundings} {results results' : Results} {e e' : Exchange}

theorem answerPlans_cons_standalone {p : QueryPlan} {plans : List QueryPlan}
    (hp : Standalone (answerPlan s i p))
    (h : (answerPlans s i results (p :: plans)).runFrom e = (.ok results', e')) :
    ∃ result, (answerPlan s i p).outcome = .ok result ∧
      (answerPlans s i (results.put p.refId result) plans).runFrom
        (e.adding (answerPlan s i p).requests) = (.ok results', e') := by
  obtain ⟨result, e₁, hr, h⟩ := exists_of_answerPlans_cons h
  rw [hp e] at hr
  obtain ⟨ho, he⟩ := Prod.mk.inj hr
  exact ⟨result, ho, by rw [he, h]⟩

theorem requests_answerPlans (hp : ∀ p, Standalone (answerPlan s i p)) {plans : List QueryPlan}
    (h : (answerPlans s i results plans).runFrom e = (.ok results', e')) :
    e' = e.adding (plans.flatMap fun p => (answerPlan s i p).requests) := by
  induction plans generalizing results e with
  | nil =>
    cases h
    exact (Exchange.adding_nil _).symm
  | cons p plans ih =>
    obtain ⟨result, -, h⟩ := answerPlans_cons_standalone (hp p) h
    rw [ih h, Exchange.adding_adding, List.flatMap_cons]

/-- The last plan with an id gives the result of that id. -/
theorem get?_answerPlans_last (hp : ∀ p, Standalone (answerPlan s i p))
    {before after : List QueryPlan} {p : QueryPlan} (hlast : p.refId ∉ after.map (·.refId))
    (h : (answerPlans s i results (before ++ p :: after)).runFrom e = (.ok results', e')) :
    ∃ result, (answerPlan s i p).outcome = .ok result ∧ results'.get? p.refId = some result := by
  induction before generalizing results e with
  | nil =>
    obtain ⟨result, ho, h⟩ := answerPlans_cons_standalone (hp p) h
    refine ⟨result, ho, ?_⟩
    rw [get?_answerPlans_of_not_mem h hlast, Members.get?_put, if_pos rfl]
  | cons q before ih =>
    obtain ⟨_, -, h⟩ := answerPlans_cons_standalone (hp q) h
    exact ih h

/-- A query as the only one of a batch comes to the answer to its plan. -/
theorem runFrom_alone (hp : ∀ p, Standalone (answerPlan s i p)) {range : TimeRange}
    {b : BatchQuery} {p : QueryPlan} (hb : QueryPlan.ofBatchQuery range b = .ok p)
    (e : Exchange) :
    (answerRegular s i [{ b with timeRange := range }]).runFrom e =
      ((answerPlan s i p).outcome.map fun result => [(b.refId, result)],
        e.adding (answerPlan s i p).requests) := by
  rw [answerRegular_eq (QueryPlan.ofBatch_single hb), answerPlans, runFrom_bind, hp p e,
    ← QueryPlan.refId_ofBatchQuery hb]
  cases (answerPlan s i p).outcome <;> rfl

theorem requests_alone (hp : ∀ p, Standalone (answerPlan s i p)) {range : TimeRange}
    {b : BatchQuery} {p : QueryPlan} (hb : QueryPlan.ofBatchQuery range b = .ok p) :
    (answerRegular s i [{ b with timeRange := range }]).requests =
      (answerPlan s i p).requests := by
  rw [Work.requests, runFrom_alone hp hb]
  exact List.nil_append _

theorem flatMap_requests_alone (hp : ∀ p, Standalone (answerPlan s i p)) {range : TimeRange}
    {queries : List BatchQuery} {plans : List QueryPlan}
    (hall : List.Forall₂ (fun b p => QueryPlan.ofBatchQuery range b = .ok p) queries plans) :
    (queries.flatMap fun b => (answerRegular s i [{ b with timeRange := range }]).requests) =
      plans.flatMap fun p => (answerPlan s i p).requests := by
  induction hall with
  | nil => rfl
  | cons hb _ ih => rw [List.flatMap_cons, List.flatMap_cons, ih, requests_alone hp hb]

end

/-- A batch that returns has the results of its queries as if each of them were the only one: one
result for each of its ids, that of the last query with the id, and the requests of all its queries
in order. -/
theorem answerRegular_independent {i : Instance} (hi : i.UsesHostToken) {s : Surroundings}
    (hc : s.cancelAfter = none) {api : Web.Request → Web.Answer} (hs : s.service = fun _ => api)
    {first : BatchQuery} {rest : List BatchQuery} {e e' : Exchange} {results : Results}
    (h : (answerRegular s i (first :: rest)).runFrom e = (.ok results, e')) :
    let alone (b : BatchQuery) : Work Results :=
      answerRegular s i [{ b with timeRange := first.timeRange }]
    (results.map (·.1)).Nodup ∧
    (∀ id, id ∈ results.map (·.1) ↔ id ∈ (first :: rest).map (·.refId)) ∧
    (∀ before b after, first :: rest = before ++ b :: after → b.refId ∉ after.map (·.refId) →
      ∃ result, results.get? b.refId = some result ∧
        ∀ e₁, (alone b).runFrom e₁ = (.ok [(b.refId, result)], e₁.adding (alone b).requests)) ∧
    e' = e.adding ((first :: rest).flatMap fun b => (alone b).requests) := by
  intro alone
  have hp : ∀ p, Standalone (answerPlan s i p) := standalone_answerPlan hi hc hs
  obtain ⟨plans, hplans, h⟩ := exists_of_answerRegular_ok h
  -- Queries and plans correspond one to one, so that a split of the queries splits the plans.
  have hall := (mapM_eq_ok_iff _ _ _).mp hplans
  refine ⟨nodup_names_answerPlans (by simp) h, fun id => ?_, ?_, ?_⟩
  · rw [mem_names_answerPlans h, refIds_of_forall₂ hall]
    simp
  · intro before b after hsplit hlast
    rw [hsplit] at hall
    obtain ⟨before', p, after', rfl, -, hb, hafter⟩ := exists_of_forall₂_append_cons hall
    have hid := QueryPlan.refId_ofBatchQuery hb
    rw [← refIds_of_forall₂ hafter, ← hid] at hlast
    obtain ⟨result, ho, hr⟩ := get?_answerPlans_last hp hlast h
    refine ⟨result, hid ▸ hr, fun e₁ => ?_⟩
    rw [runFrom_alone hp hb, requests_alone hp hb, ho]
    rfl
  · rw [requests_answerPlans hp h, flatMap_requests_alone hp hall]

/-- A service that refuses every request and cites its body. -/
def refusal (request : Web.Request) : Web.Answer := .reply 500 (request.body.getD "")

/-- Of two queries with one id the second one counts, though both are sent. -/
theorem answerRegular_independent_repeated :
    ∃ results e', (answerRegular (.answering refusal) .bare
        [.written "A" "x", .written "B" "y", .written "A" "z"]).runFrom {} = (.ok results, e') ∧
      e'.sent.length = 3 ∧ ∃ result, results.get? "A" = some result ∧
        (answerRegular (.answering refusal) .bare [.written "A" "z"]).outcome =
          .ok [("A", result)] := by
  have hok : ((answerRegular (.answering refusal) .bare
      [.written "A" "x", .written "B" "y", .written "A" "z"]).runFrom {}).1.isOk = true := by
    decide +kernel
  have hsent : ((answerRegular (.answering refusal) .bare
      [.written "A" "x", .written "B" "y", .written "A" "z"]).runFrom {}).2.sent.length = 3 := by
    decide +kernel
  rcases h : (answerRegular (.answering refusal) .bare
    [.written "A" "x", .written "B" "y", .written "A" "z"]).runFrom {} with ⟨x | results, e'⟩
  · rw [h] at hok
    cases hok
  · rw [h] at hsent
    obtain ⟨-, -, hlast, -⟩ :=
      answerRegular_independent Instance.usesHostToken_bare rfl rfl h
    obtain ⟨result, hget, halone⟩ :=
      hlast [.written "A" "x", .written "B" "y"] (.written "A" "z") [] rfl List.not_mem_nil
    exact ⟨results, e', rfl, hsent, result, hget, congrArg Prod.fst (halone {})⟩

end MetricFrames.Service
