import MetricFrames.Proofs.Plan.Breaking
import MetricFrames.Proofs.Service.Answering

/-!
# Problems stay with their query

A batch goes on after a problem of one of its queries, whatever the service answers: it leaves
results for all of its ids exactly if none of its plans breaks when its turn has come, and it fails
with nothing but the fault of a plan that breaks (`answerRegular_contained`). Plans do break, though
one might expect otherwise (`answerRegular_unaddressable`).
-/

namespace MetricFrames.Service

open Work

variable {p : QueryPlan} {plans : List QueryPlan} {i : Instance} {s : Surroundings}
  {results results' : Results} {e e' e₁ : Exchange} {f : Fault}

/-! ### One plan -/

/-- A plan has a result, or it breaks. -/
theorem answerPlan_cases (hi : i.UsesHostToken) (hc : s.cancelAfter = none) (p : QueryPlan)
    (e : Exchange) :
    (∃ result e', (answerPlan s i p).runFrom e = (.ok result, e')) ∨ ∃ f, p.Breaks s i e f := by
  rw [runFrom_answerPlan (isCancelled_eq_false hc e)]
  rcases p.runFrom_run_cases hi hc e with ⟨finished, e', h⟩ | ⟨problem, e', h⟩ | h
  · rw [h]
    dsimp only
    rcases p.frames_cases finished with ⟨frames, hf⟩ | ⟨frames, problem, hf⟩ |
      ⟨f, ⟨hfault, hf⟩ | ⟨hfault, hempty, hf⟩⟩
    · rw [hf]
      exact .inl ⟨_, _, rfl⟩
    · rw [hf]
      exact .inl ⟨_, _, rfl⟩
    · exact .inr ⟨f, .bound finished e' h hfault hf⟩
    · exact .inr ⟨f, .link finished e' h hfault hempty hf⟩
  · rw [h]
    exact .inl ⟨_, _, rfl⟩
  · exact .inr h

/-- A plan that breaks has no result. -/
theorem runFrom_answerPlan_breaks (hi : i.UsesHostToken) (hc : s.cancelAfter = none)
    (h : p.Breaks s i e f) : ∃ e', (answerPlan s i p).runFrom e = (.error (.fault f), e') := by
  have hproject := QueryPlan.runFrom_project hi p s e
  rw [runFrom_answerPlan (isCancelled_eq_false hc e)]
  cases h with
  | wording unworded =>
    have hrun : (p.run s i).runFrom e = (.error (.fault f), e) := by
      rw [QueryPlan.run, runFrom_bind_ok hproject, unworded]
      exact runFrom_bind_error rfl
    rw [hrun]
    exact ⟨e, rfl⟩
  | request executed pages token e₁ worded fetched fewer breaks =>
    obtain ⟨e', hpages⟩ := fetched.runFrom_breaks hc breaks fewer
    rw [QueryPlan.runFrom_run hproject worded, runFrom_bind_error hpages]
    exact ⟨e', rfl⟩
  | bound finished e₁ ran unread tooLarge =>
    obtain ⟨frames, hframes⟩ := QueryPlan.frames_tooLarge unread tooLarge
    rw [ran]
    dsimp only
    rw [hframes]
    exact ⟨e₁, rfl⟩
  | link finished e₁ ran read filled unlinked =>
    obtain ⟨frames, hframes⟩ := QueryPlan.frames_unlinked read filled unlinked
    rw [ran]
    dsimp only
    rw [hframes]
    exact ⟨e₁, rfl⟩

/-! ### All plans of a batch -/

/-- The plans before some plan have their results, and then it breaks. -/
def Interrupted (s : Surroundings) (i : Instance) (plans : List QueryPlan) (e : Exchange)
    (f : Fault) : Prop :=
  ∃ before p after results e₁, plans = before ++ p :: after ∧
    (answerPlans s i [] before).runFrom e = (.ok results, e₁) ∧ p.Breaks s i e₁ f

theorem runFrom_answerPlans_interrupted (hi : i.UsesHostToken) (hc : s.cancelAfter = none)
    (h : Interrupted s i plans e f) :
    ∃ e', (answerPlans s i [] plans).runFrom e = (.error (.fault f), e') := by
  obtain ⟨before, p, after, results, e₁, rfl, hbefore, hp⟩ := h
  obtain ⟨e', hrun⟩ := runFrom_answerPlan_breaks hi hc hp
  refine ⟨e', ?_⟩
  rw [answerPlans_append, runFrom_bind_ok hbefore]
  exact runFrom_bind_error hrun

theorem answerPlans_cases (hi : i.UsesHostToken) (hc : s.cancelAfter = none)
    (plans : List QueryPlan) (results : Results) (e : Exchange) :
    (∃ results' e', (answerPlans s i results plans).runFrom e = (.ok results', e')) ∨
      ∃ before p after results' e₁ f, plans = before ++ p :: after ∧
        (answerPlans s i results before).runFrom e = (.ok results', e₁) ∧ p.Breaks s i e₁ f := by
  -- A plan that breaks later breaks in the record that the plans before it have left.
  induction plans generalizing results e with
  | nil => exact .inl ⟨results, e, rfl⟩
  | cons p plans ih =>
    rcases answerPlan_cases hi hc p e with ⟨result, e₁, hp⟩ | ⟨f, hp⟩
    · rcases ih (results.put p.refId result) e₁ with ⟨results', e', h⟩ |
        ⟨before, q, after, results', e₂, f, rfl, hbefore, hq⟩
      · exact .inl ⟨results', e', (runFrom_bind_ok hp).trans h⟩
      · exact .inr ⟨p :: before, q, after, results', e₂, f, rfl,
          (runFrom_bind_ok hp).trans hbefore, hq⟩
    · exact .inr ⟨[], p, plans, results, e, f, rfl, rfl, hp⟩

/-- A batch leaves results for all of its ids, unless one of its plans breaks when its turn has
come. Only the fault of such a plan gets out of a batch. -/
theorem answerRegular_contained (hi : i.UsesHostToken) (hc : s.cancelAfter = none)
    {queries : List BatchQuery} (hplans : QueryPlan.ofBatch queries = .ok plans) (e : Exchange) :
    ((∃ results e', (answerRegular s i queries).runFrom e = (.ok results, e') ∧
        ∀ b ∈ queries, b.refId ∈ results.map (·.1)) ↔ ∀ f, ¬ Interrupted s i plans e f) ∧
      ∀ x e', (answerRegular s i queries).runFrom e = (.error x, e') →
        ∃ f, x = .fault f ∧ Interrupted s i plans e f := by
  obtain ⟨first, rest, -, hall⟩ := QueryPlan.exists_of_ofBatch_eq_ok hplans
  rw [answerRegular_eq hplans]
  have hcases : (∃ results e', (answerPlans s i [] plans).runFrom e = (.ok results, e')) ∨
      ∃ f, Interrupted s i plans e f := by
    rcases answerPlans_cases hi hc plans [] e with h | ⟨before, p, after, results, e₁, f, h⟩
    · exact .inl h
    · exact .inr ⟨f, before, p, after, results, e₁, h⟩
  refine ⟨⟨?_, fun hnone => ?_⟩, fun x e' hx => ?_⟩
  · rintro ⟨results, e', hrun, -⟩ f hf
    obtain ⟨e₁, herror⟩ := runFrom_answerPlans_interrupted hi hc hf
    rw [hrun] at herror
    cases herror
  · rcases hcases with ⟨results, e', hrun⟩ | ⟨f, hf⟩
    · refine ⟨results, e', hrun, fun b hb => ?_⟩
      rw [mem_names_answerPlans hrun, refIds_of_forall₂ hall]
      exact .inr (List.mem_map_of_mem hb)
    · exact absurd hf (hnone f)
  · rcases hcases with ⟨results, e₁, hrun⟩ | ⟨f, hf⟩
    · rw [hrun] at hx
      cases hx
    · obtain ⟨e₁, herror⟩ := runFrom_answerPlans_interrupted hi hc hf
      rw [hx] at herror
      cases herror
      exact ⟨f, rfl, hf⟩

/-- Two queries that are both refused: neither of them interrupts the batch. -/
theorem answerRegular_contained_refused : ∃ plans,
    QueryPlan.ofBatch [.written "A" "x", .written "B" "y"] = .ok plans ∧
      ∀ f, ¬ Interrupted (.answering fun _ => .reply 500 "down") .bare plans {} f := by
  have hok : (QueryPlan.ofBatch [.written "A" "x", .written "B" "y"]).toBool = true := by
    decide +kernel
  have hids : refIdsOf ((answerRegular (.answering fun _ => .reply 500 "down") .bare
      [.written "A" "x", .written "B" "y"]).runFrom {}).1 = some ["A", "B"] := by decide +kernel
  obtain ⟨results, hrun, hnames⟩ := exists_of_refIdsOf hids
  cases hplans : QueryPlan.ofBatch [.written "A" "x", .written "B" "y"] with
  | error x =>
    rw [hplans] at hok
    cases hok
  | ok plans =>
    refine ⟨plans, rfl, (answerRegular_contained Instance.usesHostToken_bare rfl hplans {}).1.mp
      ⟨results, _, runFrom_eq_of_fst hrun, fun b hb => ?_⟩⟩
    have hmem : b.refId ∈ [BatchQuery.written "A" "x", .written "B" "y"].map (·.refId) :=
      List.mem_map_of_mem hb
    rw [hnames]
    exact hmem

/-- The first of two queries is for a project that no address can hold. Both are accepted, but there
are no results, and the second one is never sent. -/
theorem answerRegular_unaddressable :
    (QueryPlan.ofBatch [.written "A" "x" "a\nb", .written "B" "y"]).toBool = true ∧
    ∃ f e', (answerRegular (.answering fun _ => .reply 200 "\x7b\x7d") .bare
      [.written "A" "x" "a\nb", .written "B" "y"]).runFrom {} = (.error (.fault f), e') ∧
        e'.sent = [] := by
  have hfault : (faultOf ((answerRegular (.answering fun _ => .reply 200 "\x7b\x7d") .bare
      [.written "A" "x" "a\nb", .written "B" "y"]).runFrom {}).1).isSome = true := by
    decide +kernel
  have hsent : ((answerRegular (.answering fun _ => .reply 200 "\x7b\x7d") .bare
      [.written "A" "x" "a\nb", .written "B" "y"]).runFrom {}).2.sent = [] := by
    decide +kernel
  obtain ⟨f, hf⟩ := Option.isSome_iff_exists.mp hfault
  exact ⟨by decide +kernel, f, _, runFrom_eq_of_fst (eq_of_faultOf hf), hsent⟩

end MetricFrames.Service
