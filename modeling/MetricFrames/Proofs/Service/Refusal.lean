import MetricFrames.Proofs.Service.Acceptance

/-!
# Refused batches

A batch is refused before any of its requests to the service goes out (`queryData_refused`). One
query that is unfit is enough for that, wherever it stands: all queries of a batch become plans
before the first one runs, also where only the first one is to run.
-/

namespace MetricFrames

open Work

/-- A query of which no plan can be made: its payload cannot be decoded, its filter is malformed, or
its kind is unknown. -/
inductive BatchQuery.Unfit (b : BatchQuery) : Prop where
  | undecodable (r : Rejection) (payload : Query.ofPayload b.payload = .error r)
  | malformed (q : Query) (m : Filter.Malformed) (payload : Query.ofPayload b.payload = .ok q)
      (kind : q.kind = Query.metricKind) (built : q.metric.isWritten = false)
      (filter : Filter.build q.metric.metricType q.metric.filters = .error m)
  | unknown (q : Query) (payload : Query.ofPayload b.payload = .ok q)
      (notMetric : q.kind ≠ Query.metricKind) (notSlo : q.kind ≠ Query.sloKind)

namespace QueryPlan

variable {b : BatchQuery} {range : TimeRange} {queries : List BatchQuery}

theorem ofMetric_of_malformed {q : MetricQuery} {m : Filter.Malformed}
    (h : Filter.build q.metricType q.filters = .error m) (refId : String) (intervalMs : Int) :
    ∃ x, ofMetric refId q range intervalMs = .error x := by
  rw [ofMetric, h]
  cases rangeParams range with
  | error f => exact ⟨_, rfl⟩
  | ok params => exact ⟨_, rfl⟩

theorem exists_error_of_unfit (h : b.Unfit) (range : TimeRange) :
    ∃ x, ofBatchQuery range b = .error x := by
  cases h with
  | undecodable r payload =>
    rw [ofBatchQuery, payload]
    exact ⟨_, rfl⟩
  | malformed q m payload kind built filter =>
    have hplan : ofBatchQuery range b = ofMetric b.refId q.metric range b.intervalMs := by
      rw [ofBatchQuery, payload]
      dsimp only
      rw [ofQuery, if_pos kind, built]
      rfl
    rw [hplan]
    exact ofMetric_of_malformed filter _ _
  | unknown q payload notMetric notSlo =>
    rw [ofBatchQuery, payload]
    dsimp only
    rw [ofQuery, if_neg notMetric, if_neg notSlo]
    exact ⟨_, rfl⟩

/-- One unfit query leaves a batch without plans. -/
theorem ofBatch_of_unfit (hb : b ∈ queries) (h : b.Unfit) : ∃ x, ofBatch queries = .error x := by
  cases hplans : ofBatch queries with
  | error x => exact ⟨x, rfl⟩
  | ok plans =>
    obtain ⟨first, rest, -, hforall⟩ := exists_of_ofBatch_eq_ok hplans
    obtain ⟨before, after, rfl⟩ := List.append_of_mem hb
    obtain ⟨-, p, -, -, -, hp, -⟩ := exists_of_forall₂_append_cons hforall
    obtain ⟨x, hx⟩ := exists_error_of_unfit h first.timeRange
    cases hx.symm.trans hp

end QueryPlan

namespace Service

variable {host : Host} {s : Surroundings} {r : Registry} {b : Batch} {i : Instance}
  {first : BatchQuery} {queries : List BatchQuery} {x : Failure}

/-- Work that sends nothing to the service if it refuses a batch. -/
def RefusesQuietly {α : Type} (work : Work α) : Prop :=
  ∀ e problem, (work.runFrom e).1 = .error (.batch problem) → (work.runFrom e).2.sent = e.sent

theorem RefusesQuietly.of_quiet {α : Type} {work : Work α} (h : Quiet work) :
    RefusesQuietly work := fun e _ _ => h e

/-- Work that fails as running plans do refuses nothing. -/
theorem RefusesQuietly.of_failsOnly {α : Type} {work : Work α} (h : FailsOnly Failure.ofRun work) :
    RefusesQuietly work := by
  intro e problem hrefused
  cases h e _ hrefused

/-- Without plans nothing is run, unless the default project is asked for. -/
theorem answerFor_of_error (hx : QueryPlan.ofBatch queries = .error x) (s : Surroundings)
    (i : Instance) {purpose : String} (hpurpose : purpose ≠ Query.defaultProjectPurpose)
    (first : BatchQuery) : answerFor s i purpose first queries = throw x := by
  rw [answerFor, if_neg hpurpose]
  split
  · rw [answerRemarks, hx]
    rfl
  · rw [answerRegular, hx]
    rfl

theorem quiet_answerFor_defaultProject (s : Surroundings) (i : Instance) (first : BatchQuery)
    (queries : List BatchQuery) :
    Quiet (answerFor s i Query.defaultProjectPurpose first queries) := by
  have hremarks : Query.defaultProjectPurpose ≠ Query.remarksPurpose := by decide
  rw [answerFor, if_neg hremarks, if_pos rfl]
  exact quiet_answerDefaultProject s i first.refId

theorem quiet_answerFor_of_error (hx : QueryPlan.ofBatch queries = .error x) (s : Surroundings)
    (i : Instance) (purpose : String) (first : BatchQuery) :
    Quiet (answerFor s i purpose first queries) := by
  by_cases hpurpose : purpose = Query.defaultProjectPurpose
  · rw [hpurpose]
    exact quiet_answerFor_defaultProject s i first queries
  · rw [answerFor_of_error hx s i hpurpose]
    exact .throw x

theorem refusesQuietly_answerFor (s : Surroundings) (i : Instance) (purpose : String)
    (first : BatchQuery) (queries : List BatchQuery) :
    RefusesQuietly (answerFor s i purpose first queries) := by
  cases hplans : QueryPlan.ofBatch queries with
  | error x => exact .of_quiet (quiet_answerFor_of_error hplans s i purpose first)
  | ok plans =>
    by_cases hpurpose : purpose = Query.defaultProjectPurpose
    · rw [hpurpose]
      exact .of_quiet (quiet_answerFor_defaultProject s i first queries)
    · exact .of_failsOnly (failsOnly_answerFor hplans hpurpose)

/-- A batch fails before anything is exchanged, or it is answered by an instance. -/
theorem queryData_cases (host : Host) (s : Surroundings) (r : Registry) (b : Batch) :
    (∃ x, (queryData host s r b).result = .error x ∧ (queryData host s r b).exchange = {}) ∨
    ∃ first rest purpose i, b.queries = first :: rest ∧
      Query.purposeOf first.payload = .ok purpose ∧
      (queryData host s r b).result =
        ((answerFor s i purpose first b.queries).runFrom { tokens := i.tokens }).1 ∧
      (queryData host s r b).exchange =
        ((answerFor s i purpose first b.queries).runFrom { tokens := i.tokens }).2 := by
  cases hq : b.queries with
  | nil =>
    refine .inl ⟨.batch .noQueries, ?_⟩
    simp only [queryData, hq, and_self]
  | cons first rest =>
    cases hp : Query.purposeOf first.payload with
    | error rejection =>
      refine .inl ⟨.batch (.undecodable rejection), ?_⟩
      simp only [queryData, hq, hp, and_self]
    | ok purpose =>
      have hrun : queryData host s r b = r.workFor host b.datasource fun i =>
          answerFor s i purpose first (first :: rest) := by
        simp only [queryData, hq, hp]
      rcases hget : r.get host b.datasource with ⟨x | n, r'⟩
      · refine .inl ⟨x, ?_⟩
        simp only [hrun, Registry.workFor, hget, and_self]
      · cases hi : r'.instance? n with
        | none =>
          refine .inl ⟨.fault .indexOutOfRange, ?_⟩
          simp only [hrun, Registry.workFor, hget, Registry.work, hi, and_self]
        | some i =>
          rw [hrun]
          exact .inr ⟨first, rest, purpose, i, rfl, hp, workFor_eq hget hi _⟩

/-- A batch that is refused has sent nothing to the service. With an unfit query nothing is sent
whatever the purpose of the batch, and there are no results unless it asks for the default
project. -/
theorem queryData_refused (host : Host) (s : Surroundings) (r : Registry) (b : Batch) :
    ((∃ problem, (queryData host s r b).result = .error (.batch problem)) →
      (queryData host s r b).exchange.sent = []) ∧
    ((∃ q ∈ b.queries, q.Unfit) →
      (queryData host s r b).exchange.sent = [] ∧
      ((∃ x, (queryData host s r b).result = .error x) ∨ ∃ first rest, b.queries = first :: rest ∧
        Query.purposeOf first.payload = .ok Query.defaultProjectPurpose)) := by
  rcases queryData_cases host s r b with
    ⟨x, hx, hexchange⟩ | ⟨first, rest, purpose, i, hq, hp, hresult, hexchange⟩
  · rw [hexchange]
    exact ⟨fun _ => rfl, fun _ => ⟨rfl, .inl ⟨x, hx⟩⟩⟩
  · rw [hexchange, hresult]
    refine ⟨?_, ?_⟩
    · rintro ⟨problem, hproblem⟩
      exact refusesQuietly_answerFor s i purpose first b.queries _ problem hproblem
    · rintro ⟨q, hmem, hunfit⟩
      obtain ⟨x, hx⟩ := QueryPlan.ofBatch_of_unfit hmem hunfit
      refine ⟨quiet_answerFor_of_error hx s i purpose first _, ?_⟩
      by_cases hpurpose : purpose = Query.defaultProjectPurpose
      · exact .inr ⟨first, rest, hq, hpurpose ▸ hp⟩
      · rw [answerFor_of_error hx s i hpurpose]
        exact .inl ⟨x, rfl⟩

/-- What a batch was refused for. -/
def refusalOf {α : Type} : Except Failure α → Option BatchProblem
  | .error (.batch problem) => some problem
  | _ => none

theorem eq_of_refusalOf {α : Type} {result : Except Failure α} {problem : BatchProblem}
    (h : refusalOf result = some problem) : result = .error (.batch problem) := by
  unfold refusalOf at h
  split at h
  · cases h
    rfl
  · cases h

/-- A query of an unknown kind. -/
def oddQuery : BatchQuery :=
  { BatchQuery.written "B" "" with payload := [("queryType", .text "logs")] }

/-- A batch for remarks on its first query, which is fit. -/
def oddBatch : Batch where
  queries := (flatBatch (.text Query.remarksPurpose)).queries ++ [oddQuery]

theorem queryData_refused_odd :
    oddQuery.Unfit ∧
    (queryData {} down {} oddBatch).result = .error (.batch (.unknownKind "logs")) ∧
    (queryData {} down {} oddBatch).exchange.sent = [] := by
  have hunfit : oddQuery.Unfit := .unknown _ rfl (by decide) (by decide)
  have hresult : (queryData {} down {} oddBatch).result =
      .error (.batch (.unknownKind "logs")) := eq_of_refusalOf (by decide +kernel)
  obtain ⟨hsent, -⟩ := queryData_refused {} down {} oddBatch
  exact ⟨hunfit, hresult, hsent ⟨_, hresult⟩⟩

end Service
end MetricFrames
