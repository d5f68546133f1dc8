import MetricFrames.Plan.Building
import MetricFrames.Proofs.Data.Stepwise

/-!
# Plans of a batch

A batch has one plan for each of its queries, in order and under the id of the query. What the plan
of a query is depends on the range of time of the whole batch, not on that of the query.
-/

namespace MetricFrames

-- The bounds have names, so that the definitions that rely on them refer to them and hold no proofs
-- of their own.
theorem Timestamp.no_offset_lt : ((none : Option Int).getD 0).natAbs < 86400 := by decide

theorem Timestamp.zero_offset_lt : ((some 0 : Option Int).getD 0).natAbs < 86400 := by decide

theorem Timestamp.hour_offset_lt : ((some 3600 : Option Int).getD 0).natAbs < 86400 := by decide

theorem Timestamp.seconds_offset_lt {offset : Option Int} (h : (offset.getD 0).natAbs < 86400) :
    ((offset.map (· * 1000000)).getD 0).natAbs < dayMicros := by
  cases offset with
  | none => decide
  | some seconds =>
    simp only [Option.map_some, Option.getD_some, dayMicros] at h ⊢
    omega

/-- The second at which Unix time begins, on a clock with the given offset in seconds. -/
def Timestamp.unixStart (offset : Option Int)
    (h : (offset.getD 0).natAbs < 86400 := by
      first
      | exact MetricFrames.Timestamp.no_offset_lt
      | exact MetricFrames.Timestamp.zero_offset_lt
      | exact MetricFrames.Timestamp.hour_offset_lt) : Timestamp :=
  ⟨epochSecond, 0, offset.map (· * 1000000), by decide, by decide, by decide,
    seconds_offset_lt h⟩

/-- A query in the query language for a project, over no time at all. -/
def BatchQuery.written (refId text : String) (project : String := "p") : BatchQuery where
  refId := refId
  timeRange := ⟨.unixStart (some 0), .unixStart (some 0)⟩
  payload := [("queryType", .text Query.metricKind), ("metricQuery", .object [
    ("editorMode", .text "mql"), ("projectName", .text project), ("query", .text text)])]

namespace QueryPlan

/-- A plan for a query of a batch over a range of time: it keeps the id and the interval of the
query. -/
structure IsFor (b : BatchQuery) (range : TimeRange) (p : QueryPlan) : Prop where
  refId : p.refId = b.refId
  intervalMs : p.intervalMs = b.intervalMs
  timeRange : p.timeRange = range

theorem isFor_ofMetric {b : BatchQuery} {q : MetricQuery} {range : TimeRange} {p : QueryPlan}
    (h : ofMetric b.refId q range b.intervalMs = .ok p) : p.IsFor b range := by
  obtain ⟨params, -, h⟩ := exists_of_bind_eq_ok h
  dsimp only at h
  split at h
  · obtain ⟨filter, -, h⟩ := exists_of_bind_eq_ok h
    obtain ⟨seconds, -, h⟩ := exists_of_bind_eq_ok h
    obtain ⟨stages, -, h⟩ := exists_of_bind_eq_ok h
    cases h
    exact ⟨rfl, rfl, rfl⟩
  · obtain ⟨filter, hf, -⟩ := exists_of_bind_eq_ok h
    cases hf

theorem isFor_ofSlo {b : BatchQuery} {q : SloQuery} {range : TimeRange} {p : QueryPlan}
    (h : ofSlo b.refId q range b.intervalMs = .ok p) : p.IsFor b range := by
  obtain ⟨params, -, h⟩ := exists_of_bind_eq_ok h
  obtain ⟨seconds, -, h⟩ := exists_of_bind_eq_ok h
  obtain ⟨stages, -, h⟩ := exists_of_bind_eq_ok h
  cases h
  exact ⟨rfl, rfl, rfl⟩

theorem isFor_ofQuery {b : BatchQuery} {q : Query} {range : TimeRange} {p : QueryPlan}
    (h : ofQuery b q range = .ok p) : p.IsFor b range := by
  rw [ofQuery] at h
  split at h
  · split at h
    · cases h
      exact ⟨rfl, rfl, rfl⟩
    · exact isFor_ofMetric h
  · split at h
    · exact isFor_ofSlo h
    · cases h

theorem isFor_ofBatchQuery {range : TimeRange} {b : BatchQuery} {p : QueryPlan}
    (h : ofBatchQuery range b = .ok p) : p.IsFor b range := by
  rw [ofBatchQuery] at h
  split at h
  · cases h
  · exact isFor_ofQuery h

theorem refId_ofBatchQuery {range : TimeRange} {b : BatchQuery} {p : QueryPlan}
    (h : ofBatchQuery range b = .ok p) : p.refId = b.refId := (isFor_ofBatchQuery h).refId

theorem ofBatch_cons (first : BatchQuery) (rest : List BatchQuery) :
    ofBatch (first :: rest) = (first :: rest).mapM (ofBatchQuery first.timeRange) := rfl

/-- The query as the only one of a batch over another range of time. -/
theorem ofBatch_single {range : TimeRange} {b : BatchQuery} {p : QueryPlan}
    (h : ofBatchQuery range b = .ok p) : ofBatch [{ b with timeRange := range }] = .ok [p] := by
  have hb : ofBatchQuery range { b with timeRange := range } = .ok p := h
  rw [ofBatch_cons, List.mapM_cons, hb]
  rfl

/-- A batch that can be planned has a first query. -/
theorem exists_of_ofBatch_eq_ok {queries : List BatchQuery} {plans : List QueryPlan}
    (h : ofBatch queries = .ok plans) : ∃ first rest, queries = first :: rest ∧
      List.Forall₂ (fun b p => ofBatchQuery first.timeRange b = .ok p) queries plans := by
  cases queries with
  | nil => cases h
  | cons first rest => exact ⟨first, rest, rfl, (mapM_eq_ok_iff _ _ _).mp h⟩

end QueryPlan
end MetricFrames
