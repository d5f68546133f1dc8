import MetricFrames.Proofs.Binary64.Rounding
import MetricFrames.Proofs.Plan.Building

/-!
# What building a batch comes to

A batch becomes one plan for each of its queries, or it is refused as a whole, or a fault ends the
work (`ofBatch_outcome`). A fault comes from the numbers of a query that asks for series: its range
leaves the calendar in universal time, only one end of the range has an offset, or the interval
from which the alignment follows is out of range (`Upsets`). A query in the query language uses
none of these before it runs.
-/

namespace MetricFrames

variable {f : Fault}

/-! ### Ranges of time -/

/-- Whether the calendar has the instant of a timestamp. -/
def Timestamp.OnCalendar (t : Timestamp) : Prop :=
  (firstSecond : Int) ≤ t.instant ∧ t.instant ≤ lastSecond

theorem Timestamp.toUniversal_eq_error_iff {t : Timestamp} :
    t.toUniversal = .error f ↔ f = .dateOutOfRange ∧ ¬ t.OnCalendar := by
  rw [toUniversal, OnCalendar]
  split
  · next h => simp [h]
  · next h => simp [h, eq_comm]

/-- The difference of two timestamps is far from the end of the range of numbers. -/
theorem Timestamp.natAbs_sub_lt (s t : Timestamp) :
    (t.instantMicros - s.instantMicros).natAbs < 1000000 * Binary64.ceiling := by
  have hs := s.le_lastSecond
  have ht := t.le_lastSecond
  have hs' := s.offset_lt
  have ht' := t.offset_lt
  have hs'' := s.micros_lt
  have ht'' := t.micros_lt
  have hlast : lastSecond ≤ 1000000000000 := by decide
  have hceiling : 10000000000000 ≤ Binary64.ceiling := le_trans (by decide) Binary64.le_ceiling
  simp only [instantMicros, dayMicros] at *
  omega

namespace TimeRange

variable {r : TimeRange}

/-- Whether the calendar has both ends of a range in universal time. -/
def OnCalendar (r : TimeRange) : Prop := r.start.OnCalendar ∧ r.stop.OnCalendar

/-- Whether the ends of a range can be compared: both have an offset, or none of them. -/
def Comparable (r : TimeRange) : Prop := r.start.offset.isSome = r.stop.offset.isSome

theorem seconds_eq_error_iff : r.seconds = .error f ↔ f = .mixedOffsets ∧ ¬ r.Comparable := by
  have hless := r.start.natAbs_sub_lt r.stop
  rw [seconds, Timestamp.secondsUntil, Comparable]
  split
  · next h =>
    cases hq : Binary64.quotient (r.stop.instantMicros - r.start.instantMicros) 1000000 with
    | error x =>
      obtain ⟨-, hlarge⟩ := (Binary64.quotient_eq_error_iff (by decide)).mp hq
      omega
    | ok x =>
      obtain ⟨n, hn⟩ := Binary64.exists_toInteger_of_quotient (by decide) hq
      simp [Except.bind, hn, h]
  · next h => simp [h, eq_comm]

end TimeRange

theorem QueryPlan.rangeParams_eq_error_iff {r : TimeRange} :
    rangeParams r = .error f ↔ f = .dateOutOfRange ∧ ¬ r.OnCalendar := by
  have hworded : ∀ (t : Timestamp) (g : Fault),
      t.rfc3339 = .error g ↔ g = .dateOutOfRange ∧ ¬ t.OnCalendar :=
    fun t g => map_eq_error_iff.trans Timestamp.toUniversal_eq_error_iff
  rw [TimeRange.OnCalendar, not_and_or, and_or_left]
  constructor
  · intro h
    rcases cases_of_bind_eq_error h with h | ⟨start, -, h⟩
    · exact .inl ((hworded r.start f).mp h)
    · rcases cases_of_bind_eq_error h with h | ⟨stop, -, h⟩
      · exact .inr ((hworded r.stop f).mp h)
      · cases h
  · intro h
    rw [rangeParams]
    cases hstart : r.start.rfc3339 with
    | error g =>
      obtain ⟨rfl, -⟩ := (hworded r.start g).mp hstart
      rcases h with ⟨rfl, -⟩ | ⟨rfl, -⟩ <;> rfl
    | ok start =>
      rcases h with h | h
      · cases hstart.symm.trans ((hworded r.start f).mpr h)
      · rw [(hworded r.stop f).mpr h]
        rfl

/-! ### Alignment -/

namespace Alignment

variable {chosen : String} {intervalMs : Int}

theorem ofInterval_eq_error_iff : ofInterval intervalMs = .error f ↔
    f = .quotientTooLarge ∧ 1000 * Binary64.ceiling ≤ intervalMs.natAbs := by
  rw [ofInterval, ← Binary64.quotient_eq_error_iff (by decide)]
  cases hq : Binary64.quotient intervalMs 1000 with
  | error x => simp [Except.bind]
  | ok x =>
    obtain ⟨n, hn⟩ := Binary64.exists_toInteger_of_quotient (by decide) hq
    have hleast : ∃ n, (atLeastMinute x).toInteger = .ok n := by
      rw [atLeastMinute]
      split
      · exact ⟨leastSeconds, by decide +kernel⟩
      · exact ⟨n, hn⟩
    obtain ⟨n, hn⟩ := hleast
    simp [Except.bind, hn]

/-- Whether the period can be had: where it follows from the interval, the seconds of the interval
are in the range of numbers. -/
def InRange (chosen : String) (intervalMs : Int) : Prop :=
  chosen = "grafana-auto" ∨ chosen = "" → intervalMs.natAbs < 1000 * Binary64.ceiling

theorem period_eq_error_iff {seconds : Int} : period chosen intervalMs seconds = .error f ↔
    f = .quotientTooLarge ∧ ¬ InRange chosen intervalMs := by
  rw [period, InRange, Classical.not_imp, Nat.not_lt]
  split
  · next h => rw [map_eq_error_iff, ofInterval_eq_error_iff, and_iff_right h]
  · next h =>
    split
    · simp [h]
    · simp [h]

end Alignment

/-! ### Queries -/

/-- Whether tokens are groups joined by connectors, perhaps with one more connector at the end. -/
def Filter.IsGrouped (tokens : List String) : Prop := tokens.length % 4 = 0 ∨ tokens.length % 4 = 3

theorem Filter.build_cases (metricType : String) (tokens : List String) :
    (IsGrouped tokens ∧ ∃ text, build metricType tokens = .ok text) ∨
      ¬ IsGrouped tokens ∧ build metricType tokens = .error ⟨tokens⟩ := by
  rw [build, IsGrouped]
  split
  · next h => exact .inr ⟨by omega, rfl⟩
  · next h =>
    refine .inl ⟨?_, _, rfl⟩
    by_cases hnil : tokens = []
    · rw [hnil]
      decide
    · have hlength := not_and.mp h hnil
      omega

namespace QueryPlan

variable {range : TimeRange} {intervalMs : Int} {chosen : String} {isFiltered : Prop}

/-- What a request for series over a range of time comes to grief over: an end of the range that the
calendar does not have in universal time, ends that cannot be compared, or an alignment out of
range. The last two matter only if there is a filter. -/
inductive Upsets (range : TimeRange) (intervalMs : Int) (chosen : String) (isFiltered : Prop) :
    Fault → Prop
  | beyond (beyond : ¬ range.OnCalendar) :
      Upsets range intervalMs chosen isFiltered .dateOutOfRange
  | mixed (onCalendar : range.OnCalendar) (filtered : isFiltered) (mixed : ¬ range.Comparable) :
      Upsets range intervalMs chosen isFiltered .mixedOffsets
  | tooLong (onCalendar : range.OnCalendar) (filtered : isFiltered)
      (comparable : range.Comparable) (tooLong : ¬ Alignment.InRange chosen intervalMs) :
      Upsets range intervalMs chosen isFiltered .quotientTooLarge

theorem upsets_iff : Upsets range intervalMs chosen isFiltered f ↔
    ¬ range.OnCalendar ∧ f = .dateOutOfRange ∨
    range.OnCalendar ∧ isFiltered ∧
      (¬ range.Comparable ∧ f = .mixedOffsets ∨
        range.Comparable ∧ ¬ Alignment.InRange chosen intervalMs ∧ f = .quotientTooLarge) := by
  constructor
  · rintro (beyond | ⟨onCalendar, filtered, mixed⟩ | ⟨onCalendar, filtered, comparable, tooLong⟩)
    · exact .inl ⟨beyond, rfl⟩
    · exact .inr ⟨onCalendar, filtered, .inl ⟨mixed, rfl⟩⟩
    · exact .inr ⟨onCalendar, filtered, .inr ⟨comparable, tooLong, rfl⟩⟩
  · rintro (⟨beyond, rfl⟩ | ⟨onCalendar, filtered, ⟨mixed, rfl⟩ | ⟨comparable, tooLong, rfl⟩⟩)
    · exact .beyond beyond
    · exact .mixed onCalendar filtered mixed
    · exact .tooLong onCalendar filtered comparable tooLong

/-- What a part of building a plan comes to: a fault if one is due, else a value or a problem of the
batch. -/
def Settles {α : Type} (due : Fault → Prop) : Except Failure α → Prop
  | .error (.fault f) => ∀ g, due g ↔ g = f
  | .ok _ | .error (.batch _) => ∀ g, ¬ due g
  | .error _ => False

namespace Settles

variable {α β : Type} {due due' : Fault → Prop} {e : Except Failure α}

theorem congr (h : Settles due e) (hdue : ∀ g, due' g ↔ due g) : Settles due' e := by
  rwa [show due' = due from funext fun g => propext (hdue g)]

/-- After a step that fails in one way unless a condition holds, what is due is that failure, or
under the condition what is due later. -/
theorem step {step : Except Fault α} {next : α → Except Failure β} {condition : Prop}
    (h : ∀ {g}, step = .error g ↔ g = f ∧ ¬ condition) (hnext : ∀ a, Settles due (next a)) :
    Settles (fun g => ¬ condition ∧ g = f ∨ condition ∧ due g) (orFault step >>= next) := by
  cases step with
  | error g =>
    obtain ⟨rfl, hnot⟩ := h.mp rfl
    show ∀ g', _
    simp [hnot]
  | ok a =>
    have hcondition : condition := by
      by_contra hnot
      cases h.mpr ⟨rfl, hnot⟩
    exact (hnext a).congr (by simp [hcondition])

theorem fault_iff (h : Settles due e) : e = .error (.fault f) ↔ due f := by
  rcases e with (_ | _ | _ | _ | g) | a
  all_goals simp_all [Settles, eq_comm]

end Settles

/-- The part of building that two kinds of queries share: the length of the range, and then the
stages of aggregation. -/
theorem settles_stages {stages : Int → Except Fault AggregationStages}
    (hstages : ∀ {seconds g}, stages seconds = .error g ↔
      g = .quotientTooLarge ∧ ¬ Alignment.InRange chosen intervalMs)
    (finish : AggregationStages → QueryPlan) :
    Settles (fun g => ¬ range.Comparable ∧ g = .mixedOffsets ∨
        range.Comparable ∧ ¬ Alignment.InRange chosen intervalMs ∧ g = .quotientTooLarge) (do
      let seconds ← orFault range.seconds
      let stages ← orFault (stages seconds)
      return finish stages) := by
  refine .step TimeRange.seconds_eq_error_iff fun seconds => ?_
  have hplan : ∀ s, Settles (fun _ => False) (return finish s : Except Failure QueryPlan) :=
    fun s g => id
  exact (Settles.step hstages hplan).congr fun g => by rw [and_false, or_false]

theorem settles_ofMetric (refId : String) (q : MetricQuery) :
    Settles (Upsets range intervalMs q.alignmentPeriod (Filter.IsGrouped q.filters))
      (ofMetric refId q range intervalMs) := by
  refine Settles.congr ?_ fun g => upsets_iff
  refine .step rangeParams_eq_error_iff fun params => ?_
  rcases Filter.build_cases q.metricType q.filters with ⟨hgroups, text, htext⟩ | ⟨hgroups, htext⟩
  · rw [htext]
    refine Settles.congr ?_ fun g => and_iff_right hgroups
    exact settles_stages (map_eq_error_iff.trans Alignment.period_eq_error_iff) _
  · rw [htext]
    exact fun g hg => hgroups hg.1

theorem settles_ofSlo (refId : String) (q : SloQuery) :
    Settles (Upsets range intervalMs q.alignmentPeriod True) (ofSlo refId q range intervalMs) := by
  refine Settles.congr ?_ fun g => upsets_iff
  refine .step rangeParams_eq_error_iff fun params => ?_
  refine Settles.congr ?_ fun g => and_iff_right trivial
  exact settles_stages (map_eq_error_iff.trans Alignment.period_eq_error_iff) _

end QueryPlan

/-- What a query comes to grief over while its plan is built: the numbers of its request, if it asks
for series by its parts. -/
def Query.Upsets (q : Query) (range : TimeRange) (intervalMs : Int) (f : Fault) : Prop :=
  q.kind = metricKind ∧ q.metric.isWritten = false ∧
      QueryPlan.Upsets range intervalMs q.metric.alignmentPeriod
        (Filter.IsGrouped q.metric.filters) f ∨
    q.kind = sloKind ∧ QueryPlan.Upsets range intervalMs q.slo.alignmentPeriod True f

/-- What a query of a batch comes to grief over, if it can be decoded. -/
def BatchQuery.Upsets (b : BatchQuery) (range : TimeRange) (f : Fault) : Prop :=
  ∃ q, Query.ofPayload b.payload = .ok q ∧ q.Upsets range b.intervalMs f

namespace QueryPlan

theorem settles_ofQuery (b : BatchQuery) (q : Query) (range : TimeRange) :
    Settles (q.Upsets range b.intervalMs) (ofQuery b q range) := by
  have hkinds : Query.metricKind ≠ Query.sloKind := by decide
  rw [ofQuery]
  by_cases hmetric : q.kind = Query.metricKind
  · have hslo : q.kind ≠ Query.sloKind := hmetric ▸ hkinds
    rw [if_pos hmetric]
    cases hwritten : q.metric.isWritten with
    | true => simp [Settles, Query.Upsets, hslo, hwritten]
    | false =>
      refine (settles_ofMetric b.refId q.metric).congr fun g => ?_
      simp [Query.Upsets, hmetric, hkinds, hwritten]
  · rw [if_neg hmetric]
    by_cases hslo : q.kind = Query.sloKind
    · rw [if_pos hslo]
      refine (settles_ofSlo b.refId q.slo).congr fun g => ?_
      simp [Query.Upsets, hslo, hkinds.symm]
    · rw [if_neg hslo]
      simp [Settles, Query.Upsets, hmetric, hslo]

theorem settles_ofBatchQuery (range : TimeRange) (b : BatchQuery) :
    Settles (b.Upsets range) (ofBatchQuery range b) := by
  rw [ofBatchQuery]
  cases hq : Query.ofPayload b.payload with
  | error r => simp [Settles, BatchQuery.Upsets, hq]
  | ok q => exact (settles_ofQuery b q range).congr fun g => by simp [BatchQuery.Upsets, hq]

/-- A batch comes to one plan for each of its queries, in order, each over the range of time of the
first query; or there is a problem of the batch; or there is a fault, exactly if the numbers of a
query upset it and all queries before have plans. -/
theorem ofBatch_outcome (first : BatchQuery) (rest : List BatchQuery) :
    ((∃ plans, ofBatch (first :: rest) = .ok plans ∧
        List.Forall₂ (fun b p => IsFor b first.timeRange p) (first :: rest) plans) ∨
      (∃ problem, ofBatch (first :: rest) = .error (.batch problem)) ∨
      ∃ f, ofBatch (first :: rest) = .error (.fault f)) ∧
    ∀ f, ofBatch (first :: rest) = .error (.fault f) ↔ ∃ before b after,
      first :: rest = before ++ b :: after ∧
      (∀ b' ∈ before, ∃ p, ofBatchQuery first.timeRange b' = .ok p) ∧
      b.Upsets first.timeRange f := by
  rw [ofBatch_cons]
  constructor
  · cases h : (first :: rest).mapM (ofBatchQuery first.timeRange) with
    | ok plans =>
      have hplans := (mapM_eq_ok_iff _ _ _).mp h
      exact .inl ⟨plans, rfl, hplans.imp fun _ _ => isFor_ofBatchQuery⟩
    | error x =>
      obtain ⟨b, -, hb⟩ := exists_of_mapM_eq_error h
      have hsettles := settles_ofBatchQuery first.timeRange b
      rw [hb] at hsettles
      cases x with
      | batch problem => exact .inr (.inl ⟨problem, rfl⟩)
      | fault f => exact .inr (.inr ⟨f, rfl⟩)
      | cancelled point => cases hsettles
      | query problem => cases hsettles
      | credentials problem => cases hsettles
  · intro f
    simp only [mapM_eq_error_iff, (settles_ofBatchQuery _ _).fault_iff]

theorem firstSecond_le_lastSecond : Timestamp.firstSecond ≤ Timestamp.lastSecond := by decide

theorem no_micros_lt : 0 < 1000000 := by decide

/-- The first second of the calendar, on a clock that is an hour ahead of universal time. -/
def dawn : Timestamp :=
  ⟨Timestamp.firstSecond, 0, (some 3600).map (· * 1000000), Nat.le_refl _,
    firstSecond_le_lastSecond, no_micros_lt, Timestamp.seconds_offset_lt Timestamp.hour_offset_lt⟩

/-- A query that asks for the series of a metric. -/
def counted (start stop : Timestamp) (intervalMs : Int := 0) : BatchQuery where
  refId := "A"
  intervalMs := intervalMs
  timeRange := ⟨start, stop⟩
  payload := [("metricType", .text "count")]

/-- Batches of one query that are neither built nor refused: with an offset at only one end of the
range, from a time before the calendar, and with an interval at the ceiling. -/
theorem ofBatch_upset :
    ofBatch [counted (.unixStart none) (.unixStart (some 0))] = .error (.fault .mixedOffsets) ∧
    ofBatch [counted dawn (.unixStart (some 0))] = .error (.fault .dateOutOfRange) ∧
    ofBatch [counted (.unixStart (some 0)) (.unixStart (some 0)) (1000 * Binary64.ceiling : Nat)] =
      .error (.fault .quotientTooLarge) :=
  have hfault {b : BatchQuery} {f : Fault}
      (h : (ofBatch [b]).map (fun _ => ()) = .error (.fault f)) :
      ofBatch [b] = .error (.fault f) := map_eq_error_iff.mp h
  ⟨hfault (by decide +kernel), hfault (by decide +kernel), hfault (by decide +kernel)⟩

end QueryPlan

end MetricFrames
