import MetricFrames.Proofs.Plan.Outcomes

/-!
# The automatic width of points

A written query that does not set the width of its points gets one: the interval in whole seconds,
or more if the range would otherwise hold too many points. The quotient of the range and the number
of points is rounded down, so the width may be less than what these points need: it is enough
exactly if the number of points divides the range, or the interval alone is enough
(`graphPeriodClause_automatic`).
-/

namespace MetricFrames

/-! ### Ranges of whole seconds -/

/-- Whether a range lasts exactly so many seconds. -/
def TimeRange.Lasts (r : TimeRange) (duration : Int) : Prop :=
  r.Comparable ∧ r.stop.instantMicros - r.start.instantMicros = duration * 1000000

theorem TimeRange.seconds_of_lasts {r : TimeRange} {duration : Int} (h : r.Lasts duration) :
    r.seconds = .ok duration := by
  obtain ⟨hcomparable, hmicros⟩ := h
  have hsmall : duration.natAbs < 2 ^ (53 : Nat) := by
    have hstart := r.start.le_lastSecond
    have hstop := r.stop.le_lastSecond
    have hstart' := r.start.offset_lt
    have hstop' := r.stop.offset_lt
    have hstart'' := r.start.micros_lt
    have hstop'' := r.stop.micros_lt
    have hlast : Timestamp.lastSecond ≤ 1000000000000 := by decide
    simp only [Timestamp.instantMicros, Timestamp.dayMicros] at *
    omega
  have hquotient := Binary64.quotient_mul (i := duration) (show 0 < 1000000 by decide) hsmall
  unfold Comparable at hcomparable
  rw [seconds, Timestamp.secondsUntil, if_pos hcomparable, hmicros]
  show (Binary64.quotient (duration * (1000000 : Nat)) 1000000).bind Binary64.toInteger = _
  rw [hquotient]
  exact Binary64.toInteger_mul_one (Binary64.fits_mul_one hsmall)

/-! ### The width -/

namespace QueryPlan

variable {range : TimeRange} {duration maxDataPoints : Int} {query graphPeriod : String}

/-- The width that the interval alone gives. -/
def intervalSeconds (intervalMs : Int) : Int := max (intervalMs / 1000) 1

theorem le_mul_max_ediv_iff {base m d : Int} (hm : 0 < m) :
    d ≤ max base (d / m) * m ↔ m ∣ d ∨ d ≤ base * m := by
  have hdiv : d / m * m + d % m = d := Int.ediv_mul_add_emod d m
  have hmod : 0 ≤ d % m := Int.emod_nonneg d (Int.ne_of_gt hm)
  constructor
  · intro h
    rcases le_total base (d / m) with hle | hle
    · rw [max_eq_right hle] at h
      have hzero : d % m = 0 := by omega
      exact .inl (Int.dvd_of_emod_eq_zero hzero)
    · rw [max_eq_left hle] at h
      exact .inr h
  · rintro (hdvd | h)
    · have hzero : d % m = 0 := Int.emod_eq_zero_of_dvd hdvd
      have hstep : d / m * m ≤ max base (d / m) * m :=
        Int.mul_le_mul_of_nonneg_right (le_max_right _ _) (Int.le_of_lt hm)
      omega
    · exact h.trans (Int.mul_le_mul_of_nonneg_right (le_max_left _ _) (Int.le_of_lt hm))

theorem graphPeriodSeconds_of_lasts (intervalMs : Int) (hrange : range.Lasts duration)
    (hmax : 0 < maxDataPoints) :
    graphPeriodSeconds range intervalMs maxDataPoints =
      .ok (max (intervalSeconds intervalMs) (duration / maxDataPoints)) := by
  rw [graphPeriodSeconds, if_pos hmax, TimeRange.seconds_of_lasts hrange]
  rw [← Int.fdiv_eq_ediv_of_nonneg duration (Int.le_of_lt hmax)]
  rfl

/-- A query that leaves the width of its points open gets a width of a second or more. Over a range
of whole seconds it falls short of the points that are allowed by less than a second each, and it is
enough for them exactly if their number divides the range or the interval alone is enough. -/
theorem graphPeriodClause_automatic (intervalMs : Int)
    (hperiod : graphPeriod = "" ∨ graphPeriod = "auto")
    (hquery : Text.contains "graph_period".toList query.toList = false)
    (hrange : range.Lasts duration) (hmax : 0 < maxDataPoints) :
    ∃ period : Int,
      graphPeriodClause range intervalMs query graphPeriod maxDataPoints =
        .ok (" | graph_period " ++ toString period ++ "s") ∧
      1 ≤ period ∧ duration < (period + 1) * maxDataPoints ∧
      (duration ≤ period * maxDataPoints ↔
        maxDataPoints ∣ duration ∨ duration ≤ intervalSeconds intervalMs * maxDataPoints) := by
  have hopen : ¬ (graphPeriod = "disabled" ∨
      Text.contains "graph_period".toList query.toList = true) := by
    rw [hquery]
    rcases hperiod with rfl | rfl <;> decide
  refine ⟨max (intervalSeconds intervalMs) (duration / maxDataPoints), ?_, ?_, ?_, ?_⟩
  · rw [graphPeriodClause, if_neg hopen, if_pos hperiod,
      graphPeriodSeconds_of_lasts intervalMs hrange hmax]
    rfl
  · have hone : 1 ≤ intervalSeconds intervalMs := le_max_right _ _
    exact hone.trans (le_max_left _ _)
  · have hdiv : duration / maxDataPoints * maxDataPoints + duration % maxDataPoints = duration :=
      Int.ediv_mul_add_emod duration maxDataPoints
    have hmod := Int.emod_lt_of_pos duration hmax
    have hstep : duration / maxDataPoints * maxDataPoints ≤
        max (intervalSeconds intervalMs) (duration / maxDataPoints) * maxDataPoints :=
      Int.mul_le_mul_of_nonneg_right (le_max_right _ _) (Int.le_of_lt hmax)
    rw [Int.add_mul, Int.one_mul]
    omega
  · exact le_mul_max_ediv_iff hmax

theorem firstSecond_le_hour : Timestamp.firstSecond ≤ Timestamp.epochSecond + 3600 := by decide

theorem hour_le_lastSecond : Timestamp.epochSecond + 3600 ≤ Timestamp.lastSecond := by decide

/-- The first hour of Unix time. -/
def firstHour : TimeRange where
  start := .unixStart (some 0)
  stop := ⟨Timestamp.epochSecond + 3600, 0, some 0, firstSecond_le_hour, hour_le_lastSecond,
    no_micros_lt, Timestamp.seconds_offset_lt Timestamp.zero_offset_lt⟩

theorem lasts_firstHour : firstHour.Lasts 3600 := by
  refine ⟨rfl, ?_⟩
  simp only [firstHour, Timestamp.unixStart, Timestamp.instantMicros, Option.map_some,
    Option.getD_some]
  omega

/-- Ten points over an hour get six minutes each. -/
theorem graphPeriodClause_automatic_hour :
    firstHour.Lasts 3600 ∧ Text.contains "graph_period".toList "fetch gce_instance".toList = false ∧
    ∃ period : Int, graphPeriodClause firstHour 60000 "fetch gce_instance" "" 10 =
        .ok (" | graph_period " ++ toString period ++ "s") ∧ (3600 : Int) ≤ period * 10 := by
  have hquery : Text.contains "graph_period".toList "fetch gce_instance".toList = false := by
    decide +kernel
  obtain ⟨period, hclause, -, -, hiff⟩ := graphPeriodClause_automatic 60000 (.inl rfl) hquery
    lasts_firstHour (show (0 : Int) < 10 by decide)
  exact ⟨lasts_firstHour, hquery, period, hclause, hiff.mpr (.inl (by decide))⟩

/-- Seven points over an hour get 514 seconds each, which leaves two seconds for an eighth one. -/
theorem graphPeriodClause_exceeds :
    firstHour.Lasts 3600 ∧ Text.contains "graph_period".toList "fetch gce_instance".toList = false ∧
    graphPeriodClause firstHour 60000 "fetch gce_instance" "" 7 = .ok " | graph_period 514s" ∧
    ¬ (3600 : Int) ≤ 514 * 7 := by
  refine ⟨lasts_firstHour, by decide +kernel, ?_, by decide⟩
  rw [graphPeriodClause, if_neg (by decide +kernel), if_pos (.inl rfl),
    graphPeriodSeconds_of_lasts 60000 lasts_firstHour (by decide)]
  decide +kernel

end QueryPlan
end MetricFrames
