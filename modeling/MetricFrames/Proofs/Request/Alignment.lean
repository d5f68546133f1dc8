import MetricFrames.Plan.Basic
import MetricFrames.Proofs.Binary64.Quotients
import MetricFrames.Proofs.Data.Stepwise
import MetricFrames.Request.Alignment

/-!
# Automatic alignment

The automatic period is computed in double precision: the interval is divided, the quotient
compared with a minute, and its fraction dropped. Up to 53 bits this is the exact division of
integers (`ofInterval_eq`), so longer intervals never get shorter periods, and from a minute on the
period is the width that points have in the query language (`period_automatic`).
-/

namespace MetricFrames.Alignment

-- Powers of naturals are those of the core library, whatever else is in scope.
attribute [local instance (high)] instPowNat

variable {chosen : String} {intervalMs : Int}

theorem toInteger_atLeastMinute {x : Binary64} {k : Int} (h : x.toInteger = .ok k) :
    (atLeastMinute x).toInteger = .ok (max k 60) := by
  have hleast : Binary64.ofInt leastSeconds = .finite false (60 * Binary64.one) _ :=
    Binary64.ofInt_natCast (n := 60) (by decide)
  have hminute : (Binary64.ofInt leastSeconds).toInteger = .ok 60 := by
    rw [hleast, Binary64.toInteger, Nat.mul_div_cancel _ Binary64.one_pos]
    rfl
  cases x with
  | nan => cases h
  | infinite negative => cases h
  | finite negative units fits =>
    have hdiv : units / Binary64.one < 60 ↔ units < 60 * Binary64.one :=
      Nat.div_lt_iff_lt_mul Binary64.one_pos
    have hone := Binary64.one_pos
    have hk : (if negative = true then -((units / Binary64.one : Nat) : Int)
        else (units / Binary64.one : Nat)) = k := Except.ok.inj h
    generalize units / Binary64.one = whole at hdiv hk
    have hless : (Binary64.finite negative units fits).lt (.ofInt leastSeconds) = true ↔
        k < 60 := by
      rw [hleast, Binary64.lt, decide_eq_true_eq]
      cases negative with
      | false =>
        simp only [Binary64.signed, Bool.false_eq_true, if_false] at hk ⊢
        omega
      | true =>
        simp only [Binary64.signed, Bool.false_eq_true, if_false, if_true] at hk ⊢
        omega
    rw [atLeastMinute]
    split
    · next hshort =>
      rw [hminute, max_eq_right (Int.le_of_lt (hless.mp hshort))]
    · next hlong =>
      rw [h, max_eq_left (Int.not_lt.mp (mt hless.mpr hlong))]

/-- The period that follows from an interval is that of the exact division. -/
theorem ofInterval_eq (h : intervalMs.natAbs ≤ 2 ^ (53 : Nat)) :
    ofInterval intervalMs = .ok (max (intervalMs / 1000) 60) := by
  obtain ⟨x, hquotient, hx⟩ := Binary64.toInteger_quotient (show 0 < 1000 by decide) h
  have htdiv := Binary64.tdiv_eq_natAbs_div intervalMs 1000
  have hmax : max (intervalMs.tdiv (1000 : Nat)) 60 = max (intervalMs / 1000) 60 := by
    split at htdiv <;> omega
  rw [ofInterval, hquotient, ← hmax]
  exact toInteger_atLeastMinute hx

/-- Whether the period follows from the interval of the panel. -/
def IsAutomatic (chosen : String) : Prop := chosen = "grafana-auto" ∨ chosen = ""

theorem period_of_isAutomatic (hchosen : IsAutomatic chosen)
    (h : intervalMs.natAbs ≤ 2 ^ (53 : Nat)) (seconds : Int) :
    period chosen intervalMs seconds = .ok (secondsText (max (intervalMs / 1000) 60)) := by
  unfold IsAutomatic at hchosen
  rw [period, if_pos hchosen, ofInterval_eq h]
  rfl

/-- An automatic period is the interval in whole seconds, but at least a minute, whatever the range
of time. So it never goes down when the interval goes up, and from a minute on it is the width that
the interval gives the points of a written query. -/
theorem period_automatic (hchosen : IsAutomatic chosen) :
    (∀ intervalMs seconds : Int, intervalMs.natAbs ≤ 2 ^ (53 : Nat) →
      period chosen intervalMs seconds =
        .ok ("+" ++ toString (max (intervalMs / 1000) 60) ++ "s")) ∧
    (∀ shorter longer seconds seconds' : Int, shorter.natAbs ≤ 2 ^ (53 : Nat) →
      longer.natAbs ≤ 2 ^ (53 : Nat) → shorter ≤ longer → ∃ p q : Int, p ≤ q ∧
        period chosen shorter seconds = .ok (secondsText p) ∧
        period chosen longer seconds' = .ok (secondsText q)) ∧
    ∀ (range : TimeRange) (intervalMs seconds maxDataPoints : Int),
      intervalMs.natAbs ≤ 2 ^ (53 : Nat) → 60000 ≤ intervalMs →
        period chosen intervalMs seconds = .ok (secondsText (intervalMs / 1000)) ∧
        QueryPlan.graphPeriodSeconds range intervalMs maxDataPoints =
          if 0 < maxDataPoints then
            range.seconds.map fun duration => max (intervalMs / 1000) (duration.fdiv maxDataPoints)
          else .ok (intervalMs / 1000) := by
  refine ⟨?_, ?_, ?_⟩
  · intro intervalMs seconds h
    exact period_of_isAutomatic hchosen h seconds
  · intro shorter longer seconds seconds' hshorter hlonger hle
    refine ⟨max (shorter / 1000) 60, max (longer / 1000) 60, ?_, ?_, ?_⟩
    · omega
    · exact period_of_isAutomatic hchosen hshorter seconds
    · exact period_of_isAutomatic hchosen hlonger seconds'
  · intro range intervalMs seconds maxDataPoints h hminute
    have hlong : max (intervalMs / 1000) 60 = intervalMs / 1000 := by omega
    have hlong' : max (intervalMs / 1000) 1 = intervalMs / 1000 := by omega
    refine ⟨?_, ?_⟩
    · rw [period_of_isAutomatic hchosen h seconds, hlong]
    · unfold QueryPlan.graphPeriodSeconds
      rw [hlong']

/-- The last interval of the range that misses a whole second by a thousandth is not rounded up. -/
theorem period_automatic_thousandth :
    IsAutomatic "grafana-auto" ∧ (9007199254739999 : Int).natAbs ≤ 2 ^ (53 : Nat) ∧
    period "grafana-auto" 9007199254739999 3600 = .ok "+9007199254739s" := by
  have hchosen : IsAutomatic "grafana-auto" := .inl rfl
  obtain ⟨hperiod, -, -⟩ := period_automatic hchosen
  have hbits : (9007199254739999 : Int).natAbs ≤ 2 ^ (53 : Nat) := by decide
  exact ⟨hchosen, hbits, hperiod 9007199254739999 3600 hbits⟩

theorem period_ne_empty {seconds : Int} {text : String}
    (h : period chosen intervalMs seconds = .ok text) : text ≠ "" := by
  rw [period] at h
  split at h
  · obtain ⟨k, -, rfl⟩ := exists_of_map_eq_ok h
    intro hempty
    have hlength := congrArg String.length hempty
    simp only [secondsText, String.length_append] at hlength
    have hplus : "+".length = 1 := rfl
    have hnone : "".length = 0 := rfl
    omega
  · next hnot =>
    split at h
    · cases h
      unfold ofDuration
      dsimp only
      split
      · decide
      · split <;> decide
    · cases h
      exact fun hempty => hnot (.inr hempty)

end MetricFrames.Alignment
