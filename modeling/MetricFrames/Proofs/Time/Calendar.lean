import MetricFrames.Time.Calendar
import Mathlib.Tactic.IntervalCases

/-!
# Counting the days of the calendar

The number of a date is computed in closed form. Here the days before a date are counted by the
rules of the calendar, year by year and month by month (`daysBefore`). Both agree, the date with a
number is the one with as many days before it (`daysBefore_dateOf`), and fewer days come before the
earlier of two dates (`daysBefore_lt_iff`).
-/

namespace MetricFrames.Calendar

variable {d e : Date} {year month n : Nat}

/-! ### The count -/

/-- The length of a year. -/
def yearLength (year : Nat) : Nat := if isLeap year then 366 else 365

/-- The days before a year, from the year zero on. -/
def daysBeforeYear (year : Nat) : Nat := ((List.range year).map yearLength).sum

/-- The days of a year before a month. -/
def daysBeforeMonth (year month : Nat) : Nat :=
  ((List.range' 1 (month - 1)).map (monthLength year)).sum

/-- The days before a date, from the first of January of the year zero on. -/
def daysBefore (d : Date) : Nat :=
  daysBeforeYear d.year + daysBeforeMonth d.year d.month + (d.day - 1)

theorem daysBeforeYear_succ (year : Nat) :
    daysBeforeYear (year + 1) = daysBeforeYear year + yearLength year := by
  simp [daysBeforeYear, List.range_succ]

theorem daysBeforeMonth_succ (year : Nat) (h : 1 ≤ month) :
    daysBeforeMonth year (month + 1) = daysBeforeMonth year month + monthLength year month := by
  obtain ⟨k, rfl⟩ : ∃ k, month = k + 1 := ⟨month - 1, by omega⟩
  simp [daysBeforeMonth, List.range'_concat, Nat.add_comm]

theorem daysBeforeMonth_december (year : Nat) :
    daysBeforeMonth year 12 + monthLength year 12 = yearLength year := by
  unfold yearLength
  split <;> simp_all [daysBeforeMonth, List.range', monthLength]

theorem hasDay_iff {day : Nat} : hasDay ⟨year, month, day⟩ = true ↔
    1 ≤ month ∧ month ≤ 12 ∧ 1 ≤ day ∧ day ≤ monthLength year month := by
  simp [hasDay, and_assoc]

theorem one_le_monthLength (year month : Nat) : 1 ≤ monthLength year month := by
  unfold monthLength
  split
  · split <;> decide
  · split <;> decide

theorem monthLength_le (year month : Nat) : monthLength year month ≤ 31 := by
  unfold monthLength
  split
  · split <;> decide
  · split <;> decide

/-- Every day has a date: after the last one of a month comes the first one of the next month. -/
theorem exists_daysBefore_eq (n : Nat) : ∃ d, hasDay d = true ∧ daysBefore d = n := by
  induction n with
  | zero => exact ⟨⟨0, 1, 1⟩, by decide, rfl⟩
  | succ n ih =>
    obtain ⟨⟨year, month, day⟩, hd, rfl⟩ := ih
    obtain ⟨hmonth, hmonth', hday, hday'⟩ := hasDay_iff.mp hd
    by_cases hlast : day < monthLength year month
    · refine ⟨⟨year, month, day + 1⟩, hasDay_iff.mpr ⟨hmonth, hmonth', by omega, hlast⟩, ?_⟩
      simp only [daysBefore]
      omega
    · have hday'' : day = monthLength year month := by omega
      by_cases hdecember : month < 12
      · have hlength := one_le_monthLength year (month + 1)
        have hnext := daysBeforeMonth_succ year hmonth
        refine ⟨⟨year, month + 1, 1⟩, hasDay_iff.mpr ⟨by omega, hdecember, by omega, hlength⟩, ?_⟩
        simp only [daysBefore]
        omega
      · obtain rfl : month = 12 := by omega
        have hlength := one_le_monthLength (year + 1) 1
        have htotal := daysBeforeMonth_december year
        have hnext := daysBeforeYear_succ year
        have hfirst : daysBeforeMonth (year + 1) 1 = 0 := rfl
        refine ⟨⟨year + 1, 1, 1⟩, hasDay_iff.mpr ⟨by omega, by omega, by omega, hlength⟩, ?_⟩
        simp only [daysBefore]
        omega

/-! ### The closed form -/

theorem isLeap_iff : isLeap year = true ↔ year % 4 = 0 ∧ (year % 100 ≠ 0 ∨ year % 400 = 0) := by
  simp [isLeap]

theorem yearLength_add (year : Nat) : yearLength year + (if year % 100 = 0 then 1 else 0) =
    365 + (if year % 4 = 0 then 1 else 0) + if year % 400 = 0 then 1 else 0 := by
  unfold yearLength
  simp only [isLeap_iff]
  split <;> split <;> split <;> split <;> omega

/-- The leap days up to a year are counted by three quotients. -/
theorem daysBeforeYear_eq (year : Nat) :
    daysBeforeYear (year + 1) + year / 100 = 366 + 365 * year + year / 4 + year / 400 := by
  induction year with
  | zero => rfl
  | succ year ih =>
    have hfour : (year + 1) / 4 = year / 4 + if (year + 1) % 4 = 0 then 1 else 0 := by
      split <;> omega
    have hhundred : (year + 1) / 100 = year / 100 + if (year + 1) % 100 = 0 then 1 else 0 := by
      split <;> omega
    have hera : (year + 1) / 400 = year / 400 + if (year + 1) % 400 = 0 then 1 else 0 := by
      split <;> omega
    have hdays := yearLength_add (year + 1)
    rw [daysBeforeYear_succ, hfour, hhundred, hera]
    omega

theorem daysBeforeYear_thousand : daysBeforeYear 1000 = 365243 := by
  -- The sum is generalized before the arithmetic, which would evaluate it otherwise.
  show daysBeforeYear (999 + 1) = 365243
  have hclosed := daysBeforeYear_eq 999
  generalize daysBeforeYear (999 + 1) = days at hclosed ⊢
  omega

theorem daysBeforeYear_myriad : daysBeforeYear 10000 = 3652425 := by
  show daysBeforeYear (9999 + 1) = 3652425
  have hclosed := daysBeforeYear_eq 9999
  generalize daysBeforeYear (9999 + 1) = days at hclosed ⊢
  omega

/-- The days of the full eras, and of the full years of an era, before the first of March. -/
def daysBeforeMarch (year : Nat) : Nat :=
  year / 400 * 146097 + (year % 400 * 365 + year % 400 / 4 - year % 400 / 100)

theorem daysBeforeMarch_add (year : Nat) :
    daysBeforeMarch year + 366 = daysBeforeYear (year + 1) := by
  have hclosed := daysBeforeYear_eq year
  have hfour : year / 4 = 100 * (year / 400) + year % 400 / 4 := by omega
  have hhundred : year / 100 = 4 * (year / 400) + year % 400 / 100 := by omega
  have hyear : year = 400 * (year / 400) + year % 400 := by omega
  have hless : year % 400 / 100 ≤ year % 400 / 4 := by omega
  unfold daysBeforeMarch
  omega

theorem dayOf_eq (year month day : Nat) : dayOf ⟨year, month, day⟩ =
    if month ≤ 2 then daysBeforeMarch (year - 1) + ((153 * (month + 9) + 2) / 5 + day - 1)
    else daysBeforeMarch year + ((153 * (month - 3) + 2) / 5 + day - 1) := by
  unfold dayOf daysBeforeMarch
  dsimp only
  split <;> rfl

/-- From March on the months have 153 days in five, in every year. -/
theorem daysBeforeMonth_eq (year : Nat) (hmonth : 1 ≤ month) (hmonth' : month ≤ 12) :
    daysBeforeMonth year month =
      if month ≤ 2 then (153 * (month + 9) + 2) / 5 - 306
      else (153 * (month - 3) + 2) / 5 + 59 + if isLeap year then 1 else 0 := by
  cases hleap : isLeap year
  all_goals interval_cases month <;> simp [daysBeforeMonth, List.range', monthLength, hleap]

/-- January and February of the year zero come before all days that are numbered. -/
theorem exists_year_of_winter {day : Nat} (hd : hasDay ⟨year, month, day⟩ = true)
    (h : 60 ≤ daysBefore ⟨year, month, day⟩) (hwinter : month ≤ 2) : ∃ y, year = y + 1 := by
  obtain ⟨hmonth, -, hday, hlast⟩ := hasDay_iff.mp hd
  unfold daysBefore at h
  dsimp only at h
  cases year with
  | zero =>
    have hlength : daysBeforeMonth 0 month + monthLength 0 month ≤ 60 := by
      interval_cases month <;> decide
    have hzero : daysBeforeYear 0 = 0 := rfl
    omega
  | succ y => exact ⟨y, rfl⟩

theorem dayOf_add (hd : hasDay d = true) (h : 60 ≤ daysBefore d) : dayOf d + 60 = daysBefore d := by
  obtain ⟨year, month, day⟩ := d
  obtain ⟨hmonth, hmonth', hday, -⟩ := hasDay_iff.mp hd
  have hmonths := daysBeforeMonth_eq year hmonth hmonth'
  rw [dayOf_eq]
  unfold daysBefore
  dsimp only
  by_cases hwinter : month ≤ 2
  · obtain ⟨y, rfl⟩ := exists_year_of_winter hd h hwinter
    have hmarch := daysBeforeMarch_add y
    rw [if_pos hwinter] at hmonths ⊢
    rw [Nat.add_sub_cancel]
    omega
  · have hmarch := daysBeforeMarch_add year
    rw [daysBeforeYear_succ, yearLength] at hmarch
    rw [if_neg hwinter] at hmonths ⊢
    split at hmonths
    · next hleap =>
      rw [if_pos hleap] at hmarch
      omega
    · next hleap =>
      rw [if_neg hleap] at hmarch
      omega

/-! ### The date with a number -/

/-- The year of a day in an era: the days too many are those of leap years, less those of
centuries, and that of the era. -/
theorem yearOfEra_eq {y day e : Nat} (hy : y < 400) (hday : day ≤ 365)
    (hlast : day = 365 → isLeap (y + 1) = true) (he : e = y * 365 + y / 4 - y / 100 + day) :
    (e - e / 1460 + e / 36524 - e / 146096) / 365 = y := by
  obtain ⟨c, q, z, hyear, hc, hq, hz⟩ : ∃ c q z, y = 100 * c + 4 * q + z ∧ c ≤ 3 ∧ q ≤ 24 ∧ z ≤ 3 :=
    ⟨y / 100, y % 100 / 4, y % 4, by omega, by omega, by omega, by omega⟩
  have hleap : day = 365 → z = 3 ∧ (q = 24 → c = 3) := by
    intro hfull
    have hiff := isLeap_iff.mp (hlast hfull)
    omega
  have he' : e = 36524 * c + 1461 * q + 365 * z + day := by omega
  have hera : e / 146096 = if e = 146096 then 1 else 0 := by
    split <;> omega
  have hcentury : e / 36524 = c + if e = 146096 then 1 else 0 := by
    split <;> omega
  have hfour : e / 1460 = 25 * c + q + if 1460 ≤ 24 * c + q + 365 * z + day then 1 else 0 := by
    split <;> omega
  clear he hlast
  split at hera <;> split at hfour <;> omega

/-- The date with a number is found by its year from March on. -/
theorem dateOf_daysBeforeMarch {year m day : Nat} (hm : m ≤ 11) (hday : 1 ≤ day)
    (hmonth : (153 * m + 2) / 5 + day ≤ (153 * (m + 1) + 2) / 5)
    (hyear : (153 * m + 2) / 5 + day ≤ yearLength (year + 1)) :
    dateOf (daysBeforeMarch year + ((153 * m + 2) / 5 + day - 1)) =
      if m < 10 then ⟨year, m + 3, day⟩ else ⟨year + 1, m - 9, day⟩ := by
  have hlast : (153 * m + 2) / 5 + day - 1 ≤ 365 ∧
      ((153 * m + 2) / 5 + day - 1 = 365 → isLeap (year % 400 + 1) = true) := by
    unfold yearLength at hyear
    split at hyear
    · next hleap =>
      refine ⟨by omega, fun _ => ?_⟩
      rw [isLeap_iff] at hleap ⊢
      omega
    · exact ⟨by omega, by omega⟩
  have hm' : (5 * ((153 * m + 2) / 5 + day - 1) + 2) / 153 = m := by omega
  have hday' : (153 * m + 2) / 5 + day - 1 - (153 * m + 2) / 5 + 1 = day := by omega
  have hyear' : year / 400 * 400 + year % 400 = year := Nat.div_add_mod' year 400
  have hless : year % 400 < 400 := Nat.mod_lt year (by decide)
  unfold daysBeforeMarch
  generalize (153 * m + 2) / 5 + day - 1 = inYear at hlast hm' hday' ⊢
  generalize year / 400 = era at hyear' ⊢
  generalize year % 400 = y at hlast hyear' hless ⊢
  have hnumber : ∀ e, e = y * 365 + y / 4 - y / 100 + inYear →
      dateOf (era * 146097 + e) =
        if m < 10 then ⟨year, m + 3, day⟩ else ⟨year + 1, m - 9, day⟩ := by
    intro e he
    have hsmall : e < 146097 := by omega
    have hquot : (era * 146097 + e) / 146097 = era := by omega
    have hrest : (era * 146097 + e) % 146097 = e := by omega
    have hinYear : e - (365 * y + y / 4 - y / 100) = inYear := by omega
    unfold dateOf
    rw [hquot, hrest]
    dsimp only
    rw [yearOfEra_eq hless hlast.1 hlast.2 he, hinYear, hm', hday', hyear']
  rw [Nat.add_assoc]
  exact hnumber _ rfl

theorem dateOf_dayOf (hd : hasDay d = true) (h : 60 ≤ daysBefore d) : dateOf (dayOf d) = d := by
  obtain ⟨year, month, day⟩ := d
  obtain ⟨hmonth, hmonth', hday, hlength⟩ := hasDay_iff.mp hd
  rw [dayOf_eq]
  by_cases hwinter : month ≤ 2
  · obtain ⟨y, rfl⟩ := exists_year_of_winter hd h hwinter
    have hend : (153 * (month + 9) + 2) / 5 + monthLength (y + 1) month ≤
        min ((153 * (month + 9 + 1) + 2) / 5) (yearLength (y + 1)) := by
      unfold yearLength
      cases hleap : isLeap (y + 1)
      all_goals interval_cases month <;> simp [monthLength, hleap]
    rw [if_pos hwinter, Nat.add_sub_cancel,
      dateOf_daysBeforeMarch (by omega) hday (by omega) (by omega), if_neg (by omega)]
    rfl
  · have hend : (153 * (month - 3) + 2) / 5 + monthLength year month ≤
        min ((153 * (month - 3 + 1) + 2) / 5) 365 := by
      interval_cases month <;> simp [monthLength] at hwinter ⊢
    have hyear : 365 ≤ yearLength (year + 1) := by
      unfold yearLength
      split <;> decide
    rw [if_neg hwinter, dateOf_daysBeforeMarch (by omega) hday (by omega) (by omega),
      if_pos (by omega), Nat.sub_add_cancel (by omega)]

/-- The date with a number exists, and it has that many days before it, from the first of March of
the year zero on. -/
theorem daysBefore_dateOf (n : Nat) :
    hasDay (dateOf n) = true ∧ daysBefore (dateOf n) = n + 60 := by
  obtain ⟨d, hd, hdays⟩ := exists_daysBefore_eq (n + 60)
  have hnumber := dayOf_add hd (by omega)
  have hdate := dateOf_dayOf hd (by omega)
  have hn : dayOf d = n := by omega
  rw [← hn, hdate]
  exact ⟨hd, by omega⟩

/-! ### The order of dates -/

/-- Whether a date comes before another one: by the year, then the month, then the day. -/
def Precedes (d e : Date) : Prop :=
  d.year < e.year ∨ d.year = e.year ∧ (d.month < e.month ∨ d.month = e.month ∧ d.day < e.day)

theorem daysBeforeYear_add_le {year' : Nat} (h : year < year') :
    daysBeforeYear year + yearLength year ≤ daysBeforeYear year' := by
  induction year', h using Nat.le_induction with
  | base => exact Nat.le_of_eq (daysBeforeYear_succ year).symm
  | succ year' _ ih =>
    rw [daysBeforeYear_succ]
    omega

theorem daysBeforeMonth_add_le (year : Nat) {month' : Nat} (hmonth : 1 ≤ month)
    (h : month < month') :
    daysBeforeMonth year month + monthLength year month ≤ daysBeforeMonth year month' := by
  induction month', h using Nat.le_induction with
  | base => exact Nat.le_of_eq (daysBeforeMonth_succ year hmonth).symm
  | succ month' hle ih =>
    rw [daysBeforeMonth_succ year (by omega)]
    omega

theorem daysBefore_lt (hd : hasDay d = true) (he : hasDay e = true) (h : Precedes d e) :
    daysBefore d < daysBefore e := by
  obtain ⟨year, month, day⟩ := d
  obtain ⟨year', month', day'⟩ := e
  obtain ⟨hmonth, hmonth', hday, hlast⟩ := hasDay_iff.mp hd
  obtain ⟨-, -, hday', -⟩ := hasDay_iff.mp he
  unfold Precedes at h
  unfold daysBefore
  dsimp only at h ⊢
  rcases h with hyear | ⟨rfl, hmonths | ⟨rfl, hdays⟩⟩
  · have hyears := daysBeforeYear_add_le hyear
    have htotal := daysBeforeMonth_december year
    rcases Nat.lt_or_eq_of_le hmonth' with hearly | rfl
    · have hmonths := daysBeforeMonth_add_le year hmonth hearly
      omega
    · omega
  · have hle := daysBeforeMonth_add_le year hmonth hmonths
    omega
  · omega

/-- Fewer days come before the earlier date. -/
theorem daysBefore_lt_iff (hd : hasDay d = true) (he : hasDay e = true) :
    daysBefore d < daysBefore e ↔ Precedes d e := by
  refine ⟨fun h => ?_, daysBefore_lt hd he⟩
  by_contra hnot
  have hback : Precedes e d ∨ e = d := by
    obtain ⟨year, month, day⟩ := d
    obtain ⟨year', month', day'⟩ := e
    unfold Precedes at hnot ⊢
    rw [Date.mk.injEq]
    dsimp only at hnot ⊢
    omega
  rcases hback with hback | rfl
  · exact Nat.lt_asymm h (daysBefore_lt he hd hback)
  · exact Nat.lt_irrefl _ h

/-- As many days as come before a year are reached in that year. -/
theorem daysBeforeYear_le_iff (hd : hasDay d = true) :
    daysBeforeYear year ≤ daysBefore d ↔ year ≤ d.year := by
  have hfirst : hasDay ⟨year, 1, 1⟩ = true :=
    hasDay_iff.mpr ⟨by omega, by omega, by omega, one_le_monthLength year 1⟩
  have hcount : daysBefore ⟨year, 1, 1⟩ = daysBeforeYear year := rfl
  have hiff := daysBefore_lt_iff hd hfirst
  obtain ⟨year', month', day'⟩ := d
  obtain ⟨hmonth, -, hday, -⟩ := hasDay_iff.mp hd
  rw [hcount] at hiff
  unfold Precedes at hiff
  dsimp only at hiff ⊢
  omega

end MetricFrames.Calendar
