import Mathlib.Data.Rat.Cast.Order
import MetricFrames.Proofs.Text.Padding
import MetricFrames.Proofs.Time.Calendar

/-!
# Request times denote instants

Here a text of RFC 3339 is given the instant it denotes (`Rfc3339.instant?`), and a timestamp the
second of universal time in which it lies, counted by the rules of the calendar from what the wall
shows (`Timestamp.civilSecond`); a wall may show every date and time (`Timestamp.exists_ofDate?`).
The text that a request carries denotes exactly that second, and such texts have the order of their
seconds (`Timestamp.rfc3339_denotes`).
-/

namespace MetricFrames

/-! ### What a text denotes -/

namespace Rfc3339

open Timestamp (readWidth? readChar? readDate?)

/-- Reads `HH:MM` as a count of minutes. -/
def readMinutes? (s : List Char) : Option (Nat × List Char) := do
  let (hour, s) ← readWidth? 2 0 s
  let (minute, s) ← (readChar? ':' s).bind (readWidth? 2 0)
  if hour ≤ 23 ∧ minute ≤ 59 then some (hour * 60 + minute, s) else none

/-- Reads the fraction of a second, if there is a point. -/
def readFraction? : List Char → Option (ℚ × List Char)
  | '.' :: s =>
    let (ds, rest) := Binary64.spanDigits s
    if ds.isEmpty then none else some (Binary64.digitsFrom 0 ds / 10 ^ ds.length, rest)
  | s => some (0, s)

/-- Reads an offset in minutes up to the end of the text. -/
def readOffset? : List Char → Option Int
  | ['Z'] => some 0
  | ['z'] => some 0
  | sign :: s => do
    let (minutes, s) ← readMinutes? s
    if s.isEmpty then
      if sign = '+' then some minutes else if sign = '-' then some (-minutes) else none
    else none
  | [] => none

/-- The instant that a text denotes, in seconds from the beginning of the year zero. A leap second
denotes none. -/
def instant? (s : List Char) : Option ℚ := do
  let (date, s) ← readDate? s
  let (minutes, s) ← (readChar? 'T' s <|> readChar? 't' s).bind readMinutes?
  let (second, s) ← (readChar? ':' s).bind (readWidth? 2 0)
  let (fraction, s) ← readFraction? s
  let offset ← readOffset? s
  if second ≤ 59 then
    some ((Calendar.daysBefore date * 86400 + minutes * 60 + second : Nat) + fraction -
      (offset * 60 : Int))
  else none

end Rfc3339

namespace Timestamp

variable {t u v : Timestamp}

/-- The microseconds of universal time from the beginning of the year zero, counted by the rules of
the calendar. -/
def civilMicros (t : Timestamp) : Int :=
  ((Calendar.daysBefore t.date * 86400 + t.secondOfDay) * 1000000 + t.micros : Nat) -
    t.offset.getD 0

/-- The second of universal time from the beginning of the year zero. -/
def civilSecond (t : Timestamp) : Int := t.civilMicros / 1000000

/-- Whether the instant lies in the years 1000 to 9999 of universal time. -/
def HasFourDigitYear (t : Timestamp) : Prop :=
  (Calendar.daysBeforeYear 1000 * 86400 : Nat) ≤ t.civilSecond ∧
    t.civilSecond < (Calendar.daysBeforeYear 10000 * 86400 : Nat)

/-! ### What the wall shows -/

theorem hasDay_date (t : Timestamp) : Calendar.hasDay t.date = true :=
  (Calendar.daysBefore_dateOf _).1

theorem secondOfDay_lt (t : Timestamp) : t.secondOfDay < 86400 := Nat.mod_lt _ (by decide)

theorem daysBefore_date (t : Timestamp) :
    Calendar.daysBefore t.date * 86400 + t.secondOfDay = t.wall + 5184000 := by
  unfold date secondOfDay
  rw [(Calendar.daysBefore_dateOf _).2]
  unfold Calendar.daySeconds
  omega

/-- Every date and time of day with an offset is what the wall of a timestamp shows. -/
theorem exists_ofDate? {d : Date} {second micros : Nat} {offset : Option Int}
    (hd : Calendar.isValid d = true) (hsecond : second < 86400) (hmicros : micros < 1000000)
    (hoffset : (offset.getD 0).natAbs < dayMicros) : ∃ t, ofDate? d second micros offset = some t ∧
      t.date = d ∧ t.secondOfDay = second ∧ t.micros = micros ∧ t.offset = offset := by
  obtain ⟨⟨hyear, hyear'⟩, hday⟩ : (1 ≤ d.year ∧ d.year ≤ 9999) ∧ Calendar.hasDay d = true := by
    simpa [Calendar.isValid] using hd
  have hfirst := (Calendar.daysBeforeYear_le_iff hday).mpr hyear
  have hlast : Calendar.daysBefore d < 3652425 := by
    by_contra hlate
    rw [← Calendar.daysBeforeYear_myriad, not_lt, Calendar.daysBeforeYear_le_iff hday] at hlate
    omega
  have hone : Calendar.daysBeforeYear 1 = 366 := rfl
  have hnumber := Calendar.dayOf_add hday (by omega)
  have hquot : (Calendar.dayOf d * 86400 + second) / 86400 = Calendar.dayOf d := by omega
  have hrange : firstSecond ≤ Calendar.dayOf d * 86400 + second ∧
      Calendar.dayOf d * 86400 + second ≤ lastSecond := by
    unfold firstSecond lastSecond Calendar.firstDay Calendar.lastDay Calendar.daySeconds
    omega
  refine ⟨_, dif_pos ⟨hrange.1, hrange.2, hmicros, hoffset⟩, ?_, ?_, rfl, rfl⟩
  · unfold date Calendar.daySeconds
    dsimp only
    rw [hquot, Calendar.dateOf_dayOf hday (by omega)]
  · unfold secondOfDay Calendar.daySeconds
    dsimp only
    omega

/-! ### Conversion to universal time -/

theorem civilSecond_eq (t : Timestamp) : t.civilSecond = t.instant + 5184000 := by
  unfold civilSecond civilMicros instant instantMicros
  rw [daysBefore_date]
  omega

theorem hasFourDigitYear_iff :
    t.HasFourDigitYear ↔ 31551811200 ≤ t.instant ∧ t.instant < 315564336000 := by
  unfold HasFourDigitYear
  rw [civilSecond_eq, Calendar.daysBeforeYear_thousand, Calendar.daysBeforeYear_myriad]
  omega

/-- A clock of universal time exists for an instant of these years, and its wall shows the year in
four digits. -/
theorem exists_toUniversal (h : t.HasFourDigitYear) : ∃ u, t.toUniversal = .ok u ∧
    t.civilSecond = u.wall + 5184000 ∧ 1000 ≤ u.date.year ∧ u.date.year < 10000 := by
  obtain ⟨hfirst, hlast⟩ := hasFourDigitYear_iff.mp h
  have hsecond := civilSecond_eq t
  have hrange : (firstSecond : Int) ≤ t.instant ∧ t.instant ≤ lastSecond := by
    unfold firstSecond lastSecond Calendar.firstDay Calendar.lastDay Calendar.daySeconds
    omega
  obtain ⟨u, hu, hwall⟩ : ∃ u, t.toUniversal = .ok u ∧ u.wall = t.instant.toNat :=
    ⟨_, dif_pos hrange, rfl⟩
  have hday := daysBefore_date u
  have hclock := secondOfDay_lt u
  refine ⟨u, hu, by omega, ?_, Nat.not_le.mp fun hyear => ?_⟩
  · refine (Calendar.daysBeforeYear_le_iff (hasDay_date u)).mp ?_
    rw [Calendar.daysBeforeYear_thousand]
    omega
  · have hreached := (Calendar.daysBeforeYear_le_iff (hasDay_date u)).mpr hyear
    rw [Calendar.daysBeforeYear_myriad] at hreached
    omega

/-! ### Reading what is written -/

theorem readWidth?_mark (mark : Char) {n : Nat} (h : n < 100) (s : List Char) :
    (readChar? mark (mark :: (padded 2 n ++ s))).bind (readWidth? 2 0) = some (n, s) := by
  rw [readChar?, if_pos rfl, Option.bind_some, readWidth?_padded 2 (by decide) h]

theorem readDate?_dateText {d : Date} (hd : Calendar.hasDay d = true) (hyear : 1000 ≤ d.year)
    (hyear' : d.year < 10000) (s : List Char) :
    readDate? (dateText 0 '-' d ++ s) = some (d, s) := by
  obtain ⟨year, month, day⟩ := d
  obtain ⟨-, hmonth, -, hday⟩ := Calendar.hasDay_iff.mp hd
  have hlength := Calendar.monthLength_le year month
  have hfour : padded 0 year = padded 4 year := padded_zero_eq 3 hyear
  unfold dateText readDate?
  simp only [List.append_assoc, List.cons_append, hfour]
  simp only [readWidth?_padded 4 (by decide) hyear',
    readWidth?_mark '-' (n := month) (by omega), readWidth?_mark '-' (n := day) (by omega),
    Option.bind_eq_bind, Option.bind_some, hd, if_true]

theorem readMinutes?_padded {hour minute : Nat} (hhour : hour ≤ 23) (hminute : minute ≤ 59)
    (s : List Char) : Rfc3339.readMinutes? (padded 2 hour ++ ':' :: (padded 2 minute ++ s)) =
      some (hour * 60 + minute, s) := by
  unfold Rfc3339.readMinutes?
  simp only [readWidth?_padded 2 (n := hour) (by decide) (by omega),
    readWidth?_mark ':' (n := minute) (by omega), Option.bind_eq_bind, Option.bind_some]
  exact if_pos ⟨hhour, hminute⟩

theorem instant?_requestText (hyear : 1000 ≤ u.date.year) (hyear' : u.date.year < 10000) :
    Rfc3339.instant? u.requestText = some ((u.wall + 5184000 : Nat) : ℚ) := by
  have hclock := secondOfDay_lt u
  have hseparator : ∀ s, (readChar? 'T' ('T' :: s) <|> readChar? 't' ('T' :: s)).bind
      Rfc3339.readMinutes? = Rfc3339.readMinutes? s := fun _ => rfl
  have hhour : u.secondOfDay / 3600 ≤ 23 := by omega
  have hminute : u.secondOfDay / 60 % 60 ≤ 59 := by omega
  have hsecond : u.secondOfDay % 60 ≤ 59 := by omega
  have hfraction : Rfc3339.readFraction? ['Z'] = some (0, ['Z']) := rfl
  have hoffset : Rfc3339.readOffset? ['Z'] = some 0 := rfl
  have hcount : (u.secondOfDay / 3600 * 60 + u.secondOfDay / 60 % 60) * 60 + u.secondOfDay % 60 =
      u.secondOfDay := by
    omega
  unfold requestText clockText Rfc3339.instant?
  simp only [List.append_assoc, List.cons_append, Option.bind_eq_bind,
    Option.bind_some, readDate?_dateText (hasDay_date u) hyear hyear', hseparator,
    readMinutes?_padded hhour hminute, readWidth?_mark ':' (Nat.lt_of_le_of_lt hsecond (by decide)),
    hfraction, hoffset, hsecond, if_true]
  rw [Nat.add_assoc, hcount, daysBefore_date]
  simp

/-! ### The order of texts -/

theorem clockText_lt {m n : Nat} (h : m < n) (hn : n < 86400) (s s' : List Char) :
    clockText m ++ s < clockText n ++ s' := by
  have hfields : m / 3600 < n / 3600 ∨ m / 3600 = n / 3600 ∧ (m / 60 % 60 < n / 60 % 60 ∨
      m / 60 % 60 = n / 60 % 60 ∧ m % 60 < n % 60) := by
    omega
  unfold clockText
  simp only [List.append_assoc, List.cons_append]
  rcases hfields with hhour | ⟨hhour, hminute | ⟨hminute, hsecond⟩⟩
  · exact padded_append_lt (by decide) hhour (by omega) _ _
  · rw [hhour]
    exact List.append_left_lt (.cons (padded_append_lt (by decide) hminute (by omega) _ _))
  · rw [hhour, hminute]
    refine List.append_left_lt (.cons (List.append_left_lt (.cons ?_)))
    exact padded_append_lt (by decide) hsecond (by omega) _ _

theorem dateText_lt {d e : Date} (hd : Calendar.hasDay d = true) (he : Calendar.hasDay e = true)
    (hyear : 1000 ≤ d.year) (hyear' : e.year < 10000) (h : Calendar.Precedes d e)
    (s s' : List Char) : dateText 0 '-' d ++ s < dateText 0 '-' e ++ s' := by
  obtain ⟨year, month, day⟩ := d
  obtain ⟨year', month', day'⟩ := e
  obtain ⟨-, -, -, hday⟩ := Calendar.hasDay_iff.mp hd
  obtain ⟨-, hmonth', -, hday'⟩ := Calendar.hasDay_iff.mp he
  have hlength' := Calendar.monthLength_le year' month'
  unfold Calendar.Precedes at h
  dsimp only at hyear hyear' h
  have hfour : padded 0 year = padded 4 year := padded_zero_eq 3 hyear
  have hfour' : padded 0 year' = padded 4 year' := padded_zero_eq 3 (by omega)
  unfold dateText
  simp only [List.append_assoc, List.cons_append, hfour, hfour']
  rcases h with hbefore | ⟨rfl, hbefore | ⟨rfl, hbefore⟩⟩
  · exact padded_append_lt (by decide) hbefore hyear' _ _
  · exact List.append_left_lt (.cons (padded_append_lt (by decide) hbefore (by omega) _ _))
  · refine List.append_left_lt (.cons (List.append_left_lt (.cons ?_)))
    exact padded_append_lt (by decide) hbefore (by omega) _ _

theorem requestText_lt (hyear : 1000 ≤ u.date.year) (hyear' : v.date.year < 10000)
    (h : u.wall < v.wall) : u.requestText < v.requestText := by
  unfold requestText
  rw [List.append_assoc, List.append_assoc, List.cons_append, List.cons_append]
  rcases Nat.lt_or_eq_of_le (Nat.div_le_div_right (c := Calendar.daySeconds) h.le) with hday | hday
  · have hcount : Calendar.daysBefore u.date < Calendar.daysBefore v.date := by
      unfold date
      rw [(Calendar.daysBefore_dateOf _).2, (Calendar.daysBefore_dateOf _).2]
      exact Nat.add_lt_add_right hday 60
    have hprecedes := (Calendar.daysBefore_lt_iff (hasDay_date u) (hasDay_date v)).mp hcount
    exact dateText_lt (hasDay_date u) (hasDay_date v) hyear hyear' hprecedes _ _
  · have hdate : u.date = v.date := congrArg Calendar.dateOf hday
    have hclock : u.secondOfDay < v.secondOfDay := by
      unfold secondOfDay
      unfold Calendar.daySeconds at hday ⊢
      omega
    rw [hdate]
    exact List.append_left_lt (.cons (clockText_lt hclock (secondOfDay_lt v) _ _))

theorem requestText_eq (h : u.wall = v.wall) : u.requestText = v.requestText := by
  unfold requestText date secondOfDay
  rw [h]

section FourDigits

variable (hyear : 1000 ≤ u.date.year) (hyear' : u.date.year < 10000)
  (hlater : 1000 ≤ v.date.year) (hlater' : v.date.year < 10000)
include hyear hyear' hlater hlater'

theorem requestText_eq_iff : u.requestText = v.requestText ↔ u.wall = v.wall := by
  refine ⟨fun htext => ?_, requestText_eq⟩
  have hread := instant?_requestText hyear hyear'
  rw [htext, instant?_requestText hlater hlater', Option.some.injEq, Nat.cast_inj] at hread
  omega

theorem requestText_lt_iff : u.requestText < v.requestText ↔ u.wall < v.wall := by
  refine ⟨fun htext => Nat.lt_of_not_le fun hle => ?_, requestText_lt hyear hlater'⟩
  rcases Nat.lt_or_eq_of_le hle with hback | hsame
  · exact List.lt_asymm htext (requestText_lt hlater hyear' hback)
  · rw [requestText_eq hsame] at htext
    exact List.lt_irrefl _ htext

end FourDigits

/-- The text of a request denotes the second in which the instant lies. So instants have the same
text if they lie in the same second, and else the texts have the order of the seconds. -/
theorem rfc3339_denotes (ht : t.HasFourDigitYear) (hu : u.HasFourDigitYear) :
    ∃ s s', t.rfc3339 = .ok s ∧ u.rfc3339 = .ok s' ∧
      Rfc3339.instant? s.toList = some (t.civilSecond : ℚ) ∧
      (s = s' ↔ t.civilSecond = u.civilSecond) ∧ (s < s' ↔ t.civilSecond < u.civilSecond) := by
  obtain ⟨v, hv, hsecond, hyear, hyear'⟩ := exists_toUniversal ht
  obtain ⟨w, hw, hsecond', hlater, hlater'⟩ := exists_toUniversal hu
  have htext : t.rfc3339 = .ok (String.ofList v.requestText) := by
    unfold rfc3339
    rw [hv]
    rfl
  have htext' : u.rfc3339 = .ok (String.ofList w.requestText) := by
    unfold rfc3339
    rw [hw]
    rfl
  refine ⟨_, _, htext, htext', ?_, ?_, ?_⟩
  · rw [String.toList_ofList, instant?_requestText hyear hyear', hsecond]
    norm_cast
  · rw [String.ofList_inj, requestText_eq_iff hyear hyear' hlater hlater']
    omega
  · rw [String.lt_iff, String.toList_ofList, String.toList_ofList,
      requestText_lt_iff hyear hyear' hlater hlater']
    omega

/-- Half an hour before the end of a leap day on a clock one hour behind, and without an offset half
an hour after midnight of the next day: both lie in one second. -/
theorem rfc3339_denotes_leapDay : ∃ t u : Timestamp,
    ofDate? ⟨2024, 2, 29⟩ 84600 750000 (some (-3600000000)) = some t ∧
    ofDate? ⟨2024, 3, 1⟩ 1800 0 none = some u ∧ t.HasFourDigitYear ∧ u.HasFourDigitYear ∧
    t.civilSecond = u.civilSecond ∧ ∃ s, t.rfc3339 = .ok s ∧ u.rfc3339 = .ok s ∧
      Rfc3339.instant? s.toList = some (t.civilSecond : ℚ) := by
  let t : Timestamp := ⟨63871284600, 750000, some (-3600000000), by decide, by decide, by decide,
    by decide⟩
  let u : Timestamp := ⟨63871288200, 0, none, by decide, by decide, by decide, by decide⟩
  have ht : t.HasFourDigitYear := hasFourDigitYear_iff.mpr (by decide)
  have hu : u.HasFourDigitYear := hasFourDigitYear_iff.mpr (by decide)
  have hsecond : t.civilSecond = u.civilSecond := by
    rw [civilSecond_eq, civilSecond_eq]
    decide
  obtain ⟨s, s', hs, hs', hread, hsame, -⟩ := rfc3339_denotes ht hu
  obtain rfl := hsame.mpr hsecond
  exact ⟨t, u, by decide, by decide, ht, hu, hsecond, s, hs, hs', hread⟩

end Timestamp
end MetricFrames
