import DocGateway.Calendar.Date
import Mathlib.Data.Nat.Init
import Mathlib.Tactic.SplitIfs

/-!
Days and their numbers.

Numbering keeps the order of days, and every number from the first day's to the last day's is the
number of exactly one valid day (`ordinal_ofOrdinal`, `ofOrdinal_ordinal`).
-/

namespace DocGateway

namespace Calendar

def daysInYear (year : Nat) : Nat := if isLeap year then 366 else 365

theorem daysBeforeYear_succ {year : Nat} (positive : 1 ≤ year)
    : daysBeforeYear (year + 1) = daysBeforeYear year + daysInYear year := by
  have step4 : year / 4 = (year - 1) / 4 + if year % 4 = 0 then 1 else 0 := by
    split <;> omega
  have step100 : year / 100 = (year - 1) / 100 + if year % 100 = 0 then 1 else 0 := by
    split <;> omega
  have step400 : year / 400 = (year - 1) / 400 + if year % 400 = 0 then 1 else 0 := by
    split <;> omega
  have century : year % 100 = 0 → year % 4 = 0 := by omega
  have era : year % 400 = 0 → year % 100 = 0 := by omega
  have fewer : (year - 1) / 100 ≤ (year - 1) / 4 := by omega
  simp only [daysBeforeYear, daysInYear, isLeap, Nat.add_sub_cancel, step4, step100, step400]
  generalize (year - 1) / 4 = quads at *
  generalize (year - 1) / 100 = centuries at *
  generalize (year - 1) / 400 = eras
  by_cases four : year % 4 = 0
  · by_cases hundred : year % 100 = 0
    · by_cases fourHundred : year % 400 = 0
      · simp [four, hundred, fourHundred]
        omega
      · simp [four, hundred, fourHundred]
        omega
    · have notEra := mt era hundred
      simp [four, hundred, notEra]
      omega
  · have notCentury := mt century four
    have notEra := mt era notCentury
    simp [four, notCentury, notEra]
    omega

theorem daysBeforeYear_mono {y y' : Nat} (positive : 1 ≤ y) (le : y ≤ y')
    : daysBeforeYear y ≤ daysBeforeYear y' := by
  induction y', le using Nat.le_induction with
  | base => exact Nat.le_refl _
  | succ y' le ih =>
    rw [daysBeforeYear_succ (Nat.le_trans positive le)]
    omega

/-- Years counted in spans of 400, 100, 4 and 1. -/
theorem daysBeforeYear_spans {century quad y : Nat} (era : Nat) (hc : century ≤ 3)
    (hq : quad ≤ 24) (hy : y ≤ 3)
    : daysBeforeYear (400 * era + 100 * century + 4 * quad + y + 1)
      = 146097 * era + 36524 * century + 1461 * quad + 365 * y := by
  simp only [daysBeforeYear]
  omega

theorem daysBeforeMonth_succ {year month : Nat} (positive : 1 ≤ month)
    : daysBeforeMonth year (month + 1) = daysBeforeMonth year month + daysInMonth year month := by
  cases month with
  | zero => omega
  | succ month => rfl

theorem daysBeforeMonth_mono (year : Nat) {m m' : Nat} (positive : 1 ≤ m) (le : m ≤ m')
    : daysBeforeMonth year m ≤ daysBeforeMonth year m' := by
  induction m', le using Nat.le_induction with
  | base => exact Nat.le_refl _
  | succ m' le ih =>
    rw [daysBeforeMonth_succ (Nat.le_trans positive le)]
    omega

theorem daysBeforeMonth_thirteen (year : Nat) : daysBeforeMonth year 13 = daysInYear year := by
  cases leap : isLeap year <;> simp [daysBeforeMonth, daysInMonth, daysInYear, leap]

end Calendar

namespace Date

open Calendar

/-- One day comes before another by year, then month, then day. -/
def Before (d e : Date) : Prop :=
  d.year < e.year
  ∨ d.year = e.year ∧ (d.month < e.month ∨ d.month = e.month ∧ d.day < e.day)

theorem before_trichotomy (d e : Date) : d.Before e ∨ d = e ∨ e.Before d := by
  obtain ⟨y, m, d⟩ := d
  obtain ⟨y', m', d'⟩ := e
  simp only [Before, mk.injEq]
  omega

/-- A day is at most as many days after its month's start as the month has. -/
theorem Valid.dayOfYear_le {d : Date} (valid : d.Valid)
    : daysBeforeMonth d.year d.month + d.day ≤ daysBeforeMonth d.year (d.month + 1) := by
  obtain ⟨_, _, month, _, _, day⟩ := valid
  rw [daysBeforeMonth_succ month]
  omega

theorem Valid.dayOfYear_le_daysInYear {d : Date} (valid : d.Valid)
    : daysBeforeMonth d.year d.month + d.day ≤ daysInYear d.year := by
  have last : d.month + 1 ≤ 13 := Nat.succ_le_succ valid.2.2.2.1
  calc
    _ ≤ daysBeforeMonth d.year (d.month + 1) := valid.dayOfYear_le
    _ ≤ daysBeforeMonth d.year 13 := daysBeforeMonth_mono d.year (Nat.succ_pos _) last
    _ = daysInYear d.year := daysBeforeMonth_thirteen d.year

theorem Before.ordinal_lt {d e : Date} (before : d.Before e) (valid : d.Valid) (valid' : e.Valid)
    : d.ordinal < e.ordinal := by
  have day : 1 ≤ e.day := valid'.2.2.2.2.1
  unfold ordinal
  rcases before with year | ⟨year, month | ⟨month, day'⟩⟩
  · have next := daysBeforeYear_mono (Nat.succ_pos _) (Nat.succ_le_of_lt year)
    have own := valid.dayOfYear_le_daysInYear
    rw [Nat.succ_eq_add_one, daysBeforeYear_succ valid.1] at next
    omega
  · have next := daysBeforeMonth_mono d.year (Nat.succ_pos d.month) month
    have own := valid.dayOfYear_le
    rw [Nat.succ_eq_add_one] at next
    rw [← year]
    omega
  · rw [year, month]
    omega

theorem ordinal_lt_iff {d e : Date} (valid : d.Valid) (valid' : e.Valid)
    : d.ordinal < e.ordinal ↔ d.Before e := by
  constructor
  · intro lt
    rcases before_trichotomy d e with before | rfl | after
    · exact before
    · omega
    · have := after.ordinal_lt valid' valid
      omega
  · exact fun before => before.ordinal_lt valid valid'

theorem ordinal_inj {d e : Date} (valid : d.Valid) (valid' : e.Valid) (same : d.ordinal = e.ordinal)
    : d = e := by
  rcases before_trichotomy d e with before | equal | after
  · have := before.ordinal_lt valid valid'
    omega
  · exact equal
  · have := after.ordinal_lt valid' valid
    omega

theorem Valid.ordinal_pos {d : Date} (valid : d.Valid) : 1 ≤ d.ordinal := by
  have day : 1 ≤ d.day := valid.2.2.2.2.1
  unfold ordinal
  omega

/-- The last day of the calendar. -/
def last : Date := ⟨9999, 12, 31⟩

theorem last_valid : last.Valid := by decide

theorem ordinal_last : last.ordinal = maxOrdinal := by decide

theorem Valid.ordinal_le {d : Date} (valid : d.Valid) : d.ordinal ≤ maxOrdinal := by
  rw [← ordinal_last]
  refine Nat.le_of_not_lt fun later => ?_
  have after := (ordinal_lt_iff last_valid valid).1 later
  obtain ⟨_, year, _, month, _, day⟩ := valid
  rcases after with later | ⟨_, later | ⟨december, later⟩⟩
  · exact absurd year (Nat.not_le_of_lt later)
  · exact absurd month (Nat.not_le_of_lt later)
  · rw [← december] at day
    exact absurd day (Nat.not_le_of_lt later)

-----------------------------------------------------------------------------------------
-- Days by number
-----------------------------------------------------------------------------------------

/-- The spans that lead to a number's year, and the day of that year: a 366th day is the last one of
a leap year, which ends its span of four years.
-/
theorem yearOfOrdinal_spans {n : Nat} (positive : 1 ≤ n)
    : ∃ era century quad y day,
        yearOfOrdinal n = 400 * era + 100 * century + 4 * quad + y + 1
        ∧ n = 146097 * era + 36524 * century + 1461 * quad + 365 * y + day + 1
        ∧ century ≤ 3 ∧ quad ≤ 24 ∧ y ≤ 3
        ∧ (day < 365 ∨ day = 365 ∧ y = 3 ∧ (quad < 24 ∨ century = 3)) := by
  have century_spec (r : Nat) (inside : r < 146097)
      : ∃ rest, r = 36524 * min (r / 36524) 3 + rest
        ∧ (rest < 36524 ∨ rest = 36524 ∧ min (r / 36524) 3 = 3) := by
    refine ⟨r - 36524 * min (r / 36524) 3, ?_⟩
    omega
  have year_spec (r : Nat) (inside : r < 1461)
      : ∃ rest, r = 365 * min (r / 365) 3 + rest
        ∧ (rest < 365 ∨ rest = 365 ∧ min (r / 365) 3 = 3) := by
    refine ⟨r - 365 * min (r / 365) 3, ?_⟩
    omega
  have inEra : (n - 1) % 146097 < 146097 := Nat.mod_lt _ (by decide)
  have eras := Nat.div_add_mod (n - 1) 146097
  obtain ⟨days, splitEra, century⟩ := century_spec _ inEra
  have inQuad : days % 1461 < 1461 := Nat.mod_lt _ (by decide)
  have quads := Nat.div_add_mod days 1461
  obtain ⟨day, splitQuad, year⟩ := year_spec _ inQuad
  have left : (n - 1) % 146097 % 146097 - min ((n - 1) % 146097 / 36524) 3 * 36524 = days := by
    rw [Nat.mod_mod]
    omega
  refine ⟨(n - 1) / 146097, min ((n - 1) % 146097 / 36524) 3, days / 1461,
    min (days % 1461 / 365) 3, day, by simp only [yearOfOrdinal, left], ?_⟩
  have centuryBound := Nat.min_le_right ((n - 1) % 146097 / 36524) 3
  have yearBound := Nat.min_le_right (days % 1461 / 365) 3
  -- Only sums of the spans matter from here on.
  generalize (n - 1) / 146097 = era at eras ⊢
  generalize (n - 1) % 146097 = ofEra at *
  generalize min (ofEra / 36524) 3 = centuries at *
  generalize days / 1461 = quad at *
  generalize days % 1461 = ofQuad at *
  generalize min (ofQuad / 365) 3 = y at *
  refine ⟨by omega, centuryBound, by omega, yearBound, by omega⟩

/-- The year of a number: the year's days surround it. -/
theorem yearOfOrdinal_spec {n : Nat} (positive : 1 ≤ n)
    : daysBeforeYear (yearOfOrdinal n) < n ∧ n ≤ daysBeforeYear (yearOfOrdinal n + 1) := by
  obtain ⟨era, century, quad, y, day, year, number, hc, hq, hy, hd⟩ := yearOfOrdinal_spans positive
  rw [year, daysBeforeYear_spans era hc hq hy]
  refine ⟨by omega, ?_⟩
  -- The next year opens the next span of the largest kind that is over.
  by_cases hy' : y < 3
  · have next := daysBeforeYear_spans era hc hq hy'
    rw [Nat.succ_eq_add_one, ← Nat.add_assoc] at next
    omega
  by_cases hq' : quad < 24
  · have next := daysBeforeYear_spans era hc hq' (Nat.zero_le 3)
    have same : 400 * era + 100 * century + 4 * (quad + 1) + 0 + 1
        = 400 * era + 100 * century + 4 * quad + y + 1 + 1 := by omega
    rw [Nat.succ_eq_add_one, same] at next
    omega
  by_cases hc' : century < 3
  · have next := daysBeforeYear_spans era hc' (Nat.zero_le 24) (Nat.zero_le 3)
    have same : 400 * era + 100 * (century + 1) + 4 * 0 + 0 + 1
        = 400 * era + 100 * century + 4 * quad + y + 1 + 1 := by omega
    rw [Nat.succ_eq_add_one, same] at next
    omega
  · have next := daysBeforeYear_spans (era + 1) (Nat.zero_le 3) (Nat.zero_le 24) (Nat.zero_le 3)
    have same : 400 * (era + 1) + 100 * 0 + 4 * 0 + 0 + 1
        = 400 * era + 100 * century + 4 * quad + y + 1 + 1 := by omega
    rw [same] at next
    omega

theorem yearOfOrdinal_pos (n : Nat) : 1 ≤ yearOfOrdinal n := Nat.succ_pos _

/-- The month of a day of the year, if the search starts early enough and goes on long enough. -/
theorem monthFrom_spec (year dayOfYear fuel : Nat) {month : Nat} (positive : 1 ≤ month)
    (after : daysBeforeMonth year month < dayOfYear)
    (reached : dayOfYear ≤ daysBeforeMonth year (month + fuel + 1))
    : let found := monthFrom year dayOfYear fuel month
      month ≤ found ∧ found ≤ month + fuel
      ∧ daysBeforeMonth year found < dayOfYear
      ∧ dayOfYear ≤ daysBeforeMonth year (found + 1) := by
  induction fuel generalizing month with
  | zero => exact ⟨Nat.le_refl _, Nat.le_refl _, after, reached⟩
  | succ fuel ih =>
    unfold monthFrom
    split_ifs with here
    · exact ⟨Nat.le_refl _, Nat.le_add_right _ _, after, here⟩
    · have later : month + (fuel + 1) + 1 = month + 1 + fuel + 1 := by omega
      rw [later] at reached
      obtain ⟨low, high, rest⟩ := ih (Nat.le_add_left 1 month) (Nat.lt_of_not_le here) reached
      exact ⟨by omega, by omega, rest⟩

/-- Every number of the calendar is that of the valid day with this number. -/
theorem ofOrdinal_spec {n : Nat} (positive : 1 ≤ n) (most : n ≤ maxOrdinal)
    : (ofOrdinal n).Valid ∧ (ofOrdinal n).ordinal = n := by
  obtain ⟨yearStarted, yearNotOver⟩ := yearOfOrdinal_spec positive
  have yearPositive := yearOfOrdinal_pos n
  have yearBound : yearOfOrdinal n ≤ maxYear := by
    have last : daysBeforeYear (maxYear + 1) = maxOrdinal := rfl
    rcases Nat.lt_or_ge maxYear (yearOfOrdinal n) with late | fine
    · have := daysBeforeYear_mono (Nat.succ_pos _) (Nat.succ_le_of_lt late)
      rw [Nat.succ_eq_add_one, last] at this
      omega
    · exact fine
  rw [daysBeforeYear_succ yearPositive] at yearNotOver
  obtain ⟨low, high, monthStarted, monthNotOver⟩ :=
    monthFrom_spec (yearOfOrdinal n) (n - daysBeforeYear (yearOfOrdinal n)) 11 (Nat.le_refl 1)
      (by simp only [daysBeforeMonth]; omega)
      (by rw [daysBeforeMonth_thirteen]; omega)
  rw [daysBeforeMonth_succ low] at monthNotOver
  constructor
  · refine ⟨yearPositive, yearBound, low, high, ?_, ?_⟩
    all_goals
      simp only [ofOrdinal]
      omega
  · simp only [ordinal, ofOrdinal]
    omega

theorem Valid.ofOrdinal_ordinal {d : Date} (valid : d.Valid) : ofOrdinal d.ordinal = d := by
  obtain ⟨valid', same⟩ := ofOrdinal_spec valid.ordinal_pos valid.ordinal_le
  exact ordinal_inj valid' valid same

theorem ofOrdinal?_eq_some_iff {n : Int} {d : Date}
    : ofOrdinal? n = some d ↔ d.Valid ∧ (d.ordinal : Int) = n := by
  unfold ofOrdinal?
  constructor
  · intro found
    split_ifs at found with inside
    obtain ⟨valid, number⟩ := ofOrdinal_spec (n := n.toNat) (by omega) (by omega)
    cases found
    exact ⟨valid, by omega⟩
  · rintro ⟨valid, rfl⟩
    have low := valid.ordinal_pos
    have high := valid.ordinal_le
    rw [if_pos ⟨by omega, by omega⟩, Int.toNat_natCast, valid.ofOrdinal_ordinal]

/-- Shifting a day shifts its number, and only leads to days of the calendar. -/
theorem addDays?_eq_some_iff {d e : Date} {days : Int}
    : d.addDays? days = some e ↔ e.Valid ∧ (e.ordinal : Int) = d.ordinal + days :=
  ofOrdinal?_eq_some_iff

/-- A shift fails exactly where it leads before the first day or after the last one. -/
theorem addDays?_eq_none_iff {d : Date} {days : Int}
    : d.addDays? days = none ↔ (d.ordinal : Int) + days < 1 ∨ maxOrdinal < (d.ordinal : Int) + days
    := by
  unfold addDays? ofOrdinal?
  split_ifs with inside
  · simp only [false_iff]
    omega
  · simp only [true_iff]
    omega

theorem Valid.addDays?_zero {d : Date} (valid : d.Valid) : d.addDays? 0 = some d :=
  addDays?_eq_some_iff.2 ⟨valid, (Int.add_zero _).symm⟩

/-- Shifts add up. -/
theorem addDays?_of_addDays? {d e : Date} {m : Int} (shifted : d.addDays? m = some e) (n : Int)
    : e.addDays? n = d.addDays? (m + n) := by
  unfold addDays?
  rw [(addDays?_eq_some_iff.1 shifted).2, Int.add_assoc]

/-- No shift within the calendar is as long as the calendar. -/
theorem Valid.natAbs_lt_of_addDays? {d e : Date} {n : Int} (valid : d.Valid)
    (shifted : d.addDays? n = some e)
    : n.natAbs < maxOrdinal := by
  obtain ⟨valid', number⟩ := addDays?_eq_some_iff.1 shifted
  have := valid.ordinal_pos
  have := valid.ordinal_le
  have := valid'.ordinal_pos
  have := valid'.ordinal_le
  omega

/-- Every day but the last one has a next one. -/
theorem Valid.addDays?_one_eq_none_iff {d : Date} (valid : d.Valid)
    : d.addDays? 1 = none ↔ d = last := by
  have positive := valid.ordinal_pos
  have most := valid.ordinal_le
  rw [addDays?_eq_none_iff]
  constructor
  · intro outside
    refine ordinal_inj valid last_valid ?_
    rw [ordinal_last]
    omega
  · rintro rfl
    rw [ordinal_last]
    omega

end Date

end DocGateway
