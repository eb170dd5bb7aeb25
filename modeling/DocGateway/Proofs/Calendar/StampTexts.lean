import DocGateway.Calendar.MomentText
import DocGateway.Proofs.Calendar.DayTexts
import DocGateway.Proofs.Calendar.Instants

/-!
Stamps as text.

Stamps of years with four digits are ordered by code points as their instants are by whole
milliseconds, whatever the offsets. A stamp is read back as its instant without the rest of the
millisecond.
-/

namespace DocGateway

namespace Moment

open Calendar

-----------------------------------------------------------------------------------------
-- Milliseconds and days in UTC
-----------------------------------------------------------------------------------------

/-- The whole milliseconds of the instant since the start of day 1. -/
def millis (m : Moment) : Int := m.instant / 1000

/-- The moment's instant lies on a day in UTC. -/
structure FallsOn (m : Moment) (d : Date) : Prop where
  valid : d.Valid
  started : ((d.ordinal : Int) - 1) * microsPerDay ≤ m.instant
  notOver : m.instant < d.ordinal * microsPerDay

/-- The whole milliseconds of the time of day. -/
def dayMillis (m : Moment) : Nat :=
  ((m.hour * 60 + m.minute) * 60 + m.second) * 1000 + m.microsecond / 1000

theorem instant_of_utc {m : Moment} (utc : m.offset = none ∨ m.offset = some 0)
    : m.instant = m.localMicros := by
  rcases utc with none | zero
  · simp [instant, none]
  · simp [instant, zero]

/-- In UTC the day and the time of day are those of the instant. -/
theorem millis_of_utc {m : Moment} (utc : m.offset = none ∨ m.offset = some 0)
    : m.millis = ((m.date.ordinal : Int) - 1) * 86400000 + m.dayMillis := by
  rw [millis, instant_of_utc utc, localMicros, microsPerDay_eq, timeOfDay, dayMillis,
    microsPerSecond]
  omega

theorem Valid.dayMillis_lt {m : Moment} (valid : m.Valid) : m.dayMillis < 86400000 := by
  obtain ⟨_, hour, minute, second, micros, _⟩ := valid
  simp only [microsPerSecond] at micros
  simp only [dayMillis]
  omega

/-- A moment whose day in UTC is in the calendar is read in UTC on that day. -/
theorem Valid.toUtc?_of_fallsOn {m : Moment} (valid : m.Valid) {d : Date} (day : m.FallsOn d)
    : ∃ u,
        m.toUtc? = some u
        ∧ u.Valid
        ∧ (u.offset = none ∨ u.offset = some 0)
        ∧ u.date = d
        ∧ u.millis = m.millis := by
  obtain ⟨validDay, started, notOver⟩ := day
  rw [microsPerDay_eq] at started notOver
  have number : m.instant.fdiv microsPerDay + 1 = d.ordinal := by
    rw [Int.fdiv_eq_ediv_of_nonneg _ (Int.natCast_nonneg _), microsPerDay_eq]
    omega
  obtain ⟨u, read⟩ : ∃ u, m.toUtc? = some u := by
    unfold toUtc?
    split
    · exact ⟨m, rfl⟩
    · have found := Date.ofOrdinal?_eq_some_iff.2 ⟨validDay, number.symm⟩
      simp only [ofMicros?, found]
      exact ⟨_, rfl⟩
  obtain ⟨validUtc, same, utc⟩ := valid.toUtc?_spec read
  refine ⟨u, read, validUtc, utc, ?_, by rw [millis, same, millis]⟩
  -- The day of the reading surrounds the same instant as the given one.
  have inDay : (u.timeOfDay : Int) < 86400000000 := Int.ofNat_lt.2 validUtc.timeOfDay_lt
  rw [← same, instant_of_utc utc, localMicros, microsPerDay_eq] at started notOver
  refine Date.ordinal_inj validUtc.1 validDay ?_
  omega

-----------------------------------------------------------------------------------------
-- The order of stamps
-----------------------------------------------------------------------------------------

theorem timeChars_whole (hour minute second : Nat)
    : timeChars hour minute second 0
      = padded 2 hour ++ ':' :: (padded 2 minute ++ ':' :: padded 2 second) := by
  simp [timeChars]

/-- Text order of times of day is the order of their milliseconds. -/
theorem Valid.stampTime_lt_iff {a b : Moment} (valid : a.Valid) (valid' : b.Valid)
    : a.stampTime < b.stampTime ↔ a.dayMillis < b.dayMillis := by
  obtain ⟨_, hour, minute, second, micros, _⟩ := valid
  obtain ⟨_, hour', minute', second', micros', _⟩ := valid'
  simp only [microsPerSecond] at micros micros'
  simp only [stampTime, timeChars_whole, List.append_assoc, List.cons_append]
  rw [padded_append_lt_iff (by decide) (by omega) (by omega), List.cons_lt_cons_self,
    padded_append_lt_iff (by decide) (by omega) (by omega), List.cons_lt_cons_self,
    padded_append_lt_iff (by decide) (by omega) (by omega), List.cons_lt_cons_self,
    padded_append_lt_iff (by decide) (by omega) (by omega)]
  simp only [dayMillis, List.lt_irrefl, and_false, or_false]
  omega

/-- Text order of stamps in UTC is the order of their milliseconds. -/
theorem Valid.stampChars_lt_iff {a b : Moment} (valid : a.Valid) (valid' : b.Valid)
    (utc : a.offset = none ∨ a.offset = some 0) (utc' : b.offset = none ∨ b.offset = some 0)
    (full : 1000 ≤ a.date.year) (full' : 1000 ≤ b.date.year)
    : a.stampChars < b.stampChars ↔ a.millis < b.millis := by
  have inDay := valid.dayMillis_lt
  have inDay' := valid'.dayMillis_lt
  have sameDay : a.date = b.date ↔ a.date.ordinal = b.date.ordinal :=
    ⟨congrArg Date.ordinal, Date.ordinal_inj valid.1 valid'.1⟩
  rw [stampChars_eq full, stampChars_eq full', valid.1.chars_append_lt_iff valid'.1,
    List.cons_lt_cons_self, valid.stampTime_lt_iff valid', sameDay, millis_of_utc utc,
    millis_of_utc utc']
  omega

/-- Stamps in UTC are strings in the order of their milliseconds. -/
theorem Valid.stamp_le_iff {a b : Moment} (valid : a.Valid) (valid' : b.Valid)
    (utc : a.offset = none ∨ a.offset = some 0) (utc' : b.offset = none ∨ b.offset = some 0)
    (full : 1000 ≤ a.date.year) (full' : 1000 ≤ b.date.year)
    : String.ofList a.stampChars ≤ String.ofList b.stampChars ↔ a.millis ≤ b.millis := by
  rw [← String.not_lt, String.lt_iff, String.toList_ofList, String.toList_ofList,
    valid'.stampChars_lt_iff valid utc' utc full' full, Int.not_lt]

-----------------------------------------------------------------------------------------
-- Reading stamps
-----------------------------------------------------------------------------------------

theorem takeDigits?_padded {width n : Nat} (room : 0 < width) (fits : n < 10 ^ width)
    (rest : List Char)
    : Date.takeDigits? width (padded width n ++ rest) = some (n, rest) := by
  rw [padded_eq_lastDigits room fits]
  exact Date.takeDigits?_lastDigits fits rest

theorem takePart_padded {n : Nat} (fits : n < 10 ^ 2) (rest : List Char)
    : takePart (':' :: (padded 2 n ++ rest)) = (n, rest) := by
  simp only [takePart, takeDigits?_padded (by decide) fits]

/-- Three digits of a fraction are read as milliseconds. -/
theorem takeFraction_padded {n : Nat} (fits : n < 10 ^ 3)
    : takeFraction ('.' :: (padded 3 n ++ ['Z'])) = (n * 1000, ['Z']) := by
  have digit : ∀ k : Fin 10,
      (Nat.digitChar k).isDigit = true ∧ (Nat.digitChar k).toNat - 0x30 = k.val := by decide
  obtain ⟨first, firstValue⟩ := digit ⟨n / 10 / 10 % 10, Nat.mod_lt _ (by decide)⟩
  obtain ⟨second, secondValue⟩ := digit ⟨n / 10 % 10, Nat.mod_lt _ (by decide)⟩
  obtain ⟨third, thirdValue⟩ := digit ⟨n % 10, Nat.mod_lt _ (by decide)⟩
  have noDigit : 'Z'.isDigit = false := by decide
  rw [padded_eq_lastDigits (by decide) fits]
  simp only [lastDigits, List.nil_append, List.cons_append, takeFraction, List.takeWhile_cons,
    List.dropWhile_cons, first, second, third, noDigit, if_true, Bool.false_eq_true, if_false]
  simp only [List.take_succ_cons, List.take_nil, List.length_cons, List.length_nil, Nat.reduceAdd,
    Nat.reduceSub, List.reduceReplicate, List.cons_append, List.nil_append, List.foldl_cons,
    List.foldl_nil, firstValue, secondValue, thirdValue, Char.reduceToNat, Nat.sub_self,
    Prod.mk.injEq, and_true]
  omega

/-- The time of a stamp is read to the millisecond. -/
theorem Valid.takeTime?_stampTime {m : Moment} (valid : m.Valid)
    : takeTime? m.stampTime = some (m.dayMillis * 1000, ['Z']) := by
  obtain ⟨_, hour, minute, second, micros, _⟩ := valid
  simp only [microsPerSecond] at micros
  simp only [takeTime?, stampTime, timeChars_whole, List.append_assoc, List.cons_append,
    takeDigits?_padded (show 0 < 2 by decide) (show m.hour < 10 ^ 2 by omega),
    takePart_padded (show m.minute < 10 ^ 2 by omega),
    takePart_padded (show m.second < 10 ^ 2 by omega),
    takeFraction_padded (show m.microsecond / 1000 < 10 ^ 3 by omega),
    Option.bind_eq_bind, Option.bind_some, Option.pure_def, Option.some.injEq, Prod.mk.injEq,
    and_true, dayMillis, microsPerSecond]
  omega

/-- A stamp in UTC is read back as its milliseconds. -/
theorem Valid.read?_stampChars {m : Moment} (valid : m.Valid)
    (utc : m.offset = none ∨ m.offset = some 0) (full : 1000 ≤ m.date.year)
    : ∃ t, read? m.stampChars = some t ∧ t.offset = some 0 ∧ t.instant = m.millis * 1000 := by
  have length := valid.1.length_chars
  have day : m.stampChars.take 10 = m.date.chars := by
    rw [stampChars_eq full, ← length, List.take_left]
  have time : m.stampChars.drop 10 = 'T' :: m.stampTime := by
    rw [stampChars_eq full, ← length, List.drop_left]
  have inDay := valid.dayMillis_lt
  let micros : Int := ((m.date.ordinal : Int) - 1) * microsPerDay + (m.dayMillis * 1000 : Nat)
  have count : micros = m.millis * 1000 := by
    rw [millis_of_utc utc]
    simp only [micros, microsPerDay_eq]
    omega
  have number : micros.fdiv microsPerDay + 1 = m.date.ordinal := by
    rw [Int.fdiv_eq_ediv_of_nonneg _ (Int.natCast_nonneg _)]
    simp only [micros, microsPerDay_eq]
    omega
  obtain ⟨t, found⟩ : ∃ t, ofMicros? micros (some 0) = some t := by
    have inCalendar := Date.ofOrdinal?_eq_some_iff.2 ⟨valid.1, number.symm⟩
    simp only [ofMicros?, inCalendar]
    exact ⟨_, rfl⟩
  obtain ⟨own, offset, _⟩ := ofMicros?_spec found
  refine ⟨t, ?_, offset, ?_⟩
  · simp only [read?, day, valid.1.read?_chars, time, valid.takeTime?_stampTime, bind,
      Option.bind, readOffset?]
    exact found
  · rw [instant, own, offset, Option.getD_some, Int.sub_zero, count]

-----------------------------------------------------------------------------------------
-- Stamps and time
-----------------------------------------------------------------------------------------

/-- From the year 1000 on, stamps are ordered like their instants by whole milliseconds and are
equal if these are. Each is read back as its instant in UTC without the rest of the millisecond.
-/
theorem stamps_order_like_time {a b : Moment} (valid : a.Valid) (valid' : b.Valid) {d e : Date}
    (day : a.FallsOn d) (day' : b.FallsOn e) (full : 1000 ≤ d.year) (full' : 1000 ≤ e.year)
    : ∃ s t : String,
        a.stamp? = some s
        ∧ b.stamp? = some t
        ∧ (s ≤ t ↔ a.millis ≤ b.millis)
        ∧ (s = t ↔ a.millis = b.millis)
        ∧ ∃ r,
            read? s.toList = some r ∧ r.offset = some 0 ∧ r.instant = a.millis * 1000 := by
  obtain ⟨u, read, validUtc, utc, rfl, millisA⟩ := valid.toUtc?_of_fallsOn day
  obtain ⟨v, read', validUtc', utc', rfl, millisB⟩ := valid'.toUtc?_of_fallsOn day'
  have before : String.ofList u.stampChars ≤ String.ofList v.stampChars
      ↔ a.millis ≤ b.millis := by
    rw [validUtc.stamp_le_iff validUtc' utc utc' full full', millisA, millisB]
  have after : String.ofList v.stampChars ≤ String.ofList u.stampChars
      ↔ b.millis ≤ a.millis := by
    rw [validUtc'.stamp_le_iff validUtc utc' utc full' full, millisA, millisB]
  refine ⟨_, _, by simp [stamp?, read], by simp [stamp?, read'], before, ?_, ?_⟩
  · constructor
    · intro same
      have le := before.1 (same ▸ String.le_refl _)
      have ge := after.1 (same ▸ String.le_refl _)
      exact Int.le_antisymm le ge
    · intro same
      exact String.le_antisymm (before.2 (Int.le_of_eq same)) (after.2 (Int.le_of_eq same.symm))
  · rw [String.toList_ofList, ← millisA]
    exact validUtc.read?_stampChars utc full

/-- The end of a leap day behind UTC and a moment ahead of UTC, both in one millisecond. -/
theorem stamps_order_like_time_of_leap_day
    : let a : Moment := ⟨⟨2024, 2, 29⟩, 23, 59, 59, 999999, some (-1800000000)⟩
      let b : Moment := ⟨⟨2024, 3, 1⟩, 2, 29, 59, 999001, some 7200000000⟩
      let d : Date := ⟨2024, 3, 1⟩
      (a.Valid ∧ b.Valid ∧ a.FallsOn d ∧ b.FallsOn d ∧ 1000 ≤ d.year)
      ∧ ∃ s, a.stamp? = some s
        ∧ b.stamp? = some s
        ∧ ∃ r, read? s.toList = some r ∧ r.offset = some 0 ∧ r.instant = b.instant - 1 := by
  intro a b d
  have valid : a.Valid := by decide
  have valid' : b.Valid := by decide
  have day : a.FallsOn d := ⟨by decide, by decide, by decide⟩
  have day' : b.FallsOn d := ⟨by decide, by decide, by decide⟩
  have full : 1000 ≤ d.year := by decide
  obtain ⟨s, t, stamp, stamp', _, same, r, read, offset, reading⟩ :=
    stamps_order_like_time valid valid' day day' full full
  have equal : s = t := same.2 (by decide)
  refine ⟨⟨valid, valid', day, day', full⟩, s, stamp, equal ▸ stamp', r, read, offset, ?_⟩
  rw [reading]
  decide

end Moment

end DocGateway
