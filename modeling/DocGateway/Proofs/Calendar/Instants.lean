import DocGateway.Clock
import DocGateway.Proofs.Calendar.DayNumbers

/-!
Moments and their counts of microseconds.

A valid moment is its own count read back, and a count that the calendar has a day for is that of
the moment read from it. So a moment that is in UTC stays as it is when it is read in UTC.
-/

namespace DocGateway

namespace Moment

theorem microsPerDay_eq : (microsPerDay : Int) = 86400000000 := rfl

theorem Valid.timeOfDay_lt {m : Moment} (valid : m.Valid) : m.timeOfDay < microsPerDay := by
  obtain ⟨_, hour, minute, second, micros, _⟩ := valid
  simp only [microsPerSecond] at micros
  simp only [timeOfDay, microsPerDay, microsPerSecond]
  omega

/-- A valid moment is found again by its own count. -/
theorem Valid.ofMicros?_localMicros {m : Moment} (valid : m.Valid) (offset : Option Int)
    : ofMicros? m.localMicros offset = some { m with offset } := by
  have inDay : (m.timeOfDay : Int) < 86400000000 := Int.ofNat_lt.2 valid.timeOfDay_lt
  have day : m.localMicros.fdiv microsPerDay = (m.date.ordinal : Int) - 1 := by
    rw [Int.fdiv_eq_ediv_of_nonneg _ (Int.natCast_nonneg _), localMicros, microsPerDay_eq]
    omega
  have rest : (m.localMicros.fmod microsPerDay).toNat = m.timeOfDay := by
    rw [Int.fmod_eq_emod_of_nonneg _ (Int.natCast_nonneg _), localMicros, microsPerDay_eq]
    omega
  have date : Date.ofOrdinal? ((m.date.ordinal : Int) - 1 + 1) = some m.date :=
    Date.ofOrdinal?_eq_some_iff.2 ⟨valid.1, by omega⟩
  obtain ⟨_, hour, minute, second, micros, _⟩ := valid
  simp only [ofMicros?, day, rest, date, bind, Option.bind, pure]
  obtain ⟨d, h, mi, s, us, o⟩ := m
  simp only [microsPerSecond] at hour minute second micros
  simp only [timeOfDay, microsPerSecond, Option.some.injEq, mk.injEq, true_and, and_true]
  omega

/-- A count that the calendar has a day for is that of the moment read from it. -/
theorem ofMicros?_spec {n : Int} {offset : Option Int} {m : Moment}
    (read : ofMicros? n offset = some m)
    : m.localMicros = n ∧ m.offset = offset
      ∧ m.date.Valid ∧ m.hour < 24 ∧ m.minute < 60 ∧ m.second < 60
      ∧ m.microsecond < microsPerSecond := by
  obtain ⟨date, found, built⟩ := Option.bind_eq_some_iff.1 read
  obtain ⟨valid, number⟩ := Date.ofOrdinal?_eq_some_iff.1 found
  cases built
  rw [Int.fdiv_eq_ediv_of_nonneg _ (Int.natCast_nonneg _), microsPerDay_eq] at number
  have part : n.fmod microsPerDay = n % 86400000000 :=
    Int.fmod_eq_emod_of_nonneg _ (Int.natCast_nonneg _)
  simp only [localMicros, timeOfDay, part, microsPerSecond]
  rw [microsPerDay_eq]
  refine ⟨?_, trivial, valid, ?_, ?_, ?_, ?_⟩
  all_goals omega

/-- Reading a moment in UTC keeps its instant. -/
theorem Valid.toUtc?_spec {m u : Moment} (valid : m.Valid) (read : m.toUtc? = some u)
    : u.Valid ∧ u.instant = m.instant ∧ (u.offset = none ∨ u.offset = some 0) := by
  unfold toUtc? at read
  split at read
  case h_1 none =>
    cases read
    exact ⟨valid, rfl, .inl none⟩
  case h_2 offset given =>
    obtain ⟨count, offset, date, hour, minute, second, micros⟩ := ofMicros?_spec read
    refine ⟨⟨date, hour, minute, second, micros, ?_⟩, ?_, .inr offset⟩
    · rw [offset]
      simp [microsPerDay_eq]
    · rw [← count]
      simp [instant, offset]

/-- A moment in UTC is read in UTC as it is. -/
theorem Valid.toUtc?_of_utc {m : Moment} (valid : m.Valid)
    (utc : m.offset = none ∨ m.offset = some 0)
    : m.toUtc? = some m := by
  rcases utc with none | zero
  · simp [toUtc?, none]
  · have count : m.instant = m.localMicros := by simp [instant, zero]
    have same : { m with offset := some 0 } = m := by rw [← zero]
    simp only [toUtc?, zero, count]
    rw [valid.ofMicros?_localMicros, same]

@[simp]
theorem date_assumeUtc (m : Moment) : m.assumeUtc.date = m.date := by
  unfold assumeUtc
  split <;> rfl

@[simp]
theorem stampChars_assumeUtc (m : Moment) : m.assumeUtc.stampChars = m.stampChars := by
  unfold assumeUtc
  split <;> rfl

theorem Valid.assumeUtc {m : Moment} (valid : m.Valid) : m.assumeUtc.Valid := by
  unfold Moment.assumeUtc
  split
  · obtain ⟨date, hour, minute, second, micros, _⟩ := valid
    refine ⟨date, hour, minute, second, micros, ?_⟩
    simp [microsPerDay_eq]
  · exact valid

/-- Without an offset to take away, a moment taken as UTC is read in UTC as it is. -/
theorem Valid.toUtc?_assumeUtc {m : Moment} (valid : m.Valid)
    (utc : m.offset = none ∨ m.offset = some 0)
    : m.assumeUtc.toUtc? = some m.assumeUtc := by
  refine valid.assumeUtc.toUtc?_of_utc (.inr ?_)
  rcases utc with none | zero
  · simp [Moment.assumeUtc, none]
  · simp [Moment.assumeUtc, zero]

end Moment

end DocGateway
