import DocGateway.Proofs.Calendar.DayTexts
import DocGateway.Proofs.Filter.DayMacros
import DocGateway.Proofs.Number.Numerals
import DocGateway.Proofs.Number.WholeNumbers

/-!
Days counted from the clock's current day.

A count of days resolves to the text of the day that is shifted by it (`Leaf.Shifts.resolveDay_eq`),
whichever form the count is given in. Everything else about counted days is about shifts of days and
the order of their texts.
-/

namespace DocGateway.Filter

/-- The operands that a number of days may be given as. -/
inductive DayNumber (n : Int) : Value → Prop
  | integer : DayNumber n (.int n)
  | float {x : Binary64} (whole : x.equalsInt n = true) : DayNumber n (.float x)
  | decimal : DayNumber n (.text (IntegerText.write n))
  | numeral {s : String} (stands : IntegerText.Numeral s.toList n) : DayNumber n (.text s)

/-- Operands that are no number of days. -/
inductive NoDayNumber : Value → Prop
  | bool (b : Bool) : NoDayNumber (.bool b)
  | null : NoDayNumber .null
  | text {s : String} (other : ∀ n, ¬ IntegerText.Numeral s.toList n) : NoDayNumber (.text s)
  | nan : NoDayNumber (.float .nan)
  | fractional {negative : Bool} {significand shift : Nat}
      (other : ∀ n, (Binary64.finite negative significand shift).equalsInt n = false)
      : NoDayNumber (.float (.finite negative significand shift))

/-- The leaf asks for the day that is a number of days ahead, with sign 1, or back, with sign -1. -/
structure Leaf.Shifts (l : Leaf) (sign n : Int) : Prop where
  operator : l.Counts sign
  number : DayNumber n l.value

/-- The leaf asks for the current day. -/
def Leaf.IsToday (l : Leaf) : Prop :=
  l.dateOperator = some DateOperator.today.word ∨ l.Undated ∧ l.value = .text todayMacro

variable {l : Leaf} {clock : Clock} {d e : Date} {sign n : Int}

-----------------------------------------------------------------------------------------
-- Counts
-----------------------------------------------------------------------------------------

/-- The usual decimal text of a shift within the calendar is not too long to be read. -/
theorem numeral_write_of_near (near : n.natAbs < Date.maxOrdinal)
    : IntegerText.Numeral (IntegerText.write n).toList n := by
  refine IntegerText.numeral_write (Nat.le_trans ?_ (by decide : 7 ≤ IntegerText.maxDigits))
  exact (Nat.length_toDigits_le_iff (by decide) (by decide)).2 (Nat.lt_trans near (by decide))

/-- A number of days is read as itself in every form. -/
theorem dayCount_of_dayNumber (number : DayNumber n l.value) (near : n.natAbs < Date.maxOrdinal)
    : dayCount l = .ok n := by
  generalize given : l.value = v at number
  cases number with
  | integer => simp [dayCount, given]
  | @float x whole =>
    have part := Binary64.truncate?_of_equalsInt whole
    cases x with
    | nan => cases part
    | infinite negative => cases part
    | finite negative significand shift => simp [dayCount, given, part, whole]
  | decimal =>
    have read := IntegerText.read?_eq_some_iff.2 (numeral_write_of_near near)
    simp [dayCount, given, read]
  | numeral stands =>
    have read := IntegerText.read?_eq_some_iff.2 stands
    simp [dayCount, given, read]

/-- What is no number of days is told as such. -/
theorem dayCount_of_noDayNumber (wrong : NoDayNumber l.value)
    : dayCount l = .error (.daysNotNumber l) ∨ dayCount l = .error (.daysNotWhole l) := by
  generalize given : l.value = v at wrong
  cases wrong with
  | bool b => exact .inl (by simp [dayCount, given])
  | null => exact .inl (by simp [dayCount, given])
  | @text s other =>
    have unread : IntegerText.read? s.toList = none :=
      Option.eq_none_iff_forall_ne_some.2 fun n read =>
        other n (IntegerText.read?_eq_some_iff.1 read)
    exact .inl (by simp [dayCount, given, unread])
  | nan => exact .inl (by simp [dayCount, given])
  | @fractional negative significand shift other =>
    obtain ⟨n, part⟩ : ∃ n, (Binary64.finite negative significand shift).truncate? = some n :=
      ⟨_, rfl⟩
    exact .inr (by simp [dayCount, given, part, other n])

-----------------------------------------------------------------------------------------
-- Shifted days
-----------------------------------------------------------------------------------------

/-- A counted day is told by its text, and only if the calendar has it. -/
theorem Leaf.Shifts.resolveDay_eq (shifts : l.Shifts sign n) (reads : clock.today = .ok d)
    (near : n.natAbs < Date.maxOrdinal)
    : resolveDay l clock = (dayAfter d (sign * n)).map .text := by
  rw [shifts.operator.operand, countedOperand, currentDay, reads,
    dayCount_of_dayNumber shifts.number near]
  rfl

theorem dayAfter_of_addDays? (shifted : d.addDays? n = some e) : dayAfter d n = .ok e.text := by
  rw [dayAfter, shifted]

theorem Leaf.IsToday.resolveDay_eq (today : l.IsToday) (reads : clock.today = .ok d)
    : resolveDay l clock = .ok (.text d.text) := by
  have text : todayOperand clock = .ok (.text d.text) := by
    rw [todayOperand, currentDay, reads]
    rfl
  rcases today with given | ⟨undated, value⟩
  · rw [operand_of_today given, text]
  · rw [undated.operand, value, text]
    rfl

/-- The count of a shift within the calendar is shorter than the calendar. -/
theorem Leaf.Shifts.near (shifts : l.Shifts sign n) (valid : d.Valid)
    (shifted : d.addDays? (sign * n) = some e)
    : n.natAbs < Date.maxOrdinal := by
  have near := valid.natAbs_lt_of_addDays? shifted
  have unit : sign.natAbs = 1 := by cases shifts.operator <;> rfl
  rwa [Int.natAbs_mul, unit, Nat.one_mul] at near

theorem Leaf.Shifts.resolveDay_of_addDays? (shifts : l.Shifts sign n)
    (reads : clock.today = .ok d) (valid : d.Valid) (shifted : d.addDays? (sign * n) = some e)
    : resolveDay l clock = .ok (.text e.text) := by
  rw [shifts.resolveDay_eq reads (shifts.near valid shifted), dayAfter_of_addDays? shifted]
  rfl

theorem readDay_text (valid : d.Valid) : readDay (.text d.text) = .ok d := by
  simp [readDay, dayOf?, valid.readPrefix?_text]

-----------------------------------------------------------------------------------------
-- Laws of counting
-----------------------------------------------------------------------------------------

variable {l' : Leaf} {clock' : Clock} {f g : Date} {m : Int}

/-- Days ahead are ordered like their counts. -/
theorem resolveDay_lt_iff (reads : clock.today = .ok d) (valid : d.Valid) (shifts : l.Shifts 1 m)
    (shifts' : l'.Shifts 1 n) (first : d.addDays? m = some e) (second : d.addDays? n = some f)
    : ∃ s t, resolveDay l clock = .ok (.text s) ∧ resolveDay l' clock = .ok (.text t)
        ∧ (s < t ↔ m < n) := by
  obtain ⟨validE, numberE⟩ := Date.addDays?_eq_some_iff.1 first
  obtain ⟨validF, numberF⟩ := Date.addDays?_eq_some_iff.1 second
  refine ⟨e.text, f.text, ?_, ?_, ?_⟩
  · exact shifts.resolveDay_of_addDays? reads valid (by rwa [Int.one_mul])
  · exact shifts'.resolveDay_of_addDays? reads valid (by rwa [Int.one_mul])
  · rw [validE.text_lt_iff validF]
    omega

/-- Days back are days ahead with the opposite count, also where the calendar does not have them. -/
theorem resolveDay_opposite (reads : clock.today = .ok d) (back : l.Shifts (-1) n)
    (ahead : l'.Shifts 1 (-n)) (near : n.natAbs < Date.maxOrdinal)
    : resolveDay l clock = resolveDay l' clock := by
  have near' : (-n).natAbs < Date.maxOrdinal := by rwa [Int.natAbs_neg]
  rw [back.resolveDay_eq reads near, ahead.resolveDay_eq reads near', Int.neg_mul, Int.one_mul,
    Int.one_mul]

/-- No days ahead, and no days back, are today. -/
theorem resolveDay_zero (reads : clock.today = .ok d) (valid : d.Valid) (shifts : l.Shifts sign 0)
    (today : l'.IsToday)
    : resolveDay l clock = resolveDay l' clock ∧ resolveDay l' clock = .ok (.text d.text) := by
  have stays : d.addDays? (sign * 0) = some d := by rw [Int.mul_zero, valid.addDays?_zero]
  have here := shifts.resolveDay_of_addDays? reads valid stays
  have there := today.resolveDay_eq reads
  exact ⟨here.trans there.symm, there⟩

/-- A shift of the clock's day and a shift from it add up. -/
theorem resolveDay_add (reads : clock.today = .ok d) (valid : d.Valid)
    (reads' : clock'.today = .ok e) (first : d.addDays? m = some e)
    (both : d.addDays? (m + n) = some g) (shifts : l.Shifts 1 n) (shifts' : l'.Shifts 1 (m + n))
    : resolveDay l clock' = resolveDay l' clock ∧ resolveDay l' clock = .ok (.text g.text) := by
  have validE := (Date.addDays?_eq_some_iff.1 first).1
  have onward : e.addDays? n = some g := by rw [Date.addDays?_of_addDays? first, both]
  have here := shifts.resolveDay_of_addDays? reads' validE (by rwa [Int.one_mul])
  have there := shifts'.resolveDay_of_addDays? reads valid (by rwa [Int.one_mul])
  exact ⟨here.trans there.symm, there⟩

/-- Equal counts in different forms resolve to the same. -/
theorem resolveDay_form (reads : clock.today = .ok d) (shifts : l.Shifts sign n)
    (shifts' : l'.Shifts sign n) (near : n.natAbs < Date.maxOrdinal)
    : resolveDay l clock = resolveDay l' clock := by
  rw [shifts.resolveDay_eq reads near, shifts'.resolveDay_eq reads near]

/-- What is no number of days is refused, whichever way the days are counted. -/
theorem resolveDay_of_noDayNumber (reads : clock.today = .ok d) (counts : l.Counts sign)
    (wrong : NoDayNumber l.value)
    : ∃ f r, resolveDay l clock = .error f ∧ f.toFailure = .report r
        ∧ r.reportClass = .filterCompile := by
  have resolved
      : resolveDay l clock = (dayCount l >>= fun n => dayAfter d (sign * n)).map .text := by
    rw [counts.operand, countedOperand, currentDay, reads]
    cases dayCount l <;> rfl
  rcases dayCount_of_noDayNumber wrong with failed | failed
  · exact ⟨_, _, by rw [resolved, failed]; rfl, rfl, rfl⟩
  · exact ⟨_, _, by rw [resolved, failed]; rfl, rfl, rfl⟩

/-- Counted days are calendar days. Whichever form their counts have, they are told as the texts of
the shifted days, which read back and are ordered like the counts. Days back are days ahead with the
opposite count, no days ahead are today, and shifts of the clock's day add up with shifts from it.
An operand that is no count is refused.
-/
theorem counted_days_shift_today (reads : clock.today = .ok d) (valid : d.Valid)
    : (∀ (l l' : Leaf) (m n : Int) (e f : Date),
        d.addDays? m = some e → d.addDays? n = some f → l.Shifts 1 m → l'.Shifts 1 n
        → ∃ s t, resolveDay l clock = .ok (.text s) ∧ resolveDay l' clock = .ok (.text t)
          ∧ (s < t ↔ m < n))
      ∧ (∀ (l : Leaf) (sign n : Int) (e : Date),
        d.addDays? (sign * n) = some e → l.Shifts sign n
        → resolveDay l clock = .ok (.text e.text) ∧ readDay (.text e.text) = .ok e)
      ∧ (∀ (l l' : Leaf) (n : Int) (f : Date),
        d.addDays? n = some f → l.Shifts (-1) n → l'.Shifts 1 (-n)
        → resolveDay l clock = resolveDay l' clock)
      ∧ (∀ (l l' : Leaf) (sign : Int),
        l.Shifts sign 0 → l'.IsToday
        → resolveDay l clock = resolveDay l' clock ∧ resolveDay l' clock = .ok (.text d.text))
      ∧ (∀ (l l' : Leaf) (clock' : Clock) (m n : Int) (e g : Date),
        d.addDays? m = some e → d.addDays? (m + n) = some g → clock'.today = .ok e
        → l.Shifts 1 n → l'.Shifts 1 (m + n)
        → resolveDay l clock' = resolveDay l' clock ∧ resolveDay l' clock = .ok (.text g.text))
      ∧ (∀ (l l' : Leaf) (sign n : Int) (f : Date),
        d.addDays? n = some f → l.Shifts sign n → l'.Shifts sign n
        → resolveDay l clock = resolveDay l' clock)
      ∧ (∀ (l : Leaf) (sign : Int),
        l.Counts sign → NoDayNumber l.value
        → ∃ f r, resolveDay l clock = .error f ∧ f.toFailure = .report r
          ∧ r.reportClass = .filterCompile) := by
  refine ⟨?_, ?_, ?_, ?_, ?_, ?_, ?_⟩
  · intro l l' m n e f first second shifts shifts'
    exact resolveDay_lt_iff reads valid shifts shifts' first second
  · intro l sign n e shifted shifts
    exact ⟨shifts.resolveDay_of_addDays? reads valid shifted,
      readDay_text (Date.addDays?_eq_some_iff.1 shifted).1⟩
  · intro l l' n f shifted back ahead
    exact resolveDay_opposite reads back ahead (valid.natAbs_lt_of_addDays? shifted)
  · intro l l' sign shifts today
    exact resolveDay_zero reads valid shifts today
  · intro l l' clock' m n e g first both reads' shifts shifts'
    exact resolveDay_add reads valid reads' first both shifts shifts'
  · intro l l' sign n f shifted shifts shifts'
    exact resolveDay_form reads shifts shifts' (valid.natAbs_lt_of_addDays? shifted)
  · intro l sign counts wrong
    exact resolveDay_of_noDayNumber reads counts wrong

/-- Two days before the first of March of a leap year. -/
theorem counted_days_shift_today_of_leap_year
    : let eve : Clock := .fixed ⟨⟨2024, 2, 28⟩, 23, 59, 0, 0, some 0⟩
      let leapDay : Clock := .system ⟨⟨2024, 2, 29⟩, 0, 0, 0, 0, none⟩
      let leaf (o : DateOperator) (v : Value) : Leaf := ⟨"due", "<", some v, none, some o.word⟩
      let ahead := leaf .daysFromNow
      (eve.today = .ok ⟨2024, 2, 28⟩ ∧ leapDay.today = .ok ⟨2024, 2, 29⟩)
      ∧ (∃ s t, resolveDay (ahead (.int 1)) eve = .ok (.text s)
          ∧ resolveDay (ahead (.text "2")) eve = .ok (.text t) ∧ s < t)
      ∧ (resolveDay (ahead (.text "2")) eve = .ok (.text "2024-03-01")
        ∧ readDay (.text "2024-03-01") = .ok ⟨2024, 3, 1⟩)
      ∧ resolveDay (leaf .daysAgo (.int 2)) eve = resolveDay (ahead (.text "-2")) eve
      ∧ resolveDay (leaf .daysAgo (.int 0)) eve = .ok (.text "2024-02-28")
      ∧ resolveDay (ahead (.int 2)) leapDay = resolveDay (ahead (.text "3")) eve
      ∧ ∃ f r, resolveDay (ahead (.bool true)) eve = .error f ∧ f.toFailure = .report r
          ∧ r.reportClass = .filterCompile := by
  intro eve leapDay leaf ahead
  have reads : eve.today = .ok ⟨2024, 2, 28⟩ := rfl
  have reads' : leapDay.today = .ok ⟨2024, 2, 29⟩ := rfl
  obtain ⟨order, shifts, opposite, here, moved, _, refused⟩ :=
    counted_days_shift_today reads (by decide)
  have one : (ahead (.int 1)).Shifts 1 1 := ⟨.forward rfl, .integer⟩
  have two : (ahead (.text "2")).Shifts 1 2 := ⟨.forward rfl, .decimal⟩
  have three : (ahead (.text "3")).Shifts 1 3 := ⟨.forward rfl, .decimal⟩
  have twoBack : (leaf .daysAgo (.int 2)).Shifts (-1) 2 := ⟨.back rfl, .integer⟩
  have minusTwo : (ahead (.text "-2")).Shifts 1 (-2) := ⟨.forward rfl, .decimal⟩
  have noneBack : (leaf .daysAgo (.int 0)).Shifts (-1) 0 := ⟨.back rfl, .integer⟩
  have today : (leaf .today .null).IsToday := .inl rfl
  have nextDay : Date.addDays? ⟨2024, 2, 28⟩ 1 = some ⟨2024, 2, 29⟩ := by decide
  have march : Date.addDays? ⟨2024, 2, 28⟩ 2 = some ⟨2024, 3, 1⟩ := by decide
  have later : Date.addDays? ⟨2024, 2, 28⟩ (1 + 2) = some ⟨2024, 3, 2⟩ := by decide
  obtain ⟨s, t, first, second, below⟩ := order _ _ 1 2 _ _ nextDay march one two
  have same := here _ _ _ noneBack today
  have two' : (ahead (.int 2)).Shifts 1 2 := ⟨.forward rfl, .integer⟩
  have onward := moved _ _ leapDay 1 2 _ _ nextDay later reads' two' three
  exact ⟨⟨reads, reads'⟩, ⟨s, t, first, second, below.2 (by decide)⟩,
    shifts _ 1 2 _ march two, opposite _ _ 2 _ march twoBack minusTwo, same.1.trans same.2,
    onward.1, refused _ 1 (.forward rfl) (.bool true)⟩

end DocGateway.Filter
