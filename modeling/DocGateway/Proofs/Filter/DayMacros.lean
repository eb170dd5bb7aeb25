import DocGateway.Proofs.Filter.Compilation

/-!
Days in leaves: those that macros stand for, and those that time stamps are compared with.

A macro stands for the clock's current day or for a day counted from it. Which of them it is depends
on the leaf's date operator alone (`Leaf.dating_cases`).
-/

namespace DocGateway

/-- A clock that cannot be read has no day for its moment. -/
theorem Clock.today_eq_error {clock : Clock} {m : Misuse} (failed : clock.today = .error m)
    : m = .outOfRange := by
  unfold today now at failed
  split at failed
  · cases failed
  · cases failed
    rfl

namespace Filter

theorem DateOperator.ofWord?_eq_some_iff {w : String} {o : DateOperator}
    : ofWord? w = some o ↔ w = o.word := by
  constructor
  · intro found
    unfold ofWord? at found
    have same := List.find?_some found
    exact (beq_iff_eq.1 same).symm
  · rintro rfl
    exact ofWord?_word o

/-- The operand that is the clock's current day. -/
def todayOperand (clock : Clock) : Except Fault Value :=
  (currentDay clock).map fun d => .text d.text

/-- The operand that is counted from the clock's current day by the leaf's number of days. -/
def countedOperand (l : Leaf) (clock : Clock) (sign : Int) : Except Fault Value := do
  let today ← currentDay clock
  let days ← dayCount l
  return .text (← dayAfter today (sign * days))

/-- The date operators that count days, forward with sign 1 and back with sign -1. -/
inductive Leaf.Counts (l : Leaf) : Int → Prop
  | forward (given : l.dateOperator = some DateOperator.daysFromNow.word) : l.Counts 1
  | back (given : l.dateOperator = some DateOperator.daysAgo.word) : l.Counts (-1)

/-- The leaf has no date operator; an empty one is none. -/
def Leaf.Undated (l : Leaf) : Prop := l.dateOperator.getD "" = ""

theorem operand_of_word {l : Leaf} {o : DateOperator} (given : l.dateOperator = some o.word)
    (clock : Clock)
    : resolveDay l clock
      = match o with
        | .today => todayOperand clock
        | .daysFromNow => countedOperand l clock 1
        | .daysAgo => countedOperand l clock (-1) := by
  have known := DateOperator.ofWord?_word o
  cases o
  all_goals
    simp only [DateOperator.word] at given known
    simp [resolveDay, given, known, todayOperand, countedOperand]

theorem Leaf.Counts.operand {l : Leaf} {sign : Int} (counts : l.Counts sign) (clock : Clock)
    : resolveDay l clock = countedOperand l clock sign := by
  cases counts with
  | forward given => exact operand_of_word given clock
  | back given => exact operand_of_word given clock

theorem Leaf.Undated.operand {l : Leaf} (undated : l.Undated) (clock : Clock)
    : resolveDay l clock
      = if l.value.same (.text todayMacro) then todayOperand clock else .ok l.value := by
  unfold Undated at undated
  cases given : l.dateOperator with
  | none => simp [resolveDay, given, todayOperand]
  | some w => simp_all [resolveDay, todayOperand]

theorem operand_of_today {l : Leaf} (given : l.dateOperator = some DateOperator.today.word)
    (clock : Clock)
    : resolveDay l clock = todayOperand clock :=
  operand_of_word given clock

theorem operand_of_unknown {l : Leaf} {w : String} (given : l.dateOperator = some w)
    (nonempty : w ≠ "") (unknown : DateOperator.ofWord? w = none) (clock : Clock)
    : resolveDay l clock = .error (.unknownDateOperator w l) := by
  simp [resolveDay, given, unknown]

/-- The four kinds of date operators that a leaf can have. -/
theorem Leaf.dating_cases (l : Leaf)
    : l.Undated
      ∨ l.dateOperator = some DateOperator.today.word
      ∨ (∃ sign, l.Counts sign)
      ∨ ∃ w, l.dateOperator = some w ∧ w ≠ "" ∧ DateOperator.ofWord? w = none := by
  cases given : l.dateOperator with
  | none => exact .inl (by simp [Undated, given])
  | some w =>
    by_cases empty : w = ""
    · exact .inl (by simp [Undated, given, empty])
    · cases word : DateOperator.ofWord? w with
      | none => exact .inr (.inr (.inr ⟨w, rfl, empty, word⟩))
      | some o =>
        obtain rfl := DateOperator.ofWord?_eq_some_iff.1 word
        cases o with
        | today => exact .inr (.inl rfl)
        | daysFromNow => exact .inr (.inr (.inl ⟨1, .forward given⟩))
        | daysAgo => exact .inr (.inr (.inl ⟨-1, .back given⟩))

-----------------------------------------------------------------------------------------
-- Comparisons by day
-----------------------------------------------------------------------------------------

/-- The operators that compare a field with an operand. -/
def Operator.TakesOperand (o : Operator) : Prop := o ≠ .isEmpty ∧ o ≠ .isNotEmpty

theorem Operator.eq_word_of_ofWord? {w : String} {o : Operator} (found : ofWord? w = some o)
    : w = o.word := by
  have same := List.find?_some found
  exact (beq_iff_eq.1 same).symm

theorem Operator.takesOperand_iff {w : String} {o : Operator} (found : ofWord? w = some o)
    : o.TakesOperand ↔ w ≠ isEmpty.word ∧ w ≠ isNotEmpty.word := by
  rw [eq_word_of_ofWord? found]
  cases o <;> simp [TakesOperand, word]

theorem takesOperand_of_comparesDay {ctx : Context} {l : Leaf} {o : Operator} {v : Value}
    (compares : comparesDay ctx l o v = true)
    : o.TakesOperand ∧ v.isNull = false := by
  cases o <;> simp_all [comparesDay, Operator.TakesOperand]

/-- A leaf with neither operand nor date operator has nothing to compare with and asks no day. -/
theorem resolveDay_of_bare {l : Leaf}
    (bare : (l.operand.isNone && (l.dateOperator.getD "").isEmpty) = true) (clock : Clock)
    : resolveDay l clock = .ok .null := by
  simp only [Bool.and_eq_true, Option.isNone_iff_eq_none, String.isEmpty_iff] at bare
  have isNull : l.value = .null := by simp [Leaf.value, bare.1]
  have undated : l.Undated := bare.2
  rw [undated.operand, isNull]
  rfl

theorem compileLeaf_of_takesOperand {l : Leaf} {o : Operator}
    (operator : Operator.ofWord? l.operator = some o) (takes : o.TakesOperand) (ctx : Context)
    : compileLeaf ctx l = compileWithOperand ctx l o := by
  unfold Operator.TakesOperand at takes
  cases o <;> simp_all [compileLeaf]

/-- Emptiness of a field is asked in the same way whatever a filter is compiled with. -/
theorem compileLeaf_of_not_takesOperand {l : Leaf} {o : Operator}
    (operator : Operator.ofWord? l.operator = some o) (takesNot : ¬ o.TakesOperand)
    : ∃ q, ∀ ctx, compileLeaf ctx l = .ok q := by
  unfold Operator.TakesOperand at takesNot
  cases o
  case isEmpty => exact ⟨_, fun ctx => by rw [compileLeaf, operator]⟩
  case isNotEmpty => exact ⟨_, fun ctx => by rw [compileLeaf, operator]⟩
  all_goals exact absurd ⟨nofun, nofun⟩ takesNot

/-- A time stamp that is compared by day is asked for the day's range, or for what is outside it. -/
theorem compileWithOperand_of_day {ctx : Context} {l : Leaf} {o : Operator} {v : Value}
    {day : Date} {r : DayRange} (operand : resolveDay l ctx.clock = .ok v)
    (compares : comparesDay ctx l o v = true) (reads : dayOf? v = some day)
    (range : DayRange.of? l.field day = some r)
    : compileWithOperand ctx l o
      = .ok (if o == .notEqual then r.toNegatedQuery else r.toQuery) := by
  have notBare : ¬ (l.operand.isNone && (l.dateOperator.getD "").isEmpty) = true := by
    intro bare
    cases (resolveDay_of_bare bare ctx.clock).symm.trans operand
    cases (takesOperand_of_comparesDay compares).2
  rw [compileWithOperand, if_neg notBare, operand]
  simp [bind, Except.bind, compares, compileDay, calendarDay, reads, range]

end Filter

end DocGateway
