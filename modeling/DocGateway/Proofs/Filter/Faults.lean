import DocGateway.Proofs.Filter.DayMacros
import DocGateway.Proofs.Filter.Reading

/-!
What comes out of the compiler for filters that do not compile.

Every fault is told as a report of the query compiler, with one exception: calendar arithmetic that
leaves the calendar. `Leaf.OutsideCalendar` names the leaves where that happens.
-/

namespace DocGateway

/-- A report about a filter or about a macro in it. -/
def Failure.IsCompileReport (f : Failure) : Prop :=
  ∃ r, f = .report r ∧ (r.reportClass = .filterCompile ∨ r.reportClass = .macroResolution)

/-- Exactly the numbers that are not finite have no integer part. -/
theorem Binary64.truncate?_eq_none_iff {x : Binary64}
    : x.truncate? = none ↔ x = .nan ∨ ∃ negative, x = .infinite negative := by
  cases x with
  | nan => exact ⟨fun _ => .inl rfl, fun _ => rfl⟩
  | infinite negative => exact ⟨fun _ => .inr ⟨negative, rfl⟩, fun _ => rfl⟩
  | finite negative significand shift =>
    constructor
    · intro none
      cases none
    · rintro (isNan | ⟨_, isInfinite⟩)
      · cases isNan
      · cases isInfinite

namespace Filter

/-- Whether a fault is the misuse of a value, which no report tells. -/
def Fault.IsMisuse (f : Fault) : Prop := ∃ m, f = .misuse m

theorem Fault.report_of_not_misuse {f : Fault} (told : ¬ f.IsMisuse)
    : f.toFailure.IsCompileReport := by
  cases f with
  | misuse m => exact absurd ⟨m, rfl⟩ told
  | noIdentity => exact ⟨_, rfl, .inr rfl⟩
  | _ => exact ⟨_, rfl, .inl rfl⟩

/-- Reading only fails with faults that reports tell. -/
theorem Node.not_misuse_of_read {v : Value} {f : Fault} (failed : read v = .error f)
    : ¬ f.IsMisuse := by
  intro misuse
  obtain ⟨m, isMisuse⟩ := misuse
  subst isMisuse
  cases ofReading_of_read failed

-----------------------------------------------------------------------------------------
-- Leaves
-----------------------------------------------------------------------------------------

namespace Leaf

/-- The leaf's operand is the clock's current day, or counted from it. -/
def AsksClock (l : Leaf) : Prop :=
  (l.Undated ∧ l.value.same (.text todayMacro) = true)
  ∨ l.dateOperator = some DateOperator.today.word
  ∨ ∃ sign, l.Counts sign

/-- The ways in which a macro asks for a day that the calendar does not have. -/
inductive NoMacroDay (clock : Clock) (l : Leaf) : Prop
  /-- The clock's moment is on no day of the calendar in UTC. -/
  | noToday (asks : l.AsksClock) (unreadable : clock.today = .error .outOfRange)
  /-- The number of days is infinite. -/
  | endless {sign : Int} {today : Date} {negative : Bool} (counts : l.Counts sign)
      (reads : clock.today = .ok today) (count : l.value = .float (.infinite negative))
  /-- The number of days leads before the first or past the last day of the calendar. -/
  | tooFar {sign days : Int} {today : Date} (counts : l.Counts sign)
      (reads : clock.today = .ok today) (count : dayCount l = .ok days)
      (outside : today.addDays? (sign * days) = none)

/-- The ways in which a leaf asks for a day that the calendar does not have. -/
inductive OutsideCalendar (ctx : Context) (l : Leaf) : Prop
  | macroDay {o : Operator} (operator : Operator.ofWord? l.operator = some o)
      (takes : o.TakesOperand) (missing : l.NoMacroDay ctx.clock)
  /-- A time stamp is compared with a day that has no next one. -/
  | nextDay {o : Operator} {v : Value} {day : Date}
      (operator : Operator.ofWord? l.operator = some o) (operand : resolveDay l ctx.clock = .ok v)
      (compares : comparesDay ctx l o v = true) (reads : dayOf? v = some day)
      (missing : day.addDays? 1 = none)

end Leaf

theorem dayCount_misuse_iff {l : Leaf} {m : Misuse}
    : dayCount l = .error (.misuse m)
      ↔ m = .outOfRange ∧ ∃ negative, l.value = .float (.infinite negative) := by
  cases given : l.value with
  | float x =>
    by_cases isNan : x = .nan
    · simp [dayCount, given, isNan]
    · cases whole : x.truncate? with
      | none =>
        obtain ⟨negative, rfl⟩ :=
          (Binary64.truncate?_eq_none_iff.1 whole).resolve_left isNan
        simp [dayCount, given, whole, eq_comm]
      | some n =>
        have finite : ∀ negative, x ≠ .infinite negative := by
          rintro negative rfl
          cases whole
        simp only [dayCount, given, whole]
        split_ifs <;> simp [finite]
  | text s => cases read : IntegerText.read? s.toList <;> simp [dayCount, given, read]
  | bytes bs => cases read : IntegerText.readBytes? bs <;> simp [dayCount, given, read]
  | _ => simp [dayCount, given]

theorem currentDay_misuse_iff {clock : Clock} {m : Misuse}
    : currentDay clock = .error (.misuse m)
      ↔ m = .outOfRange ∧ clock.today = .error .outOfRange := by
  constructor
  · intro failed
    obtain ⟨m', unreadable, same⟩ := Except.mapError_eq_error.1 failed
    obtain rfl := Clock.today_eq_error unreadable
    cases same
    exact ⟨rfl, unreadable⟩
  · rintro ⟨rfl, unreadable⟩
    exact Except.mapError_eq_error.2 ⟨_, unreadable, rfl⟩

theorem todayOperand_misuse_iff {clock : Clock} {m : Misuse}
    : todayOperand clock = .error (.misuse m)
      ↔ m = .outOfRange ∧ clock.today = .error .outOfRange :=
  Except.map_eq_error.trans currentDay_misuse_iff

theorem dayAfter_misuse_iff {day : Date} {days : Int} {m : Misuse}
    : dayAfter day days = .error (.misuse m) ↔ m = .outOfRange ∧ day.addDays? days = none := by
  cases after : day.addDays? days <;> simp [dayAfter, after, eq_comm]

theorem countedOperand_misuse_iff {l : Leaf} {clock : Clock} {sign : Int} {m : Misuse}
    : countedOperand l clock sign = .error (.misuse m)
      ↔ m = .outOfRange
        ∧ (clock.today = .error .outOfRange
          ∨ ∃ today, clock.today = .ok today
            ∧ ((∃ negative, l.value = .float (.infinite negative))
              ∨ ∃ days, dayCount l = .ok days ∧ today.addDays? (sign * days) = none)) := by
  have reads {today : Date} : currentDay clock = .ok today ↔ clock.today = .ok today :=
    Except.mapError_eq_ok
  simp only [countedOperand, Except.bind_eq_error, currentDay_misuse_iff, dayCount_misuse_iff,
    dayAfter_misuse_iff, reads]
  constructor
  · rintro (⟨rfl, unreadable⟩ | ⟨today, read, ⟨rfl, endless⟩ | ⟨days, count, far⟩⟩)
    · exact ⟨rfl, .inl unreadable⟩
    · exact ⟨rfl, .inr ⟨today, read, .inl endless⟩⟩
    · rcases far with ⟨rfl, outside⟩ | ⟨_, _, impossible⟩
      · exact ⟨rfl, .inr ⟨today, read, .inr ⟨days, count, outside⟩⟩⟩
      · cases impossible
  · rintro ⟨rfl, unreadable | ⟨today, read, endless | ⟨days, count, outside⟩⟩⟩
    · exact .inl ⟨rfl, unreadable⟩
    · exact .inr ⟨today, read, .inl ⟨rfl, endless⟩⟩
    · exact .inr ⟨today, read, .inr ⟨days, count, .inl ⟨rfl, outside⟩⟩⟩

/-- An operand is a misuse exactly where a macro leaves the calendar. -/
theorem resolveDay_misuse_iff {l : Leaf} {clock : Clock} {m : Misuse}
    : resolveDay l clock = .error (.misuse m) ↔ m = .outOfRange ∧ l.NoMacroDay clock := by
  constructor
  · intro failed
    rcases l.dating_cases with undated | today | ⟨sign, counts⟩ | ⟨w, given, nonempty, unknown⟩
    · rw [undated.operand] at failed
      split_ifs at failed with isToday
      obtain ⟨rfl, unreadable⟩ := todayOperand_misuse_iff.1 failed
      exact ⟨rfl, .noToday (.inl ⟨undated, isToday⟩) unreadable⟩
    · rw [operand_of_today today] at failed
      obtain ⟨rfl, unreadable⟩ := todayOperand_misuse_iff.1 failed
      exact ⟨rfl, .noToday (.inr (.inl today)) unreadable⟩
    · rw [counts.operand] at failed
      obtain ⟨rfl, unreadable | ⟨today, reads, ⟨_, count⟩ | ⟨days, count, outside⟩⟩⟩ :=
        countedOperand_misuse_iff.1 failed
      · exact ⟨rfl, .noToday (.inr (.inr ⟨sign, counts⟩)) unreadable⟩
      · exact ⟨rfl, .endless counts reads count⟩
      · exact ⟨rfl, .tooFar counts reads count outside⟩
    · rw [operand_of_unknown given nonempty unknown] at failed
      cases failed
  · rintro ⟨rfl, missing⟩
    cases missing with
    | noToday asks unreadable =>
      rcases asks with ⟨undated, isToday⟩ | today | ⟨sign, counts⟩
      · rw [undated.operand, if_pos isToday]
        exact todayOperand_misuse_iff.2 ⟨rfl, unreadable⟩
      · rw [operand_of_today today]
        exact todayOperand_misuse_iff.2 ⟨rfl, unreadable⟩
      · rw [counts.operand]
        exact countedOperand_misuse_iff.2 ⟨rfl, .inl unreadable⟩
    | endless counts reads count =>
      rw [counts.operand]
      exact countedOperand_misuse_iff.2 ⟨rfl, .inr ⟨_, reads, .inl ⟨_, count⟩⟩⟩
    | tooFar counts reads count outside =>
      rw [counts.operand]
      exact countedOperand_misuse_iff.2 ⟨rfl, .inr ⟨_, reads, .inr ⟨_, count, outside⟩⟩⟩

theorem compileDay_misuse_iff {l : Leaf} {v : Value} {negated : Bool} {m : Misuse}
    : compileDay l v negated = .error (.misuse m)
      ↔ m = .outOfRange ∧ ∃ day, dayOf? v = some day ∧ day.addDays? 1 = none := by
  cases read : dayOf? v with
  | none => simp [compileDay, calendarDay, read, bind, Except.bind]
  | some day =>
    cases next : day.addDays? 1 with
    | none => simp [compileDay, calendarDay, read, DayRange.of?, next, bind, Except.bind, eq_comm]
    | some after => simp [compileDay, calendarDay, read, DayRange.of?, next, bind, Except.bind]

theorem compileUser_not_misuse (l : Leaf) (o : Operator) (caller : Option Identity) (m : Misuse)
    : compileUser l o caller ≠ .error (.misuse m) := by
  cases caller with
  | none => simp [compileUser, resolveUser, bind, Except.bind]
  | some i => cases o <;> simp [compileUser, resolveUser, bind, Except.bind]

theorem compileOperand_not_misuse (l : Leaf) (o : Operator) (v : Value) (m : Misuse)
    : compileOperand l o v ≠ .error (.misuse m) := by
  intro failed
  unfold compileOperand at failed
  split at failed
  · cases failed
  · split at failed
    · split at failed <;> cases failed
    · split_ifs at failed
      cases failed

theorem compileWithOperand_misuse_iff {ctx : Context} {l : Leaf} {o : Operator} {m : Misuse}
    : compileWithOperand ctx l o = .error (.misuse m)
      ↔ m = .outOfRange
        ∧ (l.NoMacroDay ctx.clock
          ∨ ∃ v day, resolveDay l ctx.clock = .ok v ∧ comparesDay ctx l o v = true
            ∧ dayOf? v = some day ∧ day.addDays? 1 = none) := by
  unfold compileWithOperand
  by_cases bare : (l.operand.isNone && (l.dateOperator.getD "").isEmpty) = true
  · rw [if_pos bare]
    constructor
    · rintro ⟨⟩
    · have resolved := resolveDay_of_bare bare ctx.clock
      rintro ⟨rfl, missing | ⟨v, day, operand, compares, _⟩⟩
      · cases resolved.symm.trans (resolveDay_misuse_iff.2 ⟨rfl, missing⟩)
      · cases resolved.symm.trans operand
        cases (takesOperand_of_comparesDay compares).2
  · rw [if_neg bare, Except.bind_eq_error, resolveDay_misuse_iff]
    constructor
    · rintro (⟨rfl, missing⟩ | ⟨v, operand, failed⟩)
      · exact ⟨rfl, .inl missing⟩
      · split_ifs at failed with compares
        · obtain ⟨rfl, day, reads, missing⟩ := compileDay_misuse_iff.1 failed
          exact ⟨rfl, .inr ⟨v, day, operand, compares, reads, missing⟩⟩
        · exact absurd failed (compileUser_not_misuse l o ctx.caller m)
        · exact absurd failed (compileOperand_not_misuse l o v m)
    · rintro ⟨rfl, missing | ⟨v, day, operand, compares, reads, missing⟩⟩
      · exact .inl ⟨rfl, missing⟩
      · refine .inr ⟨v, operand, ?_⟩
        rw [if_pos compares]
        exact compileDay_misuse_iff.2 ⟨rfl, day, reads, missing⟩

/-- A leaf is a misuse exactly where it asks for a day outside the calendar. -/
theorem compileLeaf_misuse_iff {ctx : Context} {l : Leaf} {m : Misuse}
    : compileLeaf ctx l = .error (.misuse m) ↔ m = .outOfRange ∧ l.OutsideCalendar ctx := by
  constructor
  · intro failed
    cases operator : Operator.ofWord? l.operator with
    | none => simp [compileLeaf, operator] at failed
    | some o =>
      have takes : o.TakesOperand := by
        constructor
        all_goals
          rintro rfl
          simp [compileLeaf, operator] at failed
      rw [compileLeaf_of_takesOperand operator takes] at failed
      obtain ⟨rfl, missing | ⟨v, day, operand, compares, reads, missing⟩⟩ :=
        compileWithOperand_misuse_iff.1 failed
      · exact ⟨rfl, .macroDay operator takes missing⟩
      · exact ⟨rfl, .nextDay operator operand compares reads missing⟩
  · rintro ⟨rfl, outside⟩
    cases outside with
    | macroDay operator takes missing =>
      rw [compileLeaf_of_takesOperand operator takes]
      exact compileWithOperand_misuse_iff.2 ⟨rfl, .inl missing⟩
    | nextDay operator operand compares reads missing =>
      rw [compileLeaf_of_takesOperand operator (takesOperand_of_comparesDay compares).1]
      exact compileWithOperand_misuse_iff.2 ⟨rfl, .inr ⟨_, _, operand, compares, reads, missing⟩⟩

-----------------------------------------------------------------------------------------
-- Trees
-----------------------------------------------------------------------------------------

/-- Where compiling a tree is a misuse, some leaf asks for a day outside the calendar. -/
theorem Node.outsideCalendar_of_compile {ctx : Context} {n : Node} {m : Misuse}
    (failed : n.compile ctx = .error (.misuse m))
    : m = .outOfRange ∧ ∃ l ∈ n.leaves, l.OutsideCalendar ctx := by
  induction n with
  | leaf l =>
    obtain ⟨rfl, outside⟩ := compileLeaf_misuse_iff.1 failed
    exact ⟨rfl, l, List.mem_singleton.2 rfl, outside⟩
  | raw v => cases failed
  | group operator members ih =>
    cases word : Connective.ofWord? (operator.getD "") with
    | none => simp [compile, word, unknownConnective] at failed
    | some c =>
      rw [compile_group ctx word] at failed
      split_ifs at failed
      · cases failed
      · obtain ⟨n, member, failed⟩ :=
          Except.exists_of_mapM_eq_error (Except.map_eq_error.1 failed)
        obtain ⟨rfl, l, isLeaf, outside⟩ := ih n (mem_present.1 member).1 failed
        exact ⟨rfl, l, mem_leaves_group.2 ⟨n, member, isLeaf⟩, outside⟩

namespace Source

variable {ctx : Context} {es : List (Value × Value)}

theorem compile_of_read {n : Node} (read : Node.read (.mapping es) = .ok n)
    : (value (.mapping es)).compile ctx = (n.compile ctx).mapError Fault.toFailure := by
  simp [compile, normalize, read, Except.mapError, Except.map, bind, Except.bind, Ready.compile]

theorem compile_of_read_error {f : Fault} (read : Node.read (.mapping es) = .error f)
    : (value (.mapping es)).compile ctx = .error f.toFailure := by
  simp [compile, normalize, read, Except.mapError, Except.map, bind, Except.bind]

/-- Compiling a mapping gives a query or a compile report, or else leaves the calendar at a leaf. A
mapping that is a single leaf does the latter whenever the leaf asks for a day outside the calendar.
-/
theorem compile_outcome (ctx : Context) (es : List (Value × Value))
    : let outcome := (value (.mapping es)).compile ctx
      ((∃ q, outcome = .ok q)
        ∨ (∃ f, outcome = .error f ∧ f.IsCompileReport)
        ∨ outcome = .error (.misuse .outOfRange)
          ∧ ∃ n, Node.read (.mapping es) = .ok n ∧ ∃ l ∈ n.leaves, l.OutsideCalendar ctx)
      ∧ ∀ l, Node.read (.mapping es) = .ok (.leaf l) →
          (outcome = .error (.misuse .outOfRange) ↔ l.OutsideCalendar ctx) := by
  intro outcome
  constructor
  · cases read : Node.read (.mapping es) with
    | error f =>
      have told := Fault.report_of_not_misuse (Node.not_misuse_of_read read)
      exact .inr (.inl ⟨_, compile_of_read_error read, told⟩)
    | ok n =>
      have compiled : outcome = (n.compile ctx).mapError Fault.toFailure := compile_of_read read
      cases result : n.compile ctx with
      | ok q => exact .inl ⟨q, by rw [compiled, result]; rfl⟩
      | error f =>
        have failed : outcome = .error f.toFailure := by rw [compiled, result]; rfl
        by_cases misuse : f.IsMisuse
        · obtain ⟨m, rfl⟩ := misuse
          obtain ⟨rfl, outside⟩ := Node.outsideCalendar_of_compile result
          exact .inr (.inr ⟨failed, n, rfl, outside⟩)
        · exact .inr (.inl ⟨_, failed, Fault.report_of_not_misuse misuse⟩)
  · intro l read
    have compiled : outcome = (Filter.compileLeaf ctx l).mapError Fault.toFailure :=
      compile_of_read read
    rw [compiled, Except.mapError_eq_error]
    constructor
    · rintro ⟨f, failed, told⟩
      cases f with
      | misuse m => exact (compileLeaf_misuse_iff.1 failed).2
      | _ => cases told
    · intro outside
      exact ⟨_, compileLeaf_misuse_iff.2 ⟨rfl, outside⟩, rfl⟩

/-- An infinite number of days, a number of days past the calendar's end and a time stamp on the
calendar's last day are told as no compile report.
-/
theorem compile_leaves_calendar
    : let ctx : Context := ⟨.fixed ⟨⟨2024, 1, 5⟩, 10, 30, 0, 0, some 0⟩, none, ["createdAt"]⟩
      let counted (days : Value) : Value :=
        Value.fields
          [("fieldId", .text "dueDate"), ("operator", .text "<"), ("value", days),
            ("dateOperator", .text "days from now")]
      let stamped : Value :=
        Value.fields
          [("fieldId", .text "createdAt"), ("operator", .text "="), ("value", .text "9999-12-31")]
      (∀ filter ∈ [counted (.float (.infinite false)), counted (.int 3000000), stamped],
        (value filter).compile ctx = .error (.misuse .outOfRange))
      ∧ ¬ (Failure.misuse .outOfRange).IsCompileReport := by
  dsimp only
  constructor
  · refine List.forall_mem_cons.2 ⟨rfl, List.forall_mem_cons.2 ⟨rfl, ?_⟩⟩
    exact List.forall_mem_singleton.2 rfl
  · rintro ⟨_, ⟨⟩, _⟩

end Source

end Filter

end DocGateway
