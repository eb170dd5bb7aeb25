import DocGateway.Proofs.Filter.DayMacros
import DocGateway.Proofs.Value.TextKeys

/-!
What a filter learns about the clock.

Compiling asks a clock for its current day and for nothing else, and it asks only for leaves that
compare their field with a day counted from it. Clocks on the same day are therefore the same to all
filters, and all clocks are the same to a filter without such leaves.
-/

namespace DocGateway.Filter

/-- A leaf that compares its field with an operand that may be counted from the current day: it has
a date operator, or the day macro for its operand.
-/
structure Leaf.AsksDay (l : Leaf) : Prop where
  operator : l.operator ≠ Operator.isEmpty.word ∧ l.operator ≠ Operator.isNotEmpty.word
  dated : ¬ l.Undated ∨ l.value = .text todayMacro

/-- Operands are counted from the clock's current day, and only where the leaf says so. -/
theorem resolveDay_congr {l : Leaf} {clock clock' : Clock}
    (same : ¬ l.Undated ∨ l.value = .text todayMacro → clock.today = clock'.today)
    : resolveDay l clock = resolveDay l clock' := by
  by_cases dated : ¬ l.Undated ∨ l.value = .text todayMacro
  · have day : currentDay clock = currentDay clock' := by
      rw [currentDay, currentDay, same dated]
    simp only [resolveDay, day]
  · obtain ⟨undated, other⟩ := not_or.1 dated
    have notToday : ¬ l.value.same (.text todayMacro) = true := by
      rw [Value.same_text_right, Value.isText_iff]
      exact other
    rw [(not_not.1 undated).operand, (not_not.1 undated).operand, if_neg notToday, if_neg notToday]

/-- Leaves read the clock's current day and nothing else of the clock, and only if they ask for
it.
-/
theorem compileLeaf_congr_clock {clock clock' : Clock} {caller : Option Identity}
    {stampFields : List String} {l : Leaf}
    (same : l.AsksDay → clock.today = clock'.today)
    : compileLeaf ⟨clock, caller, stampFields⟩ l
      = compileLeaf ⟨clock', caller, stampFields⟩ l := by
  cases operator : Operator.ofWord? l.operator with
  | none => simp [compileLeaf, operator]
  | some o =>
    by_cases takes : o.TakesOperand
    · have word := Operator.eq_word_of_ofWord? operator
      have compares
          : l.operator ≠ Operator.isEmpty.word ∧ l.operator ≠ Operator.isNotEmpty.word := by
        exact (Operator.takesOperand_iff operator).1 takes
      have operand : resolveDay l clock = resolveDay l clock' :=
        resolveDay_congr fun dated => same ⟨compares, dated⟩
      rw [compileLeaf_of_takesOperand operator takes, compileLeaf_of_takesOperand operator takes,
        compileWithOperand, compileWithOperand, operand]
      rfl
    · unfold Operator.TakesOperand at takes
      cases o <;> simp_all [compileLeaf]

namespace Source

/-- Clocks on the same day are the same to all filters, also to those that are refused; and all
clocks are the same to a filter none of whose leaves asks for the day.
-/
theorem compile_reads_day (source : Source) (caller : Option Identity) (stampFields : List String)
    : (∀ clock clock' : Clock,
        clock.today = clock'.today
        → source.compile ⟨clock, caller, stampFields⟩
          = source.compile ⟨clock', caller, stampFields⟩)
      ∧ ((∀ n, source.normalize = .ok (.node n) → ∀ l ∈ n.leaves, ¬ l.AsksDay)
        → ∀ clock clock' : Clock,
            source.compile ⟨clock, caller, stampFields⟩
              = source.compile ⟨clock', caller, stampFields⟩) := by
  have sameDay {clock clock' : Clock}
      (day : ∀ n, source.normalize = .ok (.node n) → ∀ l ∈ n.leaves,
        l.AsksDay → clock.today = clock'.today)
      : source.compile ⟨clock, caller, stampFields⟩
        = source.compile ⟨clock', caller, stampFields⟩ := by
    refine compile_congr fun n taken => Node.compile_congr fun l isLeaf => ?_
    exact compileLeaf_congr_clock (day n taken l isLeaf)
  constructor
  · intro clock clock' same
    exact sameDay fun _ _ _ _ _ => same
  · intro nobodyAsks clock clock'
    exact sameDay fun n taken l isLeaf asks => absurd asks (nobodyAsks n taken l isLeaf)

/-- Two clocks that read different moments of one day, and a filter with a macro of either kind;
then a clock that cannot be read at all, and a filter whose macros stand where no operand is needed.
-/
theorem compile_reads_day_of_late_evening
    : let evening : Clock := .fixed ⟨⟨2024, 1, 5⟩, 23, 30, 0, 0, some (-18000000000)⟩
      let midnight : Clock := .system ⟨⟨2024, 1, 5⟩, 0, 0, 0, 0, some 0⟩
      let unreadable : Clock := .system ⟨⟨1, 1, 1⟩, 0, 0, 0, 0, some 3600000000⟩
      let leaf (field operator : String) (operand : Value) (dateOperator : String) : Value :=
        Value.fields
          [("fieldId", .text field), ("operator", .text operator), ("value", operand),
            ("dateOperator", .text dateOperator)]
      let soon : Source :=
        .value (groupTree .any
          [leaf "due" "<" (.int 3) "days from now", .null,
            leaf "createdAt" "=" (.text "$today") ""])
      let ranked : Source :=
        .value (groupTree .all
          [leaf "closed" "is empty" (.text "$today") "today", leaf "rank" ">" (.int 3) ""])
      (evening.today = midnight.today
        ∧ soon.compile ⟨evening, none, ["createdAt"]⟩ = soon.compile ⟨midnight, none, ["createdAt"]⟩
        ∧ soon.compile ⟨midnight, none, ["createdAt"]⟩
          = .ok (.any [.field "due" (.compare .less (.text "2024-01-08")),
              .field "createdAt" (.within "2024-01-05" "2024-01-06")]))
      ∧ ((∀ n, ranked.normalize = .ok (.node n) → ∀ l ∈ n.leaves, ¬ l.AsksDay)
        ∧ ranked.compile ⟨evening, none, []⟩ = ranked.compile ⟨unreadable, none, []⟩) := by
  intro evening midnight unreadable leaf soon ranked
  have sameDay : evening.today = midnight.today := rfl
  have nobodyAsks : ∀ n, ranked.normalize = .ok (.node n) → ∀ l ∈ n.leaves, ¬ l.AsksDay := by
    rintro n taken l isLeaf ⟨⟨notEmptiness, _⟩, dated⟩
    cases taken
    rcases List.mem_cons.1 isLeaf with rfl | isLeaf
    · exact notEmptiness rfl
    · cases List.mem_singleton.1 isLeaf
      rcases dated with dated | today
      · exact dated rfl
      · cases today
  exact ⟨⟨sameDay, (compile_reads_day soon none ["createdAt"]).1 _ _ sameDay, rfl⟩,
    ⟨nobodyAsks, (compile_reads_day ranked none []).2 nobodyAsks _ _⟩⟩

end Source

end DocGateway.Filter
