import DocGateway.Proofs.Filter.OperandKinds
import DocGateway.Proofs.Query.FieldTests

/-!
Opposite operators.

Two leaves that differ in nothing but opposite operators both compile or both fail. Their queries
are contrary, so each record is accepted by exactly one of them. Only for days it is otherwise: a
day and all other days are both ranges of texts, and what is no text is in neither.
-/

namespace DocGateway

namespace Filter

/-- The words of opposite operators, the positive one first. -/
def oppositeWords : List (String × String) :=
  [("=", "<>"), ("contains", "does not contain"), ("is empty", "is not empty")]

/-- The leaf with another operator. -/
def Leaf.asking (l : Leaf) (operator : String) : Leaf := { l with operator }

-----------------------------------------------------------------------------------------
-- Operands
-----------------------------------------------------------------------------------------

theorem toOption_dayCount_asking (l : Leaf) (word : String)
    : (dayCount (l.asking word)).toOption = (dayCount l).toOption := by
  have value : (l.asking word).value = l.value := rfl
  unfold dayCount
  rw [value]
  split
  · rfl
  · rfl
  · split
    · split <;> rfl
    · rfl
  · cases IntegerText.read? _ <;> rfl
  · cases IntegerText.readBytes? _ <;> rfl
  · rfl

/-- An operand does not depend on the operator, apart from what faults say of it. -/
theorem toOption_resolveDay_asking (l : Leaf) (word : String) (clock : Clock)
    : (resolveDay (l.asking word) clock).toOption = (resolveDay l clock).toOption := by
  rcases l.dating_cases with undated | given | ⟨sign, counts⟩ | ⟨w, given, nonempty, unknown⟩
  · have undated' : (l.asking word).Undated := undated
    rw [undated'.operand, undated.operand]
    rfl
  · have given' : (l.asking word).dateOperator = some DateOperator.today.word := given
    rw [operand_of_today given', operand_of_today given]
  · have counts' : (l.asking word).Counts sign := by
      cases counts with
      | forward given => exact .forward given
      | back given => exact .back given
    rw [counts'.operand, counts.operand]
    simp only [countedOperand, Except.toOption_bind, toOption_dayCount_asking]
  · have given' : (l.asking word).dateOperator = some w := given
    rw [operand_of_unknown given' nonempty unknown, operand_of_unknown given nonempty unknown]
    rfl

theorem resolveDay_asking_cases (l : Leaf) (word : String) (clock : Clock)
    : (∃ f f', resolveDay l clock = .error f ∧ resolveDay (l.asking word) clock = .error f')
      ∨ ∃ v, resolveDay l clock = .ok v ∧ resolveDay (l.asking word) clock = .ok v := by
  have same := toOption_resolveDay_asking l word clock
  cases operand : resolveDay l clock with
  | error f =>
    cases operand' : resolveDay (l.asking word) clock with
    | error f' => exact .inl ⟨f, f', rfl, rfl⟩
    | ok v => rw [operand, operand'] at same; cases same
  | ok v =>
    cases operand' : resolveDay (l.asking word) clock with
    | error f' => rw [operand, operand'] at same; cases same
    | ok v' =>
      rw [operand, operand'] at same
      cases same
      exact .inr ⟨v, rfl, rfl⟩

-----------------------------------------------------------------------------------------
-- Contrary queries
-----------------------------------------------------------------------------------------

/-- Two queries of one field, the second one for what the first one leaves out. -/
inductive Contrary (field : String) : Query → Query → Prop
  | value {v : Value} (plain : ∀ es, v ≠ .mapping es)
    : Contrary field (.field field (.is v)) (.field field (.compare .notEqual v))
  | mapping (v : Value)
    : Contrary field (.field field (.literally v)) (.field field (.compare .notEqual v))
  | ids (vs : List Value) : Contrary field (.field field (.oneOf vs)) (.field field (.noneOf vs))
  | pattern (source : String)
    : Contrary field (.field field (.like source)) (.field field (.notLike source))
  | emptiness : Contrary field (.fieldEmpty field) (.fieldNotEmpty field)

/-- What becomes of opposite leaves: both fail, or their queries are contrary, or one asks for a day
and the other one for all other days.
-/
inductive Opposed (day : Prop) (field : String) : Except Fault Query → Except Fault Query → Prop
  | refused (f f' : Fault) : Opposed day field (.error f) (.error f')
  | contrary {q q' : Query} (notDay : ¬ day) (contrary : Contrary field q q')
    : Opposed day field (.ok q) (.ok q')
  | days (isDay : day) (start stop : String)
    : Opposed day field (.ok (DayRange.toQuery ⟨field, start, stop⟩))
        (.ok (DayRange.toNegatedQuery ⟨field, start, stop⟩))

variable {ctx : Context} {l : Leaf} {word : String} {day : Prop}

theorem opposed_compileDay (isDay : day) (v : Value)
    : Opposed day l.field (compileDay l v false) (compileDay (l.asking word) v true) := by
  cases reads : dayOf? v with
  | none =>
    simp only [compileDay, calendarDay, reads]
    exact .refused _ _
  | some d =>
    cases range : DayRange.of? l.field d with
    | none =>
      have range' : DayRange.of? (l.asking word).field d = none := range
      simp only [compileDay, calendarDay, reads, bind, Except.bind, range, range']
      exact .refused _ _
    | some r =>
      have range' : DayRange.of? (l.asking word).field d = some r := range
      obtain ⟨next, _, rfl⟩ := DayRange.of?_eq_some_iff.1 range
      simp only [compileDay, calendarDay, reads, bind, Except.bind, range, range']
      exact .days isDay _ _

/-- Opposite operators that take an operand. -/
inductive Operator.Opposite : Operator → Operator → Prop
  | equality : Opposite .equal .notEqual
  | containment : Opposite .contains .containsNot

variable {o o' : Operator}

theorem opposed_compileUser (notDay : ¬ day) (opposite : o.Opposite o') (caller : Option Identity)
    : Opposed day l.field (compileUser l o caller) (compileUser (l.asking word) o' caller) := by
  cases caller with
  | none => exact .refused _ _
  | some i =>
    cases opposite with
    | equality => exact .contrary notDay (.ids _)
    | containment => exact .contrary notDay (.ids _)

theorem opposed_compileOperand (notDay : ¬ day) (opposite : o.Opposite o') (v : Value)
    : Opposed day l.field (compileOperand l o v) (compileOperand (l.asking word) o' v) := by
  cases opposite with
  | equality =>
    cases v with
    | mapping es => exact .contrary notDay (.mapping _)
    | _ => exact .contrary notDay (.value nofun)
  | containment =>
    cases v with
    | null => exact .refused _ _
    | _ => exact .contrary notDay (.pattern _)

theorem opposed_of_opposite (opposite : o.Opposite o')
    (operator : Operator.ofWord? l.operator = some o) (operator' : Operator.ofWord? word = some o')
    : Opposed (l.ComparesDay ctx) l.field (compileLeaf ctx l)
        (compileLeaf ctx (l.asking word)) := by
  have operator' : Operator.ofWord? (l.asking word).operator = some o' := operator'
  have takes : o.TakesOperand ∧ o'.TakesOperand := by
    cases opposite <;> exact ⟨⟨nofun, nofun⟩, nofun, nofun⟩
  rw [compileLeaf_of_takesOperand operator takes.1, compileLeaf_of_takesOperand operator' takes.2]
  by_cases bare : l.Bare
  · have bare' : (l.asking word).Bare := bare
    rw [compileWithOperand_of_bare bare, compileWithOperand_of_bare bare']
    exact .refused _ _
  have given' : ¬ (l.asking word).Bare := bare
  rcases resolveDay_asking_cases l word ctx.clock with
    ⟨f, f', failed, failed'⟩ | ⟨v, operand, operand'⟩
  · rw [compileWithOperand_of_refused bare failed, compileWithOperand_of_refused given' failed']
    exact .refused _ _
  · rw [compileWithOperand_of_operand bare operand, compileWithOperand_of_operand given' operand']
    have same : comparesDay ctx (l.asking word) o' v = comparesDay ctx l o v := by
      cases opposite <;> rfl
    have byDay := comparesDay_iff operator operand
    rw [same]
    cases compares : comparesDay ctx l o v with
    | true =>
      cases opposite with
      | equality => exact opposed_compileDay (byDay.1 compares) v
      | containment => simp [comparesDay] at compares
    | false =>
      have notDay : ¬ l.ComparesDay ctx := by
        rw [← byDay, compares]
        exact Bool.false_ne_true
      cases isUserMacro v with
      | true => exact opposed_compileUser notDay opposite ctx.caller
      | false => exact opposed_compileOperand notDay opposite v

theorem opposed_compileLeaf (ctx : Context) (pair : (l.operator, word) ∈ oppositeWords)
    : Opposed (l.ComparesDay ctx) l.field (compileLeaf ctx l)
        (compileLeaf ctx (l.asking word)) := by
  simp only [oppositeWords, List.mem_cons, Prod.mk.injEq, List.not_mem_nil, or_false] at pair
  rcases pair with ⟨known, rfl⟩ | ⟨known, rfl⟩ | ⟨known, rfl⟩
  · exact opposed_of_opposite .equality (by rw [known]; rfl) rfl
  · exact opposed_of_opposite .containment (by rw [known]; rfl) rfl
  · have notDay : ¬ l.ComparesDay ctx := by
      intro compares
      rcases compares.operator with other | other
      · exact absurd (known.symm.trans other) (by decide)
      · exact absurd (known.symm.trans other) (by decide)
    have operator : Operator.ofWord? l.operator = some .isEmpty := by rw [known]; rfl
    have operator' : Operator.ofWord? (l.asking "is not empty").operator = some .isNotEmpty := rfl
    rw [compileLeaf, operator, compileLeaf, operator']
    exact .contrary notDay .emptiness

-----------------------------------------------------------------------------------------
-- What contrary queries accept
-----------------------------------------------------------------------------------------

/-- Of two contrary queries exactly one accepts a record. -/
theorem Contrary.accepts_iff {field : String} {q q' : Query} (contrary : Contrary field q q')
    (ordinary : ¬ Query.IsOperatorName field) (t : ValueTests) (record : String → Option Value)
    : t.matcher.accepts q'.toValue record ↔ ¬ t.matcher.accepts q.toValue record := by
  have asks {c c' : Condition}
      (opposite : t.Asks (record field) c'.toValue ↔ ¬ t.Asks (record field) c.toValue)
      : t.matcher.accepts (Query.field field c').toValue record
        ↔ ¬ t.matcher.accepts (Query.field field c).toValue record := by
    rw [ValueTests.accepts_field_iff ordinary, ValueTests.accepts_field_iff ordinary]
    exact opposite
  cases contrary with
  | value plain => exact asks (ValueTests.asks_notEqual_iff plain)
  | mapping v => exact asks (ValueTests.asks_notEqual_iff_literally v)
  | ids vs => exact asks (ValueTests.asks_noneOf_iff vs)
  | pattern source => exact asks (ValueTests.asks_notLike_iff source)
  | emptiness => exact ValueTests.accepts_fieldNotEmpty_iff ordinary

/-- Two leaves on an ordinary field that have opposite operators, and else are the same, both fail
or both compile. However storage tests single values, each record is then accepted by exactly one of
the queries, unless the leaves compare a time stamp with a day. In this case a record with a single
value is accepted by exactly one if the value is a text, and by neither if it is not or is missing.
-/
theorem compile_opposites (ctx : Context) {l : Leaf} {negative : String}
    (pair : (l.operator, negative) ∈ oppositeWords) (ordinary : ¬ Query.IsOperatorName l.field)
    : let l' := l.asking negative
      (∃ f f', compileLeaf ctx l = .error f ∧ compileLeaf ctx l' = .error f')
      ∨ ∃ q q',
          compileLeaf ctx l = .ok q
          ∧ compileLeaf ctx l' = .ok q'
          ∧ ∀ (t : ValueTests) (record : String → Option Value),
              let accepts (q : Query) : Prop := t.matcher.accepts q.toValue record
              (¬ l.ComparesDay ctx → (accepts q' ↔ ¬ accepts q))
              ∧ (l.ComparesDay ctx
                → (∀ v, record l.field = some v → v.Single)
                → ((∃ s, record l.field = some (.text s)) → (accepts q' ↔ ¬ accepts q))
                  ∧ ((∀ s, record l.field ≠ some (.text s)) → ¬ accepts q ∧ ¬ accepts q')) := by
  intro l'
  have opposed := opposed_compileLeaf ctx pair
  change Opposed (l.ComparesDay ctx) l.field (compileLeaf ctx l) (compileLeaf ctx l') at opposed
  generalize compileLeaf ctx l = outcome, compileLeaf ctx l' = outcome' at opposed
  cases opposed with
  | refused f f' => exact .inl ⟨f, f', rfl, rfl⟩
  | @contrary q q' notDay contrary =>
    refine .inr ⟨q, q', rfl, rfl, fun t record => ⟨fun _ => ?_, fun day => ?_⟩⟩
    · exact contrary.accepts_iff ordinary t record
    · exact absurd day notDay
  | days isDay start stop =>
    refine .inr ⟨_, _, rfl, rfl, fun t record => ⟨fun notDay => ?_, fun _ single => ⟨?_, ?_⟩⟩⟩
    · exact absurd isDay notDay
    · rintro ⟨s, found⟩
      exact ValueTests.accepts_otherDays_iff_of_text (r := ⟨l.field, start, stop⟩) ordinary found
    · intro noText
      refine ValueTests.not_accepts_days (r := ⟨l.field, start, stop⟩) ordinary fun s member => ?_
      cases found : record l.field with
      | none =>
        rw [found] at member
        cases member
      | some v =>
        rw [found, (single v found).tested] at member
        cases List.mem_singleton.1 member
        exact noText s found

/-- The caller's ids, asked of a field that is null; and a day, asked of a stamp that is missing. -/
theorem compile_opposites_of_owner_and_day
    : let i : Identity := .member (.text "ann") [.text "team"]
      let ctx : Context :=
        ⟨.fixed ⟨⟨2024, 1, 5⟩, 10, 30, 0, 0, some 0⟩, some i, ["createdAt"]⟩
      let owned : Leaf := ⟨"owner", "contains", some (.text "$userId"), none, none⟩
      let made : Leaf := ⟨"createdAt", "=", some (.text "$today"), some "date", none⟩
      let record (name : String) : Option Value := if name = "owner" then some .null else none
      let accepts (q : Query) : Prop := ValueTests.ofTexts.matcher.accepts q.toValue record
      let mine : Query := .field "owner" (.oneOf i.effective)
      let others : Query := .field "owner" (.noneOf i.effective)
      let today : DayRange := ⟨"createdAt", "2024-01-05", "2024-01-06"⟩
      (compileLeaf ctx owned = .ok mine
        ∧ compileLeaf ctx (owned.asking "does not contain") = .ok others
        ∧ ¬ owned.ComparesDay ctx
        ∧ (accepts others ↔ ¬ accepts mine))
      ∧ compileLeaf ctx made = .ok today.toQuery
      ∧ compileLeaf ctx (made.asking "<>") = .ok today.toNegatedQuery
      ∧ made.ComparesDay ctx
      ∧ ¬ accepts today.toQuery
      ∧ ¬ accepts today.toNegatedQuery := by
  intro i ctx owned made record accepts mine others today
  have notDay : ¬ owned.ComparesDay ctx := fun compares => absurd compares.stamped (by decide)
  have isDay : made.ComparesDay ctx := ⟨by decide, .inr rfl, .inl rfl, nofun⟩
  have compiled : compileLeaf ctx owned = .ok mine := rfl
  have compiled' : compileLeaf ctx (owned.asking "does not contain") = .ok others := rfl
  have compiledDay : compileLeaf ctx made = .ok today.toQuery := rfl
  have compiledDay' : compileLeaf ctx (made.asking "<>") = .ok today.toNegatedQuery := rfl
  refine ⟨⟨compiled, compiled', notDay, ?_⟩, compiledDay, compiledDay', isDay, ?_⟩
  · have pair : (owned.operator, "does not contain") ∈ oppositeWords := by decide
    rcases compile_opposites ctx pair (by decide) with
      ⟨f, _, failed, _⟩ | ⟨q, q', own, own', separated⟩
    · cases compiled.symm.trans failed
    · cases compiled.symm.trans own
      cases compiled'.symm.trans own'
      exact (separated ValueTests.ofTexts record).1 notDay
  · have pair : (made.operator, "<>") ∈ oppositeWords := by decide
    rcases compile_opposites ctx pair (by decide) with
      ⟨f, _, failed, _⟩ | ⟨q, q', own, own', separated⟩
    · cases compiledDay.symm.trans failed
    · cases compiledDay.symm.trans own
      cases compiledDay'.symm.trans own'
      exact ((separated ValueTests.ofTexts record).2 isDay nofun).2 nofun

/-- A record without the time stamp is neither of the day nor of any other day. -/
theorem opposite_days_leave_record_out
    : let ctx : Context := ⟨.fixed ⟨⟨2024, 1, 5⟩, 10, 30, 0, 0, some 0⟩, none, ["createdAt"]⟩
      let l : Leaf := ⟨"createdAt", "=", some (.text "2024-01-05"), none, none⟩
      let day : DayRange := ⟨"createdAt", "2024-01-05", "2024-01-06"⟩
      let record (_ : String) : Option Value := none
      let accepts (q : Query) : Prop := ValueTests.ofTexts.matcher.accepts q.toValue record
      (l.operator, "<>") ∈ oppositeWords
      ∧ ¬ Query.IsOperatorName l.field
      ∧ compileLeaf ctx l = .ok day.toQuery
      ∧ compileLeaf ctx (l.asking "<>") = .ok day.toNegatedQuery
      ∧ ¬ (accepts day.toNegatedQuery ↔ ¬ accepts day.toQuery) := by
  intro ctx l day record accepts
  have ordinary : ¬ Query.IsOperatorName day.field := by decide
  obtain ⟨notOf, notOther⟩ : ¬ accepts day.toQuery ∧ ¬ accepts day.toNegatedQuery :=
    ValueTests.not_accepts_days ordinary fun _ => List.not_mem_nil
  exact ⟨by decide, ordinary, rfl, rfl, fun separated => notOther (separated.2 notOf)⟩

end Filter

end DocGateway
