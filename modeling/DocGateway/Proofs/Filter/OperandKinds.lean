import DocGateway.Proofs.Filter.Callers
import DocGateway.Proofs.Value.TextKeys

/-!
What an operand is taken as: a day to compare a time stamp with, the caller's ids, or itself.

Whether it is a day can be told from the leaf and the fields that hold time stamps
(`Leaf.ComparesDay`).
-/

namespace DocGateway.Filter

/-- The leaf compares a time stamp with a day. Null is no day. -/
structure Leaf.ComparesDay (ctx : Context) (l : Leaf) : Prop where
  stamped : l.field ∈ ctx.stampFields
  fieldType : l.fieldType = none ∨ l.fieldType = some "date"
  operator : l.operator = "=" ∨ l.operator = "<>"
  operand : ¬ (l.Undated ∧ l.value = .null)

/-- Only an operand that is null itself is taken as null. -/
theorem operand_null_iff {l : Leaf} {clock : Clock} {v : Value}
    (operand : resolveDay l clock = .ok v)
    : v = .null ↔ l.Undated ∧ l.value = .null := by
  constructor
  · rintro rfl
    rcases operand_cases operand with ⟨undated, own⟩ | ⟨d, day⟩
    · exact ⟨undated, own.symm⟩
    · cases day
  · rintro ⟨undated, isNull⟩
    rw [undated.operand, isNull] at operand
    cases operand
    rfl

theorem comparesDay_iff {ctx : Context} {l : Leaf} {o : Operator} {v : Value}
    (operator : Operator.ofWord? l.operator = some o) (operand : resolveDay l ctx.clock = .ok v)
    : comparesDay ctx l o v = true ↔ l.ComparesDay ctx := by
  have isNull : v.isNull = true ↔ l.Undated ∧ l.value = .null := by
    rw [← operand_null_iff operand]
    cases v <;> simp [Value.isNull]
  have word : (o = .equal ∨ o = .notEqual) ↔ l.operator = "=" ∨ l.operator = "<>" := by
    rw [Operator.eq_word_of_ofWord? operator]
    cases o <;> simp [Operator.word]
  have compares : comparesDay ctx l o v = true
      ↔ ((l.field ∈ ctx.stampFields ∧ (l.fieldType = none ∨ l.fieldType = some "date"))
        ∧ (o = .equal ∨ o = .notEqual)) ∧ ¬ v.isNull = true := by
    simp [comparesDay]
  rw [compares, word, isNull]
  constructor
  · rintro ⟨⟨⟨stamped, fieldType⟩, operator⟩, operand⟩
    exact ⟨stamped, fieldType, operator, operand⟩
  · rintro ⟨stamped, fieldType, operator, operand⟩
    exact ⟨⟨⟨stamped, fieldType⟩, operator⟩, operand⟩

/-- The leaf has neither an operand nor a date operator. -/
def Leaf.Bare (l : Leaf) : Prop := l.operand = none ∧ l.Undated

variable {ctx : Context} {l : Leaf}

theorem bare_iff : (l.operand.isNone && (l.dateOperator.getD "").isEmpty) = true ↔ l.Bare := by
  simp [Leaf.Bare, Leaf.Undated]

theorem compileWithOperand_of_bare (bare : l.Bare) (o : Operator)
    : compileWithOperand ctx l o = .error (.operandRequired l) := by
  rw [compileWithOperand, if_pos (bare_iff.2 bare)]

theorem compileWithOperand_of_refused {f : Fault} (given : ¬ l.Bare)
    (failed : resolveDay l ctx.clock = .error f) (o : Operator)
    : compileWithOperand ctx l o = .error f := by
  rw [compileWithOperand, if_neg (mt bare_iff.1 given), failed]
  rfl

/-- An operand is a day to compare with, the user macro, or literal. -/
theorem compileWithOperand_of_operand {v : Value} (given : ¬ l.Bare)
    (operand : resolveDay l ctx.clock = .ok v) (o : Operator)
    : compileWithOperand ctx l o
      = if comparesDay ctx l o v then compileDay l v (o == .notEqual)
        else if isUserMacro v then compileUser l o ctx.caller
        else compileOperand l o v := by
  rw [compileWithOperand, if_neg (mt bare_iff.1 given), operand]
  rfl

end DocGateway.Filter
