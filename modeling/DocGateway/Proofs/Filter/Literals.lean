import DocGateway.Proofs.Filter.FieldKeys
import DocGateway.Proofs.Filter.OperandKinds

/-!
Operands that are taken literally.

An operand that is no macro and no day to compare a time stamp with stands in the document as it
is, by itself or under the one operator that the leaf asks for. Nothing inside it is read as an
operator, and the document tells field, operator and operand.
-/

namespace DocGateway

/-- A key in operator position of what is asked of a field: a key of the mapping itself or, again,
of the mapping under an operator that takes operators.
-/
inductive Value.OperatorAt : Value → Value → Prop
  | own {es : List (Value × Value)} {k v : Value} (entry : (k, v) ∈ es) : OperatorAt (.mapping es) k
  | under {es : List (Value × Value)} {name : String} {v k : Value} (entry : (.text name, v) ∈ es)
      (nests : name ∈ ["$not", "$elemMatch"]) (key : OperatorAt v k)
    : OperatorAt (.mapping es) k

namespace Filter

/-- The operators that compare a field with an operand, and those that storage has for them. -/
def storageOperators : List (String × String) :=
  [("=", "$eq"), ("<>", "$ne"), ("<", "$lt"), (">", "$gt"), ("<=", "$lte"), (">=", "$gte")]

/-- A leaf on an ordinary field that compares it with a literal operand, and the operator that
storage has for this.
-/
structure Leaf.Literal (ctx : Context) (l : Leaf) (key : String) (v : Value) : Prop where
  operator : (l.operator, key) ∈ storageOperators
  ordinary : ¬ Query.IsOperatorName l.field
  undated : l.Undated
  operand : l.operand = some v
  noMacro : v ≠ .text todayMacro ∧ v ≠ .text userMacro
  notByDay : ¬ l.ComparesDay ctx

/-- What a literal operand is in a document: itself, unless it is a mapping, or the operand of the
operator that the leaf asks for.
-/
inductive Leaf.Writes (l : Leaf) (key : String) (v : Value) : Value → Prop
  | itself (equal : l.operator = "=") (plain : ∀ es, v ≠ .mapping es) : l.Writes key v v
  | under : l.Writes key v (Value.fields [(key, v)])

theorem compileOperand_of_storageOperator {l : Leaf} {key : String}
    (operator : (l.operator, key) ∈ storageOperators) (v : Value)
    : ∃ o c,
        Operator.ofWord? l.operator = some o
        ∧ o.TakesOperand
        ∧ compileOperand l o v = .ok (.field l.field c)
        ∧ l.Writes key v c.toValue := by
  have comparing (o : Operator) (c : Comparison) (word : l.operator = o.word)
      (comparison : o.comparison? = some c) (named : c.key = key)
      : ∃ o c,
          Operator.ofWord? l.operator = some o
          ∧ o.TakesOperand
          ∧ compileOperand l o v = .ok (.field l.field c)
          ∧ l.Writes key v c.toValue := by
    subst named
    have takes : o.TakesOperand := by
      constructor
      · rintro rfl
        cases comparison
      · rintro rfl
        cases comparison
    refine ⟨o, .compare c v, ?_, takes, ?_, .under⟩
    · rw [word, Operator.ofWord?_word]
    · simp only [compileOperand, comparison]
  simp only [storageOperators, List.mem_cons, Prod.mk.injEq, List.not_mem_nil, or_false] at operator
  rcases operator with ⟨equal, rfl⟩ | ⟨word, rfl⟩ | ⟨word, rfl⟩ | ⟨word, rfl⟩ | ⟨word, rfl⟩
    | ⟨word, rfl⟩
  · have known : Operator.ofWord? l.operator = some .equal := by rw [equal]; rfl
    cases v with
    | mapping es => exact ⟨.equal, .literally _, known, ⟨nofun, nofun⟩, rfl, .under⟩
    | _ => exact ⟨.equal, .is _, known, ⟨nofun, nofun⟩, rfl, .itself equal nofun⟩
  · exact comparing .notEqual .notEqual word rfl rfl
  · exact comparing .less .less word rfl rfl
  · exact comparing .greater .greater word rfl rfl
  · exact comparing .atMost .atMost word rfl rfl
  · exact comparing .atLeast .atLeast word rfl rfl

variable {ctx ctx' : Context} {l l' : Leaf} {key key' : String} {v v' x : Value}

theorem Leaf.Literal.compile (literal : l.Literal ctx key v)
    : ∃ c, compileLeaf ctx l = .ok (.field l.field c) ∧ l.Writes key v c.toValue := by
  obtain ⟨o, c, operator, takes, compiled, written⟩ :=
    compileOperand_of_storageOperator literal.operator v
  have value : l.value = v := by simp [Leaf.value, literal.operand]
  have operand : resolveDay l ctx.clock = .ok v := by
    have notToday : v.same (.text todayMacro) = false := by
      rw [Value.same_text_right, Bool.eq_false_iff]
      exact fun isToday => literal.noMacro.1 (Value.isText_iff.1 isToday)
    rw [literal.undated.operand, value, notToday]
    rfl
  have notByDay : comparesDay ctx l o v = false := by
    rw [Bool.eq_false_iff]
    exact fun compares => literal.notByDay ((comparesDay_iff operator operand).1 compares)
  have notUser : isUserMacro v = false := by
    rw [Bool.eq_false_iff]
    exact fun isUser => literal.noMacro.2 (isUserMacro_iff.1 isUser)
  have given : ¬ l.Bare := by
    intro bare
    cases bare.1.symm.trans literal.operand
  refine ⟨c, ?_, written⟩
  rw [compileLeaf_of_takesOperand operator takes, compileWithOperand_of_operand given operand,
    notByDay, notUser]
  exact compiled

/-- Nothing that is inside a literal operand stands in operator position. -/
theorem Leaf.Writes.operatorAt (written : l.Writes key v x) {k : Value} (position : x.OperatorAt k)
    (operator : (l.operator, key) ∈ storageOperators)
    : k = .text key := by
  cases written with
  | itself equal plain =>
    cases position with
    | own => exact absurd rfl (plain _)
    | under => exact absurd rfl (plain _)
  | under =>
    cases position with
    | own entry =>
      cases List.mem_singleton.1 entry
      rfl
    | under entry nests =>
      cases List.mem_singleton.1 entry
      have flat : ∀ row ∈ storageOperators, row.2 ∉ ["$not", "$elemMatch"] := by decide
      exact absurd nests (flat _ operator)

/-- What is written tells the operator and the operand. -/
theorem Leaf.Writes.inj (written : l.Writes key v x) (written' : l'.Writes key' v' x)
    (operator : (l.operator, key) ∈ storageOperators)
    (operator' : (l'.operator, key') ∈ storageOperators)
    : l.operator = l'.operator ∧ v = v' := by
  have words : ∀ row ∈ storageOperators, ∀ row' ∈ storageOperators,
      row.2 = row'.2 → row.1 = row'.1 := by
    decide
  cases written with
  | itself equal plain =>
    cases written' with
    | itself equal' => exact ⟨equal.trans equal'.symm, rfl⟩
    | under => exact absurd rfl (plain _)
  | under =>
    generalize same : Value.fields [(key, v)] = x at written'
    cases written' with
    | itself equal plain => exact absurd same.symm (plain _)
    | under =>
      have entry : key = key' ∧ v = v' := by simpa [Value.fields] using same
      exact ⟨words _ operator _ operator' entry.1, entry.2⟩

/-- A literal operand stands in the document of its leaf as it is. If it is there by itself it is no
mapping, and else it is the operand of the one operator that the leaf asks for, so no key in it is
read as an operator or a field. Leaves with the same document have the same field, operator and
operand.
-/
theorem compile_literally (literal : l.Literal ctx key v)
    : ∃ q x,
        compileLeaf ctx l = .ok q
        ∧ q.toValue = Value.fields [(l.field, x)]
        ∧ l.Writes key v x
        ∧ (∀ k, x.OperatorAt k → k = .text key)
        ∧ (∀ k, q.toValue.KeyAt k → k = .text l.field)
        ∧ ∀ ctx' l' key' v' q',
            Leaf.Literal ctx' l' key' v'
            → compileLeaf ctx' l' = .ok q'
            → q'.toValue = q.toValue
            → l'.field = l.field ∧ l'.operator = l.operator ∧ v' = v := by
  obtain ⟨c, compiled, written⟩ := literal.compile
  refine ⟨.field l.field c, c.toValue, compiled, rfl, written, ?_, ?_, ?_⟩
  · exact fun k position => written.operatorAt position literal.operator
  · intro k key
    rcases Value.keyAt_single_iff.1 key with own | ⟨connective, _⟩
    · exact own
    · have isOperator : ∀ name ∈ ["$and", "$or"], Query.IsOperatorName name := by decide
      exact absurd (isOperator _ connective) literal.ordinary
  · intro ctx' l' key' v' q' literal' compiled' same
    obtain ⟨c', own, written'⟩ := literal'.compile
    cases compiled'.symm.trans own
    have entry : l'.field = l.field ∧ c'.toValue = c.toValue := by
      simpa [Query.toValue, Value.fields] using same
    rw [entry.2] at written'
    exact ⟨entry.1, written'.inj written literal'.operator literal.operator⟩

/-- An operand that looks like what another leaf is compiled to. -/
theorem compile_literally_of_forged_operator
    : let ctx : Context := ⟨.fixed ⟨⟨2024, 1, 5⟩, 10, 30, 0, 0, some 0⟩, none, ["createdAt"]⟩
      let forged : Value := Value.fields [("$ne", .null)]
      let l : Leaf := ⟨"name", "=", some forged, none, none⟩
      l.Literal ctx "$eq" forged
      ∧ compileLeaf ctx ⟨"name", "<>", some .null, none, none⟩
        = .ok (.field "name" (.compare .notEqual .null))
      ∧ (Query.field "name" (.compare .notEqual .null)).toValue = Value.fields [("name", forged)]
      ∧ ∃ q x,
          compileLeaf ctx l = .ok q
          ∧ q.toValue = Value.fields [("name", x)]
          ∧ l.Writes "$eq" forged x
          ∧ (∀ k, x.OperatorAt k → k = .text "$eq")
          ∧ (∀ k, q.toValue.KeyAt k → k = .text "name")
          ∧ ∀ ctx' l' key' v' q',
              Leaf.Literal ctx' l' key' v'
              → compileLeaf ctx' l' = .ok q'
              → q'.toValue = q.toValue
              → l'.field = "name" ∧ l'.operator = "=" ∧ v' = forged := by
  intro ctx forged l
  have literal : l.Literal ctx "$eq" forged :=
    { operator := by decide
      ordinary := by decide
      undated := rfl
      operand := rfl
      noMacro := ⟨nofun, nofun⟩
      notByDay := fun compares => absurd compares.stamped (by decide) }
  exact ⟨literal, rfl, rfl, compile_literally literal⟩

end Filter

end DocGateway
