import DocGateway.Proofs.Filter.Compilation
import DocGateway.Proofs.Query.Positions

/-!
Where the field names of a filter end up.

The fields at predicate position of a query are exactly those of the filter's leaves, spelled as the
filter spells them. Nothing on the way looks at the spelling, so a query is free of operator names
there exactly if its filter is.
-/

namespace DocGateway

namespace Query

/-- Storage reads a key at predicate position as an operator if it starts with a dollar sign. -/
def IsOperatorName (name : String) : Prop := name.toList.head? = some '$'

instance : DecidablePred IsOperatorName := fun name =>
  inferInstanceAs (Decidable (name.toList.head? = some '$'))

/-- No field at predicate position is called like an operator. -/
def Guarded (q : Query) : Prop := ∀ name c, q.Part (.field name c) → ¬ IsOperatorName name

/-- The keys of a guarded query are those of its own combinations and names that are no operators.
-/
theorem Guarded.keys {q : Query} (guarded : q.Guarded) {k : Value} (key : q.toValue.KeyAt k)
    : (∃ c : Filter.Connective, k = .text c.key)
      ∨ ∃ name c, q.Part (.field name c) ∧ k = .text name ∧ ¬ IsOperatorName name := by
  have given : ∀ name c, q.Part (.field name c) → name ∉ ["$and", "$or"] := by
    intro name c part connective
    have isOperator : ∀ name ∈ ["$and", "$or"], IsOperatorName name := by decide
    exact guarded name c part (isOperator name connective)
  rcases part_of_keyAt given key with connective | ⟨name, c, part, rfl⟩
  · exact .inl connective
  · exact .inr ⟨name, c, part, rfl, guarded name c part⟩

end Query

namespace Filter

/-- The query of a leaf has the leaf's field at predicate position and no other. -/
theorem Leaf.Asks.part_iff {l : Leaf} {q : Query} (asks : l.Asks q) {name : String}
    : (∃ c, q.Part (.field name c)) ↔ name = l.field := by
  cases asks with
  | once => simp
  | empty => simp [Query.fieldEmpty, Query.part_any_iff, exists_or]
  | notEmpty => simp [Query.fieldNotEmpty, Query.part_all_iff, exists_or]
  | otherDays => simp [DayRange.toNegatedQuery, Query.part_any_iff, exists_or]

/-- The fields at predicate position of a tree's query are the fields of the tree's leaves. -/
theorem Node.part_compile_iff {ctx : Context} {n : Node} {q : Query}
    (compiled : n.compile ctx = .ok q) (name : String)
    : (∃ c, q.Part (.field name c)) ↔ ∃ l ∈ n.leaves, l.field = name := by
  refine compile_induction
    (P := fun n q => (∃ c, q.Part (.field name c)) ↔ ∃ l ∈ n.leaves, l.field = name)
    ?_ ?_ compiled
  · intro l q compiled
    rw [(asks_compileLeaf compiled).part_iff]
    simp [leaves, eq_comm]
  · intro operator members c qs _ _ parts
    obtain ⟨left, right⟩ := forall₂_partners parts
    constructor
    · rintro ⟨condition, part⟩
      rcases Query.part_combine_iff.1 part with same | ⟨q, member, below⟩
      · cases c <;> cases same
      · obtain ⟨n, present, fields⟩ := right q member
        obtain ⟨l, isLeaf, named⟩ := fields.1 ⟨condition, below⟩
        exact ⟨l, mem_leaves_group.2 ⟨n, present, isLeaf⟩, named⟩
    · rintro ⟨l, isLeaf, named⟩
      obtain ⟨n, present, isLeaf⟩ := mem_leaves_group.1 isLeaf
      obtain ⟨q, member, fields⟩ := left n present
      obtain ⟨condition, below⟩ := fields.2 ⟨l, isLeaf, named⟩
      exact ⟨condition, Query.part_combine_iff.2 (.inr ⟨q, member, below⟩)⟩

namespace Source

/-- A filter's leaves alone decide whether its query is guarded: each of their fields becomes a key
at predicate position, and if none is an operator's name, the only other keys there are those of
combinations.
-/
theorem compile_guarded_iff {ctx : Context} {s : Source} {q : Query}
    (compiled : s.compile ctx = .ok q)
    : ∃ n, s.normalize = .ok (.node n)
      ∧ (∀ l ∈ n.leaves, q.toValue.KeyAt (.text l.field))
      ∧ (q.Guarded ↔ ∀ l ∈ n.leaves, ¬ Query.IsOperatorName l.field)
      ∧ (q.Guarded →
          ∀ k, q.toValue.KeyAt k →
            (∃ c : Connective, k = .text c.key)
            ∨ ∃ l ∈ n.leaves, k = .text l.field ∧ ¬ Query.IsOperatorName l.field) := by
  obtain ⟨n, taken, compiled⟩ := normalize_of_compile compiled
  have fields := Node.part_compile_iff compiled
  refine ⟨n, taken, ?_, ?_, ?_⟩
  · intro l isLeaf
    obtain ⟨c, part⟩ := (fields l.field).2 ⟨l, isLeaf, rfl⟩
    exact Query.keyAt_of_part part
  · constructor
    · intro guarded l isLeaf
      obtain ⟨c, part⟩ := (fields l.field).2 ⟨l, isLeaf, rfl⟩
      exact guarded l.field c part
    · intro safe name c part
      obtain ⟨l, isLeaf, rfl⟩ := (fields name).1 ⟨c, part⟩
      exact safe l isLeaf
  · intro guarded k key
    rcases guarded.keys key with connective | ⟨name, c, part, rfl, safe⟩
    · exact .inl connective
    · obtain ⟨l, isLeaf, rfl⟩ := (fields name).1 ⟨c, part⟩
      exact .inr ⟨l, isLeaf, rfl, safe⟩

/-- An ordinary field stands beside one that is called like a connective, with a gap between. -/
theorem compile_guarded_iff_of_connective_field
    : let ctx : Context := ⟨.fixed ⟨⟨2024, 1, 5⟩, 10, 30, 0, 0, some 0⟩, none, []⟩
      let leaf (field operand : String) : Value :=
        Value.fields
          [("fieldId", .text field), ("operator", .text "<>"), ("value", .text operand)]
      let filter : Source :=
        .value (groupTree .any [leaf "name" "Apollo", .null, leaf "$and" "Orion"])
      let q : Query :=
        .any [.field "name" (.compare .notEqual (.text "Apollo")),
          .field "$and" (.compare .notEqual (.text "Orion"))]
      filter.compile ctx = .ok q
      ∧ ∃ n, filter.normalize = .ok (.node n)
        ∧ (∀ l ∈ n.leaves, q.toValue.KeyAt (.text l.field))
        ∧ (q.Guarded ↔ ∀ l ∈ n.leaves, ¬ Query.IsOperatorName l.field)
        ∧ (q.Guarded →
            ∀ k, q.toValue.KeyAt k →
              (∃ c : Connective, k = .text c.key)
              ∨ ∃ l ∈ n.leaves, k = .text l.field ∧ ¬ Query.IsOperatorName l.field) := by
  intro ctx leaf filter q
  have compiled : filter.compile ctx = .ok q := rfl
  exact ⟨compiled, compile_guarded_iff compiled⟩

/-- A filter from outside can have storage run its operand as code: the query that it compiles to is
neither refused nor guarded.
-/
theorem compile_passes_operator_on
    : let ctx : Context := ⟨.fixed ⟨⟨2024, 1, 5⟩, 10, 30, 0, 0, some 0⟩, none, []⟩
      let filter : Value :=
        Value.fields
          [("fieldId", .text "$where"), ("operator", .text "="), ("value", .text "sleep(1000)")]
      let q : Query := .field "$where" (.is (.text "sleep(1000)"))
      (Source.value filter).compile ctx = .ok q
      ∧ q.toValue = Value.fields [("$where", .text "sleep(1000)")]
      ∧ q.toValue.KeyAt (.text "$where")
      ∧ ¬ q.Guarded := by
  intro ctx filter q
  have part : q.Part (.field "$where" (.is (.text "sleep(1000)"))) := .self _
  refine ⟨rfl, rfl, Query.keyAt_of_part part, ?_⟩
  intro guarded
  exact guarded _ _ part (by decide)

end Source

end Filter

end DocGateway
