import DocGateway.Proofs.Filter.Compilation
import DocGateway.Proofs.Filter.Reading

/-!
The grammar of filter trees.

`Denotes` says which values are filter trees, and which tree each of them is: entries under other
names do not count, gaps keep their places, and an operand that is null is still an operand. Reading
accepts this grammar, tells everything else by a report on the filter, and takes what was read
before as it is.
-/

namespace DocGateway.Filter

/-- The entries of a mapping are those of a leaf. -/
structure Leaf.WrittenIn (l : Leaf) (es : List (Value × Value)) : Prop where
  type : ∀ v, Value.lookup? (.text "type") es = some v → v = .text "filter"
  field : ∃ v, FieldName.Gives ⟨"fieldId", "field_id"⟩ es v ∧ v.Spells l.field
  named : l.field ≠ ""
  operator : ∃ v, Value.lookup? (.text "operator") es = some v ∧ v.Spells l.operator
  operand : l.operand = Value.lookup? (.text "value") es
  fieldType : FieldName.GivesText ⟨"fieldType", "field_type"⟩ es l.fieldType
  dateOperator : FieldName.GivesText ⟨"dateOperator", "date_operator"⟩ es l.dateOperator

mutual

/-- A value is a filter tree: a mapping that is a leaf or a group. -/
inductive Denotes : Value → Node → Prop
  | leaf {es : List (Value × Value)} {l : Leaf} (written : l.WrittenIn es)
    : Denotes (.mapping es) (.leaf l)
  | group {es : List (Value × Value)} {operator : Option String} {members : List Node}
      (type : Value.lookup? (.text "type") es = some (.text "group"))
      (joined : (FieldName.plain "operator").GivesText es operator)
      (filters : DenotesMembers (Value.lookup? (.text "filters") es) members)
    : Denotes (.mapping es) (.group operator members)

/-- What a mapping may hold for the members of a group: nothing, a list or a tuple. -/
inductive DenotesMembers : Option Value → List Node → Prop
  | absent : DenotesMembers none []
  | list {vs : List Value} {ns : List Node} (items : List.Forall₂ DenotesMember vs ns)
    : DenotesMembers (some (.list vs)) ns
  | tuple {vs : List Value} {ns : List Node} (items : List.Forall₂ DenotesMember vs ns)
    : DenotesMembers (some (.tuple vs)) ns

/-- A member of a group is null, which is a gap, or a filter tree. -/
inductive DenotesMember : Value → Node → Prop
  | gap : DenotesMember .null Node.gap
  | node {v : Value} {n : Node} (denotes : Denotes v n) : DenotesMember v n

end

-----------------------------------------------------------------------------------------
-- The reader follows the grammar
-----------------------------------------------------------------------------------------

theorem Leaf.read_iff {es : List (Value × Value)} {l : Leaf}
    : Leaf.read es = .ok l ↔ l.WrittenIn es := by
  have type
      : (∃ kind, Reader.optional (.plain "type") "filter" (Reader.oneOf ["filter"]) es = .ok kind)
        ↔ ∀ v, Value.lookup? (.text "type") es = some v → v = .text "filter" := by
    simp only [Reader.optional_iff, FieldName.plain_gives_iff, Reader.oneOf_eq_ok]
    cases Value.lookup? (.text "type") es <;> simp
  rw [Leaf.read_eq_ok, type]
  simp only [Reader.required_iff, Reader.nonEmptyText_eq_ok, Reader.text_eq_ok,
    Reader.optional_textOrNull_iff, FieldName.plain_gives_iff]
  constructor
  · intro read
    obtain ⟨type, ⟨v, gives, spells, named⟩, operator, operand, fieldType, dateOperator⟩ := read
    exact ⟨type, ⟨v, gives, spells⟩, named, operator, operand.symm, fieldType, dateOperator⟩
  · intro written
    obtain ⟨v, gives, spells⟩ := written.field
    exact ⟨written.type, ⟨v, gives, spells, written.named⟩, written.operator,
      written.operand.symm, written.fieldType, written.dateOperator⟩

namespace Node

theorem isGroup_of_leaf {es : List (Value × Value)} {l : Leaf} (written : l.WrittenIn es)
    : isGroup es = false := by
  rw [← Bool.not_eq_true, isGroup_iff]
  intro isGroup
  simpa using written.type _ isGroup

theorem read_mapping_iff {es : List (Value × Value)} {n : Node}
    : read (.mapping es) = .ok n
      ↔ (isGroup es = true ∧ ∃ operator members,
          (FieldName.plain "operator").GivesText es operator
          ∧ readMembers es = .ok members
          ∧ n = .group operator members)
        ∨ (isGroup es = false ∧ ∃ l, Leaf.WrittenIn l es ∧ n = .leaf l) := by
  cases group : isGroup es with
  | true => simp [read_group group]
  | false => simp [read_leaf group, Leaf.read_iff]

theorem mapping_of_read {v : Value} {n : Node} (reads : read v = .ok n)
    : ∃ es, v = .mapping es := by
  cases v with
  | mapping es => exact ⟨es, rfl⟩
  | _ => cases reads

variable {members : List Node}

/-- Members are read as the grammar says if this holds of each of them. -/
theorem readItems_iff (known : ∀ n ∈ members, ∀ v, read v = .ok n ↔ Denotes v n)
    {vs : List Value}
    : readItems vs = .ok members ↔ List.Forall₂ DenotesMember vs members := by
  rw [readItems_eq_mapM, Except.mapM_eq_ok]
  refine forall₂_congr_right fun n member v => ?_
  by_cases null : v = .null
  · subst null
    constructor
    · intro isGap
      cases isGap
      exact .gap
    · intro denotes
      cases denotes with
      | gap => rfl
      | node denotes => cases denotes
  · have present : v.isNull = false := by
      cases v with
      | null => exact absurd rfl null
      | _ => rfl
    rw [present, if_neg Bool.false_ne_true, known n member]
    constructor
    · exact .node
    · intro denotes
      cases denotes with
      | gap => exact absurd rfl null
      | node denotes => exact denotes

theorem readMembers_iff (known : ∀ n ∈ members, ∀ v, read v = .ok n ↔ Denotes v n)
    {es : List (Value × Value)}
    : readMembers es = .ok members
      ↔ DenotesMembers (Value.lookup? (.text "filters") es) members := by
  rw [readMembers_eq]
  cases Value.lookup? (.text "filters") es with
  | none =>
    constructor
    · intro empty
      cases empty
      exact .absent
    · intro denotes
      cases denotes
      rfl
  | some v =>
    constructor
    · intro reads
      cases v with
      | list vs => exact .list ((readItems_iff known).1 reads)
      | tuple vs => exact .tuple ((readItems_iff known).1 reads)
      | _ => cases reads
    · intro denotes
      cases denotes with
      | list items => exact (readItems_iff known).2 items
      | tuple items => exact (readItems_iff known).2 items

/-- A value is read as a tree exactly if it denotes this tree, by induction over the tree. -/
theorem read_iff {v : Value} {n : Node} : read v = .ok n ↔ Denotes v n := by
  induction n generalizing v with
  | leaf l =>
    constructor
    · intro reads
      obtain ⟨es, rfl⟩ := mapping_of_read reads
      rcases read_mapping_iff.1 reads with ⟨_, _, _, _, _, other⟩ | ⟨_, l', written, same⟩
      · cases other
      · cases same
        exact .leaf written
    · intro denotes
      cases denotes with
      | leaf written =>
        exact read_mapping_iff.2 (.inr ⟨isGroup_of_leaf written, l, written, rfl⟩)
  | group operator members ih =>
    have known : ∀ n ∈ members, ∀ v, read v = .ok n ↔ Denotes v n := fun n member v => ih n member
    constructor
    · intro reads
      obtain ⟨es, rfl⟩ := mapping_of_read reads
      rcases read_mapping_iff.1 reads with ⟨type, _, _, joined, filters, same⟩ | ⟨_, _, _, other⟩
      · cases same
        exact .group (isGroup_iff.1 type) joined ((readMembers_iff known).1 filters)
      · cases other
    · intro denotes
      cases denotes with
      | group type joined filters =>
        refine read_mapping_iff.2 (.inl ⟨isGroup_iff.2 type, operator, members, joined, ?_, rfl⟩)
        exact (readMembers_iff known).2 filters
  | raw w =>
    constructor
    · intro reads
      obtain ⟨es, rfl⟩ := mapping_of_read reads
      rcases read_mapping_iff.1 reads with ⟨_, _, _, _, _, other⟩ | ⟨_, _, _, other⟩
      · cases other
      · cases other
    · intro denotes
      cases denotes

end Node

-----------------------------------------------------------------------------------------
-- What is taken as a filter tree
-----------------------------------------------------------------------------------------

namespace Source

theorem parse_value_eq_ok {v : Value} {taken : Ready}
    : (value v).parse = .ok taken ↔ ∃ n, Denotes v n ∧ .node n = taken := by
  simp only [parse, Except.map_eq_ok, Except.mapError_eq_ok, Node.read_iff]

/-- The values that are taken as filter trees are those of the grammar, each as the tree that it
denotes; all others are told by a report on the filter. What was taken is taken again unchanged.
-/
theorem parse_follows_grammar (v : Value)
    : (∀ n, (value v).parse = .ok (.node n) ↔ Denotes v n)
      ∧ ((∃ taken, (value v).parse = .ok taken) ↔ ∃ n, Denotes v n)
      ∧ (∀ e, (value v).parse = .error e → ∃ r, e = .report r ∧ r.reportClass = .filterCompile)
      ∧ ∀ taken : Ready, taken.toSource.parse = .ok taken := by
  refine ⟨?_, ?_, ?_, ?_⟩
  · intro n
    simp [parse_value_eq_ok]
  · simp [parse_value_eq_ok]
  · intro e refused
    rw [parse, Except.map_eq_error, Except.mapError_eq_error] at refused
    obtain ⟨f, unread, told⟩ := refused
    obtain ⟨r, report, ofClass⟩ := (Node.ofReading_of_read unread).report
    exact ⟨r, told.symm.trans report, ofClass⟩
  · intro taken
    cases taken <;> rfl

end Source

end DocGateway.Filter
