import DocGateway.Filter.Reading
import DocGateway.Proofs.Except
import DocGateway.Proofs.Validation.Readings
import DocGateway.Proofs.Value.TextKeys

/-!
Reading of filter trees, one law for each kind of node.

A leaf is read from its fields and a group from its operator and its members. Whatever cannot be
read is told by one of three faults.
-/

namespace DocGateway.Filter

-----------------------------------------------------------------------------------------
-- What is read
-----------------------------------------------------------------------------------------

/-- A leaf is read exactly if each of its fields is. -/
theorem Leaf.read_eq_ok {es : List (Value × Value)} {l : Leaf}
    : Leaf.read es = .ok l
      ↔ (∃ kind, Reader.optional (.plain "type") "filter" (Reader.oneOf ["filter"]) es = .ok kind)
        ∧ Reader.required ⟨"fieldId", "field_id"⟩ Reader.nonEmptyText es = .ok l.field
        ∧ Reader.required (.plain "operator") Reader.text es = .ok l.operator
        ∧ Value.lookup? (.text "value") es = l.operand
        ∧ Reader.optional ⟨"fieldType", "field_type"⟩ none Reader.textOrNull es = .ok l.fieldType
        ∧ Reader.optional ⟨"dateOperator", "date_operator"⟩ none Reader.textOrNull es
          = .ok l.dateOperator := by
  simp only [Leaf.read, Checked.seq_eq_ok, Checked.map_eq_ok]
  constructor
  · rintro ⟨_, _, ⟨_, _, ⟨_, _, ⟨_, _, ⟨_, _, ⟨kind, isLeaf, rfl⟩, field, rfl⟩, operator, rfl⟩,
      operand, rfl⟩, fieldType, rfl⟩, dateOperator, rfl⟩
    cases operand
    exact ⟨⟨kind, isLeaf⟩, field, operator, rfl, fieldType, dateOperator⟩
  · rintro ⟨⟨kind, isLeaf⟩, field, operator, operand, fieldType, dateOperator⟩
    exact ⟨_, _, ⟨_, _, ⟨_, _, ⟨_, _, ⟨_, _, ⟨kind, isLeaf, rfl⟩, field, rfl⟩, operator, rfl⟩,
      congrArg _ operand, rfl⟩, fieldType, rfl⟩, dateOperator, rfl⟩

namespace Node

theorem read_leaf {es : List (Value × Value)} (notGroup : isGroup es = false) {n : Node}
    : read (.mapping es) = .ok n ↔ ∃ l, Leaf.read es = .ok l ∧ n = .leaf l := by
  rw [read, notGroup]
  cases Leaf.read es with
  | ok l => simp [eq_comm]
  | bad ps => simp

/-- Members are read one by one. -/
theorem readItems_eq_mapM (vs : List Value)
    : readItems vs = vs.mapM fun v => if v.isNull then .ok gap else read v := by
  induction vs with
  | nil => rfl
  | cons v vs ih =>
    rw [readItems, List.mapM_cons, ih]
    cases v.isNull <;> rfl

/-- Gaps are no nodes of their own. -/
theorem isGap_of_read {v : Value} {n : Node} (reads : read v = .ok n) : n.isGap = false := by
  cases v
  case mapping es =>
    rw [read] at reads
    split_ifs at reads
    · obtain ⟨members, _, reads⟩ := Except.bind_eq_ok.1 reads
      split at reads
      · cases reads
        rfl
      · cases reads
    · split at reads
      · cases reads
        rfl
      · cases reads
  all_goals cases reads

theorem isGroup_iff {es : List (Value × Value)}
    : isGroup es = true ↔ Value.lookup? (.text "type") es = some (.text "group") := by
  unfold isGroup
  cases Value.lookup? (.text "type") es with
  | none => simp
  | some v => simp [Value.same_text_right, Value.isText_iff]

theorem readMembers_eq (es : List (Value × Value))
    : readMembers es
      = match Value.lookup? (.text "filters") es with
        | some v => readList v
        | none => .ok [] := by
  induction es with
  | nil => rfl
  | cons e es ih =>
    obtain ⟨k, v⟩ := e
    rw [readMembers, ih]
    cases same : k.same (.text "filters") <;> simp [Value.lookup?, same]

theorem readOperator_iff {es : List (Value × Value)} (group : isGroup es = true)
    {operator : Option String}
    : readOperator es = .ok operator
      ↔ (FieldName.plain "operator").GivesText es operator := by
  have kind
      : Reader.optional (.plain "type") "group" (Reader.oneOf ["group"]) es = .ok "group" := by
    rw [Reader.optional_iff]
    exact .inr ⟨.text "group", FieldName.plain_gives_iff.2 (isGroup_iff.1 group), rfl⟩
  simp only [readOperator, Checked.seq_eq_ok, Checked.map_eq_ok, kind,
    Reader.optional_textOrNull_iff]
  grind

/-- A group is read from its operator and its members. -/
theorem read_group {es : List (Value × Value)} (isGroup : isGroup es = true) {n : Node}
    : read (.mapping es) = .ok n
      ↔ ∃ operator members,
          (FieldName.plain "operator").GivesText es operator
          ∧ readMembers es = .ok members
          ∧ n = .group operator members := by
  rw [read, if_pos isGroup, Except.bind_eq_ok]
  simp only [← readOperator_iff isGroup]
  cases readOperator es with
  | ok operator => simp [eq_comm]
  | bad ps => simp

end Node

-----------------------------------------------------------------------------------------
-- What cannot be read
-----------------------------------------------------------------------------------------

/-- The faults that reading tells. -/
inductive Fault.OfReading : Fault → Prop
  | notMapping (found : Detail) : OfReading (.notMapping found)
  | malformed (ps : List Problem) (found : Value) : OfReading (.malformed ps found)
  | membersNotList (found : Value) : OfReading (.membersNotList found)

theorem Fault.OfReading.report {f : Fault} (told : f.OfReading)
    : ∃ r, f.toFailure = .report r ∧ r.reportClass = .filterCompile := by
  cases told <;> exact ⟨_, rfl, rfl⟩

namespace Node

/-- Reading members fails at one of them. -/
theorem readItems_cons_error {x : Value} {xs : List Value} {f : Fault}
    (failed : readItems (x :: xs) = .error f)
    : x.isNull = false ∧ read x = .error f ∨ readItems xs = .error f := by
  rw [readItems_eq_mapM] at failed
  rw [readItems_eq_mapM]
  rcases FirstFault.cons_iff.1 (Except.mapM_eq_error_iff.1 failed) with first | ⟨_, others⟩
  · cases null : x.isNull with
    | true => simp [null] at first
    | false => exact .inl ⟨rfl, by simpa [null] using first⟩
  · exact .inr (Except.mapM_eq_error_iff.2 others)

/-- Whatever fails to be read is told by a fault of reading, by induction over the calls of the
mutual readers.
-/
theorem ofReading_of_read {v : Value} {f : Fault} (failed : read v = .error f) : f.OfReading := by
  suffices all
      : (∀ v f, read v = .error f → f.OfReading)
        ∧ (∀ es f, readMembers es = .error f → f.OfReading)
        ∧ (∀ v f, readList v = .error f → f.OfReading)
        ∧ ∀ xs f, readItems xs = .error f → f.OfReading from
    all.1 v f failed
  refine read.mutual_induct _ _ _ _ ?group ?leaf ?malformed ?noMapping ?list ?tuple ?noList
    ?noItems ?gap ?item ?noMembers ?members ?otherEntry
  case group =>
    intro es isGroup members f failed
    rw [read, if_pos isGroup] at failed
    rcases Except.bind_eq_error.1 failed with first | ⟨ns, _, rest⟩
    · exact members f first
    · split at rest
      · cases rest
      · cases rest
        exact .malformed _ _
  case leaf =>
    intro es isLeaf l isRead f failed
    rw [read, if_neg isLeaf, isRead] at failed
    cases failed
  case malformed =>
    intro es isLeaf ps isRead f failed
    rw [read, if_neg isLeaf, isRead] at failed
    cases failed
    exact .malformed _ _
  case noMapping =>
    intro v noMapping f failed
    cases v with
    | mapping es => exact (noMapping es rfl).elim
    | _ =>
      cases failed
      exact .notMapping _
  case list => exact fun xs items => items
  case tuple => exact fun xs items => items
  case noList =>
    intro v noList noTuple f failed
    cases v with
    | list xs => exact (noList xs rfl).elim
    | tuple xs => exact (noTuple xs rfl).elim
    | _ =>
      cases failed
      exact .membersNotList _
  case noItems => exact fun f failed => nomatch failed
  case gap =>
    intro x xs isNull items f failed
    rcases readItems_cons_error failed with ⟨notNull, _⟩ | others
    · cases isNull.symm.trans notNull
    · exact items f others
  case item =>
    intro x xs _ items item f failed
    rcases readItems_cons_error failed with ⟨_, first⟩ | others
    · exact item f first
    · exact items f others
  case noMembers => exact fun f failed => nomatch failed
  case members =>
    intro k v es isMembers members f failed
    rw [readMembers, if_pos isMembers] at failed
    exact members f failed
  case otherEntry =>
    intro k v es isOther members f failed
    rw [readMembers, if_neg isOther] at failed
    exact members f failed

end Node

end DocGateway.Filter
