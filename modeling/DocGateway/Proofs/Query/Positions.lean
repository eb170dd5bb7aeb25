import DocGateway.Filter.Compile

/-!
Predicate positions: the places in a query's document where storage reads predicates.

They are the query itself and, again and again, the parts of a combination; operands hold none. In
the document a combination can only be told by its key, so a field of that name would open
predicate positions too (`Value.KeyAt`).
-/

namespace DocGateway

/-- A key at predicate position of a document: a key of the document itself or, again, of a document
in a list under `$and` or `$or`.
-/
inductive Value.KeyAt : Value → Value → Prop
  | own {es : List (Value × Value)} {k v : Value} (entry : (k, v) ∈ es) : KeyAt (.mapping es) k
  | under {es : List (Value × Value)} {name : String} {docs : List Value} {doc k : Value}
      (entry : (.text name, .list docs) ∈ es) (connective : name ∈ ["$and", "$or"])
      (member : doc ∈ docs) (key : KeyAt doc k)
    : KeyAt (.mapping es) k

/-- The keys of a document with one entry. -/
theorem Value.keyAt_single_iff {name : String} {v k : Value}
    : KeyAt (fields [(name, v)]) k
      ↔ k = .text name
        ∨ name ∈ ["$and", "$or"] ∧ ∃ docs, v = .list docs ∧ ∃ doc ∈ docs, KeyAt doc k := by
  constructor
  · rintro (entry | ⟨entry, connective, member, key⟩)
    · simp only [List.map_cons, List.map_nil, List.mem_singleton, Prod.mk.injEq] at entry
      exact .inl entry.1
    · simp only [List.map_cons, List.map_nil, List.mem_singleton, Prod.mk.injEq,
        Value.text.injEq] at entry
      obtain ⟨rfl, rfl⟩ := entry
      exact .inr ⟨connective, _, rfl, _, member, key⟩
  · rintro (rfl | ⟨connective, docs, rfl, doc, member, key⟩)
    · exact .own (List.mem_singleton.2 rfl)
    · exact .under (List.mem_singleton.2 rfl) connective member key

/-- The key that a combination's parts stand under. -/
def Filter.Connective.key : Filter.Connective → String
  | .all => "$and"
  | .any => "$or"

namespace Query

/-- Induction over queries, with all parts of a combination at once. -/
@[induction_eliminator]
theorem induction {P : Query → Prop} (field : ∀ name c, P (.field name c))
    (combine : ∀ (c : Filter.Connective) qs, (∀ q ∈ qs, P q) → P (c.combine qs)) (q : Query)
    : P q := by
  refine @Query.rec P (fun qs => ∀ q ∈ qs, P q) field (combine .all) (combine .any) ?_ ?_ q
  · exact fun _ none => nomatch none
  · exact fun q qs first rest => List.forall_mem_cons.2 ⟨first, rest⟩

/-- The second query stands at predicate position in the first one. -/
inductive Part : Query → Query → Prop
  | self (q : Query) : Part q q
  | ofAll {q p : Query} {qs : List Query} (member : q ∈ qs) (below : Part q p) : Part (.all qs) p
  | ofAny {q p : Query} {qs : List Query} (member : q ∈ qs) (below : Part q p) : Part (.any qs) p

@[simp]
theorem part_field_iff {name : String} {c : Condition} {p : Query}
    : Part (.field name c) p ↔ p = .field name c := by
  constructor
  · rintro ⟨⟩
    rfl
  · rintro rfl
    exact .self _

theorem part_all_iff {qs : List Query} {p : Query}
    : Part (.all qs) p ↔ p = .all qs ∨ ∃ q ∈ qs, Part q p := by
  constructor
  · rintro (_ | ⟨member, below⟩)
    · exact .inl rfl
    · exact .inr ⟨_, member, below⟩
  · rintro (rfl | ⟨q, member, below⟩)
    · exact .self _
    · exact .ofAll member below

theorem part_any_iff {qs : List Query} {p : Query}
    : Part (.any qs) p ↔ p = .any qs ∨ ∃ q ∈ qs, Part q p := by
  constructor
  · rintro (_ | _ | ⟨member, below⟩)
    · exact .inl rfl
    · exact .inr ⟨_, member, below⟩
  · rintro (rfl | ⟨q, member, below⟩)
    · exact .self _
    · exact .ofAny member below

theorem part_combine_iff {c : Filter.Connective} {qs : List Query} {p : Query}
    : Part (c.combine qs) p ↔ p = c.combine qs ∨ ∃ q ∈ qs, Part q p := by
  cases c with
  | all => exact part_all_iff
  | any => exact part_any_iff

theorem combine_injective {c c' : Filter.Connective} {qs qs' : List Query}
    (same : c.combine qs = c'.combine qs')
    : c = c' ∧ qs = qs' := by
  cases c <;> cases c' <;> cases same <;> exact ⟨rfl, rfl⟩

/-- No combination at predicate position is without parts. -/
def Filled (q : Query) : Prop := ∀ c : Filter.Connective, ¬ Part q (c.combine [])

theorem filled_field (name : String) (c : Condition) : (field name c).Filled := by
  intro c' part
  cases c' <;> cases part

theorem filled_combine {c : Filter.Connective} {qs : List Query} (some : qs ≠ [])
    (parts : ∀ q ∈ qs, q.Filled)
    : (c.combine qs).Filled := by
  intro c' part
  rcases part_combine_iff.1 part with same | ⟨q, member, below⟩
  · exact some (combine_injective same).2.symm
  · exact parts q member c' below

theorem toValue_ne_empty (q : Query) : q.toValue ≠ .mapping [] := by
  cases q <;> simp [toValue, Value.fields]

theorem toValues_eq_map (qs : List Query) : toValues qs = qs.map toValue := by
  induction qs with
  | nil => rfl
  | cons q qs ih => rw [toValues, ih, List.map_cons]

theorem toValue_combine (c : Filter.Connective) (qs : List Query)
    : (c.combine qs).toValue = Value.fields [(c.key, .list (qs.map toValue))] := by
  cases c <;> rw [← toValues_eq_map] <;> rfl

-----------------------------------------------------------------------------------------
-- Keys of documents
-----------------------------------------------------------------------------------------

theorem keyAt_combine_iff {c : Filter.Connective} {qs : List Query} {k : Value}
    : (c.combine qs).toValue.KeyAt k ↔ k = .text c.key ∨ ∃ q ∈ qs, q.toValue.KeyAt k := by
  have connective : c.key ∈ ["$and", "$or"] := by cases c <;> decide
  rw [toValue_combine, Value.keyAt_single_iff]
  refine or_congr_right ⟨?_, ?_⟩
  · rintro ⟨_, docs, isList, doc, member, key⟩
    cases isList
    obtain ⟨q, inside, rfl⟩ := List.mem_map.1 member
    exact ⟨q, inside, key⟩
  · rintro ⟨q, member, key⟩
    exact ⟨connective, _, rfl, _, List.mem_map_of_mem member, key⟩

/-- The field of every part is a key of the document. -/
theorem keyAt_of_part {q : Query} {name : String} {c : Condition} (part : q.Part (.field name c))
    : q.toValue.KeyAt (.text name) := by
  induction q with
  | field name' c' =>
    cases part_field_iff.1 part
    exact Value.keyAt_single_iff.2 (.inl rfl)
  | combine c' qs ih =>
    rcases part_combine_iff.1 part with same | ⟨q, member, below⟩
    · cases c' <;> cases same
    · exact keyAt_combine_iff.2 (.inr ⟨q, member, ih q member below⟩)

/-- Where no field is called like a connective, the keys are those of the combinations and the names
of fields.
-/
theorem part_of_keyAt {q : Query} {k : Value}
    (given : ∀ name c, q.Part (.field name c) → name ∉ ["$and", "$or"])
    (key : q.toValue.KeyAt k)
    : (∃ c : Filter.Connective, k = .text c.key)
      ∨ ∃ name c, q.Part (.field name c) ∧ k = .text name := by
  induction q with
  | field name c =>
    rcases Value.keyAt_single_iff.1 key with rfl | ⟨connective, _⟩
    · exact .inr ⟨name, c, .self _, rfl⟩
    · exact absurd connective (given name c (.self _))
  | combine c qs ih =>
    rcases keyAt_combine_iff.1 key with rfl | ⟨q, member, below⟩
    · exact .inl ⟨c, rfl⟩
    · have inside : ∀ p, q.Part p → (c.combine qs).Part p :=
        fun p part => part_combine_iff.2 (.inr ⟨q, member, part⟩)
      rcases ih q member (fun name c part => given name c (inside _ part)) below with
        connective | ⟨name, c, part, rfl⟩
      · exact .inl connective
      · exact .inr ⟨name, c, inside _ part, rfl⟩

end Query

end DocGateway
