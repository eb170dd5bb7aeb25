import DocGateway.Validation.Checked

/-!
Checked readings that succeed.

A combined reading succeeds exactly if each of its parts does, and a field is read exactly if what
stands under its name is. Where a reading took place matters to its problems only.

What a mapping gives for a field (`FieldName.Gives`) and which values spell a text
(`Value.Spells`) are said here without the readers, which the readers are shown to follow.
-/

namespace DocGateway

section

variable {α β : Type}

theorem Checked.map_eq_ok {f : α → β} {x : Checked α} {b : β}
    : f <$> x = .ok b ↔ ∃ a, x = .ok a ∧ f a = b := by
  cases x <;> simp [Functor.map, map]

theorem Checked.seq_eq_ok {f : Checked (α → β)} {x : Checked α} {b : β}
    : f <*> x = .ok b ↔ ∃ g a, f = .ok g ∧ x = .ok a ∧ g a = b := by
  cases f <;> cases x <;> simp [Seq.seq, seq]

theorem Checked.within_eq_ok {x : Checked α} {name : String} {a : α}
    : x.within name = .ok a ↔ x = .ok a := by
  cases x <;> simp [within]

end

/-- What entries give for a field: the value under the field's name on the wire, whatever it is, and
the one under its own name only if there is none.
-/
def FieldName.Gives (field : FieldName) (es : List (Value × Value)) (v : Value) : Prop :=
  Value.lookup? (.text field.wire) es = some v
  ∨ Value.lookup? (.text field.wire) es = none ∧ Value.lookup? (.text field.own) es = some v

/-- A field with one name is given what stands under it. -/
theorem FieldName.plain_gives_iff {name : String} {es : List (Value × Value)} {v : Value}
    : (FieldName.plain name).Gives es v ↔ Value.lookup? (.text name) es = some v := by
  cases found : Value.lookup? (.text name) es <;> simp [Gives, plain, found]

/-- The values that text is read from: the text itself, and bytes that encode it. -/
inductive Value.Spells : Value → String → Prop
  | text (s : String) : Spells (.text s) s
  | bytes {bs : List UInt8} {s : String} (encoded : String.fromUTF8? ⟨bs.toArray⟩ = some s)
    : Spells (.bytes bs) s

/-- Entries give text for a field, or else null or nothing where no text is meant. -/
inductive FieldName.GivesText (field : FieldName) (es : List (Value × Value))
    : Option String → Prop
  | absent (missing : ∀ v, ¬ field.Gives es v) : field.GivesText es none
  | null (gives : field.Gives es .null) : field.GivesText es none
  | text {v : Value} {s : String} (gives : field.Gives es v) (spells : v.Spells s)
    : field.GivesText es (some s)

namespace Reader

variable {α : Type} {field : FieldName} {read : Value → Checked α} {es : List (Value × Value)}

theorem required_eq_ok {a : α}
    : required field read es = .ok a ↔ ∃ e, find? field es = some e ∧ read e.2 = .ok a := by
  unfold required
  cases found : find? field es with
  | none => simp [Checked.problem, Checked.within]
  | some e => simp [Checked.within_eq_ok]

theorem optional_eq_ok {default a : α}
    : optional field default read es = .ok a
      ↔ find? field es = none ∧ a = default
        ∨ ∃ e, find? field es = some e ∧ read e.2 = .ok a := by
  unfold optional
  cases found : find? field es with
  | none => simp [eq_comm]
  | some e => simp [Checked.within_eq_ok]

theorem find?_gives_iff {v : Value}
    : (∃ e, find? field es = some e ∧ e.2 = v) ↔ field.Gives es v := by
  unfold find? FieldName.Gives
  cases Value.lookup? (.text field.wire) es with
  | some w => simp
  | none => cases Value.lookup? (.text field.own) es <;> simp

theorem find?_eq_none_iff : find? field es = none ↔ ∀ v, ¬ field.Gives es v := by
  simp only [← find?_gives_iff]
  cases find? field es <;> simp

theorem required_iff {a : α}
    : required field read es = .ok a ↔ ∃ v, field.Gives es v ∧ read v = .ok a := by
  rw [required_eq_ok]
  simp only [← find?_gives_iff]
  grind

theorem optional_iff {default a : α}
    : optional field default read es = .ok a
      ↔ (∀ v, ¬ field.Gives es v) ∧ a = default ∨ ∃ v, field.Gives es v ∧ read v = .ok a := by
  rw [optional_eq_ok, find?_eq_none_iff]
  simp only [← find?_gives_iff]
  grind

theorem required_of_lookup {a : α} {v : Value}
    (wire : Value.lookup? (.text field.wire) es = some v)
    : required field read es = .ok a ↔ read v = .ok a := by
  simp [required_eq_ok, find?, wire]

/-- Text that is left out where it is null is read as if it were there. -/
theorem optional_textOrNull {a : Option String} {v : Value}
    (wire : Value.lookup? (.text field.wire) es = if v.isNull then none else some v)
    (own : Value.lookup? (.text field.own) es = none)
    : optional field none textOrNull es = .ok a ↔ textOrNull v = .ok a := by
  rw [optional_eq_ok, find?, wire, own]
  cases isNull : v.isNull with
  | false => simp
  | true =>
    cases v
    case null => simp [textOrNull, eq_comm]
    all_goals cases isNull

theorem text_eq_ok {v : Value} {s : String} : text v = .ok s ↔ v.Spells s := by
  constructor
  · intro reads
    unfold text at reads
    split at reads
    · cases reads
      exact .text s
    · split at reads
      · cases reads
        exact .bytes ‹_›
      · cases reads
    · cases reads
  · intro spells
    cases spells with
    | text => rfl
    | bytes encoded => simp [text, encoded]

theorem textOrNull_of_ne_null {v : Value} (notNull : v ≠ .null)
    : textOrNull v = some <$> text v := by
  cases v with
  | null => exact absurd rfl notNull
  | _ => rfl

theorem textOrNull_eq_ok {v : Value} {s? : Option String}
    : textOrNull v = .ok s? ↔ v = .null ∧ s? = none ∨ ∃ s, v.Spells s ∧ some s = s? := by
  by_cases isNull : v = .null
  · subst isNull
    constructor
    · intro reads
      cases reads
      exact .inl ⟨rfl, rfl⟩
    · intro held
      rcases held with ⟨_, isNone⟩ | ⟨s, spells, _⟩
      · subst isNone
        rfl
      · cases spells
  · rw [textOrNull_of_ne_null isNull, Checked.map_eq_ok]
    simp only [text_eq_ok, isNull, false_and, false_or]

theorem optional_textOrNull_iff {s? : Option String}
    : optional field none textOrNull es = .ok s? ↔ field.GivesText es s? := by
  rw [optional_iff]
  constructor
  · intro reads
    rcases reads with ⟨missing, isNone⟩ | ⟨v, gives, reads⟩
    · subst isNone
      exact .absent missing
    · rcases textOrNull_eq_ok.1 reads with ⟨isNull, isNone⟩ | ⟨s, spells, isSome⟩
      · subst isNull isNone
        exact .null gives
      · subst isSome
        exact .text gives spells
  · intro gives
    cases gives with
    | absent missing => exact .inl ⟨missing, rfl⟩
    | null gives => exact .inr ⟨.null, gives, rfl⟩
    | text gives spells =>
      exact .inr ⟨_, gives, textOrNull_eq_ok.2 (.inr ⟨_, spells, rfl⟩)⟩

theorem oneOf_eq_ok {choices : List String} {v : Value} {s : String}
    : oneOf choices v = .ok s ↔ v = .text s ∧ s ∈ choices := by
  cases v with
  | text t =>
    by_cases known : t ∈ choices
    · simp only [oneOf, List.contains_iff_mem, known, if_true, Checked.ok.injEq, Value.text.injEq]
      grind
    · simp only [oneOf, List.contains_iff_mem, known, if_false, Checked.problem, Value.text.injEq]
      grind
  | _ => simp [oneOf, Checked.problem]

theorem nonEmptyText_eq_ok {v : Value} {s : String}
    : nonEmptyText v = .ok s ↔ text v = .ok s ∧ s ≠ "" := by
  unfold nonEmptyText
  cases text v with
  | bad ps => simp
  | ok t =>
    by_cases empty : t = ""
    · simp only [String.isEmpty_iff, empty, if_true, Checked.problem]
      constructor
      · exact nofun
      · rintro ⟨⟨⟩, nonempty⟩
        exact absurd rfl nonempty
    · simp only [String.isEmpty_iff, empty, if_false, Checked.ok.injEq]
      constructor
      · rintro rfl
        exact ⟨rfl, empty⟩
      · exact And.left

end Reader

end DocGateway
