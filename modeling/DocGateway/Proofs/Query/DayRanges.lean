import DocGateway.Proofs.Calendar.DayTexts
import DocGateway.Proofs.Filter.Meaning
import DocGateway.Query.DayRange

/-!
What the range of a day selects.

Storage compares text by code points. In this order the stamps between the text of a day and the
text of the next day are exactly the stamps of the day.
-/

namespace DocGateway

/-- A document of one field is read as what it asks of the field. -/
theorem Matcher.reads_field_iff {asks : String → Value → Prop} {name : String} {v : Value}
    (given : name ∉ ["$and", "$or"])
    : Reads asks (Value.fields [(name, v)]) ↔ asks name v := by
  rw [List.mem_cons, List.mem_singleton, not_or] at given
  simp [reads_single_iff, given]

/-- A text satisfies a bound as storage compares text. -/
def Value.Bounds (s : String) : Value → Value → Prop
  | .text "$gte", .text t => ¬ s < t
  | .text "$lt", .text t => s < t
  | _, _ => False

/-- The reading of documents that ask for texts between bounds. -/
def Matcher.texts : Matcher Fields :=
  .ofFields fun name v f =>
    ∃ s es, f.get? name = some (.text s) ∧ v = .mapping es ∧ ∀ e ∈ es, Value.Bounds s e.1 e.2

/-- A document that asks for the texts of one field, whatever this field is called: one between
bounds, or one that some part selects.
-/
inductive Value.SelectsText (field s : String) : Value → Prop
  | between {es : List (Value × Value)} (every : ∀ e ∈ es, Bounds s e.1 e.2)
    : SelectsText field s (.mapping [(.text field, .mapping es)])
  | either {docs : List Value} {doc : Value} (member : doc ∈ docs)
      (selected : SelectsText field s doc)
    : SelectsText field s (.mapping [(.text "$or", .list docs)])

/-- A document with a single bound selects the texts that keep it. -/
theorem Value.selectsText_bound_iff {field s : String} {c : Comparison} {v : Value}
    : (Query.field field (.compare c v)).toValue.SelectsText field s
      ↔ Bounds s (.text c.key) v := by
  constructor
  · rintro (every | _)
    exact every _ List.mem_cons_self
  · exact fun kept => .between (List.forall_mem_singleton.2 kept)

namespace DayRange

theorem of?_eq_some_iff {field : String} {day : Date} {r : DayRange}
    : of? field day = some r
      ↔ ∃ next, day.addDays? 1 = some next ∧ r = ⟨field, day.text, next.text⟩ := by
  unfold of?
  rw [Option.map_eq_some_iff]
  constructor
  · rintro ⟨next, after, rfl⟩
    exact ⟨next, after, rfl⟩
  · rintro ⟨next, after, rfl⟩
    exact ⟨next, after, rfl⟩

/-- A record satisfies the query of a range if its text lies between the range's texts. -/
theorem texts_accepts_iff {r : DayRange} (given : r.field ∉ ["$and", "$or"]) {f : Fields}
    {s : String} (found : f.get? r.field = some (.text s))
    : Matcher.texts.accepts r.toQuery.toValue f ↔ ¬ s < r.start ∧ s < r.stop := by
  refine (Matcher.reads_field_iff given).trans ?_
  constructor
  · rintro ⟨s', es, found', isBounds, satisfied⟩
    cases found.symm.trans found'
    cases isBounds
    exact ⟨satisfied _ List.mem_cons_self, satisfied _ (List.mem_cons_of_mem _ List.mem_cons_self)⟩
  · rintro ⟨notBefore, before⟩
    refine ⟨s, _, found, rfl, ?_⟩
    intro e member
    rcases List.mem_cons.1 member with rfl | member
    · exact notBefore
    · cases List.mem_singleton.1 member
      exact before

/-- The query of a range selects the texts in the range. -/
theorem toQuery_selects_iff {r : DayRange} {s : String}
    : r.toQuery.toValue.SelectsText r.field s ↔ ¬ s < r.start ∧ s < r.stop := by
  obtain ⟨field, start, stop⟩ := r
  constructor
  · rintro (every | _)
    exact ⟨every _ List.mem_cons_self, every _ (List.mem_cons_of_mem _ List.mem_cons_self)⟩
  · rintro ⟨notBefore, before⟩
    exact .between (List.forall_mem_cons.2 ⟨notBefore, List.forall_mem_singleton.2 before⟩)

/-- The negated query of a range selects the texts outside the range. -/
theorem toNegatedQuery_selects_iff {r : DayRange} {s : String}
    : r.toNegatedQuery.toValue.SelectsText r.field s ↔ s < r.start ∨ ¬ s < r.stop := by
  obtain ⟨field, start, stop⟩ := r
  constructor
  · rintro (_ | ⟨member, selected⟩)
    rcases List.mem_cons.1 member with rfl | member
    · exact .inl (Value.selectsText_bound_iff.1 selected)
    · cases List.mem_singleton.1 member
      exact .inr (Value.selectsText_bound_iff.1 selected)
  · rintro (before | notBefore)
    · exact .either List.mem_cons_self (Value.selectsText_bound_iff.2 before)
    · exact .either (List.mem_cons_of_mem _ List.mem_cons_self)
        (Value.selectsText_bound_iff.2 notBefore)

/-- Among stamps, the range of a day covers those of that day. -/
theorem covers_stamp_iff {field : String} {day : Date} {r : DayRange} (valid : day.Valid)
    (range : of? field day = some r) {u : Moment} (validStamp : u.date.Valid)
    (full : 1000 ≤ u.date.year)
    : ¬ String.ofList u.stampChars < r.start ∧ String.ofList u.stampChars < r.stop
      ↔ day = u.date := by
  obtain ⟨next, after, rfl⟩ := of?_eq_some_iff.1 range
  obtain ⟨validNext, number⟩ := Date.addDays?_eq_some_iff.1 after
  rw [Moment.stamp_lt_text_iff full validStamp valid,
    Moment.stamp_lt_text_iff full validStamp validNext]
  constructor
  · rintro ⟨notBefore, notAfter⟩
    exact Date.ordinal_inj valid validStamp (by omega)
  · rintro rfl
    omega

end DayRange

end DocGateway
