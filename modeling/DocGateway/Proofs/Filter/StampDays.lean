import DocGateway.Proofs.Calendar.Instants
import DocGateway.Proofs.Filter.DayMacros
import DocGateway.Proofs.Query.DayRanges
import DocGateway.Proofs.Value.TextKeys

/-!
Comparing a time stamp with a day.

A day is written as itself, as any moment of it or as text that starts with it. However it is
written, equality with it selects the stamps of exactly this day in UTC and inequality all others.
-/

namespace DocGateway

/-- The values that a day is written as: blanks may stand before it in a text, and anything after
it.
-/
inductive Date.WrittenAs (d : Date) : Value → Prop
  | day : d.WrittenAs (.date d)
  | moment {m : Moment} (own : m.date = d) : d.WrittenAs (.moment m)
  | text {blanks rest : List Char} (blank : ∀ c ∈ blanks, Text.isBlank c = true)
    : d.WrittenAs (.text (String.ofList (blanks ++ d.chars ++ rest)))

namespace Filter

theorem dayOf?_of_writtenAs {d : Date} (valid : d.Valid) {v : Value} (written : d.WrittenAs v)
    : dayOf? v = some d := by
  cases written with
  | day => rfl
  | moment own => exact congrArg some own
  | text blank => exact valid.readPrefix?_chars _ blank _

/-- No way to write a day is the macro for the current day, or null. -/
theorem not_todayMacro_of_dayOf? {v : Value} {d : Date} (reads : dayOf? v = some d)
    : v.same (.text todayMacro) = false ∧ v.isNull = false := by
  constructor
  · refine Bool.eq_false_iff.2 fun isToday => ?_
    rw [Value.same_text_right, Value.isText_iff] at isToday
    rw [isToday] at reads
    cases reads
  · cases v <;> first | rfl | cases reads

/-- A leaf on a field of days or of no known type that compares it with a day, not counted from the
current day.
-/
structure Leaf.ComparesWith (l : Leaf) (field : String) (d : Date) : Prop where
  field : l.field = field
  fieldType : l.fieldType = none ∨ l.fieldType = some "date"
  undated : l.Undated
  operand : ∃ v, l.operand = some v ∧ d.WrittenAs v

/-- However its day is written, a leaf on a time stamp asks for the day's range. -/
theorem Leaf.ComparesWith.compile_eq {ctx : Context} {l : Leaf} {field : String} {d : Date}
    (compares : l.ComparesWith field d) (stamped : field ∈ ctx.stampFields) (valid : d.Valid)
    {r : DayRange} (range : DayRange.of? field d = some r)
    : (l.operator = "=" → compileLeaf ctx l = .ok r.toQuery)
      ∧ (l.operator = "<>" → compileLeaf ctx l = .ok r.toNegatedQuery) := by
  obtain ⟨rfl, fieldType, undated, v, given, written⟩ := compares
  have reads := dayOf?_of_writtenAs valid written
  obtain ⟨notToday, notNull⟩ := not_todayMacro_of_dayOf? reads
  have value : l.value = v := by simp [Leaf.value, given]
  have operand : resolveDay l ctx.clock = .ok v := by
    rw [undated.operand, value, notToday]
    rfl
  have byDay (o : Operator) (known : o = .equal ∨ o = .notEqual)
      : comparesDay ctx l o v = true := by
    rcases fieldType with type | type
    · rcases known with rfl | rfl <;> simp [comparesDay, stamped, type, notNull]
    · rcases known with rfl | rfl <;> simp [comparesDay, stamped, type, notNull]
  constructor
  · intro operator
    have word : Operator.ofWord? l.operator = some .equal := by rw [operator]; rfl
    rw [compileLeaf_of_takesOperand word ⟨by decide, by decide⟩]
    exact compileWithOperand_of_day operand (byDay .equal (.inl rfl)) reads range
  · intro operator
    have word : Operator.ofWord? l.operator = some .notEqual := by rw [operator]; rfl
    rw [compileLeaf_of_takesOperand word ⟨by decide, by decide⟩]
    exact compileWithOperand_of_day operand (byDay .notEqual (.inr rfl)) reads range

/-- Each day but the last one has a query that leaves on a time stamp are compiled to for it,
however it is written, and a query for all other days. Of the stamps from the year 1000 on, the
first selects those of the day in UTC and the second one the rest.
-/
theorem compile_selects_day (ctx : Context) {field : String} (stamped : field ∈ ctx.stampFields)
    {d : Date} (valid : d.Valid) (before : d.Before Date.last)
    : ∃ same other : Query,
        (∀ (source : Source) (l : Leaf),
          source.normalize = .ok (.node (.leaf l))
          → l.ComparesWith field d
          → (l.operator = "=" → source.compile ctx = .ok same)
            ∧ (l.operator = "<>" → source.compile ctx = .ok other))
        ∧ ∀ t u : Moment,
            t.Valid
            → t.toUtc? = some u
            → 1000 ≤ u.date.year
            → ∃ s,
                t.stamp? = some s
                ∧ (same.toValue.SelectsText field s ↔ u.date = d)
                ∧ (other.toValue.SelectsText field s ↔ u.date ≠ d) := by
  -- The last day has no next one to end its range with.
  have notLast : d ≠ Date.last := by
    rintro rfl
    exact Nat.lt_irrefl _ (before.ordinal_lt valid valid)
  obtain ⟨next, after⟩ : ∃ next, d.addDays? 1 = some next :=
    Option.ne_none_iff_exists'.1 (mt valid.addDays?_one_eq_none_iff.1 notLast)
  let r : DayRange := ⟨field, d.text, next.text⟩
  have range : DayRange.of? field d = some r := DayRange.of?_eq_some_iff.2 ⟨next, after, rfl⟩
  refine ⟨r.toQuery, r.toNegatedQuery, ?_, ?_⟩
  · intro source l taken compares
    obtain ⟨equal, notEqual⟩ := compares.compile_eq stamped valid range
    exact ⟨fun operator => Source.compile_of_leaf taken (equal operator),
      fun operator => Source.compile_of_leaf taken (notEqual operator)⟩
  · intro t u validStamp utc full
    obtain ⟨validUtc, _, _⟩ := validStamp.toUtc?_spec utc
    have covers := DayRange.covers_stamp_iff valid range validUtc.1 full
    have inside : r.toQuery.toValue.SelectsText field (String.ofList u.stampChars) ↔ u.date = d :=
      DayRange.toQuery_selects_iff.trans (covers.trans eq_comm)
    have outside
        : r.toNegatedQuery.toValue.SelectsText field (String.ofList u.stampChars)
          ↔ u.date ≠ d := by
      refine (DayRange.toNegatedQuery_selects_iff (r := r)).trans ?_
      rw [ne_eq, eq_comm, ← covers, not_and_or, not_not]
    exact ⟨_, by simp [Moment.stamp?, utc], inside, outside⟩

/-- A leap day in three spellings, and a moment that is in UTC still on it. -/
theorem compile_selects_day_of_leap_day
    : let ctx : Context := ⟨.fixed ⟨⟨2024, 1, 5⟩, 10, 30, 0, 0, some 0⟩, none, ["createdAt"]⟩
      let asks (operator : String) (v : Value) : Source :=
        .value (Value.fields
          [("fieldId", .text "createdAt"), ("operator", .text operator), ("value", v)])
      let eastern : Moment := ⟨⟨2024, 2, 29⟩, 1, 0, 0, 0, some 7200000000⟩
      let t : Moment := ⟨⟨2024, 3, 1⟩, 1, 59, 59, 999999, some 7200000000⟩
      (⟨2024, 2, 29⟩ : Date).Valid
      ∧ (⟨2024, 2, 29⟩ : Date).Before Date.last
      ∧ t.Valid
      ∧ ∃ same other : Query,
          (∀ v ∈ [.date ⟨2024, 2, 29⟩, .moment eastern, .text "\n 2024-02-29T01:00"],
            (asks "=" v).compile ctx = .ok same ∧ (asks "<>" v).compile ctx = .ok other)
          ∧ ∃ s,
              t.stamp? = some s
              ∧ same.toValue.SelectsText "createdAt" s
              ∧ ¬ other.toValue.SelectsText "createdAt" s := by
  intro ctx asks eastern t
  have stamped : "createdAt" ∈ ctx.stampFields := List.mem_cons_self
  have valid : (⟨2024, 2, 29⟩ : Date).Valid := by decide
  have before : (⟨2024, 2, 29⟩ : Date).Before Date.last := .inl (by decide)
  have validStamp : t.Valid := by decide
  have utc : t.toUtc? = some ⟨⟨2024, 2, 29⟩, 23, 59, 59, 999999, some 0⟩ := by decide
  obtain ⟨same, other, compiles, selects⟩ := compile_selects_day ctx stamped valid before
  obtain ⟨s, stamp, inside, outside⟩ := selects t _ validStamp utc (by decide)
  have compiled (v : Value) (written : (⟨2024, 2, 29⟩ : Date).WrittenAs v)
      : (asks "=" v).compile ctx = .ok same ∧ (asks "<>" v).compile ctx = .ok other := by
    have leaf (operator : String)
        : (⟨"createdAt", operator, some v, none, none⟩ : Leaf).ComparesWith "createdAt"
          ⟨2024, 2, 29⟩ :=
      ⟨rfl, .inl rfl, rfl, v, rfl, written⟩
    exact ⟨(compiles _ _ rfl (leaf "=")).1 rfl, (compiles _ _ rfl (leaf "<>")).2 rfl⟩
  refine ⟨valid, before, validStamp, same, other, ?_, s, stamp, inside.2 rfl, ?_⟩
  · refine List.forall_mem_cons.2 ⟨compiled _ .day, List.forall_mem_cons.2 ⟨?_, ?_⟩⟩
    · exact compiled _ (.moment rfl)
    · have blank : ∀ c ∈ ['\n', ' '], Text.isBlank c = true :=
        List.forall_mem_cons.2 ⟨rfl, List.forall_mem_singleton.2 rfl⟩
      refine List.forall_mem_singleton.2 (compiled _ ?_)
      exact @Date.WrittenAs.text _ _ ['T', '0', '1', ':', '0', '0'] blank
  · exact fun selected => outside.1 selected rfl

end Filter

end DocGateway
