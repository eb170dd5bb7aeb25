import DocGateway.Proofs.Filter.FieldKeys
import DocGateway.Proofs.Query.DayRanges
import DocGateway.Proofs.Text.LiteralPatterns
import DocGateway.Text.Letters

/-!
What storage makes of the document of one field.

A mapping that starts with an operator is read operator by operator, and all of them must hold. Any
other value asks for something equal, or for something that fits if it is a pattern. How single
values are tested is up to storage; only texts are known to be ordered by code points.
-/

namespace DocGateway

/-- How storage tests a single value against an operand, which comes first. -/
structure ValueTests where
  equal : Value → Value → Prop
  fits : String → Value → Prop
  /-- The value keeps a bound; values of different kinds keep no bounds of each other. -/
  keeps : Comparison → Value → Value → Prop
  keeps_less_iff : ∀ t w, keeps .less (.text t) w ↔ ∃ s, w = .text s ∧ s < t
  keeps_atLeast_iff : ∀ t w, keeps .atLeast (.text t) w ↔ ∃ s, w = .text s ∧ ¬ s < t

/-- Tests in which only texts are ordered and fit patterns, letters of either case being alike. -/
def ValueTests.ofTexts : ValueTests where
  equal v w := v.same w = true
  fits source w := ∃ s part,
    w = .text s ∧ part <:+: s.toList
    ∧ Text.Matches (fun c d => Text.lowerChar c = Text.lowerChar d) source.toList part
  keeps c v w := ∃ t s, v = .text t ∧ w = .text s ∧
    match c with
    | .notEqual => s ≠ t
    | .less => s < t
    | .greater => t < s
    | .atMost => ¬ t < s
    | .atLeast => ¬ s < t
  keeps_less_iff := by simp
  keeps_atLeast_iff := by simp

/-- The values that tests of a field are put to: what a record has there, and for a list its items
too.
-/
def Value.tested : Option Value → List Value
  | none => []
  | some (.list xs) => .list xs :: xs
  | some (.tuple xs) => .tuple xs :: xs
  | some v => [v]

/-- A value that is no list. -/
def Value.Single (v : Value) : Prop := ∀ xs, v ≠ .list xs ∧ v ≠ .tuple xs

theorem Value.Single.tested {v : Value} (single : v.Single) : Value.tested (some v) = [v] := by
  cases v with
  | list xs => exact absurd rfl (single xs).1
  | tuple xs => exact absurd rfl (single xs).2
  | _ => rfl

namespace ValueTests

variable (t : ValueTests) (x : Option Value)

/-- A field has a value that equals the operand, or fits it if the operand is a pattern. A missing
field counts as null.
-/
def Meets : Value → Prop
  | .pattern source => ∃ w ∈ Value.tested x, t.fits source w
  | v => (x = none ∧ v = .null) ∨ ∃ w ∈ Value.tested x, t.equal v w

/-- A field, missing or not, passes an operator with its operand. -/
def Passes : Value → Value → Prop
  | .text "$eq", v => t.Meets x v
  | .text "$ne", v => ¬ t.Meets x v
  | .text "$in", .list vs => ∃ v ∈ vs, t.Meets x v
  | .text "$nin", .list vs => ¬ ∃ v ∈ vs, t.Meets x v
  | .text "$not", .pattern source => ¬ t.Meets x (.pattern source)
  | .text "$exists", .bool present => x.isSome = present
  | .text "$lt", v => ∃ w ∈ Value.tested x, t.keeps .less v w
  | .text "$gt", v => ∃ w ∈ Value.tested x, t.keeps .greater v w
  | .text "$lte", v => ∃ w ∈ Value.tested x, t.keeps .atMost v w
  | .text "$gte", v => ∃ w ∈ Value.tested x, t.keeps .atLeast v w
  | _, _ => False

/-- The first key decides whether a mapping is read as operators. -/
def StartsWithOperator : List (Value × Value) → Prop
  | (.text name, _) :: _ => Query.IsOperatorName name
  | _ => False

/-- A field is what a document asks of it. -/
def Asks : Value → Prop
  | .mapping es =>
    StartsWithOperator es ∧ (∀ e ∈ es, t.Passes x e.1 e.2)
    ∨ ¬ StartsWithOperator es ∧ t.Meets x (.mapping es)
  | v => t.Meets x v

/-- The reading of query documents by these tests, for records that have values for some fields. -/
def matcher : Matcher (String → Option Value) :=
  .ofFields fun name v record => t.Asks (record name) v

variable {t x}

theorem asks_itself_iff {v : Value} (plain : ∀ es, v ≠ .mapping es) : t.Asks x v ↔ t.Meets x v := by
  cases v with
  | mapping es => exact absurd rfl (plain es)
  | _ => exact Iff.rfl

theorem asks_operator_iff {key : String} (operator : Query.IsOperatorName key) {v : Value}
    : t.Asks x (Value.fields [(key, v)]) ↔ t.Passes x (.text key) v := by
  have starts : StartsWithOperator [(.text key, v)] := operator
  simp [Value.fields, Asks, starts]

theorem asks_operators_iff {key key' : String} (operator : Query.IsOperatorName key) {v v' : Value}
    : t.Asks x (Value.fields [(key, v), (key', v')])
      ↔ t.Passes x (.text key) v ∧ t.Passes x (.text key') v' := by
  have starts : StartsWithOperator [(.text key, v), (.text key', v')] := operator
  simp [Value.fields, Asks, starts]

-----------------------------------------------------------------------------------------
-- Conditions and their contraries
-----------------------------------------------------------------------------------------

theorem asks_notEqual_iff {v : Value} (plain : ∀ es, v ≠ .mapping es)
    : t.Asks x (Condition.compare .notEqual v).toValue ↔ ¬ t.Asks x (Condition.is v).toValue := by
  rw [Condition.toValue, Condition.toValue, asks_itself_iff plain]
  exact asks_operator_iff (by decide)

/-- Two operators of which one fails where the other one passes. -/
theorem asks_contrary_iff {key key' : String} {v v' : Value}
    (operator : Query.IsOperatorName key) (operator' : Query.IsOperatorName key')
    (contrary : t.Passes x (.text key') v' ↔ ¬ t.Passes x (.text key) v)
    : t.Asks x (Value.fields [(key', v')]) ↔ ¬ t.Asks x (Value.fields [(key, v)]) := by
  rw [asks_operator_iff operator, asks_operator_iff operator']
  exact contrary

theorem asks_notEqual_iff_literally (v : Value)
    : t.Asks x (Condition.compare .notEqual v).toValue
      ↔ ¬ t.Asks x (Condition.literally v).toValue :=
  asks_contrary_iff (by decide) (by decide) Iff.rfl

theorem asks_noneOf_iff (vs : List Value)
    : t.Asks x (Condition.noneOf vs).toValue ↔ ¬ t.Asks x (Condition.oneOf vs).toValue :=
  asks_contrary_iff (by decide) (by decide) Iff.rfl

theorem asks_notLike_iff (source : String)
    : t.Asks x (Condition.notLike source).toValue ↔ ¬ t.Asks x (Condition.like source).toValue := by
  rw [Condition.toValue, Condition.toValue, asks_operator_iff (by decide)]
  exact Iff.rfl

theorem asks_presence_iff
    : t.Asks x (Condition.presence true).toValue
      ↔ ¬ t.Asks x (Condition.presence false).toValue := by
  have present : x.isSome = true ↔ ¬ x.isSome = false := by rw [Bool.not_eq_false]
  exact asks_contrary_iff (by decide) (by decide) present

-----------------------------------------------------------------------------------------
-- Queries
-----------------------------------------------------------------------------------------

variable {name : String} {record : String → Option Value}

/-- What a query asks of an ordinary field. -/
theorem accepts_field_iff (ordinary : ¬ Query.IsOperatorName name) {c : Condition}
    : t.matcher.accepts (Query.field name c).toValue record ↔ t.Asks (record name) c.toValue := by
  have connectives : ∀ key ∈ ["$and", "$or"], Query.IsOperatorName key := by decide
  exact Matcher.reads_field_iff fun connective => ordinary (connectives name connective)

theorem accepts_all_iff (ordinary : ¬ Query.IsOperatorName name) (cs : List Condition)
    : t.matcher.accepts (Query.all (cs.map (Query.field name))).toValue record
      ↔ ∀ c ∈ cs, t.Asks (record name) c.toValue := by
  refine (t.matcher.accepts_combine .all _ record).trans ?_
  simp [Filter.Connective.Over, accepts_field_iff ordinary]

theorem accepts_any_iff (ordinary : ¬ Query.IsOperatorName name) (cs : List Condition)
    : t.matcher.accepts (Query.any (cs.map (Query.field name))).toValue record
      ↔ ∃ c ∈ cs, t.Asks (record name) c.toValue := by
  refine (t.matcher.accepts_combine .any _ record).trans ?_
  simp [Filter.Connective.Over, accepts_field_iff ordinary]

/-- A field is not empty in exactly the records that do not have it empty. -/
theorem accepts_fieldNotEmpty_iff (ordinary : ¬ Query.IsOperatorName name)
    : t.matcher.accepts (Query.fieldNotEmpty name).toValue record
      ↔ ¬ t.matcher.accepts (Query.fieldEmpty name).toValue record := by
  have notEmpty : t.matcher.accepts (Query.fieldNotEmpty name).toValue record ↔ _ :=
    accepts_all_iff ordinary
      [.compare .notEqual (.text ""), .compare .notEqual (.list []), .presence true]
  have empty : t.matcher.accepts (Query.fieldEmpty name).toValue record ↔ _ :=
    accepts_any_iff ordinary [.is (.text ""), .is (.list []), .presence false]
  have noText := asks_notEqual_iff (t := t) (x := record name) (v := .text "") nofun
  have noList := asks_notEqual_iff (t := t) (x := record name) (v := .list []) nofun
  rw [notEmpty, empty]
  simp [noText, noList, asks_presence_iff]

/-- A day's query asks for one value at or after the start and one before the end, in a list maybe
another one.
-/
theorem accepts_day_iff {r : DayRange} (ordinary : ¬ Query.IsOperatorName r.field)
    : t.matcher.accepts r.toQuery.toValue record
      ↔ (∃ w ∈ Value.tested (record r.field), t.keeps .atLeast (.text r.start) w)
        ∧ ∃ w ∈ Value.tested (record r.field), t.keeps .less (.text r.stop) w :=
  (accepts_field_iff ordinary).trans (asks_operators_iff (by decide))

theorem accepts_otherDays_iff {r : DayRange} (ordinary : ¬ Query.IsOperatorName r.field)
    : t.matcher.accepts r.toNegatedQuery.toValue record
      ↔ (∃ w ∈ Value.tested (record r.field), t.keeps .less (.text r.start) w)
        ∨ ∃ w ∈ Value.tested (record r.field), t.keeps .atLeast (.text r.stop) w := by
  have outside : t.matcher.accepts r.toNegatedQuery.toValue record ↔ _ :=
    accepts_any_iff ordinary [.compare .less (.text r.start), .compare .atLeast (.text r.stop)]
  have less : t.Asks (record r.field) (Condition.compare .less (.text r.start)).toValue ↔ _ :=
    asks_operator_iff (by decide)
  have atLeast : t.Asks (record r.field) (Condition.compare .atLeast (.text r.stop)).toValue ↔ _ :=
    asks_operator_iff (by decide)
  rw [outside]
  simp only [List.mem_cons, List.not_mem_nil, or_false, exists_eq_or_imp, exists_eq_left]
  exact or_congr less atLeast

/-- A text is of the day or of another day, by code points. -/
theorem accepts_otherDays_iff_of_text {r : DayRange} (ordinary : ¬ Query.IsOperatorName r.field)
    {s : String} (found : record r.field = some (.text s))
    : t.matcher.accepts r.toNegatedQuery.toValue record
      ↔ ¬ t.matcher.accepts r.toQuery.toValue record := by
  rw [accepts_otherDays_iff ordinary, accepts_day_iff ordinary, found]
  simp only [Value.tested, List.mem_singleton, exists_eq_left, keeps_less_iff, keeps_atLeast_iff,
    Value.text.injEq, exists_eq_left', not_and_or, not_not]

/-- What is no text, and holds none, is neither of the day nor of another day. -/
theorem not_accepts_days {r : DayRange} (ordinary : ¬ Query.IsOperatorName r.field)
    (noText : ∀ s, .text s ∉ Value.tested (record r.field))
    : ¬ t.matcher.accepts r.toQuery.toValue record
      ∧ ¬ t.matcher.accepts r.toNegatedQuery.toValue record := by
  have noLess : ∀ bound, ∀ w ∈ Value.tested (record r.field), ¬ t.keeps .less (.text bound) w := by
    intro bound w member kept
    obtain ⟨s, rfl, _⟩ := (t.keeps_less_iff bound w).1 kept
    exact noText s member
  have noAtLeast
      : ∀ bound, ∀ w ∈ Value.tested (record r.field), ¬ t.keeps .atLeast (.text bound) w := by
    intro bound w member kept
    obtain ⟨s, rfl, _⟩ := (t.keeps_atLeast_iff bound w).1 kept
    exact noText s member
  rw [accepts_day_iff ordinary, accepts_otherDays_iff ordinary]
  constructor
  · rintro ⟨⟨w, member, kept⟩, _⟩
    exact noAtLeast _ w member kept
  · rintro (⟨w, member, kept⟩ | ⟨w, member, kept⟩)
    · exact noLess _ w member kept
    · exact noAtLeast _ w member kept

end ValueTests

end DocGateway
