import DocGateway.Fields
import DocGateway.Proofs.Filter.Compilation
import DocGateway.Proofs.Query.Positions

/-!
What filters mean once they are compiled.

Storage may read the document of a single field in any way, as long as it reads a combination as
all or some of its parts (`Matcher`). A query then accepts exactly the records that pass the tree
that it was compiled from, where a leaf is as good as its own query.
-/

namespace DocGateway

universe u

/-- All or some of the members of a list have a property. -/
def Filter.Connective.Over {α : Type} (c : Filter.Connective) (xs : List α) (p : α → Prop) : Prop :=
  match c with
  | .all => ∀ x ∈ xs, p x
  | .any => ∃ x ∈ xs, p x

theorem Filter.Connective.over_congr {α β : Type} (c : Filter.Connective) {p : α → Prop}
    {p' : β → Prop} {xs : List α} {ys : List β}
    (related : List.Forall₂ (fun x y => p x ↔ p' y) xs ys)
    : c.Over xs p ↔ c.Over ys p' := by
  obtain ⟨left, right⟩ := forall₂_partners related
  cases c with
  | all =>
    constructor
    · intro every y member
      obtain ⟨x, partner, same⟩ := right y member
      exact same.1 (every x partner)
    · intro every x member
      obtain ⟨y, partner, same⟩ := left x member
      exact same.2 (every y partner)
  | any =>
    constructor
    · rintro ⟨x, member, holds⟩
      obtain ⟨y, partner, same⟩ := left x member
      exact ⟨y, partner, same.1 holds⟩
    · rintro ⟨y, member, holds⟩
      obtain ⟨x, partner, same⟩ := right y member
      exact ⟨x, partner, same.2 holds⟩

-----------------------------------------------------------------------------------------
-- Readings of query documents
-----------------------------------------------------------------------------------------

/-- A way to match records with query documents in which combinations mean what they say. -/
structure Matcher (δ : Type u) where
  accepts : Value → δ → Prop
  all_iff
    : ∀ docs d, accepts (Value.fields [("$and", .list docs)]) d ↔ ∀ doc ∈ docs, accepts doc d
  any_iff
    : ∀ docs d, accepts (Value.fields [("$or", .list docs)]) d ↔ ∃ doc ∈ docs, accepts doc d

namespace Matcher

variable {δ : Type u}

theorem accepts_combine (m : Matcher δ) (c : Filter.Connective) (qs : List Query) (d : δ)
    : m.accepts (c.combine qs).toValue d ↔ c.Over qs fun q => m.accepts q.toValue d := by
  cases c with
  | all =>
    refine (m.all_iff (Query.toValues qs) d).trans ?_
    rw [Query.toValues_eq_map, List.forall_mem_map]
    rfl
  | any =>
    refine (m.any_iff (Query.toValues qs) d).trans ?_
    rw [Query.toValues_eq_map]
    simp [Filter.Connective.Over]

/-- A document is read by its one key: a connective, or a field with what is asked of it. -/
inductive Reads (asks : String → Value → Prop) : Value → Prop
  | all {docs : List Value} (every : ∀ doc ∈ docs, Reads asks doc)
    : Reads asks (Value.fields [("$and", .list docs)])
  | any {docs : List Value} {doc : Value} (member : doc ∈ docs) (read : Reads asks doc)
    : Reads asks (Value.fields [("$or", .list docs)])
  | field {name : String} {v : Value} (given : name ∉ ["$and", "$or"]) (asked : asks name v)
    : Reads asks (Value.fields [(name, v)])

/-- A document of one entry is a combination or a field, by the entry's key. -/
theorem reads_single_iff {asks : String → Value → Prop} {name : String} {v : Value}
    : Reads asks (Value.fields [(name, v)])
      ↔ (name = "$and" ∧ ∃ docs, v = .list docs ∧ ∀ doc ∈ docs, Reads asks doc)
        ∨ (name = "$or" ∧ ∃ docs, v = .list docs ∧ ∃ doc ∈ docs, Reads asks doc)
        ∨ (name ∉ ["$and", "$or"] ∧ asks name v) := by
  constructor
  · intro read
    have single {name' : String} {v' : Value}
        (same : Value.fields [(name, v)] = Value.fields [(name', v')])
        : name = name' ∧ v = v' := by
      simpa [Value.fields] using same
    generalize isDoc : Value.fields [(name, v)] = doc at read
    cases read with
    | all every =>
      obtain ⟨rfl, rfl⟩ := single isDoc
      exact .inl ⟨rfl, _, rfl, every⟩
    | any member read =>
      obtain ⟨rfl, rfl⟩ := single isDoc
      exact .inr (.inl ⟨rfl, _, rfl, _, member, read⟩)
    | field given asked =>
      obtain ⟨rfl, rfl⟩ := single isDoc
      exact .inr (.inr ⟨given, asked⟩)
  · rintro (⟨rfl, docs, rfl, every⟩ | ⟨rfl, docs, rfl, doc, member, read⟩ | ⟨given, asked⟩)
    · exact .all every
    · exact .any member read
    · exact .field given asked

/-- The matcher of a way to ask fields of a record. -/
def ofFields (asks : String → Value → δ → Prop) : Matcher δ where
  accepts doc d := Reads (asks · · d) doc
  all_iff docs d := by simp [reads_single_iff]
  any_iff docs d := by simp [reads_single_iff]

end Matcher

namespace Filter

-----------------------------------------------------------------------------------------
-- Trees
-----------------------------------------------------------------------------------------

namespace Node

mutual

/-- Whether a record passes a tree, given which leaves it passes. The operator of a group counts
without blanks around it and in small letters; gaps do not count.
-/
def Passes (leaf : Leaf → Prop) : Node → Prop
  | .leaf l => leaf l
  | group operator members =>
    let word := Connective.simplify (operator.getD "")
    if word = "and" then AllPass leaf members
    else if word = "or" then SomePass leaf members
    else False
  | raw _ => False
termination_by structural n => n

def AllPass (leaf : Leaf → Prop) : List Node → Prop
  | [] => True
  | n :: ns => (n.isGap = false → Passes leaf n) ∧ AllPass leaf ns
termination_by structural ns => ns

def SomePass (leaf : Leaf → Prop) : List Node → Prop
  | [] => False
  | n :: ns => (n.isGap = false ∧ Passes leaf n) ∨ SomePass leaf ns
termination_by structural ns => ns

end

theorem allPass_iff {leaf : Leaf → Prop} {members : List Node}
    : AllPass leaf members ↔ Connective.all.Over (present members) (Passes leaf) := by
  induction members with
  | nil => simp [AllPass, present, Connective.Over]
  | cons n members ih =>
    cases gap : n.isGap <;> simp_all [AllPass, present, Connective.Over]

theorem somePass_iff {leaf : Leaf → Prop} {members : List Node}
    : SomePass leaf members ↔ Connective.any.Over (present members) (Passes leaf) := by
  induction members with
  | nil => simp [SomePass, present, Connective.Over]
  | cons n members ih =>
    cases gap : n.isGap <;> simp_all [SomePass, present, Connective.Over]

theorem passes_group {leaf : Leaf → Prop} {operator : Option String} {c : Connective}
    (word : Connective.ofWord? (operator.getD "") = some c) (members : List Node)
    : (group operator members).Passes leaf ↔ c.Over (present members) (Passes leaf) := by
  have spelled := Connective.ofWord?_eq_some_iff.1 word
  cases c with
  | all => simp [Passes, spelled, Connective.word, allPass_iff]
  | any => simp [Passes, spelled, Connective.word, somePass_iff]

end Node

-----------------------------------------------------------------------------------------
-- Trees and their queries
-----------------------------------------------------------------------------------------

/-- The queries of leaves have no empty combinations. -/
theorem Leaf.Asks.filled {l : Leaf} {q : Query} (asks : l.Asks q) : q.Filled := by
  cases asks with
  | once c => exact Query.filled_field _ _
  | empty =>
    refine Query.filled_combine (c := .any) (List.cons_ne_nil _ _) ?_
    simp [Query.filled_field]
  | notEmpty =>
    refine Query.filled_combine (c := .all) (List.cons_ne_nil _ _) ?_
    simp [Query.filled_field]
  | otherDays =>
    refine Query.filled_combine (c := .any) (List.cons_ne_nil _ _) ?_
    simp [Query.filled_field]

/-- A record passes a leaf if the query of that leaf alone accepts it. -/
def Leaf.Matches {δ : Type u} (ctx : Context) (m : Matcher δ) (d : δ) (l : Leaf) : Prop :=
  ∃ q, compileLeaf ctx l = .ok q ∧ m.accepts q.toValue d

namespace Node

theorem accepts_compile {δ : Type u} {ctx : Context} {n : Node} {q : Query}
    (compiled : n.compile ctx = .ok q) (m : Matcher δ) (d : δ)
    : m.accepts q.toValue d ↔ n.Passes (Leaf.Matches ctx m d) := by
  refine compile_induction (P := fun n q => m.accepts q.toValue d ↔ n.Passes _) ?_ ?_ compiled
  · intro l q compiled
    constructor
    · exact fun accepted => ⟨q, compiled, accepted⟩
    · rintro ⟨q', compiled', accepted⟩
      cases compiled.symm.trans compiled'
      exact accepted
  · intro operator members c qs word _ parts
    rw [m.accepts_combine, passes_group word]
    exact (c.over_congr (parts.imp fun n q same => same.symm)).symm

theorem filled_compile {ctx : Context} {n : Node} {q : Query} (compiled : n.compile ctx = .ok q)
    : q.Filled := by
  refine compile_induction (P := fun _ q => q.Filled) ?_ ?_ compiled
  · exact fun l q compiled => (asks_compileLeaf compiled).filled
  · intro operator members c qs _ some parts
    refine Query.filled_combine some fun q member => ?_
    obtain ⟨n, _, filled⟩ := (forall₂_partners parts).2 q member
    exact filled

/-- A query accepts exactly the records that pass its tree, whatever storage makes of single fields.
No document at predicate position is empty, and no combination there is without parts.
-/
theorem compile_keeps_meaning {ctx : Context} {n : Node} {q : Query}
    (compiled : n.compile ctx = .ok q)
    : (∀ {δ : Type u} (m : Matcher δ) (d : δ),
        m.accepts q.toValue d ↔ n.Passes (Leaf.Matches ctx m d))
      ∧ (∀ p, q.Part p → p.toValue ≠ .mapping [])
      ∧ q.Filled :=
  ⟨accepts_compile compiled, fun p _ => p.toValue_ne_empty, filled_compile compiled⟩

/-- Gaps at every depth, operators in any spelling, and a leaf whose query is a combination. -/
theorem compile_keeps_meaning_of_nested_gaps
    : let ctx : Context := ⟨.fixed ⟨⟨2024, 1, 5⟩, 10, 30, 0, 0, some 0⟩, none, []⟩
      let tree : Node :=
        group (some " AND ")
          [gap, .leaf ⟨"rank", "=", some (.int 1), none, none⟩,
            group (some "Or")
              [.leaf ⟨"name", "=", some (.text "Apollo"), none, none⟩, gap,
                .leaf ⟨"email", "is empty", none, none, none⟩]]
      let q : Query :=
        .all [.field "rank" (.is (.int 1)),
          .any [.field "name" (.is (.text "Apollo")), .fieldEmpty "email"]]
      let m : Matcher Fields :=
        .ofFields fun name v f => ∃ w, f.get? name = some w ∧ w.same v = true
      tree.compile ctx = .ok q
      ∧ (∀ f, m.accepts q.toValue f ↔ tree.Passes (Leaf.Matches ctx m f))
      ∧ (∀ p, q.Part p → p.toValue ≠ .mapping [])
      ∧ q.Filled := by
  intro ctx tree q m
  have compiled : tree.compile ctx = .ok q := rfl
  obtain ⟨meaning, documents, filled⟩ := compile_keeps_meaning compiled
  exact ⟨compiled, meaning m, documents, filled⟩

end Node

end Filter

end DocGateway
