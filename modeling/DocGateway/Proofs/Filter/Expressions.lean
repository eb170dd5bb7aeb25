import DocGateway.Proofs.Filter.Compilation
import DocGateway.Proofs.Filter.Reading
import DocGateway.Proofs.Query.Positions

/-!
What filter expressions compile to.

An expression is written as a tree, read back as a node and compiled. On the whole way it keeps its
shape: a single predicate becomes the query of its leaf, and predicates or expressions that are
joined become the combination of their queries, in their order (`Source.compile_of_parts`).
-/

namespace DocGateway.Filter

-----------------------------------------------------------------------------------------
-- Reading trees
-----------------------------------------------------------------------------------------

namespace Node

/-- A group's tree is read as the group of its members' nodes. -/
theorem read_groupTree (c : Connective) {ts : List Value} (filled : ∀ t ∈ ts, t.isNull = false)
    {n : Node}
    : read (groupTree c ts) = .ok n
      ↔ ∃ ns, List.Forall₂ (fun t n => read t = .ok n) ts ns ∧ n = .group (some c.word) ns := by
  have members
      : readItems ts = ts.mapM read := by
    rw [readItems_eq_mapM]
    exact Except.mapM_congr fun t member => by rw [filled t member]; rfl
  have reads : read (groupTree c ts) = (ts.mapM read).map (.group (some c.word)) := by
    rw [← members]
    cases c <;> rfl
  rw [reads, Except.map_eq_ok]
  simp only [Except.mapM_eq_ok, eq_comm (a := n)]

end Node

-----------------------------------------------------------------------------------------
-- Explicit leaves and keywords
-----------------------------------------------------------------------------------------

namespace ExplicitLeaf

/-- The leaf that an explicit leaf is read as; each of its fields must be fit for a leaf. -/
structure Names (e : ExplicitLeaf) (l : Leaf) : Prop where
  field : Reader.nonEmptyText e.field = .ok l.field
  operator : Reader.text e.operator = .ok l.operator
  operand : e.operand = l.operand
  fieldType : Reader.textOrNull e.fieldType = .ok l.fieldType
  dateOperator : Reader.textOrNull e.dateOperator = .ok l.dateOperator

/-- The named fields of an explicit leaf's tree. -/
def entries (e : ExplicitLeaf) : List (String × Value) :=
  let given (name : String) (v : Value) := if v.isNull then [] else [(name, v)]
  [("type", .text "filter"), ("fieldId", e.field), ("operator", e.operator)]
    ++ (e.operand.map fun v => ("value", v)).toList
    ++ given "fieldType" e.fieldType ++ given "dateOperator" e.dateOperator

theorem toTree_eq (e : ExplicitLeaf) : e.toTree = .fields e.entries := rfl

private theorem snd_find?_given (name s : String) (v : Value)
    : ((if v.isNull then [] else [(name, v)]).find? fun e => e.1 == s).map Prod.snd
      = if v.isNull || name != s then none else some v := by
  cases v.isNull <;> by_cases same : name = s <;> simp [same]

/-- What stands under the names of an explicit leaf's tree. -/
theorem lookup?_entries (e : ExplicitLeaf) (s : String)
    : Value.lookup? (.text s) (e.entries.map fun e => (.text e.1, e.2))
      = if s = "type" then some (.text "filter")
        else if s = "fieldId" then some e.field
        else if s = "operator" then some e.operator
        else if s = "value" then e.operand
        else if s = "fieldType" then if e.fieldType.isNull then none else some e.fieldType
        else if s = "dateOperator" then if e.dateOperator.isNull then none else some e.dateOperator
        else none := by
  have operand : ((e.operand.map fun v => ("value", v)).toList.find? fun e => e.1 == s).map Prod.snd
      = if s = "value" then e.operand else none := by
    cases e.operand <;> by_cases same : s = "value" <;> simp [same, Ne.symm]
  rw [Value.lookup?_fields, entries]
  simp only [List.find?_append, Option.map_or, snd_find?_given, operand]
  grind

/-- An explicit leaf's tree is read as the leaf that it names. -/
theorem read_toTree {e : ExplicitLeaf} {n : Node}
    : Node.read e.toTree = .ok n ↔ ∃ l, e.Names l ∧ n = .leaf l := by
  have found := e.lookup?_entries
  have notGroup : Node.isGroup (e.entries.map fun e => (.text e.1, e.2)) = false := by
    simp [Node.isGroup, found, Value.same_text_right, Value.isText]
  rw [toTree_eq, Value.fields, Node.read_leaf notGroup]
  refine exists_congr fun l => and_congr_left fun _ => ?_
  rw [Leaf.read_eq_ok, Reader.required_of_lookup (found _), Reader.required_of_lookup (found _),
    found, Reader.optional_textOrNull (found _) (found _),
    Reader.optional_textOrNull (found _) (found _)]
  constructor
  · rintro ⟨_, field, operator, operand, fieldType, dateOperator⟩
    exact ⟨field, operator, operand, fieldType, dateOperator⟩
  · intro names
    refine ⟨⟨"filter", ?_⟩, names.field, names.operator, names.operand, names.fieldType,
      names.dateOperator⟩
    exact Reader.optional_eq_ok.2 (.inr ⟨_, by rw [Reader.find?, found]; rfl, rfl⟩)

end ExplicitLeaf

/-- The leaf as it would be given explicitly. -/
def Leaf.explicit (l : Leaf) : ExplicitLeaf :=
  ⟨.text l.field, .text l.operator, l.operand, .ofText? l.fieldType, .ofText? l.dateOperator⟩

private theorem textOrNull_ofText? (s : Option String)
    : Reader.textOrNull (.ofText? s) = .ok s := by
  cases s <;> rfl

theorem Leaf.names_explicit_iff {l l' : Leaf}
    : l.explicit.Names l' ↔ l.field ≠ "" ∧ l' = l := by
  constructor
  · intro names
    have field := Reader.nonEmptyText_eq_ok.1 names.field
    have operator := names.operator
    have operand := names.operand
    have fieldType := (textOrNull_ofText? l.fieldType).symm.trans names.fieldType
    have dateOperator := (textOrNull_ofText? l.dateOperator).symm.trans names.dateOperator
    simp only [explicit, Reader.text, Checked.ok.injEq] at *
    obtain ⟨same, nonempty⟩ := field
    refine ⟨same ▸ nonempty, ?_⟩
    cases l
    cases l'
    simp_all
  · rintro ⟨nonempty, rfl⟩
    exact ⟨Reader.nonEmptyText_eq_ok.2 ⟨rfl, nonempty⟩, rfl, rfl, textOrNull_ofText? _,
      textOrNull_ofText? _⟩

/-- The leaf that a keyword and its operand stand for. -/
def keywordLeaf (key : String) (v : Value) : Leaf :=
  match readKeyword key with
  | (field, .operator o) => ⟨field, o.word, some v, none, none⟩
  | (field, .empty) =>
    ⟨field, (if v.truthy then Operator.isEmpty else .isNotEmpty).word, none, none, none⟩

theorem keywordTree_eq (key : String) (v : Value)
    : keywordTree key v = (keywordLeaf key v).explicit.toTree := by
  unfold keywordTree keywordLeaf
  cases readKeyword key with
  | mk field lookup => cases lookup <;> rfl

-----------------------------------------------------------------------------------------
-- Expressions
-----------------------------------------------------------------------------------------

namespace Expression

/-- The second expression stands in the first one, at any depth. -/
inductive Part : Expression → Expression → Prop
  | self (e : Expression) : Part e e
  | left {c : Connective} {left right p : Expression} (inside : Part left p)
    : Part (.join c left right) p
  | right {c : Connective} {left right p : Expression} (inside : Part right p)
    : Part (.join c left right) p

theorem isNull_toTree (e : Expression) : e.toTree.isNull = false := by
  cases e with
  | leaf l => rfl
  | join c left right => rfl
  | keywords kvs =>
    match kvs with
    | [] => rfl
    | [(key, v)] => rw [toTree, keywordTree_eq]; rfl
    | _ :: _ :: _ => rfl

end Expression

/-- A group without gaps compiles exactly if each member does. -/
theorem Node.compile_group_iff {ctx : Context} {c : Connective} {ns : List Node} {q : Query}
    (nonempty : ns ≠ []) (noGap : ∀ n ∈ ns, n.isGap = false)
    : (group (some c.word) ns).compile ctx = .ok q
      ↔ ∃ qs, List.Forall₂ (fun n q => n.compile ctx = .ok q) ns qs ∧ q = c.combine qs := by
  have word : Connective.ofWord? ((some c.word).getD "") = some c := by
    cases c <;> rfl
  have all : present ns = ns := List.filter_eq_self.2 fun n member => by simp [noGap n member]
  rw [compile_group ctx word, all, if_neg nonempty, Except.map_eq_ok]
  simp only [Except.mapM_eq_ok, eq_comm (a := q)]

namespace Source

variable {ctx : Context} {q : Query}

theorem compile_expression_iff {e : Expression}
    : (expression e).compile ctx = .ok q
      ↔ ∃ n, Node.read e.toTree = .ok n ∧ n.compile ctx = .ok q := by
  constructor
  · intro compiled
    obtain ⟨n, taken, compiled⟩ := normalize_of_compile compiled
    obtain ⟨n', reads, same⟩ := Except.map_eq_ok.1 taken
    cases same
    exact ⟨n, Except.mapError_eq_ok.1 reads, compiled⟩
  · rintro ⟨n, reads, compiled⟩
    have taken : (expression e).normalize = .ok (.node n) := by rw [normalize, reads]; rfl
    rw [compile_of_normalize taken, compiled]
    rfl

/-- An expression whose tree groups the trees of others compiles exactly if each of these does, to
the combination of their queries in the same order.
-/
theorem compile_of_parts {e : Expression} {c : Connective} {parts : List Expression}
    (nonempty : parts ≠ []) (tree : e.toTree = groupTree c (parts.map Expression.toTree))
    : (expression e).compile ctx = .ok q
      ↔ ∃ qs,
          List.Forall₂ (fun p q => (expression p).compile ctx = .ok q) parts qs
          ∧ q = c.combine qs := by
  have filled : ∀ t ∈ parts.map Expression.toTree, t.isNull = false := by
    intro t member
    obtain ⟨p, _, rfl⟩ := List.mem_map.1 member
    exact p.isNull_toTree
  have group {ns : List Node}
      (read : List.Forall₂ (fun p n => Node.read p = .ok n) (parts.map Expression.toTree) ns)
      : (Node.group (some c.word) ns).compile ctx = .ok q
        ↔ ∃ qs, List.Forall₂ (fun n q => n.compile ctx = .ok q) ns qs ∧ q = c.combine qs := by
    refine Node.compile_group_iff ?_ ?_
    · rintro rfl
      exact nonempty (List.map_eq_nil_iff.1 (List.forall₂_nil_right_iff.1 read))
    · intro n member
      obtain ⟨t, _, reads⟩ := (forall₂_partners read).2 n member
      exact Node.isGap_of_read reads
  have each {qs : List Query}
      : List.Forall₂ (fun p q => (expression p).compile ctx = .ok q) parts qs
        ↔ ∃ ns, List.Forall₂ (fun t n => Node.read t = .ok n) (parts.map Expression.toTree) ns
          ∧ List.Forall₂ (fun n q => n.compile ctx = .ok q) ns qs := by
    simp only [forall₂_comp_iff, List.forall₂_map_left_iff, compile_expression_iff]
  rw [compile_expression_iff, tree]
  constructor
  · rintro ⟨n, reads, compiled⟩
    obtain ⟨ns, read, rfl⟩ := (Node.read_groupTree c filled).1 reads
    obtain ⟨qs, compile, rfl⟩ := (group read).1 compiled
    exact ⟨qs, each.2 ⟨ns, read, compile⟩, rfl⟩
  · rintro ⟨qs, compile, rfl⟩
    obtain ⟨ns, read, compile⟩ := each.1 compile
    exact ⟨_, (Node.read_groupTree c filled).2 ⟨ns, read, rfl⟩, (group read).2 ⟨qs, compile, rfl⟩⟩

theorem compile_join {c : Connective} {left right : Expression}
    : (expression (.join c left right)).compile ctx = .ok q
      ↔ ∃ l r,
          (expression left).compile ctx = .ok l
          ∧ (expression right).compile ctx = .ok r
          ∧ q = c.combine [l, r] := by
  have tree : (Expression.join c left right).toTree
      = groupTree c ([left, right].map Expression.toTree) := rfl
  rw [compile_of_parts (List.cons_ne_nil _ _) tree]
  simp only [List.forall₂_cons_left_iff, List.forall₂_nil_left_iff]
  constructor
  · rintro ⟨_, ⟨l, _, first, ⟨r, _, second, rfl, rfl⟩, rfl⟩, same⟩
    exact ⟨l, r, first, second, same⟩
  · rintro ⟨l, r, first, second, same⟩
    exact ⟨_, ⟨l, _, first, ⟨r, _, second, rfl, rfl⟩, rfl⟩, same⟩

/-- Several keywords are all demanded, in their order. -/
theorem compile_keywords {kvs : List (String × Value)} (several : 2 ≤ kvs.length)
    : (expression (.keywords kvs)).compile ctx = .ok q
      ↔ ∃ qs,
          List.Forall₂ (fun kv q => (expression (.keywords [kv])).compile ctx = .ok q) kvs qs
          ∧ q = .all qs := by
  obtain ⟨first, second, rest, rfl⟩ : ∃ first second rest, kvs = first :: second :: rest := by
    match kvs with
    | first :: second :: rest => exact ⟨first, second, rest, rfl⟩
  let parts := (first :: second :: rest).map fun kv => Expression.keywords [kv]
  have tree : (Expression.keywords (first :: second :: rest)).toTree
      = groupTree .all (parts.map Expression.toTree) := by
    rw [List.map_map]
    rfl
  have nonempty : parts ≠ [] := List.cons_ne_nil _ _
  rw [compile_of_parts nonempty tree]
  simp only [parts, List.forall₂_map_left_iff]
  rfl

theorem compile_leaf {l : ExplicitLeaf}
    : (expression (.leaf l)).compile ctx = .ok q
      ↔ ∃ leaf, l.Names leaf ∧ Filter.compileLeaf ctx leaf = .ok q := by
  rw [compile_expression_iff, Expression.toTree]
  constructor
  · rintro ⟨n, reads, compiled⟩
    obtain ⟨leaf, names, rfl⟩ := ExplicitLeaf.read_toTree.1 reads
    exact ⟨leaf, names, compiled⟩
  · rintro ⟨leaf, names, compiled⟩
    exact ⟨_, ExplicitLeaf.read_toTree.2 ⟨leaf, names, rfl⟩, compiled⟩

theorem compile_keyword {key : String} {v : Value}
    : (expression (.keywords [(key, v)])).compile ctx = .ok q
      ↔ (keywordLeaf key v).field ≠ "" ∧ Filter.compileLeaf ctx (keywordLeaf key v) = .ok q := by
  have asLeaf : (expression (.keywords [(key, v)])).compile ctx = .ok q
      ↔ (expression (.leaf (keywordLeaf key v).explicit)).compile ctx = .ok q := by
    rw [compile_expression_iff, compile_expression_iff, Expression.toTree, Expression.toTree,
      keywordTree_eq]
  simp only [asLeaf, compile_leaf, Leaf.names_explicit_iff]
  constructor
  · rintro ⟨_, ⟨nonempty, rfl⟩, compiled⟩
    exact ⟨nonempty, compiled⟩
  · rintro ⟨nonempty, compiled⟩
    exact ⟨_, ⟨nonempty, rfl⟩, compiled⟩

/-- An expression with a part that asks nothing does not compile. -/
theorem compile_of_blank {e : Expression} (blank : e.Part (.keywords []))
    : ∃ f, (expression e).compile ctx = .error f := by
  have refused : ∀ q, (expression e).compile ctx ≠ .ok q := by
    generalize same : Expression.keywords [] = p at blank
    induction blank with
    | self e =>
      subst same
      exact nofun
    | left _ ih =>
      intro q compiled
      obtain ⟨l, _, first, _⟩ := compile_join.1 compiled
      exact ih same l first
    | right _ ih =>
      intro q compiled
      obtain ⟨_, r, _, second, _⟩ := compile_join.1 compiled
      exact ih same r second
  cases outcome : (expression e).compile ctx with
  | error f => exact ⟨f, rfl⟩
  | ok q => exact absurd outcome (refused q)

/-- Expressions compile to what they say. Joined expressions and several keywords become the
combination of what they are by themselves, a single keyword or explicit leaf becomes the query of
its leaf, and nothing compiles that has a part without a predicate. As a document a combination is
the list of its parts under its connective.
-/
theorem compile_expression (ctx : Context)
    : (∀ c left right q,
        (expression (.join c left right)).compile ctx = .ok q
        ↔ ∃ l r,
            (expression left).compile ctx = .ok l
            ∧ (expression right).compile ctx = .ok r
            ∧ q = c.combine [l, r])
      ∧ (∀ kvs q,
        2 ≤ kvs.length
        → ((expression (.keywords kvs)).compile ctx = .ok q
          ↔ ∃ qs,
              List.Forall₂ (fun kv q => (expression (.keywords [kv])).compile ctx = .ok q) kvs qs
              ∧ q = .all qs))
      ∧ (∀ key v q,
        (expression (.keywords [(key, v)])).compile ctx = .ok q
        ↔ (keywordLeaf key v).field ≠ "" ∧ Filter.compileLeaf ctx (keywordLeaf key v) = .ok q)
      ∧ (∀ l q,
        (expression (.leaf l)).compile ctx = .ok q
        ↔ ∃ leaf, l.Names leaf ∧ Filter.compileLeaf ctx leaf = .ok q)
      ∧ (∀ e : Expression,
        e.Part (.keywords []) → ∃ f, (expression e).compile ctx = .error f)
      ∧ ∀ (c : Connective) (qs : List Query),
        (c.combine qs).toValue = Value.fields [(c.key, .list (qs.map Query.toValue))] :=
  ⟨fun _ _ _ _ => compile_join, fun _ _ => compile_keywords, fun _ _ _ => compile_keyword,
    fun _ _ => compile_leaf, fun _ => compile_of_blank, Query.toValue_combine⟩

/-- Two keywords beside a leaf, the former demanded together; then a blank below a conjunction. -/
theorem compile_expression_of_two_keywords
    : let ctx : Context := ⟨.fixed ⟨⟨2024, 1, 5⟩, 9, 0, 0, 0, none⟩, none, []⟩
      let ranked : String × Value := ("info__rank__gte", .int 3)
      let closed : String × Value := ("closed__empty", .bool true)
      let titled : ExplicitLeaf := ⟨.text "title", .text "<>", some (.text "x"), .null, .null⟩
      let high : Query := .field "info.rank" (.compare .atLeast (.int 3))
      let other : Query := .field "title" (.compare .notEqual (.text "x"))
      let blank : Expression :=
        .join .all (.join .any (.keywords [ranked, closed]) (.keywords [])) (.leaf titled)
      2 ≤ [ranked, closed].length
      ∧ (expression (.join .any (.keywords [ranked, closed]) (.leaf titled))).compile ctx
        = .ok (.any [.all [high, .fieldEmpty "closed"], other])
      ∧ blank.Part (.keywords [])
      ∧ ∃ f, (expression blank).compile ctx = .error f := by
  intro ctx ranked closed titled high other blank
  obtain ⟨join, keywords, keyword, leaf, ofBlank, _⟩ := compile_expression ctx
  have several : 2 ≤ [ranked, closed].length := Nat.le_refl 2
  have first : (expression (.keywords [ranked])).compile ctx = .ok high := by
    have reads : readKeyword "info__rank__gte" = ("info.rank", .operator .atLeast) := by
      decide +kernel
    rw [keyword, keywordLeaf, reads]
    exact ⟨by decide, rfl⟩
  have second : (expression (.keywords [closed])).compile ctx = .ok (.fieldEmpty "closed") := by
    have reads : readKeyword "closed__empty" = ("closed", .empty) := by decide +kernel
    rw [keyword, keywordLeaf, reads]
    exact ⟨by decide, rfl⟩
  have both := (keywords _ _ several).2 ⟨_, .cons first (.cons second .nil), rfl⟩
  have third : (expression (.leaf titled)).compile ctx = .ok other :=
    (leaf _ _).2 ⟨⟨"title", "<>", _, none, none⟩, ⟨rfl, rfl, rfl, rfl, rfl⟩, rfl⟩
  have inside : blank.Part (.keywords []) := .left (.right (.self _))
  exact ⟨several, (join .any _ _ _).2 ⟨_, _, both, third, rfl⟩, inside, ofBlank blank inside⟩

end Source

end DocGateway.Filter
