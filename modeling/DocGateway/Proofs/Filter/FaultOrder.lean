import DocGateway.Proofs.Filter.Compilation

/-!
Which fault of a filter tree is told.

Compilation comes to the nodes of a tree one after the other, each before the nodes below it. The
first node that is flawed on its own decides what is told of the tree, and a tree without flawed
nodes compiles. Groups that were put together without any reading are no exception.
-/

namespace DocGateway.Filter

theorem Connective.ofWord?_eq_none_iff {w : String}
    : ofWord? w = none ↔ simplify w ∉ ["and", "or"] := by
  unfold ofWord?
  grind [word]

namespace Node

-----------------------------------------------------------------------------------------
-- The order of the nodes
-----------------------------------------------------------------------------------------

mutual

/-- The nodes of a tree from left to right, each before the nodes below it. The gaps among a group's
members are left out.
-/
def preorder : Node → List Node
  | leaf l => [leaf l]
  | group operator members => group operator members :: preorderOf members
  | raw v => [raw v]
termination_by structural n => n

def preorderOf : List Node → List Node
  | [] => []
  | n :: ns => if n.isGap then preorderOf ns else preorder n ++ preorderOf ns
termination_by structural ns => ns

end

theorem preorderOf_eq (members : List Node)
    : preorderOf members = (present members).flatMap preorder := by
  induction members with
  | nil => rfl
  | cons n members ih =>
    cases gap : n.isGap with
    | true => simp [preorderOf, present, gap, ih]
    | false => simp [preorderOf, present, gap, ih]

-----------------------------------------------------------------------------------------
-- Flawed nodes
-----------------------------------------------------------------------------------------

/-- What is wrong with a node on its own, and the fault that tells it. What the nodes below a group
are worth does not count, only whether there are any.
-/
inductive Flaw (ctx : Context) : Node → Fault → Prop
  | leaf {l : Leaf} {f : Fault} (failed : compileLeaf ctx l = .error f) : Flaw ctx (leaf l) f
  | connective {operator : Option String} {members : List Node}
      (unknown : Connective.simplify (operator.getD "") ∉ ["and", "or"])
    : Flaw ctx (group operator members)
        (.unknownConnective (operator.getD "None") (group operator members).describe)
  | empty {operator : Option String} {members : List Node}
      (known : Connective.simplify (operator.getD "") ∈ ["and", "or"])
      (gaps : ∀ n ∈ members, n.isGap = true)
    : Flaw ctx (group operator members) (.emptyGroup (group operator members).describe)
  | raw (v : Value) : Flaw ctx (raw v) (.unsupported v)

variable {ctx : Context} {operator : Option String} {members : List Node} {f : Fault}

theorem flaw_leaf_iff {l : Leaf} : Flaw ctx (.leaf l) f ↔ compileLeaf ctx l = .error f := by
  constructor
  · intro flaw
    cases flaw with
    | leaf failed => exact failed
  · exact .leaf

theorem flaw_raw_iff {v : Value} : Flaw ctx (.raw v) f ↔ Fault.unsupported v = f := by
  constructor
  · intro flaw
    cases flaw
    rfl
  · intro told
    subst told
    exact .raw v

theorem flaw_group_of_none (word : Connective.ofWord? (operator.getD "") = none)
    : Flaw ctx (group operator members) f ↔ unknownConnective operator members = f := by
  have unknown := Connective.ofWord?_eq_none_iff.1 word
  constructor
  · intro flaw
    cases flaw with
    | connective => rfl
    | empty known => exact absurd known unknown
  · intro told
    subst told
    exact .connective unknown

theorem flaw_group_of_some {c : Connective} (word : Connective.ofWord? (operator.getD "") = some c)
    : Flaw ctx (group operator members) f
      ↔ present members = [] ∧ Fault.emptyGroup (group operator members).describe = f := by
  have known : Connective.simplify (operator.getD "") ∈ ["and", "or"] := by
    rw [← not_not (a := _ ∈ _), ← Connective.ofWord?_eq_none_iff, word]
    exact Option.some_ne_none c
  have gaps : present members = [] ↔ ∀ n ∈ members, n.isGap = true := by
    simp [present, List.filter_eq_nil_iff]
  rw [gaps]
  constructor
  · intro flaw
    cases flaw with
    | connective unknown => exact absurd known unknown
    | empty _ gaps => exact ⟨gaps, rfl⟩
  · intro told
    obtain ⟨gaps, told⟩ := told
    subst told
    exact .empty known gaps

-----------------------------------------------------------------------------------------
-- The first flawed node
-----------------------------------------------------------------------------------------

/-- A tree is told the fault of its first flawed node, by induction over the tree: a group is looked
at before its members, and its members from left to right.
-/
theorem compile_eq_error_iff {n : Node}
    : n.compile ctx = .error f ↔ FirstFault (Flaw ctx) n.preorder f := by
  induction n generalizing f with
  | leaf l =>
    rw [preorder, FirstFault.cons_iff, flaw_leaf_iff, compile]
    simp [FirstFault.not_nil]
  | raw v =>
    rw [preorder, FirstFault.cons_iff, flaw_raw_iff, compile]
    simp [FirstFault.not_nil]
  | group operator members ih =>
    rw [preorder, FirstFault.cons_iff]
    cases word : Connective.ofWord? (operator.getD "") with
    | none =>
      simp only [compile, word, flaw_group_of_none word]
      simp
    | some c =>
      simp only [flaw_group_of_some word]
      rw [compile_group ctx word]
      by_cases none : present members = []
      · simp [none]
      · have below : (present members).mapM (compile ctx) = .error f
            ↔ FirstFault (Flaw ctx) (preorderOf members) f := by
          rw [Except.mapM_eq_error_iff, preorderOf_eq, FirstFault.flatMap_iff]
          exact FirstFault.congr fun n member f => ih n (mem_present.1 member).1
        simp [none, Except.map_eq_error, below]

end Node

namespace Source

/-- The tree that a filter already is: a node, or a group put together without any reading. -/
inductive IsTree : Source → Node → Prop
  | node (n : Node) : IsTree (node n) n
  | unchecked (operator : Option String) (vs : List Value)
    : IsTree (unchecked (.ofText? operator) (.list vs)) (.group operator (vs.map .raw))

theorem describeAll_raw (vs : List Value) : Node.describeAll (vs.map .raw) = vs := by
  induction vs with
  | nil => rfl
  | cons v vs ih => simp [Node.describeAll, Node.describe, ih]

theorem present_raw (vs : List Value)
    : Node.present (vs.map .raw) = (vs.filter fun v => !v.isNull).map .raw := by
  have same : ∀ v : Value, (Node.raw v).isGap = v.isNull := by
    intro v
    cases v <;> rfl
  simp only [Node.present, List.filter_map, Function.comp_def, same]

/-- A group put together without any reading is told what a group of the same members is told. -/
theorem compile_raw_members (ctx : Context) (operator : Option String) (vs : List Value)
    : (Node.group operator (vs.map .raw)).compile ctx
      = .error (uncheckedFault (.ofText? operator) (.list vs)) := by
  have given : operatorWord (.ofText? operator) = .ok (operator.getD "") := by
    cases operator <;> rfl
  have shown : (Value.ofText? operator).plain = operator.getD "None" := by
    cases operator <;> rfl
  have description : (Node.group operator (vs.map .raw)).describe
      = Node.describeGroup (.ofText? operator) (.list vs) := by
    rw [Node.describe, describeAll_raw]
  simp only [uncheckedFault, given]
  cases word : Connective.ofWord? (operator.getD "") with
  | none => simp [Node.compile, word, Node.unknownConnective, shown, description]
  | some c =>
    rw [Node.compile_group ctx word, present_raw, description]
    simp only [Value.items?, ← List.head?_filter]
    cases vs.filter fun v => !v.isNull with
    | nil => simp
    | cons v rest => simp [Node.compile, bind, Except.bind, Except.map]

theorem IsTree.compile {ctx : Context} {s : Source} {n : Node} (tree : s.IsTree n)
    : s.compile ctx = (n.compile ctx).mapError Fault.toFailure := by
  cases tree with
  | node => rfl
  | unchecked operator vs =>
    rw [compile_raw_members]
    rfl

end Source

/-- A tree does not compile exactly if one of its nodes is flawed on its own, and it is told the
fault of the first such node, whatever stands behind it or below it.
-/
theorem Node.compile_stops_at_first_flaw (ctx : Context) (n : Node)
    : ((∃ f, n.compile ctx = .error f) ↔ ∃ m ∈ n.preorder, ∃ f, m.Flaw ctx f)
      ∧ (∀ f, n.compile ctx = .error f ↔ FirstFault (Flaw ctx) n.preorder f)
      ∧ ∀ s : Source, s.IsTree n → ∀ e,
          s.compile ctx = .error e
          ↔ ∃ f, FirstFault (Flaw ctx) n.preorder f ∧ f.toFailure = e := by
  refine ⟨?_, fun f => compile_eq_error_iff, ?_⟩
  · simp only [compile_eq_error_iff]
    exact FirstFault.exists_iff
  · intro s tree e
    rw [tree.compile, Except.mapError_eq_error]
    simp only [compile_eq_error_iff]

end DocGateway.Filter
