import DocGateway.Filter.Source
import DocGateway.Proofs.Except

/-!
Compilation of filter trees, one law for each kind of node.

A leaf becomes a query about its own field, a group the combination of its members' queries. What
holds of the queries of leaves and is kept by every combination therefore holds of the queries of
all trees (`Node.compile_induction`).
-/

namespace DocGateway

namespace Filter

-----------------------------------------------------------------------------------------
-- Leaves
-----------------------------------------------------------------------------------------

/-- The query of a leaf asks its own field, once or in one of the three fixed combinations. -/
inductive Leaf.Asks (l : Leaf) : Query → Prop
  | once (c : Condition) : l.Asks (.field l.field c)
  | empty : l.Asks (.fieldEmpty l.field)
  | notEmpty : l.Asks (.fieldNotEmpty l.field)
  | otherDays (start stop : String) : l.Asks (DayRange.toNegatedQuery ⟨l.field, start, stop⟩)

theorem asks_compileDay {l : Leaf} {v : Value} {negated : Bool} {q : Query}
    (compiled : compileDay l v negated = .ok q)
    : l.Asks q := by
  obtain ⟨day, _, ranged⟩ := Except.bind_eq_ok.1 compiled
  cases next : day.addDays? 1 with
  | none => simp [DayRange.of?, next] at ranged
  | some after =>
    simp only [DayRange.of?, next, Option.map_some] at ranged
    cases negated with
    | false =>
      cases ranged
      exact .once _
    | true =>
      cases ranged
      exact .otherDays _ _

theorem asks_compileUser {l : Leaf} {o : Operator} {caller : Option Identity} {q : Query}
    (compiled : compileUser l o caller = .ok q)
    : l.Asks q := by
  obtain ⟨ids, _, compiled⟩ := Except.bind_eq_ok.1 compiled
  split at compiled
  all_goals cases compiled
  all_goals exact .once _

theorem asks_compileOperand {l : Leaf} {o : Operator} {v : Value} {q : Query}
    (compiled : compileOperand l o v = .ok q)
    : l.Asks q := by
  unfold compileOperand at compiled
  split at compiled
  · cases compiled
    exact .once _
  · split at compiled
    · split at compiled
      all_goals cases compiled
      all_goals exact .once _
    · split_ifs at compiled
      all_goals cases compiled
      all_goals exact .once _

theorem asks_compileLeaf {ctx : Context} {l : Leaf} {q : Query}
    (compiled : compileLeaf ctx l = .ok q)
    : l.Asks q := by
  unfold compileLeaf at compiled
  split at compiled
  · cases compiled
  · cases compiled
    exact .empty
  · cases compiled
    exact .notEmpty
  · unfold compileWithOperand at compiled
    split_ifs at compiled
    obtain ⟨v, _, compiled⟩ := Except.bind_eq_ok.1 compiled
    split_ifs at compiled
    · exact asks_compileDay compiled
    · exact asks_compileUser compiled
    · exact asks_compileOperand compiled

-----------------------------------------------------------------------------------------
-- Groups
-----------------------------------------------------------------------------------------

theorem Connective.ofWord?_eq_some_iff {w : String} {c : Connective}
    : ofWord? w = some c ↔ simplify w = c.word := by
  unfold ofWord?
  cases c <;> grind [word]

namespace Node

/-- Induction over trees, with all members of a group at once. -/
@[induction_eliminator]
theorem induction {P : Node → Prop} (leaf : ∀ l, P (.leaf l))
    (group : ∀ operator members, (∀ n ∈ members, P n) → P (.group operator members))
    (raw : ∀ v, P (.raw v)) (n : Node)
    : P n := by
  refine @Node.rec P (fun ns => ∀ n ∈ ns, P n) leaf group raw ?_ ?_ n
  · exact fun _ none => nomatch none
  · exact fun n ns first rest => List.forall_mem_cons.2 ⟨first, rest⟩

/-- The members of a group that are no gaps. -/
def present (members : List Node) : List Node := members.filter fun n => !n.isGap

theorem mem_present {n : Node} {members : List Node}
    : n ∈ present members ↔ n ∈ members ∧ n.isGap = false := by
  simp [present]

theorem compileMembers_eq (ctx : Context) (members : List Node)
    : compileMembers ctx members = (present members).mapM (compile ctx) := by
  induction members with
  | nil => rfl
  | cons n members ih =>
    cases gap : n.isGap with
    | true => simp [compileMembers, present, gap, ih]
    | false => simp [compileMembers, present, gap, ih, List.mapM_cons]

/-- A group with a connective is the combination of its members' queries. -/
theorem compile_group (ctx : Context) {operator : Option String} {c : Connective}
    (word : Connective.ofWord? (operator.getD "") = some c) (members : List Node)
    : (group operator members).compile ctx
      = if present members = [] then .error (.emptyGroup (group operator members).describe)
        else ((present members).mapM (compile ctx)).map c.combine := by
  have gaps : members.all isGap = true ↔ present members = [] := by
    simp [present, List.filter_eq_nil_iff]
  by_cases none : present members = []
  · simp [compile, word, gaps.2 none, none]
  · have some : members.all isGap = false := by
      rw [← Bool.not_eq_true, gaps]
      exact none
    simp [compile, word, some, none, compileMembers_eq]

/-- What holds of the queries of leaves and is kept by every combination holds of all queries that
trees compile to.
-/
theorem compile_induction {ctx : Context} {P : Node → Query → Prop}
    (leaf : ∀ l q, compileLeaf ctx l = .ok q → P (.leaf l) q)
    (group
      : ∀ operator members c qs,
          Connective.ofWord? (operator.getD "") = some c
          → qs ≠ []
          → List.Forall₂ P (present members) qs
          → P (.group operator members) (c.combine qs))
    {n : Node} {q : Query} (compiled : n.compile ctx = .ok q)
    : P n q := by
  induction n generalizing q with
  | leaf l => exact leaf l q compiled
  | raw v => cases compiled
  | group operator members ih =>
    cases word : Connective.ofWord? (operator.getD "") with
    | none => simp [compile, word] at compiled
    | some c =>
      rw [compile_group ctx word] at compiled
      split_ifs at compiled with none
      obtain ⟨qs, members_compile, rfl⟩ := Except.map_eq_ok.1 compiled
      have each := Except.mapM_eq_ok.1 members_compile
      refine group operator members c qs word ?_ ?_
      · rintro rfl
        exact none (List.forall₂_nil_right_iff.1 each)
      · have inductive_step : ∀ n ∈ present members, ∀ q, n.compile ctx = .ok q → P n q :=
          fun n member q => ih n (mem_present.1 member).1
        exact ((List.forall₂_and_left _ _).2 ⟨inductive_step, each⟩).imp
          fun n q both => both.1 q both.2

-----------------------------------------------------------------------------------------
-- The leaves of a tree
-----------------------------------------------------------------------------------------

mutual

/-- The leaves of a tree, from left to right. -/
def leaves : Node → List Leaf
  | leaf l => [l]
  | group _ members => leavesOf members
  | raw _ => []
termination_by structural n => n

def leavesOf : List Node → List Leaf
  | [] => []
  | n :: ns => leaves n ++ leavesOf ns
termination_by structural ns => ns

end

theorem mem_leavesOf {l : Leaf} {members : List Node}
    : l ∈ leavesOf members ↔ ∃ n ∈ members, l ∈ n.leaves := by
  induction members with
  | nil => simp [leavesOf]
  | cons n members ih => simp [leavesOf, ih]

/-- Gaps have no leaves. -/
theorem mem_leaves_group {l : Leaf} {operator : Option String} {members : List Node}
    : l ∈ (group operator members).leaves ↔ ∃ n ∈ present members, l ∈ n.leaves := by
  rw [leaves, mem_leavesOf]
  constructor
  · rintro ⟨n, member, isLeaf⟩
    have notGap : n.isGap = false := by
      cases n with
      | raw v => cases isLeaf
      | leaf => rfl
      | group => rfl
    exact ⟨n, mem_present.2 ⟨member, notGap⟩, isLeaf⟩
  · rintro ⟨n, member, isLeaf⟩
    exact ⟨n, (mem_present.1 member).1, isLeaf⟩

/-- A tree's query depends on what it is compiled with only through the queries of its leaves. -/
theorem compile_congr {ctx ctx' : Context} {n : Node}
    (same : ∀ l ∈ n.leaves, compileLeaf ctx l = compileLeaf ctx' l)
    : n.compile ctx = n.compile ctx' := by
  induction n with
  | leaf l => exact same l List.mem_cons_self
  | raw v => rfl
  | group operator members ih =>
    cases word : Connective.ofWord? (operator.getD "") with
    | none => simp [compile, word]
    | some c =>
      have each : (present members).mapM (compile ctx) = (present members).mapM (compile ctx') := by
        refine Except.mapM_congr fun n member => ?_
        refine ih n (mem_present.1 member).1 fun l isLeaf => ?_
        exact same l (mem_leaves_group.2 ⟨n, member, isLeaf⟩)
      rw [compile_group ctx word, compile_group ctx' word, each]

/-- Where a tree compiles, each of its leaves does. -/
theorem leaf_compiles {ctx : Context} {n : Node} {q : Query} (compiled : n.compile ctx = .ok q)
    : ∀ l ∈ n.leaves, ∃ p, compileLeaf ctx l = .ok p := by
  refine compile_induction (P := fun n _ => ∀ l ∈ n.leaves, ∃ p, compileLeaf ctx l = .ok p)
    ?_ ?_ compiled
  · intro l q compiled l' isLeaf
    cases List.mem_singleton.1 isLeaf
    exact ⟨q, compiled⟩
  · intro operator members c qs _ _ each l isLeaf
    obtain ⟨n, member, isLeaf⟩ := mem_leaves_group.1 isLeaf
    obtain ⟨q, _, compile⟩ := (forall₂_partners each).1 n member
    exact compile l isLeaf

end Node

-----------------------------------------------------------------------------------------
-- Filters in any form
-----------------------------------------------------------------------------------------

namespace Source

/-- What compiles was taken as a tree before. -/
theorem normalize_of_compile {ctx : Context} {s : Source} {q : Query}
    (compiled : s.compile ctx = .ok q)
    : ∃ n, s.normalize = .ok (.node n) ∧ n.compile ctx = .ok q := by
  obtain ⟨ready, taken, compiled⟩ := Except.bind_eq_ok.1 compiled
  cases ready with
  | node n => exact ⟨n, taken, Except.mapError_eq_ok.1 compiled⟩
  | unchecked => cases compiled

/-- A filter that is taken as a tree is compiled as this tree. -/
theorem compile_of_normalize {s : Source} {n : Node} (taken : s.normalize = .ok (.node n))
    (ctx : Context)
    : s.compile ctx = (n.compile ctx).mapError Fault.toFailure := by
  rw [compile, taken]
  rfl

/-- What a filter is compiled with matters only to the trees that it is taken as. -/
theorem compile_congr {ctx ctx' : Context} {s : Source}
    (same : ∀ n, s.normalize = .ok (.node n) → n.compile ctx = n.compile ctx')
    : s.compile ctx = s.compile ctx' := by
  cases taken : s.normalize with
  | error f => simp [compile, taken, bind, Except.bind]
  | ok ready =>
    cases ready with
    | node n => rw [compile_of_normalize taken, compile_of_normalize taken, same n taken]
    | unchecked operator members => simp [compile, taken, bind, Except.bind, Ready.compile]

theorem compile_of_leaf {ctx : Context} {s : Source} {l : Leaf} {q : Query}
    (taken : s.normalize = .ok (.node (.leaf l))) (compiled : Filter.compileLeaf ctx l = .ok q)
    : s.compile ctx = .ok q := by
  rw [compile_of_normalize taken, Node.compile, compiled]
  rfl

end Source

end Filter

end DocGateway
