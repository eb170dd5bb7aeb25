import DocGateway.Identity
import DocGateway.Proofs.Value.SameValues
import Mathlib.Data.List.Induction
import Mathlib.Data.Nat.Find

/-!
The ids that a user with groups acts as.

One step adds an id unless it counts as false or is known. A run over any ids lists exactly their
first occurrences (`firstOccurrences`): to be known among the ids listed so far is to equal some id
met so far.
-/

namespace DocGateway.Identity

open Value

variable {ids vs : List Value} {v w : Value}

/-- The values that count as true and equal none before them, with their places. -/
def firstOccurrences (vs : List Value) : List (Value × Nat) :=
  vs.zipIdx.filter fun e => e.1.truthy && !e.1.isIn (vs.take e.2)

theorem isIn_iff : v.isIn vs = true ↔ ∃ w ∈ vs, same v w = true := by
  simp [isIn]

theorem isIn_append_singleton : v.isIn (vs ++ [w]) = (v.isIn vs || same v w) := by
  simp [isIn]

-----------------------------------------------------------------------------------------
-- Adding ids
-----------------------------------------------------------------------------------------

/-- An id is added, or it is not to be. -/
theorem addId_cases (ids : List Value) (v : Value)
    : v.truthy = true ∧ v.isIn ids = false ∧ addId ids v = ids ++ [v]
      ∨ (v.truthy = false ∨ v.isIn ids = true) ∧ addId ids v = ids := by
  unfold addId
  cases v.truthy <;> cases v.isIn ids <;> simp

/-- An id equals a listed one if it equals any that was met. -/
theorem isIn_foldl_addId (counts : v.truthy = true)
    : v.isIn (vs.foldl addId []) = v.isIn vs := by
  induction vs using List.reverseRecOn with
  | nil => rfl
  | append_singleton vs w ih =>
    rw [List.foldl_append, List.foldl_cons, List.foldl_nil, isIn_append_singleton, ← ih]
    rcases addId_cases (vs.foldl addId []) w with ⟨_, _, added⟩ | ⟨reason, unchanged⟩
    · rw [added, isIn_append_singleton]
    · rw [unchanged]
      cases equal : same v w with
      | false => rw [Bool.or_false]
      | true =>
        -- The id that was passed over equals a listed one, so this one does too.
        have known : w.isIn (vs.foldl addId []) = true := by
          refine reason.resolve_left ?_
          rw [← truthy_of_same equal, counts]
          exact nofun
        obtain ⟨u, listed, equal'⟩ := isIn_iff.1 known
        rw [isIn_iff.2 ⟨u, listed, same_trans equal equal'⟩, Bool.true_or]

theorem firstOccurrences_append_singleton (vs : List Value) (v : Value)
    : firstOccurrences (vs ++ [v])
      = firstOccurrences vs ++ if v.truthy && !v.isIn vs then [(v, vs.length)] else [] := by
  have earlier : vs.zipIdx.filter (fun e => e.1.truthy && !e.1.isIn ((vs ++ [v]).take e.2))
      = firstOccurrences vs := by
    refine List.filter_congr fun e member => ?_
    have place : e.2 < vs.length := by simpa using List.snd_lt_of_mem_zipIdx member
    rw [List.take_append_of_le_length (Nat.le_of_lt place)]
  rw [firstOccurrences, List.zipIdx_append, List.filter_append, earlier]
  congr 1
  cases condition : v.truthy && !v.isIn vs <;> simp [condition]

/-- A run lists the first occurrences. -/
theorem foldl_addId_eq (vs : List Value)
    : vs.foldl addId [] = (firstOccurrences vs).map Prod.fst := by
  induction vs using List.reverseRecOn with
  | nil => rfl
  | append_singleton vs v ih =>
    rw [firstOccurrences_append_singleton, List.map_append, ← ih, List.foldl_append,
      List.foldl_cons, List.foldl_nil, addId]
    cases counts : v.truthy with
    | false => simp
    | true =>
      rw [isIn_foldl_addId counts]
      cases v.isIn vs <;> simp

/-- No id that is listed equals an earlier one. -/
theorem pairwise_foldl_addId (vs : List Value)
    : (vs.foldl addId []).Pairwise fun v w => ¬ same w v = true := by
  induction vs using List.reverseRecOn with
  | nil => exact .nil
  | append_singleton vs v ih =>
    rw [List.foldl_append, List.foldl_cons, List.foldl_nil]
    rcases addId_cases (vs.foldl addId []) v with ⟨_, new, added⟩ | ⟨_, unchanged⟩
    · rw [added, List.pairwise_append]
      refine ⟨ih, List.pairwise_singleton _ _, fun w listed v' last equal => ?_⟩
      rw [List.mem_singleton.1 last] at equal
      exact absurd (isIn_iff.2 ⟨w, listed, equal⟩) (by simp [new])
    · rwa [unchanged]

/-- Ids that are to be listed one and all are added as they are. -/
theorem foldl_addId_of_new (counts : ∀ v ∈ vs, v.truthy = true)
    (new : (ids ++ vs).Pairwise fun v w => ¬ same w v = true)
    : vs.foldl addId ids = ids ++ vs := by
  induction vs generalizing ids with
  | nil => simp
  | cons v vs ih =>
    obtain ⟨first, rest⟩ := List.forall_mem_cons.1 counts
    rw [List.append_cons] at new
    have unknown : v.isIn ids = false := by
      refine Bool.eq_false_iff.2 fun known => ?_
      obtain ⟨w, listed, equal⟩ := isIn_iff.1 known
      have apart := (List.pairwise_append.1 (List.pairwise_append.1 new).1).2.2
      exact apart w listed v (List.mem_singleton.2 rfl) equal
    have added : addId ids v = ids ++ [v] := by simp [addId, first, unknown]
    rw [List.foldl_cons, added, ih rest new, List.append_assoc, List.singleton_append]

theorem prefix_foldl_addId (ids vs : List Value) : ids <+: vs.foldl addId ids := by
  induction vs generalizing ids with
  | nil => exact List.prefix_rfl
  | cons v vs ih =>
    have step : ids <+: addId ids v := by
      rcases addId_cases ids v with ⟨_, _, added⟩ | ⟨_, unchanged⟩
      · rw [added]
        exact List.prefix_append ids [v]
      · exact ⟨[], by rw [List.append_nil, unchanged]⟩
    exact step.trans (ih (addId ids v))

-----------------------------------------------------------------------------------------
-- First occurrences
-----------------------------------------------------------------------------------------

theorem mem_firstOccurrences_iff {k : Nat}
    : (v, k) ∈ firstOccurrences vs
      ↔ vs[k]? = some v ∧ v.truthy = true ∧ ∀ u ∈ vs.take k, ¬ same v u = true := by
  simp only [firstOccurrences, List.mem_filter, List.mem_zipIdx_iff_getElem?, Bool.and_eq_true,
    Bool.not_eq_true', Value.isIn, List.any_eq_false]

/-- Whatever counts as true has a first equal occurrence, which may be itself. -/
theorem exists_first_occurrence {i : Nat} (here : vs[i]? = some v) (counts : v.truthy = true)
    : ∃ w k,
        (w, k) ∈ firstOccurrences vs
        ∧ k ≤ i
        ∧ (k = i ∨ same v w = true)
        ∧ ∀ u ∈ vs.take k, ¬ same v u = true := by
  classical
  -- The earliest place of an equal value, this one's own place included.
  let equalAt (k : Nat) : Prop := ∃ w, vs[k]? = some w ∧ (k = i ∨ same v w = true)
  have own : equalAt i := ⟨v, here, .inl rfl⟩
  have found : ∃ k, equalAt k := ⟨i, own⟩
  obtain ⟨w, place, equal⟩ := Nat.find_spec found
  have least : ∀ u ∈ vs.take (Nat.find found), ¬ same v u = true := by
    intro u before equal'
    obtain ⟨j, earlier, there⟩ := List.mem_take_iff_getElem.1 before
    have place : vs[j]? = some u := List.getElem?_eq_some_iff.2 ⟨_, there⟩
    exact Nat.find_min found (by omega) ⟨u, place, .inr equal'⟩
  have either : w = v ∨ same v w = true := by
    refine equal.imp_left fun atOwn => ?_
    rw [atOwn, here] at place
    exact (Option.some.inj place).symm
  refine ⟨w, Nat.find found, mem_firstOccurrences_iff.2 ⟨place, ?_, ?_⟩, Nat.find_min' found own,
    equal, least⟩
  · rcases either with rfl | equal
    · exact counts
    · rw [← truthy_of_same equal, counts]
  · intro u before equal'
    rcases either with rfl | equal
    · exact least u before equal'
    · exact least u before (same_trans equal equal')

/-- The effective ids of a user with groups are the first occurrences among user and groups, in
their order and with the user in front if it counts. None counts as false and no two are equal; any
id that counts is represented by the first one that equals it. A user with groups made of these ids
acts as the same ones.
-/
theorem effective_lists_first_occurrences {user : Value} {groups : List Value}
    (distinct : ∀ v ∈ user :: groups, v.hasDistinctKeys = true)
    : let given := user :: groups
      let ids := (member user groups).effective
      ids = (firstOccurrences given).map Prod.fst
      ∧ (∀ v ∈ ids, v.truthy = true)
      ∧ (ids.Pairwise fun v w => ¬ same v w = true ∧ ¬ same w v = true)
      ∧ (∀ (i : Nat) v, given[i]? = some v → v.truthy = true
        → ∃ w k,
            (w, k) ∈ firstOccurrences given
            ∧ k ≤ i
            ∧ (k = i ∨ same v w = true)
            ∧ ∀ u ∈ given.take k, ¬ same v u = true)
      ∧ (user.truthy = true → ids.head? = some user)
      ∧ (ids ≠ [] → ∃ rebuilt, ofIds ids = .ok rebuilt ∧ rebuilt.effective = ids) := by
  intro given ids
  have lists : ids = (firstOccurrences given).map Prod.fst := foldl_addId_eq given
  have places : ∀ v ∈ ids, ∃ k, (v, k) ∈ firstOccurrences given := by
    intro v member
    rw [lists] at member
    obtain ⟨⟨_, k⟩, first, rfl⟩ := List.mem_map.1 member
    exact ⟨k, first⟩
  have counts : ∀ v ∈ ids, v.truthy = true := by
    intro v member
    obtain ⟨k, first⟩ := places v member
    exact (mem_firstOccurrences_iff.1 first).2.1
  have distinctIds : ∀ v ∈ ids, v.hasDistinctKeys = true := by
    intro v member
    obtain ⟨k, first⟩ := places v member
    exact distinct v (List.mem_of_getElem? (mem_firstOccurrences_iff.1 first).1)
  have apart := pairwise_foldl_addId given
  refine ⟨lists, counts, ?_, fun i v => exists_first_occurrence, ?_, ?_⟩
  · refine List.Pairwise.imp_of_mem ?_ apart
    intro v w member member' apart
    refine ⟨fun equal => apart ?_, apart⟩
    exact same_symm (distinctIds v member) (distinctIds w member') equal
  · intro counts
    have first : addId [] user = [user] := by simp [addId, counts, Value.isIn]
    obtain ⟨rest, split⟩ := prefix_foldl_addId [user] groups
    have listed : ids = [user] ++ rest := by
      rw [split, ← first]
      rfl
    rw [listed]
    rfl
  · intro some
    obtain ⟨first, rest, listed⟩ := List.exists_cons_of_ne_nil some
    refine ⟨.member first rest, by rw [listed]; rfl, ?_⟩
    have again : ids.foldl addId [] = ids := foldl_addId_of_new counts apart
    rw [effective, ← listed, again]

/-- One in three kinds, and a mapping written in two orders. -/
theorem effective_lists_first_occurrences_of_equal_numbers
    : let user : Value := .text "ann"
      let one : Value := .float (.finite false 1 1074)
      let inOrder : Value := .mapping [(.text "team", .int 2), (.int 0, .null)]
      let swapped : Value := .mapping [(.bool false, .null), (.text "team", .int 2)]
      let groups : List Value :=
        [.int 1, .null, inOrder, one, .text "", .bool true, swapped, user]
      let ids := (member user groups).effective
      (∀ v ∈ user :: groups, v.hasDistinctKeys = true)
      ∧ ids = [user, .int 1, inOrder]
      ∧ (∃ w k, (w, k) ∈ firstOccurrences (user :: groups) ∧ k ≤ 6
          ∧ (k = 6 ∨ same (.bool true) w = true)
          ∧ ∀ u ∈ (user :: groups).take k, ¬ same (.bool true) u = true)
      ∧ (ids.Pairwise fun v w => ¬ same v w = true ∧ ¬ same w v = true)
      ∧ ∃ rebuilt, ofIds ids = .ok rebuilt ∧ rebuilt.effective = ids := by
  intro user one inOrder swapped groups ids
  have distinct : ∀ v ∈ user :: groups, v.hasDistinctKeys = true := by
    simp [user, one, inOrder, swapped, groups, hasDistinctKeys, entriesDistinct, same, sameScalar,
      asInt?]
  have known : one.isIn [user, .int 1, inOrder] = true := by decide +kernel
  have passed : addId [user, .int 1, inOrder] one = [user, .int 1, inOrder] := by
    rw [addId, known, Bool.not_true, Bool.and_false]
    rfl
  have listed : ids = [user, .int 1, inOrder] := by
    have start : [user, .int 1, .null, inOrder].foldl addId [] = [user, .int 1, inOrder] := rfl
    have split : ids = ([user, .int 1, .null, inOrder]
        ++ [one, .text "", .bool true, swapped, user]).foldl addId [] := rfl
    rw [split, List.foldl_append, start, List.foldl_cons, passed]
    rfl
  have some : ids ≠ [] := by
    rw [listed]
    exact List.cons_ne_nil _ _
  obtain ⟨_, _, apart, represented, _, rebuilt⟩ := effective_lists_first_occurrences distinct
  exact ⟨distinct, listed, represented 6 (.bool true) rfl rfl, apart, rebuilt some⟩

end DocGateway.Identity
