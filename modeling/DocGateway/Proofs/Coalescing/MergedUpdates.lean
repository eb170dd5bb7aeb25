import DocGateway.Proofs.OrderedMap.Merging
import DocGateway.Transaction.Coalescing
import Mathlib.Logic.ExistsUnique

/-!
What submitted operations come to for each record.

The buckets of a transaction hold, for each record that was submitted, the merge of its updates in
submission order. Flattening keeps exactly the records whose merge has a field, each of them once.
-/

namespace DocGateway

/-- A record, by its model and its own id. -/
abbrev RecordKey : Type := String × String

def Operation.key (op : Operation) : RecordKey := (op.model, op.record)

/-- The updates that operations come to for one record, merged in submission order. -/
def mergedFor (ops : List Operation) (key : RecordKey) : Fields :=
  ((ops.filter fun op => op.key = key).map Operation.updates).foldl OrderedMap.merge ∅

/-- The updates of one record among flat updates. -/
def sentFor (flat : List FlatUpdate) (key : RecordKey) : List Fields :=
  (flat.filter fun f => f.key = key).map FlatUpdate.updates

-----------------------------------------------------------------------------------------
-- Merged updates of one record
-----------------------------------------------------------------------------------------

@[simp]
theorem mergedFor_nil (key : RecordKey) : mergedFor [] key = ∅ := rfl

private theorem foldl_merge (f : Fields) (fs : List Fields)
    : fs.foldl OrderedMap.merge f = f.merge (fs.foldl OrderedMap.merge ∅) := by
  induction fs generalizing f with
  | nil => rfl
  | cons g fs ih =>
    rw [List.foldl_cons, List.foldl_cons, ih, ih (OrderedMap.merge ∅ g), OrderedMap.empty_merge,
      OrderedMap.merge_assoc]

/-- The first operation's updates come first, and those of another record are left out. -/
theorem mergedFor_cons (op : Operation) (ops : List Operation) (key : RecordKey)
    : mergedFor (op :: ops) key
      = if op.key = key then op.updates.merge (mergedFor ops key) else mergedFor ops key := by
  by_cases h : op.key = key
  · simp only [mergedFor, h, decide_true, List.filter_cons_of_pos, List.map_cons, List.foldl_cons,
      OrderedMap.empty_merge, if_true]
    exact foldl_merge op.updates _
  · simp [mergedFor, h]

/-- Nothing is left for a record exactly if no operation on it had a field. -/
theorem isEmpty_mergedFor_iff (ops : List Operation) (key : RecordKey)
    : (mergedFor ops key).isEmpty = true
      ↔ ∀ op ∈ ops, op.key = key → op.updates.isEmpty = true := by
  induction ops with
  | nil => simp [OrderedMap.isEmpty]
  | cons op ops ih =>
    rw [mergedFor_cons, List.forall_mem_cons]
    by_cases h : op.key = key
    · simp [h, OrderedMap.isEmpty_merge, ih]
    · simp [h, ih]

theorem filled_mergedFor_iff {ops : List Operation} {key : RecordKey}
    : (mergedFor ops key).isEmpty = false
      ↔ ∃ op ∈ ops, op.key = key ∧ op.updates.isEmpty = false := by
  rw [← Bool.not_eq_true, isEmpty_mergedFor_iff]
  simp

/-- The last write wins: a field has its value in the latest operation that names it. -/
theorem get?_mergedFor (ops : List Operation) (key : RecordKey) (name : String)
    : (mergedFor ops key).get? name
      = (ops.reverse.filter fun op => op.key = key).findSome? fun op => op.updates.get? name := by
  induction ops with
  | nil => rfl
  | cons op ops ih =>
    rw [mergedFor_cons, List.reverse_cons, List.filter_append, List.findSome?_append, ← ih]
    by_cases h : op.key = key
    · simp [h, OrderedMap.get?_merge]
    · simp [h]

-----------------------------------------------------------------------------------------
-- Buckets
-----------------------------------------------------------------------------------------

private theorem get?_foldl_add (b : Buckets) (ops : List Operation) (key : RecordKey)
    : (ops.foldl Buckets.add b).get? key
      = if ∃ op ∈ ops, op.key = key then some (((b.get? key).getD ∅).merge (mergedFor ops key))
        else b.get? key := by
  induction ops generalizing b with
  | nil => simp
  | cons op ops ih =>
    have added : (b.add op).get? key
        = if key = op.key then some (((b.get? op.key).getD ∅).merge op.updates)
          else b.get? key :=
      OrderedMap.get?_set ..
    rw [List.foldl_cons, ih, added, mergedFor_cons]
    by_cases h : op.key = key
    · subst h
      by_cases later : ∃ other ∈ ops, other.key = op.key
      · simp [later, OrderedMap.merge_assoc]
      · have rest : mergedFor ops op.key = ∅ := by
          rw [← OrderedMap.isEmpty_iff, isEmpty_mergedFor_iff]
          exact fun other member same => (later ⟨other, member, same⟩).elim
        simp [later, rest]
    · simp [h, Ne.symm h]

/-- A bucket holds the merged updates of its record. -/
theorem Buckets.get?_ofOperations (ops : List Operation) (key : RecordKey)
    : (Buckets.ofOperations ops).get? key
      = if ∃ op ∈ ops, op.key = key then some (mergedFor ops key) else none := by
  rw [Buckets.ofOperations, get?_foldl_add]
  simp

theorem Buckets.mem_flatten_iff {b : Buckets} {f : FlatUpdate}
    : f ∈ b.flatten ↔ b.get? f.key = some f.updates ∧ f.updates.isEmpty = false := by
  rw [OrderedMap.get?_eq_some_iff]
  simp only [Buckets.flatten, List.mem_map, List.mem_filter, Bool.not_eq_true']
  constructor
  · rintro ⟨⟨⟨model, record⟩, updates⟩, ⟨member, filled⟩, rfl⟩
    exact ⟨member, filled⟩
  · rintro ⟨member, filled⟩
    exact ⟨(f.key, f.updates), ⟨member, filled⟩, rfl⟩

theorem Buckets.nodup_flatten (b : Buckets) : (b.flatten.map FlatUpdate.key).Nodup := by
  have keys : b.flatten.map FlatUpdate.key
      = (b.entries.filter fun e => !e.2.isEmpty).map Prod.fst := by
    simp [Buckets.flatten, Function.comp_def, FlatUpdate.key]
  rw [keys]
  exact b.nodup.sublist (List.filter_sublist.map Prod.fst)

-----------------------------------------------------------------------------------------
-- Flattened operations
-----------------------------------------------------------------------------------------

/-- Operations come to an update of each record that got a field. -/
theorem mem_flatten_ofOperations {ops : List Operation} {f : FlatUpdate}
    : f ∈ (Buckets.ofOperations ops).flatten
      ↔ f.updates = mergedFor ops f.key ∧ (mergedFor ops f.key).isEmpty = false := by
  rw [Buckets.mem_flatten_iff, Buckets.get?_ofOperations]
  by_cases submitted : ∃ op ∈ ops, op.key = f.key
  · rw [if_pos submitted, Option.some.injEq]
    constructor
    · rintro ⟨same, filled⟩
      exact ⟨same.symm, same ▸ filled⟩
    · rintro ⟨same, filled⟩
      exact ⟨same.symm, same ▸ filled⟩
  · have none : (mergedFor ops f.key).isEmpty = true :=
      (isEmpty_mergedFor_iff ops f.key).2 fun op member same =>
        (submitted ⟨op, member, same⟩).elim
    simp [submitted, none]

theorem mem_keys_flatten_iff {ops : List Operation} {key : RecordKey}
    : key ∈ (Buckets.ofOperations ops).flatten.map FlatUpdate.key
      ↔ (mergedFor ops key).isEmpty = false := by
  constructor
  · intro member
    obtain ⟨f, hf, rfl⟩ := List.mem_map.1 member
    exact (mem_flatten_ofOperations.1 hf).2
  · intro filled
    exact List.mem_map.2 ⟨⟨key.1, key.2, mergedFor ops key⟩,
      mem_flatten_ofOperations.2 ⟨rfl, filled⟩, rfl⟩

/-- Nothing is to be sent exactly if nothing is left for any record. -/
theorem flatten_eq_nil_iff {ops : List Operation}
    : (Buckets.ofOperations ops).flatten = []
      ↔ ∀ key, (mergedFor ops key).isEmpty = true := by
  constructor
  · intro nothing key
    cases filled : (mergedFor ops key).isEmpty with
    | true => rfl
    | false =>
      have member := mem_keys_flatten_iff.2 filled
      simp [nothing] at member
  · intro nothing
    rw [List.eq_nil_iff_forall_not_mem]
    intro f member
    have filled := (mem_flatten_ofOperations.1 member).2
    simp [nothing] at filled

/-- A single update is to be sent exactly if a single record got a field. -/
theorem flatten_length_eq_one_iff {ops : List Operation}
    : (Buckets.ofOperations ops).flatten.length = 1
      ↔ ∃! key, (mergedFor ops key).isEmpty = false := by
  have keys := Buckets.nodup_flatten (Buckets.ofOperations ops)
  simp only [← mem_keys_flatten_iff]
  rw [← List.length_map (f := FlatUpdate.key)]
  generalize (Buckets.ofOperations ops).flatten.map FlatUpdate.key = ks at keys
  constructor
  · intro one
    obtain ⟨key, rfl⟩ := List.length_eq_one_iff.1 one
    exact ⟨key, by simp, by simp⟩
  · rintro ⟨key, member, unique⟩
    have all : ks = [key] := by
      match ks with
      | [] => simp at member
      | [first] => simpa [eq_comm] using member
      | first :: second :: rest =>
        have same : first = second :=
          (unique first (by simp)).trans (unique second (by simp)).symm
        simp [same] at keys
    simp [all]

private theorem sentFor_of_nodup {flat : List FlatUpdate} {key : RecordKey}
    (keys : (flat.map FlatUpdate.key).Nodup) {f : FlatUpdate} (member : f ∈ flat)
    (same : f.key = key)
    : sentFor flat key = [f.updates] := by
  induction flat with
  | nil => simp at member
  | cons g flat ih =>
    have hn := List.nodup_cons.1 keys
    rcases List.mem_cons.1 member with rfl | later
    · have rest : flat.filter (fun g => g.key = key) = [] := by
        rw [List.filter_eq_nil_iff]
        intro g hg hk
        exact hn.1 (same.trans (of_decide_eq_true hk).symm ▸ List.mem_map_of_mem hg)
      simp [sentFor, same, rest]
    · have hne : g.key ≠ key := fun hk =>
        hn.1 (hk.trans same.symm ▸ List.mem_map_of_mem later)
      simpa [sentFor, hne] using ih hn.2 later

/-- What is sent for a record is its merged updates, or nothing if they are empty. -/
theorem sentFor_flatten (ops : List Operation) (key : RecordKey)
    : sentFor (Buckets.ofOperations ops).flatten key
      = if (mergedFor ops key).isEmpty then [] else [mergedFor ops key] := by
  split
  case isTrue nothing =>
    rw [sentFor, List.map_eq_nil_iff, List.filter_eq_nil_iff]
    intro f member same
    have filled := (mem_flatten_ofOperations.1 member).2
    rw [of_decide_eq_true same, nothing] at filled
    contradiction
  case isFalse filled =>
    exact sentFor_of_nodup (Buckets.nodup_flatten _)
      (f := ⟨key.1, key.2, mergedFor ops key⟩)
      (mem_flatten_ofOperations.2 ⟨rfl, Bool.eq_false_iff.2 filled⟩) rfl

/-- Updates keep their records when their fields are changed. -/
theorem sentFor_map (flat : List FlatUpdate) (change : Fields → Fields) (key : RecordKey)
    : sentFor (flat.map fun f => { f with updates := change f.updates }) key
      = (sentFor flat key).map change := by
  simp only [sentFor, List.filter_map, List.map_map]
  rfl

end DocGateway
