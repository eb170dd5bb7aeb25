import DocGateway.Proofs.OrderedMap.Merging

/-!
The keys of ordered maps stand in the order in which they were first set.

Whatever was set in whatever order, the keys are those that were set, less repetitions.
-/

namespace DocGateway

section

variable {α : Type} [BEq α] [LawfulBEq α] {as : List α} {a : α}

/-- A repetition changes nothing. -/
theorem eraseDups_concat_of_mem (member : a ∈ as) : (as ++ [a]).eraseDups = as.eraseDups := by
  simp [List.eraseDups_append, List.removeAll, member]

theorem eraseDups_concat_of_not_mem (fresh : a ∉ as)
    : (as ++ [a]).eraseDups = as.eraseDups ++ [a] := by
  simp [List.eraseDups_append, List.removeAll, fresh, List.eraseDups_cons]

end

namespace OrderedMap

variable {κ ν : Type} [DecidableEq κ]

theorem keys_setEntry_of_mem {k : κ} {v : ν} {es : List (κ × ν)} (member : k ∈ es.map Prod.fst)
    : (setEntry k v es).map Prod.fst = es.map Prod.fst := by
  induction es with
  | nil => cases member
  | cons e es ih =>
    by_cases same : e.1 = k
    · simp [setEntry, same]
    · have later : k ∈ es.map Prod.fst := by simpa [Ne.symm same] using member
      simp [setEntry, same, ih later]

/-- What is known under each key gives the entries. -/
theorem entries_eq_map_keys {m : OrderedMap κ ν} {f : κ → ν}
    (values : ∀ k ∈ m.keys, m.get? k = some (f k))
    : m.entries = m.keys.map fun k => (k, f k) := by
  have same : ∀ e ∈ m.entries, ((fun k => (k, f k)) ∘ Prod.fst) e = e := by
    intro e entry
    have found := values e.1 (List.mem_map_of_mem entry)
    rw [get?_eq_some_iff.2 entry] at found
    exact Prod.ext rfl (Option.some.inj found).symm
  rw [keys, List.map_map, List.map_congr_left same, List.map_id']

theorem exists_get?_of_mem_keys {m : OrderedMap κ ν} {k : κ} (known : k ∈ m.keys)
    : ∃ v, m.get? k = some v := by
  obtain ⟨⟨k', v⟩, entry, rfl⟩ := List.mem_map.1 known
  exact ⟨v, get?_eq_some_iff.2 entry⟩

variable [BEq κ] [LawfulBEq κ] {m : OrderedMap κ ν} {ks : List κ}

theorem keys_set (keys : m.keys = ks.eraseDups) (k : κ) (v : ν)
    : (m.set k v).keys = (ks ++ [k]).eraseDups := by
  have known : k ∈ m.entries.map Prod.fst ↔ k ∈ ks := by
    change k ∈ m.keys ↔ k ∈ ks
    rw [keys, List.mem_eraseDups]
  have entries : (m.set k v).keys = (setEntry k v m.entries).map Prod.fst := rfl
  by_cases member : k ∈ ks
  · rw [entries, keys_setEntry_of_mem (known.2 member), eraseDups_concat_of_mem member, ← keys]
    rfl
  · have fresh : k ∉ m.entries.map Prod.fst := fun old => member (known.1 old)
    rw [entries, setEntry_of_not_mem fresh, eraseDups_concat_of_not_mem member, ← keys,
      List.map_append]
    rfl

theorem keys_setAll (keys : m.keys = ks.eraseDups) (es : List (κ × ν))
    : (m.setAll es).keys = (ks ++ es.map Prod.fst).eraseDups := by
  induction es generalizing m ks with
  | nil => simpa using keys
  | cons e es ih =>
    rw [setAll_cons, ih (keys_set keys e.1 e.2), List.append_assoc]
    rfl

theorem keys_merge (keys : m.keys = ks.eraseDups) (n : OrderedMap κ ν)
    : (m.merge n).keys = (ks ++ n.keys).eraseDups :=
  keys_setAll keys n.entries

theorem keys_foldl_merge (keys : m.keys = ks.eraseDups) (ns : List (OrderedMap κ ν))
    : (ns.foldl merge m).keys = (ks ++ ns.flatMap OrderedMap.keys).eraseDups := by
  induction ns generalizing m ks with
  | nil => simpa using keys
  | cons n ns ih =>
    rw [List.foldl_cons, ih (keys_merge keys n), List.append_assoc]
    rfl

end OrderedMap

end DocGateway
