import DocGateway.OrderedMap

/-!
Merging of ordered maps is an associative update in which the last value of a key wins.

Equality of ordered maps counts the order of the entries, so every law here also says that the
order in which keys were first set survives.
-/

namespace DocGateway.OrderedMap

variable {κ ν : Type} [DecidableEq κ]

-----------------------------------------------------------------------------------------
-- Setting one key
-----------------------------------------------------------------------------------------

theorem setEntry_of_not_mem {k : κ} {v : ν} {es : List (κ × ν)} (h : k ∉ es.map Prod.fst)
    : setEntry k v es = es ++ [(k, v)] := by
  induction es with
  | nil => rfl
  | cons e es ih =>
    simp only [List.map_cons, List.mem_cons, not_or] at h
    have he : e.1 ≠ k := fun same => h.1 same.symm
    simp only [setEntry, he, if_false, ih h.2, List.cons_append]

theorem setEntry_setEntry_self (k : κ) (u v : ν) (es : List (κ × ν))
    : setEntry k v (setEntry k u es) = setEntry k v es := by
  induction es with
  | nil => simp [setEntry]
  | cons e es ih =>
    by_cases he : e.1 = k
    · simp [setEntry, he]
    · simp [setEntry, he, ih]

/-- Setting a key that is there commutes with setting another one. -/
theorem setEntry_comm {j k : κ} (u v : ν) {es : List (κ × ν)} (hne : j ≠ k)
    (hk : k ∈ es.map Prod.fst)
    : setEntry k v (setEntry j u es) = setEntry j u (setEntry k v es) := by
  induction es with
  | nil => simp at hk
  | cons e es ih =>
    by_cases hek : e.1 = k
    · have hej : e.1 ≠ j := fun same => hne (same.symm.trans hek)
      simp [setEntry, hek, hne.symm]
    · have hes : k ∈ es.map Prod.fst := by
        rcases List.mem_cons.1 hk with same | later
        · exact (hek same.symm).elim
        · exact later
      by_cases hej : e.1 = j
      · simp [setEntry, hej, hne]
      · simp [setEntry, hej, hek, ih hes]

@[simp]
theorem entries_set (m : OrderedMap κ ν) (k : κ) (v : ν)
    : (m.set k v).entries = setEntry k v m.entries := rfl

omit [DecidableEq κ] in
@[simp]
theorem entries_empty : (∅ : OrderedMap κ ν).entries = [] := rfl

theorem mem_keys_set {m : OrderedMap κ ν} {j k : κ} {v : ν}
    : j ∈ (m.set k v).keys ↔ j = k ∨ j ∈ m.keys :=
  mem_keys_setEntry

theorem set_set_self (m : OrderedMap κ ν) (k : κ) (u v : ν) : (m.set k u).set k v = m.set k v :=
  ext (setEntry_setEntry_self k u v m.entries)

theorem set_comm {m : OrderedMap κ ν} {j k : κ} (u v : ν) (hne : j ≠ k) (hk : k ∈ m.keys)
    : (m.set j u).set k v = (m.set k v).set j u :=
  ext (setEntry_comm u v hne hk)

-----------------------------------------------------------------------------------------
-- Looking keys up
-----------------------------------------------------------------------------------------

@[simp]
theorem get?_empty (k : κ) : (∅ : OrderedMap κ ν).get? k = none := rfl

private theorem find?_setEntry (j k : κ) (v : ν) (es : List (κ × ν))
    : (setEntry k v es).find? (fun e => e.1 = j)
      = if j = k then some (k, v) else es.find? fun e => e.1 = j := by
  induction es with
  | nil =>
    by_cases h : j = k
    · simp [setEntry, h]
    · simp [setEntry, h, Ne.symm h]
  | cons e es ih =>
    by_cases hek : e.1 = k
    · by_cases h : j = k
      · simp [setEntry, hek, h]
      · simp [setEntry, hek, h, Ne.symm h]
    · by_cases hej : e.1 = j
      · have h : j ≠ k := fun same => hek (hej.trans same)
        simp [setEntry, hej, h]
      · simp [setEntry, hek, hej, ih]

theorem get?_set (m : OrderedMap κ ν) (j k : κ) (v : ν)
    : (m.set k v).get? j = if j = k then some v else m.get? j := by
  simp only [get?, entries_set, find?_setEntry]
  split <;> rfl

/-- A look-up finds exactly the entries, since no key is repeated. -/
theorem get?_eq_some_iff {m : OrderedMap κ ν} {k : κ} {v : ν}
    : m.get? k = some v ↔ (k, v) ∈ m.entries := by
  obtain ⟨es, nodup⟩ := m
  simp only [get?]
  induction es with
  | nil => simp
  | cons e es ih =>
    have hn := List.nodup_cons.1 nodup
    by_cases he : e.1 = k
    · have absent : (k, v) ∉ es := fun h => hn.1 (he ▸ List.mem_map_of_mem h)
      obtain ⟨j, u⟩ := e
      dsimp only at he
      subst he
      simp [absent, eq_comm]
    · have hne : (k, v) ≠ e := fun same => he (same ▸ rfl)
      simp [he, hne, ih hn.2]

-----------------------------------------------------------------------------------------
-- Setting many keys
-----------------------------------------------------------------------------------------

@[simp]
theorem setAll_nil (m : OrderedMap κ ν) : m.setAll [] = m := rfl

@[simp]
theorem setAll_cons (m : OrderedMap κ ν) (e : κ × ν) (es : List (κ × ν))
    : m.setAll (e :: es) = (m.set e.1 e.2).setAll es := rfl

/-- A key that is there may be set before other keys as well as after them. -/
private theorem setAll_set_comm {m : OrderedMap κ ν} {k : κ} (v : ν) {es : List (κ × ν)}
    (hk : k ∈ m.keys) (hes : k ∉ es.map Prod.fst)
    : (m.setAll es).set k v = (m.set k v).setAll es := by
  induction es generalizing m with
  | nil => rfl
  | cons e es ih =>
    simp only [List.map_cons, List.mem_cons, not_or] at hes
    rw [setAll_cons, setAll_cons, ih (mem_keys_set.2 (Or.inr hk)) hes.2,
      set_comm e.2 v (Ne.symm hes.1) hk]

/-- Setting a key among entries comes to setting it after all of them. -/
theorem setAll_setEntry (m : OrderedMap κ ν) (k : κ) (v : ν) {es : List (κ × ν)}
    (nodup : (es.map Prod.fst).Nodup)
    : m.setAll (setEntry k v es) = (m.setAll es).set k v := by
  induction es generalizing m with
  | nil => rfl
  | cons e es ih =>
    have hn := List.nodup_cons.1 nodup
    by_cases he : e.1 = k
    · subst he
      simp only [setEntry, if_true, setAll_cons]
      rw [setAll_set_comm v (mem_keys_set.2 (Or.inl rfl)) hn.1, set_set_self]
    · simp only [setEntry, he, if_false, setAll_cons]
      exact ih _ hn.2

/-- Setting all of some merged entries comes to setting the parts one after the other. -/
theorem setAll_setAll (m n : OrderedMap κ ν) (es : List (κ × ν))
    : m.setAll (n.setAll es).entries = (m.setAll n.entries).setAll es := by
  induction es generalizing n with
  | nil => rfl
  | cons e es ih =>
    rw [setAll_cons, setAll_cons, ih, entries_set, setAll_setEntry m e.1 e.2 n.nodup]

-----------------------------------------------------------------------------------------
-- Merging
-----------------------------------------------------------------------------------------

theorem merge_assoc (m n p : OrderedMap κ ν) : (m.merge n).merge p = m.merge (n.merge p) :=
  (setAll_setAll m n p.entries).symm

@[simp]
theorem merge_empty (m : OrderedMap κ ν) : m.merge ∅ = m := rfl

/-- Entries without repeated keys are set in their own order. -/
private theorem entries_setAll_of_disjoint {m : OrderedMap κ ν} {es : List (κ × ν)}
    (nodup : (es.map Prod.fst).Nodup) (disjoint : ∀ k ∈ es.map Prod.fst, k ∉ m.keys)
    : (m.setAll es).entries = m.entries ++ es := by
  induction es generalizing m with
  | nil => simp
  | cons e es ih =>
    have hn := List.nodup_cons.1 nodup
    have fresh : e.1 ∉ m.entries.map Prod.fst := disjoint e.1 (by simp)
    have later : ∀ k ∈ es.map Prod.fst, k ∉ (m.set e.1 e.2).keys := by
      intro k hk present
      rcases mem_keys_set.1 present with same | old
      · exact hn.1 (same ▸ hk)
      · exact disjoint k (List.mem_cons_of_mem _ hk) old
    rw [setAll_cons, ih hn.2 later, entries_set, setEntry_of_not_mem fresh]
    simp

@[simp]
theorem empty_merge (m : OrderedMap κ ν) : (∅ : OrderedMap κ ν).merge m = m :=
  ext (entries_setAll_of_disjoint m.nodup (by simp [keys]))

/-- A map is what its entries are read as. -/
theorem ofList_entries (m : OrderedMap κ ν) : ofList m.entries = m := empty_merge m

theorem merge_set (m n : OrderedMap κ ν) (k : κ) (v : ν)
    : m.merge (n.set k v) = (m.merge n).set k v :=
  setAll_setEntry m k v n.nodup

omit [DecidableEq κ] in
theorem isEmpty_iff {m : OrderedMap κ ν} : m.isEmpty = true ↔ m = ∅ := by
  rw [isEmpty, List.isEmpty_iff]
  exact ⟨fun h => ext h, fun h => h ▸ rfl⟩

theorem isEmpty_set (m : OrderedMap κ ν) (k : κ) (v : ν) : (m.set k v).isEmpty = false := by
  rw [isEmpty, entries_set]
  cases m.entries with
  | nil => rfl
  | cons e es => by_cases he : e.1 = k <;> simp [setEntry, he]

private theorem isEmpty_setAll (m : OrderedMap κ ν) (es : List (κ × ν))
    : (m.setAll es).isEmpty = (m.isEmpty && es.isEmpty) := by
  induction es generalizing m with
  | nil => simp
  | cons e es ih => rw [setAll_cons, ih, isEmpty_set]; simp

/-- A merged map is empty only if both parts are. -/
theorem isEmpty_merge (m n : OrderedMap κ ν)
    : (m.merge n).isEmpty = (m.isEmpty && n.isEmpty) :=
  isEmpty_setAll m n.entries

/-- After a merge a key has its value in the second map, and without one that in the first. -/
theorem get?_merge (m n : OrderedMap κ ν) (k : κ)
    : (m.merge n).get? k = (n.get? k).or (m.get? k) := by
  suffices all : ∀ es : List (κ × ν), (es.map Prod.fst).Nodup →
      (m.setAll es).get? k = ((es.find? fun e => e.1 = k).map Prod.snd).or (m.get? k) from
    all n.entries n.nodup
  intro es nodup
  induction es generalizing m with
  | nil => rfl
  | cons e es ih =>
    have hn := List.nodup_cons.1 nodup
    rw [setAll_cons, ih _ hn.2, get?_set]
    by_cases he : e.1 = k
    · have absent : es.find? (fun e => e.1 = k) = none := by
        rw [List.find?_eq_none]
        intro f hf same
        exact hn.1 (he ▸ of_decide_eq_true same ▸ List.mem_map_of_mem hf)
      simp [he, absent]
    · simp [he, Ne.symm he]

-----------------------------------------------------------------------------------------
-- Keeping the keys that pass a test
-----------------------------------------------------------------------------------------

omit [DecidableEq κ] in
@[simp]
theorem entries_filterKeys (m : OrderedMap κ ν) (p : κ → Bool)
    : (m.filterKeys p).entries = m.entries.filter fun e => p e.1 := rfl

private theorem filter_setEntry (p : κ → Bool) (k : κ) (v : ν) (es : List (κ × ν))
    : (setEntry k v es).filter (fun e => p e.1)
      = if p k then setEntry k v (es.filter fun e => p e.1) else es.filter fun e => p e.1 := by
  induction es with
  | nil => cases h : p k <;> simp [setEntry, h]
  | cons e es ih =>
    by_cases he : e.1 = k
    · cases h : p k <;> simp [setEntry, he, h]
    · cases h : p k <;> cases h' : p e.1 <;> simp [setEntry, he, h, h', ih]

theorem filterKeys_set (m : OrderedMap κ ν) (p : κ → Bool) (k : κ) (v : ν)
    : (m.set k v).filterKeys p = if p k then (m.filterKeys p).set k v else m.filterKeys p := by
  apply ext
  rw [entries_filterKeys, entries_set, filter_setEntry]
  split <;> rfl

/-- Merging commutes with keeping the keys that pass a test. -/
theorem filterKeys_merge (m n : OrderedMap κ ν) (p : κ → Bool)
    : (m.merge n).filterKeys p = (m.filterKeys p).merge (n.filterKeys p) := by
  suffices all : ∀ es : List (κ × ν),
      (m.setAll es).filterKeys p = (m.filterKeys p).setAll (es.filter fun e => p e.1) from
    all n.entries
  intro es
  induction es generalizing m with
  | nil => rfl
  | cons e es ih =>
    rw [setAll_cons, ih, filterKeys_set]
    cases h : p e.1 <;> simp [h]

end DocGateway.OrderedMap
