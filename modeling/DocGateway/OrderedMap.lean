/-!
Maps in insertion order.

Setting a key that is there keeps its place and replaces its value; a new key goes to the end. The
entries never repeat a key.
-/

namespace DocGateway

/-- A map whose entries stand in the order in which their keys were first set. -/
structure OrderedMap (κ ν : Type) where
  entries : List (κ × ν)
  nodup : (entries.map Prod.fst).Nodup

namespace OrderedMap

variable {κ ν : Type} [DecidableEq κ]

@[ext]
theorem ext {κ ν : Type} {m n : OrderedMap κ ν} (h : m.entries = n.entries) : m = n := by
  cases m; cases n; cases h; rfl

def empty {κ ν : Type} : OrderedMap κ ν := ⟨[], List.nodup_nil⟩

instance {κ ν : Type} : Inhabited (OrderedMap κ ν) := ⟨empty⟩

instance {κ ν : Type} : EmptyCollection (OrderedMap κ ν) := ⟨empty⟩

/-- The entries after a key has been set. -/
def setEntry (k : κ) (v : ν) : List (κ × ν) → List (κ × ν)
  | [] => [(k, v)]
  | e :: es => if e.1 = k then (k, v) :: es else e :: setEntry k v es

theorem mem_keys_setEntry {k x : κ} {v : ν} {es : List (κ × ν)}
    : x ∈ (setEntry k v es).map Prod.fst ↔ x = k ∨ x ∈ es.map Prod.fst := by
  induction es with
  | nil => simp [setEntry]
  | cons e es ih =>
    by_cases h : e.1 = k
    · simp [setEntry, h]
    · simp only [setEntry, h, if_false, List.map_cons, List.mem_cons, ih]
      constructor <;> (rintro (h | h | h) <;> simp [h])

theorem nodup_setEntry {k : κ} {v : ν} {es : List (κ × ν)} (h : (es.map Prod.fst).Nodup)
    : ((setEntry k v es).map Prod.fst).Nodup := by
  induction es with
  | nil => simp [setEntry]
  | cons e es ih =>
    have h' := List.nodup_cons.1 h
    by_cases he : e.1 = k
    · simp only [setEntry, he, if_true, List.map_cons, List.nodup_cons]
      exact ⟨he ▸ h'.1, h'.2⟩
    · simp only [setEntry, he, if_false, List.map_cons, List.nodup_cons]
      refine ⟨fun hm => ?_, ih h'.2⟩
      rcases mem_keys_setEntry.1 hm with hk | hm
      · exact he hk
      · exact h'.1 hm

/-- Sets a key. -/
def set (m : OrderedMap κ ν) (k : κ) (v : ν) : OrderedMap κ ν :=
  ⟨setEntry k v m.entries, nodup_setEntry m.nodup⟩

/-- The value under a key. -/
def get? (m : OrderedMap κ ν) (k : κ) : Option ν :=
  (m.entries.find? fun e => e.1 = k).map Prod.snd

def keys {κ ν : Type} (m : OrderedMap κ ν) : List κ := m.entries.map Prod.fst

def contains (m : OrderedMap κ ν) (k : κ) : Bool := m.keys.contains k

def size {κ ν : Type} (m : OrderedMap κ ν) : Nat := m.entries.length

def isEmpty {κ ν : Type} (m : OrderedMap κ ν) : Bool := m.entries.isEmpty

/-- Sets the keys of entries one after the other. -/
def setAll (m : OrderedMap κ ν) (es : List (κ × ν)) : OrderedMap κ ν :=
  es.foldl (fun m e => m.set e.1 e.2) m

def ofList (es : List (κ × ν)) : OrderedMap κ ν := empty.setAll es

/-- Sets every key of another map, in its order. -/
def merge (m n : OrderedMap κ ν) : OrderedMap κ ν := m.setAll n.entries

/-- Keeps the entries whose key passes a test. -/
def filterKeys {κ ν : Type} (m : OrderedMap κ ν) (p : κ → Bool) : OrderedMap κ ν :=
  ⟨m.entries.filter fun e => p e.1, by
    have h := (List.filter_sublist (p := fun e : κ × ν => p e.1) (l := m.entries)).map Prod.fst
    exact m.nodup.sublist h⟩

/-- Applies a function to the value under a key, starting from a default where there is none. -/
def update (m : OrderedMap κ ν) (k : κ) (default : ν) (f : ν → ν) : OrderedMap κ ν :=
  m.set k (f ((m.get? k).getD default))

end OrderedMap

end DocGateway
