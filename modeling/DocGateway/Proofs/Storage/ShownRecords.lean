import DocGateway.Proofs.Except
import DocGateway.Proofs.Value.TextKeys
import DocGateway.Storage.Connection

/-!
Records as callers see them.

A stored record is shown with its id under the key that callers know, and is the same otherwise
(`Record.Shows`). The documents of a search are shown one by one, and a failure that ends them
leaves none of them.
-/

namespace DocGateway

namespace Record

open Value

/-- The entry is under neither of the keys that an id may have. -/
def isField (e : Value × Value) : Bool := !isText "_id" e.1 && !isText "id" e.1

/-- A stored record and how it is shown. Without an id it is shown as it is. An id is under its
shown key only, and all other fields are the same, in the same order.
-/
inductive Shows : List (Value × Value) → List (Value × Value) → Prop
  | unnamed {es : List (Value × Value)} (none : lookup? storedKey es = none) : Shows es es
  | named {es es' : List (Value × Value)} {id : Value} (stored : lookup? storedKey es = some id)
      (shown : lookup? shownKey es' = some id) (moved : ∀ e ∈ es', e.1 ≠ storedKey)
      (fields : es'.filter isField = es.filter isField)
    : Shows es es'

/-- The same for values that are mappings. -/
inductive ShowsValue : Value → Value → Prop
  | mk {es es' : List (Value × Value)} (shows : Shows es es')
    : ShowsValue (.mapping es) (.mapping es')

theorem fields_insertEntry (v : Value) (es : List (Value × Value))
    : (insertEntry shownKey v es).filter isField = es.filter isField := by
  have noField (v : Value) : isField (shownKey, v) = false := rfl
  induction es with
  | nil => rfl
  | cons e es ih =>
    unfold insertEntry
    split
    · next equal =>
      have key : e.1 = shownKey := isText_iff.1 (same_text_right e.1 "id" ▸ equal)
      have e' : e = (shownKey, e.2) := Prod.ext key rfl
      rw [e', List.filter_cons_of_neg (by simp [noField]),
        List.filter_cons_of_neg (by simp [noField])]
    · rw [List.filter_cons, List.filter_cons, ih]

theorem fields_eraseEntry (es : List (Value × Value))
    : (eraseEntry storedKey es).filter isField = es.filter isField := by
  have kept (e : Value × Value) : (isField e && !same e.1 storedKey) = isField e := by
    rw [storedKey, same_text_right, isField]
    cases isText "_id" e.1 <;> simp
  simp only [eraseEntry, List.filter_filter, kept]

theorem ne_storedKey_of_mem_insertEntry {v : Value} {es : List (Value × Value)}
    (free : ∀ e ∈ es, e.1 ≠ storedKey)
    : ∀ e ∈ insertEntry shownKey v es, e.1 ≠ storedKey := by
  have other : shownKey ≠ storedKey := by simp [shownKey, storedKey]
  induction es with
  | nil =>
    intro e member
    cases List.mem_singleton.1 member
    exact other
  | cons e es ih =>
    obtain ⟨first, rest⟩ := List.forall_mem_cons.1 free
    unfold insertEntry
    split
    · exact List.forall_mem_cons.2 ⟨first, rest⟩
    · exact List.forall_mem_cons.2 ⟨first, ih rest⟩

theorem ne_storedKey_of_mem_eraseEntry (es : List (Value × Value))
    : ∀ e ∈ eraseEntry storedKey es, e.1 ≠ storedKey := by
  intro e member key
  have kept := (List.mem_filter.1 member).2
  rw [key] at kept
  cases kept

theorem shows_ofStored (es : List (Value × Value)) : Shows es (ofStored es) := by
  unfold ofStored
  cases stored : lookup? storedKey es with
  | none => exact .unnamed stored
  | some id =>
    refine .named stored ?_ ?_ ?_
    · rw [shownKey, lookup?_insertEntry_text]
      rfl
    · exact ne_storedKey_of_mem_insertEntry (ne_storedKey_of_mem_eraseEntry es)
    · rw [fields_insertEntry, fields_eraseEntry]

end Record

namespace Connector

variable {documents : List Value} (mappings : ∀ d ∈ documents, ∃ es, d = .mapping es)

include mappings

/-- Without a failure every document is shown, in order. -/
theorem records_whole
    : ∃ rs, records documents none = .ok rs
        ∧ List.Forall₂ Record.ShowsValue documents rs := by
  induction documents with
  | nil => exact ⟨[], rfl, .nil⟩
  | cons d ds ih =>
    obtain ⟨⟨es, rfl⟩, rest⟩ := List.forall_mem_cons.1 mappings
    obtain ⟨rs, read, shown⟩ := ih rest
    refine ⟨.mapping (Record.ofStored es) :: rs, ?_, .cons ⟨Record.shows_ofStored es⟩ shown⟩
    rw [records, read]
    rfl

/-- A failure after any number of documents leaves none of them. -/
theorem records_cut (f : Failure) : records documents (some f) = .error f := by
  induction documents with
  | nil => rfl
  | cons d ds ih =>
    obtain ⟨⟨es, rfl⟩, rest⟩ := List.forall_mem_cons.1 mappings
    rw [records, ih rest]
    rfl

end Connector

end DocGateway
