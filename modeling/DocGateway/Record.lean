import DocGateway.Value.Entries

/-!
Records as storage keeps them and as callers see them.
-/

namespace DocGateway.Record

/-- The key of a stored record's id, and the key that callers know it by. -/
def storedKey : Value := .text "_id"

def shownKey : Value := .text "id"

/-- A stored record with its id under the key that callers know. -/
def ofStored (es : List (Value × Value)) : List (Value × Value) :=
  match Value.lookup? storedKey es with
  | some v => Value.insertEntry shownKey v (Value.eraseEntry storedKey es)
  | none => es

/-- The same for a value that holds the entries of a record. -/
def ofStoredValue (v : Value) : Except Misuse Value :=
  (v.toEntries).map fun es => .mapping (ofStored es)

end DocGateway.Record
