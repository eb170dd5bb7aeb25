import DocGateway.Value.Equality

/-!
Entries of mappings: look-up and update by key equality, in insertion order.
-/

namespace DocGateway.Value

/-- Sets a key: an equal key keeps its place and spelling, a new one goes to the end. -/
def insertEntry {α : Type} (k : Value) (v : α) : List (Value × α) → List (Value × α)
  | [] => [(k, v)]
  | e :: es => if same e.1 k then (e.1, v) :: es else e :: insertEntry k v es

/-- The value of the first equal key. -/
def lookup? {α : Type} (k : Value) (es : List (Value × α)) : Option α :=
  (es.find? fun e => same e.1 k).map Prod.snd

/-- The entries without a key. -/
def eraseEntry {α : Type} (k : Value) (es : List (Value × α)) : List (Value × α) :=
  es.filter fun e => !same e.1 k

/-- The mapping that results from setting the keys of pairs one after the other. -/
def ofPairs (ps : List (Value × Value)) : Value :=
  mapping (ps.foldl (fun es p => insertEntry p.1 p.2 es) [])

/-- The value under a text key of a mapping. -/
def get? (v : Value) (name : String) : Option Value :=
  match v with
  | mapping es => lookup? (text name) es
  | _ => none

/-- Reads one pair of a key and a value from a sequence of two. -/
def pairOf (v : Value) : Except Misuse (Value × Value) :=
  match v.items? with
  | none => .error .wrongKind
  | some [k, x] => if k.isKey then .ok (k, x) else .error .wrongKind
  | some _ => .error .wrongValue

/-- The entries of a mapping, or those that a sequence of pairs sets one after the other. -/
def toEntries (v : Value) : Except Misuse (List (Value × Value)) :=
  match v with
  | mapping es => .ok es
  | _ =>
    match v.items? with
    | none => .error .wrongKind
    | some xs => xs.foldlM (fun es x => do
        let p ← pairOf x
        return insertEntry p.1 p.2 es) []

end DocGateway.Value
