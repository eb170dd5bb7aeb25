import DocGateway.Value.Entries

/-!
Grouping of values by their first item.
-/

namespace DocGateway.Value

/-- The item at position 0, or the value under the key 0. -/
def first : Value → Except Misuse Value
  | mapping es =>
    match lookup? (int 0) es with
    | some v => .ok v
    | none => .error .noSuchKey
  | v@(list _) | v@(tuple _) | v@(text _) | v@(bytes _) =>
    match v.items? with
    | some (x :: _) => .ok x
    | _ => .error .noSuchIndex
  | _ => .error .wrongKind

/-- Adds a value at the end of the group of its first item. -/
def addToGroup (groups : List (Value × List Value)) (v : Value)
    : Except Misuse (List (Value × List Value)) := do
  let k ← first v
  if k.isKey then .ok (insertEntry k ((lookup? k groups).getD [] ++ [v]) groups)
  else .error .wrongKind

/-- The groups of values with equal first items, in order of their first members. -/
def groupByFirst (v : Value) : Except Misuse Value :=
  match v.items? with
  | none => .error .wrongKind
  | some vs => do
    let groups ← vs.foldlM addToGroup []
    return mapping (groups.map fun g => (g.1, list g.2))

end DocGateway.Value
