import DocGateway.Value.Basic

/-!
Arguments of a call: given by position or by name, some of them with defaults.
-/

namespace DocGateway

/-- A parameter of a call; one without a default must be given. -/
structure Parameter where
  name : String
  default? : Option Value

/-- The arguments of a call. -/
structure Arguments where
  byPosition : List Value
  byName : List (String × Value)

namespace Arguments

/-- The arguments that follow the positions. -/
def bindNames (named : List (String × Value)) : List Parameter → Except Misuse (List Value)
  | [] => if named.isEmpty then .ok [] else .error .wrongKind
  | p :: ps => do
    let v ← match (named.find? fun e => e.1 == p.name), p.default? with
      | some e, _ => pure e.2
      | none, some v => pure v
      | none, none => throw .wrongKind
    let vs ← bindNames (named.filter fun e => e.1 != p.name) ps
    return v :: vs

/-- The value of each parameter; superfluous, repeated and missing arguments are misuse. -/
def bind (a : Arguments) (ps : List Parameter) : Except Misuse (List Value) :=
  if ps.length < a.byPosition.length then .error .wrongKind
  else (bindNames a.byName (ps.drop a.byPosition.length)).map (a.byPosition ++ ·)

end Arguments

end DocGateway
