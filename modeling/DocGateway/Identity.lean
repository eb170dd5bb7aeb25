import DocGateway.Value.Equality

/-!
Identities: the ids that a caller acts as.
-/

namespace DocGateway

/-- A caller, known as a user with groups or by all ids at once. -/
inductive Identity where
  /-- A user and the groups that the user belongs to. -/
  | member (user : Value) (groups : List Value)
  /-- A caller that acts as exactly these ids. -/
  | acting (ids : List Value)

namespace Identity

/-- The identity of a list of ids, the first one being the user's. -/
def ofIds : List Value → Except Misuse Identity
  | [] => .error .wrongKind
  | user :: groups => .ok (.member user groups)

/-- Adds an id unless it counts as false or an equal one is there. -/
def addId (ids : List Value) (v : Value) : List Value :=
  if v.truthy && !v.isIn ids then ids ++ [v] else ids

/-- Every id that the caller acts as; of a user with groups, the user first and each once. -/
def effective : Identity → List Value
  | member user groups => (user :: groups).foldl addId []
  | acting ids => ids

end Identity

end DocGateway
