import DocGateway.Filter.Fault
import DocGateway.Validation.Checked

/-!
Reading filter trees from values.

A mapping whose `type` is `group` is a group, any other mapping a leaf. The members of a group are
read first, so a fault among them is told before a problem in the group's own fields.
-/

namespace DocGateway.Filter

namespace Leaf

/-- Reads a leaf from the entries of a mapping. -/
def read (es : List (Value × Value)) : Checked Leaf :=
  (fun _ field operator operand fieldType dateOperator =>
      { field, operator, operand, fieldType, dateOperator : Leaf })
    <$> Reader.optional (.plain "type") "filter" (Reader.oneOf ["filter"]) es
    <*> Reader.required ⟨"fieldId", "field_id"⟩ Reader.nonEmptyText es
    <*> Reader.required (.plain "operator") Reader.text es
    <*> .ok (Value.lookup? (.text "value") es)
    <*> Reader.optional ⟨"fieldType", "field_type"⟩ none Reader.textOrNull es
    <*> Reader.optional ⟨"dateOperator", "date_operator"⟩ none Reader.textOrNull es

end Leaf

namespace Node

/-- Whether the entries are those of a group. -/
def isGroup (es : List (Value × Value)) : Bool :=
  match Value.lookup? (.text "type") es with
  | some v => v.same (.text "group")
  | none => false

/-- Reads the fields of a group other than its members. -/
def readOperator (es : List (Value × Value)) : Checked (Option String) :=
  (fun _ operator => operator)
    <$> Reader.optional (.plain "type") "group" (Reader.oneOf ["group"]) es
    <*> Reader.optional (.plain "operator") none Reader.textOrNull es

mutual

/-- Reads a node. -/
def read : Value → Except Fault Node
  | .mapping es =>
    if isGroup es then do
      let members ← readMembers es
      match readOperator es with
      | .ok operator => .ok (group operator members)
      | .bad ps => .error (.malformed ps (.mapping es))
    else
      match Leaf.read es with
      | .ok l => .ok (leaf l)
      | .bad ps => .error (.malformed ps (.mapping es))
  | v => .error (.notMapping (.value v))
termination_by structural v => v

/-- Reads the members that stand among the entries of a group; there are none by default. -/
def readMembers : List (Value × Value) → Except Fault (List Node)
  | [] => .ok []
  | (k, v) :: es => if k.same (.text "filters") then readList v else readMembers es
termination_by structural es => es

/-- Reads members from a list or tuple. -/
def readList : Value → Except Fault (List Node)
  | .list xs => readItems xs
  | .tuple xs => readItems xs
  | v => .error (.membersNotList v)
termination_by structural v => v

/-- Reads members one by one; null is a gap. -/
def readItems : List Value → Except Fault (List Node)
  | [] => .ok []
  | x :: xs => do
    let n ← if x.isNull then .ok gap else read x
    let ns ← readItems xs
    return n :: ns
termination_by structural xs => xs

end

/-- Reads a group from its entries alone, for callers who know that it is one. -/
def readGroup (es : List (Value × Value)) : Except Failure Node := do
  let members ← (readMembers es).mapError Fault.toFailure
  match readOperator es with
  | .ok operator => .ok (group operator members)
  | .bad ps => .error (.invalid ps)

end Node

end DocGateway.Filter
