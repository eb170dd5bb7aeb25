import DocGateway.Value.Basic

/-!
Filter trees: leaves, which ask one thing of one field, and groups of nodes.

A group that was not read from data may hold anything; such members stay raw values. A raw null is
a gap: it stands among a group's members and asks nothing.
-/

namespace DocGateway.Filter

/-- One question about one field. A given null operand is different from no operand. -/
structure Leaf where
  field : String
  operator : String
  operand : Option Value
  fieldType : Option String
  dateOperator : Option String
deriving Inhabited

inductive Node where
  | leaf (l : Leaf)
  | group (operator : Option String) (members : List Node)
  | raw (v : Value)
deriving Inhabited

namespace Leaf

/-- The operand, null if none was given. -/
def value (l : Leaf) : Value := l.operand.getD .null

/-- The leaf as a mapping of all its fields. -/
def describe (l : Leaf) : Value :=
  Value.fields
    [("type", .text "filter"), ("fieldId", .text l.field), ("operator", .text l.operator),
     ("value", l.value), ("fieldType", .ofText? l.fieldType),
     ("dateOperator", .ofText? l.dateOperator)]

end Leaf

namespace Node

/-- The gap among a group's members. -/
def gap : Node := raw .null

def isGap : Node → Bool
  | raw .null => true
  | _ => false

/-- A group's fields as a mapping. -/
def describeGroup (operator members : Value) : Value :=
  Value.fields [("type", .text "group"), ("operator", operator), ("filters", members)]

mutual

/-- The node as a mapping of all its fields. -/
def describe : Node → Value
  | leaf l => l.describe
  | group operator members => describeGroup (.ofText? operator) (.list (describeAll members))
  | raw v => v
termination_by structural n => n

def describeAll : List Node → List Value
  | [] => []
  | n :: ns => describe n :: describeAll ns
termination_by structural ns => ns

end

end Node

end DocGateway.Filter
