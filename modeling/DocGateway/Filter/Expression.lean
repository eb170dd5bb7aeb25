import DocGateway.Failure
import DocGateway.Filter.Operator
import DocGateway.OrderedMap
import DocGateway.Value.Entries

/-!
Filter expressions: filters written in code.

An expression is a list of keyword look-ups, one explicit leaf, or two expressions joined by a
connective. It stands for a filter tree (`toTree`), with no flattening and no reordering.
-/

namespace DocGateway.Filter

/-- The look-ups that a keyword may end in. -/
inductive Lookup where
  | operator (o : Operator)
  /-- Empty or not empty, as the operand says. -/
  | empty
deriving DecidableEq, Inhabited

namespace Lookup

def all : List Lookup :=
  [operator .equal, operator .notEqual, operator .greater, operator .atLeast, operator .less,
   operator .atMost, operator .contains, operator .containsNot, empty]

def word : Lookup → String
  | operator .equal => "eq"
  | operator .notEqual => "ne"
  | operator .greater => "gt"
  | operator .atLeast => "gte"
  | operator .less => "lt"
  | operator .atMost => "lte"
  | operator .contains => "contains"
  | operator .containsNot => "not_contains"
  | operator .isEmpty | operator .isNotEmpty | empty => "empty"

def ofWord? (cs : List Char) : Option Lookup :=
  all.find? fun l => l.word.toList == cs

end Lookup

/-- Splits at the last double underscore: what stands before it and after it. -/
def splitLast? : List Char → Option (List Char × List Char)
  | [] => none
  | c :: cs =>
    match splitLast? cs with
    | some (front, back) => some (c :: front, back)
    | none =>
      match c, cs with
      | '_', '_' :: rest => some ([], rest)
      | _, _ => none

/-- Writes every double underscore, from the left, as a dot. -/
def dotted : List Char → List Char
  | '_' :: '_' :: cs => '.' :: dotted cs
  | c :: cs => c :: dotted cs
  | [] => []

/-- The field path and the look-up of a keyword; equality on the whole path by default. -/
def readKeyword (key : String) : String × Lookup :=
  let cs := key.toList
  let whole := (String.ofList (dotted cs), Lookup.operator .equal)
  match splitLast? cs with
  | none => whole
  | some (front, back) =>
    match Lookup.ofWord? back with
    | some l => (String.ofList (dotted front), l)
    | none => whole

/-- A leaf with an operand, as a tree. -/
def leafTree (field : String) (o : Operator) (v : Value) : Value :=
  Value.fields
    [("type", .text "filter"), ("fieldId", .text field), ("operator", .text o.word), ("value", v)]

/-- A leaf without an operand, as a tree. -/
def bareLeafTree (field : String) (o : Operator) : Value :=
  Value.fields [("type", .text "filter"), ("fieldId", .text field), ("operator", .text o.word)]

/-- A group, as a tree. -/
def groupTree (c : Connective) (members : List Value) : Value :=
  Value.fields
    [("type", .text "group"), ("operator", .text c.word), ("filters", .list members)]

/-- The leaf that a keyword and its operand stand for. -/
def keywordTree (key : String) (v : Value) : Value :=
  match readKeyword key with
  | (field, .operator o) => leafTree field o v
  | (field, .empty) => bareLeafTree field (if v.truthy then .isEmpty else .isNotEmpty)

/-- The fields of an explicit leaf; null stands for a field type or date operator not given. -/
structure ExplicitLeaf where
  field : Value
  operator : Value
  operand : Option Value
  fieldType : Value
  dateOperator : Value

def ExplicitLeaf.toTree (l : ExplicitLeaf) : Value :=
  let given (name : String) (v : Value) := if v.isNull then [] else [(name, v)]
  Value.fields
    ([("type", .text "filter"), ("fieldId", l.field), ("operator", l.operator)]
      ++ (l.operand.map fun v => ("value", v)).toList
      ++ given "fieldType" l.fieldType ++ given "dateOperator" l.dateOperator)

inductive Expression where
  | keywords (kvs : List (String × Value))
  | leaf (l : ExplicitLeaf)
  | join (c : Connective) (left right : Expression)

namespace Expression

/-- The filter tree that an expression stands for. -/
def toTree : Expression → Value
  | keywords [(key, v)] => keywordTree key v
  | keywords kvs => groupTree .all (kvs.map fun kv => keywordTree kv.1 kv.2)
  | leaf l => l.toTree
  | join c left right => groupTree c [left.toTree, right.toTree]

end Expression

/-- An operand of a connective: an expression, or a plain value. -/
inductive Operand where
  | expression (e : Expression)
  | value (v : Value)

namespace Operand

/-- A keyword that no expression may have. -/
def reserved : String := "self"

/-- An expression of keywords, later ones of the same name replacing earlier ones. -/
def ofKeywords (kvs : List (String × Value)) : Except Misuse Operand :=
  if kvs.any fun kv => kv.1 == reserved then .error .wrongKind
  else .ok (.expression (.keywords (OrderedMap.ofList kvs).entries))

/-- The filter tree of an operand; a plain value has none. -/
def tree : Operand → Except Misuse Value
  | expression e => .ok e.toTree
  | value _ => .error .noSuchMember

/-- The text of an operand. -/
def text : Operand → String
  | expression e => e.toTree.plain
  | value v => v.plain

/-- The description of an operand. -/
def quoted : Operand → String
  | expression e => (Detail.expression e.toTree).quoted
  | value v => v.quoted

/-- A binary digit of each of two integers, combined. -/
def bitwise (c : Connective) (m n : Int) : Int :=
  match c, m, n with
  | .all, .ofNat a, .ofNat b => .ofNat (a &&& b)
  | .all, .ofNat a, .negSucc b => .ofNat (a ^^^ (a &&& b))
  | .all, .negSucc a, .ofNat b => .ofNat (b ^^^ (a &&& b))
  | .all, .negSucc a, .negSucc b => .negSucc (a ||| b)
  | .any, .ofNat a, .ofNat b => .ofNat (a ||| b)
  | .any, .ofNat a, .negSucc b => .negSucc (b ^^^ (a &&& b))
  | .any, .negSucc a, .ofNat b => .negSucc (a ^^^ (a &&& b))
  | .any, .negSucc a, .negSucc b => .negSucc (a &&& b)

/-- Plain values under a connective: truth values, integers bit by bit, and mappings united. -/
def joinValues (c : Connective) (v w : Value) : Except Misuse Value :=
  match v, w with
  | .bool a, .bool b => .ok (.bool (match c with | .all => a && b | .any => a || b))
  | .mapping es, .mapping fs =>
    match c with
    | .any => .ok (.mapping (fs.foldl (fun es e => Value.insertEntry e.1 e.2 es) es))
    | .all => .error .wrongKind
  | _, _ =>
    match v.asInt?, w.asInt? with
    | some m, some n => .ok (.int (bitwise c m n))
    | _, _ => .error .wrongKind

/-- Joins two operands; an expression joins with expressions only. -/
def join (c : Connective) (left right : Operand) : Except Misuse Operand :=
  match left, right with
  | expression l, expression r => .ok (.expression (.join c l r))
  | value v, value w => (joinValues c v w).map value
  | _, _ => .error .wrongKind

end Operand

end DocGateway.Filter
