import DocGateway.Filter.Compile
import DocGateway.Filter.Expression
import DocGateway.Filter.Reading
import DocGateway.Query.Notation

/-!
The forms in which callers hand over a filter, and the ways to compile one.

A filter comes as a plain value, as an expression, as a node that was read before, or as a group
put together without any reading (`Source.unchecked`).
-/

namespace DocGateway.Filter

inductive Source where
  | value (v : Value)
  | expression (e : Expression)
  | node (n : Node)
  /-- A group's operator and members, neither of which was looked at. -/
  | unchecked (operator members : Value)

namespace Source

def ofOperand : Operand → Source
  | .expression e => expression e
  | .value v => value v

/-- A filter that is ready to be compiled. -/
inductive Ready where
  | node (n : Node)
  | unchecked (operator members : Value)

/-- Takes a filter in any form; only mappings, expressions and nodes are filters. -/
def normalize : Source → Except Failure Ready
  | node n => .ok (.node n)
  | unchecked operator members => .ok (.unchecked operator members)
  | expression e => ((Node.read e.toTree).mapError Fault.toFailure).map .node
  | value v =>
    match v with
    | .mapping _ => ((Node.read v).mapError Fault.toFailure).map .node
    | _ => .error (.notFilter v.kindName)

/-- Takes a node or the value of one; an expression is neither. -/
def parse : Source → Except Failure Ready
  | node n => .ok (.node n)
  | unchecked operator members => .ok (.unchecked operator members)
  | expression e => .error (Fault.notMapping (.expression e.toTree)).toFailure
  | value v => ((Node.read v).mapError Fault.toFailure).map .node

/-- The source for a filter that was taken before. -/
def Ready.toSource : Ready → Source
  | node n => .node n
  | unchecked operator members => .unchecked operator members

/-- The words that an unchecked operator may be compared as, if it is text or counts as false. -/
def operatorWord (operator : Value) : Except Misuse String :=
  match operator with
  | .text s => .ok s
  | .bytes _ => .ok ""
  | v => if v.truthy then .error .noSuchMember else .ok ""

/-- The fault that compiling an unchecked group always ends in: its members are no nodes. -/
def uncheckedFault (operator members : Value) : Fault :=
  let description := Node.describeGroup operator members
  match operatorWord operator with
  | .error m => .misuse m
  | .ok w =>
    match Connective.ofWord? w with
    | none => .unknownConnective operator.plain description
    | some _ =>
      match members.items? with
      | none => .misuse .wrongKind
      | some vs =>
        match vs.find? fun v => !v.isNull with
        | some v => .unsupported v
        | none => .emptyGroup description

/-- The query of a filter. -/
def Ready.compile (ctx : Context) : Ready → Except Failure Query
  | node n => (n.compile ctx).mapError Fault.toFailure
  | unchecked operator members => .error (uncheckedFault operator members).toFailure

/-- Compiles a filter in any form. -/
def compile (ctx : Context) (s : Source) : Except Failure Query := do
  (← s.normalize).compile ctx

/-- Compiles a node or the value of one. -/
def compileGroup (ctx : Context) (s : Source) : Except Failure Query := do
  (← s.parse).compile ctx

/-- Compiles a leaf or the value of one. -/
def compileLeaf (ctx : Context) (s : Source) : Except Failure Query := do
  match ← s.parse with
  | .node (.leaf l) => (Filter.compileLeaf ctx l).mapError Fault.toFailure
  | .node n => .error (Fault.notLeaf n.describe).toFailure
  | .unchecked operator members =>
    .error (Fault.notLeaf (Node.describeGroup operator members)).toFailure

/-- The shell notation of a filter's query. -/
def express (ctx : Context) (s : Source) : Except Failure String :=
  (s.compile ctx).map fun q => q.toValue.shell

end Source

end DocGateway.Filter
