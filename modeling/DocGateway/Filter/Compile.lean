import DocGateway.Filter.Macro
import DocGateway.Query.DayRange
import DocGateway.Text.Pattern

/-!
Compilation of filter trees to queries.

Each leaf becomes the query of its operator after its macros are replaced; a group becomes the
combination of its members, gaps left out. A group never becomes an empty combination: without
members it is a fault.
-/

namespace DocGateway.Filter

/-- What a compilation reads besides the filter. -/
structure Context where
  clock : Clock
  caller : Option Identity
  /-- The fields that hold time stamps but are compared by calendar day. -/
  stampFields : List String

/-- The comparison that an operator asks for, if it is one. -/
def Operator.comparison? : Operator → Option Comparison
  | .notEqual => some .notEqual
  | .less => some .less
  | .greater => some .greater
  | .atMost => some .atMost
  | .atLeast => some .atLeast
  | _ => none

/-- The source of the pattern for texts that contain a value's text. -/
def containsPattern (v : Value) : String :=
  String.ofList (Text.literalPattern v.plain.toList)

/-- The query for one calendar day of a time stamp, or for all other days. -/
def compileDay (l : Leaf) (v : Value) (negated : Bool) : Except Fault Query := do
  let day ← calendarDay (.leaf l) v
  match DayRange.of? l.field day with
  | some r => .ok (if negated then r.toNegatedQuery else r.toQuery)
  | none => .error (.misuse .outOfRange)

/-- The query for the ids that the caller acts as. -/
def compileUser (l : Leaf) (o : Operator) (caller : Option Identity) : Except Fault Query := do
  let ids ← resolveUser l caller
  match o with
  | .equal | .contains => .ok (.field l.field (.oneOf ids))
  | .notEqual | .containsNot => .ok (.field l.field (.noneOf ids))
  | _ => .error (.userMacroMisplaced l)

/-- The query of an operator on an operand that is taken literally. -/
def compileOperand (l : Leaf) (o : Operator) (v : Value) : Except Fault Query :=
  match o.comparison? with
  | some c => .ok (.field l.field (.compare c v))
  | none =>
    match o with
    | .equal =>
      match v with
      | .mapping _ => .ok (.field l.field (.literally v))
      | _ => .ok (.field l.field (.is v))
    | _ =>
      if v.isNull then .error (.operandRequired l)
      else if o = .contains then .ok (.field l.field (.like (containsPattern v)))
      else .ok (.field l.field (.notLike (containsPattern v)))

/-- Whether a leaf compares a time stamp by calendar day. -/
def comparesDay (ctx : Context) (l : Leaf) (o : Operator) (v : Value) : Bool :=
  ctx.stampFields.contains l.field
    && (l.fieldType == none || l.fieldType == some "date")
    && (o == .equal || o == .notEqual)
    && !v.isNull

/-- Whether an operand is the user macro. -/
def isUserMacro : Value → Bool
  | .text s => s == userMacro
  | _ => false

/-- The query of an operator that takes an operand. -/
def compileWithOperand (ctx : Context) (l : Leaf) (o : Operator) : Except Fault Query := do
  if l.operand.isNone && (l.dateOperator.getD "").isEmpty then .error (.operandRequired l)
  else
    let v ← resolveDay l ctx.clock
    if comparesDay ctx l o v then compileDay l v (o == .notEqual)
    else if isUserMacro v then compileUser l o ctx.caller
    else compileOperand l o v

/-- The query of a leaf. -/
def compileLeaf (ctx : Context) (l : Leaf) : Except Fault Query :=
  match Operator.ofWord? l.operator with
  | none => .error (.unknownOperator l)
  | some .isEmpty => .ok (.fieldEmpty l.field)
  | some .isNotEmpty => .ok (.fieldNotEmpty l.field)
  | some o => compileWithOperand ctx l o

/-- The combination of queries by a connective. -/
def Connective.combine : Connective → List Query → Query
  | .all, qs => .all qs
  | .any, qs => .any qs

namespace Node

/-- The fault of a group whose operator is no connective. -/
def unknownConnective (operator : Option String) (members : List Node) : Fault :=
  .unknownConnective (operator.getD "None") (group operator members).describe

mutual

/-- The query of a node. -/
def compile (ctx : Context) : Node → Except Fault Query
  | leaf l => compileLeaf ctx l
  | group operator members =>
    match Connective.ofWord? (operator.getD "") with
    | none => .error (unknownConnective operator members)
    | some c =>
      if members.all isGap then .error (.emptyGroup (group operator members).describe)
      else (compileMembers ctx members).map c.combine
  | raw v => .error (.unsupported v)
termination_by structural n => n

/-- The queries of a group's members, gaps left out. -/
def compileMembers (ctx : Context) : List Node → Except Fault (List Query)
  | [] => .ok []
  | n :: ns =>
    if n.isGap then compileMembers ctx ns
    else do
      let q ← compile ctx n
      let qs ← compileMembers ctx ns
      return q :: qs
termination_by structural ns => ns

end

end Node

end DocGateway.Filter
