import DocGateway.OrderedMap
import DocGateway.Value.Text

/-!
Reports: the errors of the gateway itself.

Every report has a class in a hierarchy with one root, a message and named details; its text is the
message followed by the details.
-/

namespace DocGateway

/-- The classes of reports. -/
inductive ReportClass where
  | gateway
  | queryCompile
  | filterCompile
  | macroResolution
  | sortCompile
  | schema
  | unknownModel
  | transaction
  | storage
  | storageConnection
  | storageQuery
  | configuration
  | missingConfig
deriving DecidableEq, Inhabited

namespace ReportClass

/-- All classes, the root first. -/
def all : List ReportClass :=
  [gateway, queryCompile, filterCompile, macroResolution, sortCompile, schema, unknownModel,
   transaction, storage, storageConnection, storageQuery, configuration, missingConfig]

def name : ReportClass → String
  | gateway => "RecordLayerError"
  | queryCompile => "QueryCompileError"
  | filterCompile => "FilterCompileError"
  | macroResolution => "MacroResolutionError"
  | sortCompile => "SortCompileError"
  | schema => "SchemaError"
  | unknownModel => "UnknownModelError"
  | transaction => "TransactionError"
  | storage => "StorageError"
  | storageConnection => "StorageConnectionError"
  | storageQuery => "StorageQueryError"
  | configuration => "ConfigurationError"
  | missingConfig => "MissingConfigError"

/-- The class that is called by a name. -/
def ofName? (name : String) : Option ReportClass :=
  all.find? fun c => c.name == name

/-- A class and the classes above it, up to the root. -/
def lineage : ReportClass → List ReportClass
  | gateway => [gateway]
  | filterCompile => [filterCompile, queryCompile, gateway]
  | macroResolution => [macroResolution, queryCompile, gateway]
  | sortCompile => [sortCompile, queryCompile, gateway]
  | unknownModel => [unknownModel, schema, gateway]
  | storageConnection => [storageConnection, storage, gateway]
  | storageQuery => [storageQuery, storage, gateway]
  | missingConfig => [missingConfig, configuration, gateway]
  | c => [c, gateway]

theorem mem_all (c : ReportClass) : c ∈ all := by cases c <;> decide

theorem ofName?_name (c : ReportClass) : ofName? c.name = some c := by cases c <;> rfl

end ReportClass

/-- What a report's detail shows: a value, or a filter expression by the tree that it stands for. -/
inductive Detail where
  | value (v : Value)
  | expression (tree : Value)
deriving Inhabited

/-- The value that a detail shows, a filter expression by its tree. -/
def Detail.content : Detail → Value
  | value v => v
  | expression tree => tree

def Detail.quoted : Detail → String
  | .value v => v.quoted
  | .expression tree => "<Q: " ++ tree.quoted ++ ">"

/-- An error of the gateway. The message is text unless a caller made it something else. -/
structure Report where
  reportClass : ReportClass
  message : Value
  details : List (String × Detail)
deriving Inhabited

namespace Report

/-- The details in order, each with its name. -/
def detailsText (r : Report) : String :=
  ", ".intercalate (r.details.map fun d => d.1 ++ "=" ++ d.2.quoted)

/-- The message with the details in brackets; either alone if the other is missing. -/
def text (r : Report) : String :=
  if r.details.isEmpty then r.message.plain
  else if r.message.truthy then r.message.plain ++ " (" ++ r.detailsText ++ ")"
  else r.detailsText

/-- The description of a report. -/
def quoted (r : Report) : String :=
  let shown := r.details.map fun d => DocGateway.quoted d.1 ++ ": " ++ d.2.quoted
  let details := ", ".intercalate shown
  r.reportClass.name ++ "(message=" ++ r.message.quoted
    ++ ", details=\x7b" ++ details ++ "\x7d)"

/-- A detail cannot go by this name, which stands for the report itself. -/
def selfName : String := "self"

/-- The name under which a message may be given among the details. -/
def messageName : String := "message"

/-- A report from a message and details, the last one of a name counting; without a message the
detail of that name is taken for it. -/
def ofParts (c : ReportClass) (message? : Option Value) (details : List (String × Value))
    : Except Misuse Report :=
  let details := (OrderedMap.ofList details).entries
  let make (message : Value) (details : List (String × Value)) : Report :=
    ⟨c, message, details.map fun d => (d.1, .value d.2)⟩
  if details.any fun d => d.1 == selfName then .error .wrongKind
  else
    match details.find? fun d => d.1 == messageName, message? with
    | some _, some _ => .error .wrongKind
    | some d, none => .ok (make d.2 (details.filter fun d => d.1 != messageName))
    | none, message? => .ok (make (message?.getD (.text "")) details)

end Report

end DocGateway
