import DocGateway.Log.Basic
import DocGateway.Log.Template

/-!
Setting up the log and writing to it.

The level of the log is set once, by the first setup or by the first writer; entries below it are
dropped.
-/

namespace DocGateway

/-- The state of the log of a whole program. -/
structure LogState where
  /-- The levels that setups have set, at most one. -/
  setups : List LogLevel
  /-- Entries below this level are dropped. -/
  threshold : LogLevel
  entries : List LogEntry
deriving Inhabited

namespace LogState

/-- Nothing set up yet: only warnings and worse are kept. -/
def fresh : LogState := ⟨[], .warning, []⟩

def isSetUp (s : LogState) : Bool := !s.setups.isEmpty

/-- Sets the level unless it was set before. -/
def setUp (s : LogState) (level : Value) : Except Misuse LogState :=
  if s.isSetUp then .ok s
  else (LogLevel.ofValue level).map fun l => { s with setups := [l], threshold := l }

/-- The name of writers that give none. -/
def defaultSource : String := "recordlayer.logger"

/-- The name of a writer. -/
def sourceOf (name : Value) : Except Misuse String :=
  if !name.truthy then .ok defaultSource
  else
    match name with
    | .text s => .ok s
    | _ => .error .wrongKind

/-- Writes an entry if its level is kept. -/
def write (s : LogState) (level : LogLevel) (source template : String) (vs : List Value)
    : Except Misuse LogState :=
  if level.rank < s.threshold.rank then .ok s
  else (Template.fill template vs).map fun t =>
    { s with entries := s.entries ++ [⟨level, source, t⟩] }

end LogState

/-- How an entry is written: at a level, as a plain message, or for a failure that was caught. -/
inductive WriteMethod where
  | atLevel (level : LogLevel)
  | message
  | caught
deriving DecidableEq

namespace WriteMethod

/-- The method called by a name. -/
def ofName? (name : String) : Option WriteMethod :=
  if name == "message" then some message
  else if name == "exception" then some caught
  else
    (LogLevel.all.find? fun l => Text.lower l.name.toList == name.toList).map atLevel

/-- The level that a method writes at, under a log level setting. -/
def level (setting : Value) : WriteMethod → Except Misuse LogLevel
  | atLevel l => .ok l
  | message => messageLevel setting
  | caught => .ok .error

end WriteMethod

/-- An entry that is to be written; the template is the text of a value. -/
structure LogRequest where
  method : String
  template : Value
  values : List Value

namespace LogState

/-- Sets the level once for each list of arguments, which holds a level or nothing. -/
def setUpAll (s : LogState) (arguments : List (List Value)) : Except Misuse LogState :=
  arguments.foldlM (fun s args =>
    match args with
    | [] => s.setUp (.text LogLevel.info.name)
    | [level] => s.setUp level
    | _ => .error .wrongKind) s

/-- Writes an entry of a source. -/
def request (setting : Value) (source : String) (s : LogState) (r : LogRequest)
    : Except Misuse LogState :=
  match WriteMethod.ofName? r.method with
  | some m => do s.write (← m.level setting) source r.template.plain r.values
  | none => .error .noSuchMember

/-- Sets up a log, opens a writer with an optional name and writes entries; gives the log and the
writer's name. -/
def rehearse (setting : Value) (setups : List (List Value)) (name : List Value)
    (requests : List LogRequest)
    : Except Misuse (LogState × String) := do
  let s ← fresh.setUpAll setups
  let wanted ← match name with
    | [] => .ok .null
    | [v] => .ok v
    | _ => .error .wrongKind
  let s ← s.setUp setting
  let source ← sourceOf wanted
  let s ← requests.foldlM (request setting source) s
  return (s, source)

end LogState

end DocGateway
