import DocGateway.Text.Letters
import DocGateway.Value.Basic

/-!
Log entries and the levels that decide which of them are kept.
-/

namespace DocGateway

inductive LogLevel where
  | debug
  | info
  | warning
  | error
  | critical
deriving DecidableEq, Inhabited

namespace LogLevel

def all : List LogLevel := [debug, info, warning, error, critical]

def name : LogLevel → String
  | debug => "DEBUG"
  | info => "INFO"
  | warning => "WARNING"
  | error => "ERROR"
  | critical => "CRITICAL"

def rank : LogLevel → Nat
  | debug => 10
  | info => 20
  | warning => 30
  | error => 40
  | critical => 50

/-- The level named by a word in any letter case. -/
def ofWord? (w : String) : Option LogLevel :=
  all.find? fun l => l.name.toList == Text.upper w.toList

/-- The level named by a word, `info` if it names none. -/
def ofWord (w : String) : LogLevel := (ofWord? w).getD info

theorem ofWord?_name (l : LogLevel) : ofWord? l.name = some l := by cases l <;> decide

end LogLevel

/-- An entry of the log: its level, who wrote it, and its text. -/
structure LogEntry where
  level : LogLevel
  source : String
  text : String
deriving DecidableEq, Inhabited

/-- The level that a value names: a text by its word, while bytes never name one. -/
def LogLevel.ofValue : Value → Except Misuse LogLevel
  | .text w => .ok (ofWord w)
  | .bytes _ => .ok info
  | _ => .error .noSuchMember

/-- The level of plain messages under a log level setting; one that counts as false names none. -/
def messageLevel (setting : Value) : Except Misuse LogLevel :=
  if setting.truthy then LogLevel.ofValue setting else .ok .info

end DocGateway
