import DocGateway.Failure
import DocGateway.Json.Reader
import DocGateway.Number.IntegerLiteral
import DocGateway.Text.Letters
import DocGateway.Uid
import DocGateway.Validation.Checked

/-!
Settings of the gateway, with defaults, as they are read from the environment and from arguments.

An argument beats the environment. Both are looked up without regard to letter case, and an argument
that is spelled exactly beats one that is not. All problems are told at once, in the order of the
settings.
-/

namespace DocGateway

structure Settings where
  /-- Where the database is. -/
  uri : Option String
  database : Option String
  connectTimeout : Int
  /-- Fields that hold time stamps but are compared by calendar day. -/
  stampFields : List String
  /-- How many records a search returns at most; 0 means any number. -/
  searchLimit : Int
  /-- Where the time and the user of an update are noted. -/
  updatedAtField : String
  updatedByField : String
  /-- The pattern of the ids of dynamic models. -/
  dynamicPattern : String
  mode : String
  logLevel : String

namespace Settings

def default : Settings where
  uri := none
  database := none
  connectTimeout := 5000
  stampFields := ["createdAt", "updatedAt"]
  searchLimit := 0
  updatedAtField := "updatedAt"
  updatedByField := "updatedBy"
  dynamicPattern := IdPattern.uidSource
  mode := "online"
  logLevel := "INFO"

instance : Inhabited Settings := ⟨default⟩

/-- The modes in which a gateway may run. -/
def modes : List String := ["online", "offline", "memory"]

/-- The bound that the size of a whole number with a point stays below. -/
def floatBound : Int := Int.pow 2 63

/-- Reads an integer setting from text. -/
def integerText (s : String) : Checked Int :=
  match IntegerLiteral.readLoosely s.toList with
  | .number n => .ok n
  | .tooLong => .problem .tooLongInteger
  | .malformed => .problem .notIntegerText

/-- Reads an integer setting. -/
def integer : Value → Checked Int
  | .int n => .ok n
  | .bool b => .ok (if b then 1 else 0)
  | .float x =>
    match x.truncate? with
    | some n =>
      if !x.equalsInt n then .problem .fractionalInteger
      else if -floatBound < n && n < floatBound then .ok n
      else .problem .tooLongInteger
    | none => .problem .notFinite
  | .text s => integerText s
  | .bytes bs =>
    match String.fromUTF8? ⟨bs.toArray⟩ with
    | some s => integerText s
    | none => .problem .notIntegerText
  | _ => .problem .notInteger

/-- Reads all settings from what was found for each of their names. -/
def read (es : List (Value × Value)) : Checked Settings :=
  let opt {α : Type} (name : String) (standard : α) (read : Value → Checked α) : Checked α :=
    Reader.optional (.plain name) standard read es
  (fun uri database connectTimeout stampFields searchLimit updatedAtField updatedByField
      dynamicPattern mode logLevel =>
    { uri, database, connectTimeout, stampFields, searchLimit, updatedAtField, updatedByField,
      dynamicPattern, mode, logLevel : Settings })
    <$> opt "MONGO_URI" default.uri Reader.textOrNull
    <*> opt "MONGO_DB_NAME" default.database Reader.textOrNull
    <*> opt "MONGO_CONNECT_TIMEOUT_MS" default.connectTimeout integer
    <*> opt "TIMESTAMP_FIELDS" default.stampFields (Reader.list Reader.text)
    <*> opt "SEARCH_LIMIT" default.searchLimit integer
    <*> opt "AUDIT_UPDATED_AT_FIELD" default.updatedAtField Reader.text
    <*> opt "AUDIT_UPDATED_BY_FIELD" default.updatedByField Reader.text
    <*> opt "DYNAMIC_MODEL_ID_PATTERN" default.dynamicPattern Reader.text
    <*> opt "DEFAULT_DB_MODE" default.mode (Reader.oneOf modes)
    <*> opt "LOG_LEVEL" default.logLevel Reader.text

/-- The settings with their names, in order. -/
def toPairs (s : Settings) : List (String × Value) :=
  [("MONGO_URI", .ofText? s.uri), ("MONGO_DB_NAME", .ofText? s.database),
   ("MONGO_CONNECT_TIMEOUT_MS", .int s.connectTimeout),
   ("TIMESTAMP_FIELDS", .list (s.stampFields.map .text)), ("SEARCH_LIMIT", .int s.searchLimit),
   ("AUDIT_UPDATED_AT_FIELD", .text s.updatedAtField),
   ("AUDIT_UPDATED_BY_FIELD", .text s.updatedByField),
   ("DYNAMIC_MODEL_ID_PATTERN", .text s.dynamicPattern), ("DEFAULT_DB_MODE", .text s.mode),
   ("LOG_LEVEL", .text s.logLevel)]

/-- The name of the one setting whose text in the environment is JSON. -/
def jsonName : String := "TIMESTAMP_FIELDS"

/-- The value that the environment gives to a setting. -/
def environmentValue (name : String) (s : String) : Except Failure Value :=
  if name == jsonName then
    match Json.read? s.toList with
    | some v => .ok v
    | none => .error (.unreadableSetting name)
  else .ok (.text s)

/-- Whether two names differ in letter case at most. -/
def sameName (a b : String) : Bool := Text.lower a.toList == Text.lower b.toList

/-- What the environment says about the settings, by their names; null in JSON says nothing. -/
def environmentEntries (env : List (String × String)) : Except Failure (List (Value × Value)) :=
  default.toPairs.filterMapM fun p =>
    match env.reverse.find? fun e => sameName e.1 p.1 with
    | some e => (environmentValue p.1 e.2).map fun v =>
      if p.1 == jsonName && v.isNull then none else some (.text p.1, v)
    | none => .ok none

/-- What arguments say about the settings, by their names. -/
def argumentEntries (arguments : List (String × Value)) : List (Value × Value) :=
  default.toPairs.filterMap fun p =>
    let spelled? := arguments.find? fun a => a.1 == p.1
    let found? := spelled? <|> arguments.find? fun a => sameName a.1 p.1
    found?.map fun a => (.text p.1, a.2)

/-- Reads settings from the environment and from arguments, which come first. -/
def load (env : List (String × String)) (arguments : List (String × Value))
    : Except Failure Settings := do
  let found ← environmentEntries env
  match read (argumentEntries arguments ++ found) with
  | .ok s => .ok s
  | .bad ps => .error (.invalid ps)

end Settings

end DocGateway
