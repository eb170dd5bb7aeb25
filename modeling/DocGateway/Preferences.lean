import DocGateway.Log.Basic
import DocGateway.Settings
import DocGateway.Value.Equality

/-!
Preferences: the settings in force while a gateway works.

Settings are checked when they are loaded, but whoever runs a gateway may put another value in the
place of any of them. So preferences are plain values, and each is judged where it is used.
-/

namespace DocGateway

structure Preferences where
  uri : Value
  database : Value
  connectTimeout : Value
  stampFields : Value
  searchLimit : Value
  updatedAtField : Value
  updatedByField : Value
  dynamicPattern : Value
  mode : Value
  logLevel : Value
deriving Inhabited

namespace Preferences

/-- The preferences that settings amount to. -/
def ofSettings (s : Settings) : Preferences where
  uri := .ofText? s.uri
  database := .ofText? s.database
  connectTimeout := .int s.connectTimeout
  stampFields := .list (s.stampFields.map .text)
  searchLimit := .int s.searchLimit
  updatedAtField := .text s.updatedAtField
  updatedByField := .text s.updatedByField
  dynamicPattern := .text s.dynamicPattern
  mode := .text s.mode
  logLevel := .text s.logLevel

/-- The preferences that nothing was put in the place of. -/
def standard : Preferences := ofSettings .default

/-- Puts a value in the place of the setting that is called by a name. -/
def replace (p : Preferences) (name : String) (v : Value) : Preferences :=
  match name with
  | "MONGO_URI" => { p with uri := v }
  | "MONGO_DB_NAME" => { p with database := v }
  | "MONGO_CONNECT_TIMEOUT_MS" => { p with connectTimeout := v }
  | "TIMESTAMP_FIELDS" => { p with stampFields := v }
  | "SEARCH_LIMIT" => { p with searchLimit := v }
  | "AUDIT_UPDATED_AT_FIELD" => { p with updatedAtField := v }
  | "AUDIT_UPDATED_BY_FIELD" => { p with updatedByField := v }
  | "DYNAMIC_MODEL_ID_PATTERN" => { p with dynamicPattern := v }
  | "DEFAULT_DB_MODE" => { p with mode := v }
  | "LOG_LEVEL" => { p with logLevel := v }
  | _ => p

/-- The field names among the items of a value, all of which must be fit to be keys. Items that are
no text name no field. -/
def fieldNames (v : Value) : Except Misuse (List String) :=
  match v.items? with
  | none => .error .wrongKind
  | some vs =>
    if vs.all Value.isKey then
      .ok (vs.filterMap fun v =>
        match v with
        | .text s => some s
        | _ => none)
    else .error .wrongKind

end Preferences

end DocGateway
