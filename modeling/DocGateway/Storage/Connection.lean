import DocGateway.Log.Source
import DocGateway.Preferences
import DocGateway.Record
import DocGateway.Storage.Client
import DocGateway.Storage.Driver

/-!
Connections to a document database, made when they are first needed.

The client and the database are kept until the connection is closed. Failures of the client are
told as reports: of the connection if the server cannot be reached, else of the query. A refusal of
a name is passed on if only the database or a collection is asked for.
-/

namespace DocGateway

/-- What is kept between calls. -/
structure Connection (κ : Type) where
  client? : Option κ
  database? : Option (Database κ)
deriving Inhabited

/-- Where to connect to, with which timeout, through which client. -/
structure Connector (κ σ : Type) where
  uri : Value
  database : Value
  timeout : Value
  client : DatabaseClient κ σ
  /-- The level of plain messages. -/
  level : LogLevel

/-- A search with a query and directives that may be left out. -/
structure DocumentSearch where
  query : Value
  sort : Value
  projection : Value
  skip : Value
  limit : Value

namespace Connector

variable {κ σ α : Type}

/-- A connector whose missing parts come from the preferences. -/
def ofPreferences (p : Preferences) (level : LogLevel) (uri database timeout : Value)
    (client : DatabaseClient κ σ)
    : Connector κ σ where
  uri := if uri.truthy then uri else p.uri
  database := if database.truthy then database else p.database
  timeout := if timeout.truthy then timeout else p.connectTimeout
  client := client
  level := level

def note (level : LogLevel) (text : String) : Action (Connection κ × σ) Unit :=
  .write ⟨level, LogSource.connection, text⟩

/-- The report about a setting that is needed and not there. -/
def missing (name : String) : Failure :=
  .report ⟨.missingConfig, .text (name ++ " is not set. Please configure it in your .env file."),
    [("config_key", .value (.text name)), ("env_file", .value (.text ".env"))]⟩

/-- The report about a client that cannot be made; other failures stay as they are. -/
def connectFailure : Failure → Failure
  | .client e =>
    .report ⟨.storageConnection, .text ("Cannot create MongoDB client: " ++ e.message), []⟩
  | e => e

/-- The report about a failed call; failures that are not the client's stay as they are. -/
def callFailure (call : String) (model : Value) (details : List (String × Value))
    : Failure → Failure
  | .client e =>
    if e.isConnection then
      .report ⟨.storageConnection, .text ("MongoDB is unreachable: " ++ e.message),
        [("model_id", .value model)]⟩
    else
      .report ⟨.storageQuery, .text (call ++ " failed: " ++ e.message),
        ("model_id", .value model) :: details.map fun d => (d.1, .value d.2)⟩
  | e => e

/-- The client, made if there is none. -/
def getClient (c : Connector κ σ) : Action (Connection κ × σ) κ := do
  let s ← Action.current
  match s.1.client? with
  | some client => return client
  | none =>
    if c.uri.truthy then
      let client ← ((c.client.connect c.uri c.timeout).mapFailure connectFailure).onSecond
      Action.change fun s => ({ s.1 with client? := some client }, s.2)
      note c.level "MongoDB client initialized."
      return client
    else Action.fail (missing "MONGO_URI")

/-- The database, selected if none is. -/
def getDatabase (c : Connector κ σ) : Action (Connection κ × σ) (Database κ) := do
  let s ← Action.current
  match s.1.database? with
  | some database => return database
  | none =>
    if c.database.truthy then
      let client ← c.getClient
      (c.client.selectDatabase client c.database).onSecond
      let database : Database κ := ⟨client, c.database⟩
      Action.change fun s => ({ s.1 with database? := some database }, s.2)
      note c.level s!"MongoDB database '{c.database.plain}' selected."
      return database
    else Action.fail (missing "MONGO_DB_NAME")

/-- The database, with the collection of a model selected in it. -/
def getCollection (c : Connector κ σ) (model : Value)
    : Action (Connection κ × σ) (Database κ) := do
  let database ← c.getDatabase
  (c.client.selectCollection database model).onSecond
  return database

/-- Closes the client if there is one, and forgets it and the database. -/
def close (c : Connector κ σ) : Action (Connection κ × σ) Unit := do
  let s ← Action.current
  match s.1.client? with
  | some client => (c.client.close client).onSecond
  | none => pure ()
  Action.change fun s => (⟨none, none⟩, s.2)

/-- Whether the server answers; a client that cannot be made is a failure all the same. -/
def ping (c : Connector κ σ) : Action (Connection κ × σ) Bool := do
  let client ← c.getClient
  match ← (c.client.ping client).attempt.onSecond with
  | .ok () => return true
  | .error (.client e) =>
    note .warning s!"MongoDB ping failed: {e.message}"
    return false
  | .error e => Action.fail e

/-- The change that sets fields. -/
def setting (updates : Value) : Value := Value.fields [("$set", updates)]

/-- Sets fields of the record that a selector selects; tells whether that was acknowledged. The
count is read after the call, so a failure to tell it stays as it is.
-/
def updateOne (c : Connector κ σ) (model selector updates : Value)
    : Action (Connection κ × σ) Bool := do
  let call : Action (Connection κ × σ) WriteReceipt := do
    let database ← c.getCollection model
    (c.client.updateOne database model selector (setting updates)).onSecond
  let receipt ← call.mapFailure (callFailure "update_one" model [])
  let count ← Action.ofExcept receipt.count
  note .debug s!"update_one model={model.plain} matched={count.plain}"
  return receipt.acknowledged.truthy

/-- Updates by model, models and updates in order of appearance. -/
def byModel (ops : List FlatUpdate) : OrderedMap String (List FlatUpdate) :=
  ops.foldl (fun groups f => groups.update f.model [] (· ++ [f])) ∅

/-- Sends the updates of one model; tells whether they were acknowledged. -/
def sendModel (c : Connector κ σ) (model : String) (ops : List FlatUpdate)
    : Action (Connection κ × σ) Bool := do
  let writes := ops.map fun f => (⟨f.selector, setting f.updates.toValue⟩ : RecordWrite)
  let call : Action (Connection κ × σ) WriteReceipt := do
    let database ← c.getCollection (.text model)
    (c.client.bulkWrite database (.text model) writes).onSecond
  let receipt ← call.mapFailure
    (callFailure "update_bulk" (.text model) [("count", .int writes.length)])
  let count ← Action.ofExcept receipt.count
  note .debug s!"update_bulk model={model} requests={writes.length} modified={count.plain}"
  return receipt.acknowledged.truthy

/-- Sends the updates of each model in one call; tells whether all were acknowledged. -/
def updateBulk (c : Connector κ σ) (ops : List FlatUpdate) : Action (Connection κ × σ) Bool := do
  let answers ← Action.collect (fun e => c.sendModel e.1 e.2) (byModel ops).entries
  return answers.all id

/-- The same for updates that are still to be read; all are read before any is sent. -/
def updateBulkGiven (c : Connector κ σ) (given : List (Given FlatUpdate))
    : Action (Connection κ × σ) Bool := do
  let ops ← Action.ofExcept (given.mapM FlatUpdate.ofGiven)
  c.updateBulk ops

/-- An empty query for one that counts as false. -/
def orEmpty (query : Value) : Value :=
  if query.truthy then query else .mapping []

/-- The records that documents stand for, or the failure that ends them. -/
def records : List Value → Option Failure → Except Failure (List Value)
  | [], none => .ok []
  | [], some e => .error e
  | d :: ds, failure? => do
    let r ← (Record.ofStoredValue d).mapError Failure.misuse
    let rs ← records ds failure?
    return r :: rs

/-- Asks a cursor for an order, if one is given. -/
def order (c : Connector κ σ) (cursor : Cursor) (sort : Value)
    : Action (Connection κ × σ) Cursor :=
  if sort.truthy then
    match sort.items? with
    | some directives => (c.client.sort cursor directives).onSecond
    | none => Action.fail (.misuse .wrongKind)
  else pure cursor

/-- The records of a model that match a query, all of them or none. -/
def find (c : Connector κ σ) (model : Value) (search : DocumentSearch)
    : Action (Connection κ × σ) (List Value) := do
  let call : Action (Connection κ × σ) (List Value) := do
    let database ← c.getCollection model
    let cursor ← (c.client.find database model
      ⟨orEmpty search.query, search.projection, search.skip, search.limit⟩).onSecond
    let cursor ← c.order cursor search.sort
    Action.ofExcept (records cursor.documents cursor.failure?)
  let found ← call.mapFailure (callFailure "find" model [("query", search.query)])
  note .debug s!"find model={model.plain} returned={found.length}"
  return found

/-- How many records of a model match a query. -/
def countDocuments (c : Connector κ σ) (model query : Value)
    : Action (Connection κ × σ) Value := do
  let call : Action (Connection κ × σ) Value := do
    let database ← c.getCollection model
    (c.client.count database model (orEmpty query)).onSecond
  call.mapFailure (callFailure "count_documents" model [("query", query)])

/-- The connection as storage of a gateway. -/
def driver (c : Connector κ σ) : StorageDriver (Connection κ × σ) where
  name := LogSource.connection
  updateOne model selector updates := do
    let acknowledged ← c.updateOne (.text model) selector updates.toValue
    return .bool acknowledged
  updateBulk ops := do
    let acknowledged ← c.updateBulk ops
    return .bool acknowledged
  find? := some fun s => do
    let found ← c.find s.model ⟨s.query, SortOrder.toValue s.sort, s.projection, s.skip, s.limit⟩
    return .list found

end Connector

end DocGateway
