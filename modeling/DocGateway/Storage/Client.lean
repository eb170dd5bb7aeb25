import DocGateway.Action

/-!
Clients of a document database: what a storage connection asks of the server.

Clients are held by handles. A database is one of a client's databases, by name; a model's records
live in the collection of the same name. Selecting either by its name asks nothing of the server,
but the client may refuse the name.
-/

namespace DocGateway

/-- A database of a client. -/
structure Database (κ : Type) where
  client : κ
  name : Value
deriving Inhabited

/-- What a write came to: whether it was acknowledged, and how many records it reached, which may be
a failure to tell.
-/
structure WriteReceipt where
  acknowledged : Value
  count : Except Failure Value

/-- One write of several: what selects the record, and the change. -/
structure RecordWrite where
  selector : Value
  change : Value

/-- A search in a collection. -/
structure CollectionSearch where
  query : Value
  projection : Value
  skip : Value
  limit : Value

/-- The answer to a search: documents, and the failure that ends them if there is one. -/
structure Cursor where
  documents : List Value
  failure? : Option Failure

/-- A client of a document database over a state. -/
structure DatabaseClient (κ σ : Type) where
  connect : (uri timeout : Value) → Action σ κ
  selectDatabase : κ → (name : Value) → Action σ Unit
  selectCollection : Database κ → (name : Value) → Action σ Unit
  updateOne : Database κ → (collection selector change : Value) → Action σ WriteReceipt
  /-- Several writes in one call, in no particular order. -/
  bulkWrite : Database κ → (collection : Value) → List RecordWrite → Action σ WriteReceipt
  find : Database κ → (collection : Value) → CollectionSearch → Action σ Cursor
  /-- Asks for the documents of a cursor in an order. -/
  sort : Cursor → (directives : List Value) → Action σ Cursor
  count : Database κ → (collection query : Value) → Action σ Value
  ping : κ → Action σ Unit
  close : κ → Action σ Unit

end DocGateway
