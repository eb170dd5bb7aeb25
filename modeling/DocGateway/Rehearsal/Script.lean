import DocGateway.Storage.Client
import DocGateway.Storage.Driver
import DocGateway.Transaction.Hooks

/-!
Scripts: storage and hooks that record every call and answer as they are told to.

Each storage call takes the next outcome of the script; when there are none left, calls go well.
-/

namespace DocGateway

/-- What a storage call comes to. -/
structure ScriptedOutcome where
  /-- The call fails. -/
  failure? : Option Failure
  /-- The answer of the call. -/
  answer? : Option Value
  /-- How many records a write reaches. -/
  count? : Option Value
  /-- What a search finds. -/
  documents : List Value
  /-- The failure that ends a cursor after its documents. -/
  laterFailure? : Option Failure

def ScriptedOutcome.fine : ScriptedOutcome := ⟨none, none, none, [], none⟩

/-- A call of storage, by a gateway or by a connection. -/
inductive StorageCall where
  | updateOne (model selector updates : Value)
  | updateBulk (flat : List FlatUpdate)
  | search (s : Search)
  | connect (uri timeout : Value)
  | writeOne (database collection selector change : Value)
  | writeMany (database collection : Value) (writes : List RecordWrite)
  | find (database collection : Value) (s : CollectionSearch)
  | sort (directives : List Value)
  | count (database collection query : Value)
  | command (name : String)
  | close

/-- A call of a hook, with the transaction's id and state at that time. -/
inductive HookCall where
  | commit (id : Value) (state : TransactionState) (flat : List FlatUpdate)
  | rollback (id : Value) (state : TransactionState) (flat : List FlatUpdate)
    (failure? : Option Failure)

/-- What is still to come, and the calls so far. -/
structure Script where
  outcomes : List ScriptedOutcome
  calls : List StorageCall
  hookCalls : List HookCall

namespace Script

variable {α : Type}

def ofOutcomes (outcomes : List ScriptedOutcome) : Script := ⟨outcomes, [], []⟩

/-- Forgets the calls so far. -/
def clear (s : Script) : Script := { s with calls := [], hookCalls := [] }

/-- Records a call that takes no outcome. -/
def record (call : StorageCall) : Action Script Unit :=
  .change fun s => { s with calls := s.calls ++ [call] }

/-- Records a call and takes its outcome, which may be a failure. -/
def answer (call : StorageCall) : Action Script ScriptedOutcome := do
  record call
  let s ← Action.current
  let outcome := s.outcomes.head?.getD .fine
  Action.change fun s => { s with outcomes := s.outcomes.drop 1 }
  match outcome.failure? with
  | some e => Action.fail e
  | none => return outcome

/-- The outcome of a call of a write. -/
def write (call : StorageCall) : Action Script Value := do
  let o ← answer call
  return o.answer?.getD (.bool true)

/-- Storage that follows the script. -/
def driver : StorageDriver Script where
  name := "RecorderDriver"
  updateOne model selector updates :=
    write (.updateOne (.text model) selector updates.toValue)
  updateBulk flat := write (.updateBulk flat)
  find? := some fun s => do
    let o ← answer (.search s)
    return .list o.documents

/-- The same without searches. -/
def writeOnlyDriver : StorageDriver Script :=
  { driver with name := "WriteOnlyDriver", find? := none }

/-- The receipt of a call of a write. -/
def receipt (call : StorageCall) : Action Script WriteReceipt := do
  let o ← answer call
  return ⟨o.answer?.getD (.bool true), .ok (o.count?.getD (.int 1))⟩

/-- A database client that follows the script. It takes every name of a database or a collection. -/
def client : DatabaseClient Unit Script where
  connect uri timeout := do
    let _ ← answer (.connect uri timeout)
  selectDatabase _ _ := pure ()
  selectCollection _ _ := pure ()
  updateOne database collection selector change :=
    receipt (.writeOne database.name collection selector change)
  bulkWrite database collection writes :=
    receipt (.writeMany database.name collection writes)
  find database collection s := do
    let o ← answer (.find database.name collection s)
    return ⟨o.documents, o.laterFailure?⟩
  sort cursor directives := do
    record (.sort directives)
    return cursor
  count database collection query := do
    let o ← answer (.count database.name collection query)
    return o.answer?.getD (.int 0)
  ping _ := do
    let _ ← answer (.command "ping")
  close _ := record .close

/-- Ends as told: with a failure or without one. -/
def finish : Option Failure → Action Script Unit
  | some e => .fail e
  | none => pure ()

def recordHook (call : HookCall) : Action Script Unit :=
  .change fun s => { s with hookCalls := s.hookCalls ++ [call] }

/-- Hooks that record their calls and may fail after that. -/
def hooks (commitFailure? rollbackFailure? : Option Failure) : Hooks Script where
  onCommit tx flat := do
    recordHook (.commit tx.id tx.state flat)
    finish commitFailure?
  onRollback tx flat failure? := do
    recordHook (.rollback tx.id tx.state flat failure?)
    finish rollbackFailure?

end Script

end DocGateway
