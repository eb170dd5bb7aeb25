import DocGateway.Storage.Driver
import DocGateway.Transaction.Coalescing
import DocGateway.Transaction.Hooks

/-!
Processing of transactions.

A run merges the operations of a transaction, sends what is left in a single storage call, settles
the result and calls a hook. Failures of storage and of hooks end up in the result.
-/

namespace DocGateway

/-- What transactions are processed with. -/
structure Coalescer (σ : Type) where
  driver : StorageDriver σ
  hooks : Hooks σ
  clock : Clock
  preferences : Preferences
  /-- The level of plain messages. -/
  level : LogLevel

/-- How a run ends. -/
inductive Settlement where
  | committed (flat : List FlatUpdate)
  /-- Rolled back, with storage's failure if there was one. -/
  | rolledBack (flat : List FlatUpdate) (failure? : Option Failure)

namespace Settlement

def state : Settlement → TransactionState
  | committed _ => .committed
  | rolledBack _ _ => .rolledBack

/-- What was changed. -/
def changed : Settlement → List FlatUpdate
  | committed flat => flat
  | rolledBack _ _ => []

/-- Why nothing was changed. -/
def error : Settlement → Option String
  | committed _ => none
  | rolledBack _ failure? => some ((failure?.map Failure.text).getD Hooks.noSuccess)

end Settlement

/-- A transaction that is being processed, and the state of storage and hooks. -/
abbrev Held (σ : Type) : Type := Transaction × σ

namespace Held

variable {σ : Type}

/-- Moves the transaction on to a state. -/
def enter (state : TransactionState) : Action (Held σ) Unit :=
  .change fun h => ({ h.1 with state }, h.2)

def putResult (r : TransactionResult) : Action (Held σ) Unit :=
  .change fun h => ({ h.1 with result := some r }, h.2)

/-- Marks the transaction as processed. -/
def consume : Action (Held σ) Unit := do
  let h ← Action.current
  let tx ← Action.ofExcept h.1.consume
  Action.change fun h => (tx, h.2)

end Held

namespace Coalescer

variable {σ : Type}

def note (level : LogLevel) (text : String) : Action σ Unit :=
  .write ⟨level, LogSource.coalescer, text⟩

/-- The updates that operations come to, stamped if there is a user. The fields of the stamp are
only looked at if there is an update to note it in. -/
def flatten (c : Coalescer σ) (user : Value) (ops : List Operation)
    : Except Failure (List FlatUpdate) := do
  let flat := (Buckets.ofOperations ops).flatten
  match ← AuditStamp.of c.clock user with
  | none => return flat
  | some a =>
    if flat.isEmpty then return []
    else return flat.map (a.note (← AuditFields.read c.preferences))

/-- Sends updates in one storage call: a single one by itself, any other number together. -/
def dispatch (c : Coalescer σ) (flat : List FlatUpdate) : Action σ Bool :=
  match flat with
  | [f] => do
    note .debug s!"Dispatching as update_one model={f.model} record={f.record}"
    let answer ← c.driver.updateOne f.model f.selector f.updates
    return answer.truthy
  | _ => do
    note .debug s!"Dispatching as update_bulk count={flat.length}"
    let answer ← c.driver.updateBulk flat
    return answer.truthy

/-- Calls the hook for how a run ended. -/
def callHook (c : Coalescer σ) (tx : Transaction) : Settlement → Action σ Unit
  | .committed flat => c.hooks.onCommit tx flat
  | .rolledBack flat failure? => c.hooks.onRollback tx flat failure?

/-- The result of a run that ended in some way; the transaction's id must be text. -/
def resultOf (tx : Transaction) (e : Settlement) : Except Failure TransactionResult :=
  match TransactionResult.readId tx.id with
  | .ok id => .ok ⟨id, e.state, e.changed, e.error⟩
  | .bad ps => .error (.invalid ps)

/-- Settles state and result, then calls the hook; a failure of the hook joins the error. -/
def settle (c : Coalescer σ) (e : Settlement) : Action (Held σ) TransactionResult := do
  Held.enter e.state
  let h ← Action.current
  let r ← Action.ofExcept (resultOf h.1 e)
  Held.putResult r
  let h ← Action.current
  match ← (c.callHook h.1 e).attempt.onSecond with
  | .ok () => return r
  | .error failure =>
    note .error s!"Transaction {h.1.id.plain} {e.state.word} hook failed"
    let r := r.addHookFailure failure
    Held.putResult r
    return r

/-- Sends updates to storage and settles what came of it. -/
def send (c : Coalescer σ) (flat : List FlatUpdate) : Action (Held σ) TransactionResult := do
  Held.enter .dispatched
  let h ← Action.current
  let id := h.1.id.plain
  match ← (c.dispatch flat).attempt.onSecond with
  | .ok true =>
    note c.level s!"Transaction {id} processed {flat.length} operation(s)"
    c.settle (.committed flat)
  | .ok false =>
    note c.level s!"Transaction {id} could not process the operations"
    c.settle (.rolledBack flat none)
  | .error failure =>
    note .error s!"Transaction {id} failed during storage call"
    note c.level s!"Transaction {id} could not process the operations"
    c.settle (.rolledBack flat (some failure))

/-- Processes a transaction. -/
def run (c : Coalescer σ) : Action (Held σ) TransactionResult := do
  Held.consume
  let h ← Action.current
  if h.1.operations.isEmpty then c.settle (.committed [])
  else
    Held.enter .grouping
    let flat ← Action.ofExcept (c.flatten h.1.user h.1.operations)
    Held.enter .flattened
    if flat.isEmpty then
      note .debug s!"Transaction {h.1.id.plain} has no field updates; nothing to dispatch"
      c.settle (.committed [])
    else c.send flat

/-- Processes a transaction that is bound, and gives what was changed. -/
def process (c : Coalescer σ) : Action (Held σ) (List FlatUpdate) := do
  let h ← Action.current
  if h.1.isBound then
    let r ← c.run
    return r.operations
  else Action.fail (h.1.refusal "Transaction is not bound to a coalescer")

end Coalescer

end DocGateway
