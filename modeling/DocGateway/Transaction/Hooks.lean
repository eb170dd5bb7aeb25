import DocGateway.Action
import DocGateway.Log.Source
import DocGateway.Transaction.Basic

/-!
Hooks: what is called when a transaction has been committed or rolled back.

One hook is called for each processed transaction, after its result is settled, with every update
that was to be sent to storage.
-/

namespace DocGateway

structure Hooks (σ : Type) where
  onCommit : Transaction → List FlatUpdate → Action σ Unit
  /-- The failure is that of storage, if storage failed rather than answering with no success. -/
  onRollback : Transaction → List FlatUpdate → Option Failure → Action σ Unit

namespace Hooks

variable {σ : Type}

/-- Hooks that do nothing. -/
def silent : Hooks σ where
  onCommit _ _ := pure ()
  onRollback _ _ _ := pure ()

/-- Why a transaction was rolled back if storage gave no failure. -/
def noSuccess : String := "storage reported failure"

/-- Hooks that write the outcome to the log; commits are plain messages. -/
def logging (level : LogLevel) : Hooks σ where
  onCommit tx flat :=
    .write ⟨level, LogSource.hooks,
      s!"Transaction {tx.id.plain} committed {flat.length} operation(s)"⟩
  onRollback tx flat failure? :=
    let reason := (failure?.map Failure.text).getD noSuccess
    .write ⟨.warning, LogSource.hooks,
      s!"Transaction {tx.id.plain} rolled back {flat.length} operation(s): {reason}"⟩

end Hooks

end DocGateway
