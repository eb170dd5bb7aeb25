import DocGateway.Operation
import DocGateway.Preferences

/-!
Transactions: batches of operations that are processed once.

A transaction collects operations until it is processed; afterwards it takes no more operations and
carries its result.
-/

namespace DocGateway

/-- How far a transaction has come. -/
inductive TransactionState where
  | empty
  | grouping
  | flattened
  | dispatched
  | committed
  | rolledBack
deriving DecidableEq, Inhabited

namespace TransactionState

def all : List TransactionState :=
  [empty, grouping, flattened, dispatched, committed, rolledBack]

def word : TransactionState → String
  | empty => "empty"
  | grouping => "grouping"
  | flattened => "flattened"
  | dispatched => "dispatched"
  | committed => "committed"
  | rolledBack => "rolled_back"

def ofWord? (w : String) : Option TransactionState :=
  all.find? fun s => s.word == w

/-- Reads a state from its word, which may be encoded as bytes. -/
def read (v : Value) : Checked TransactionState :=
  match Reader.text v with
  | .ok w =>
    match ofWord? w with
    | some s => .ok s
    | none => .problem (.notOneOf (all.map word))
  | .bad _ => .problem (.notOneOf (all.map word))

theorem ofWord?_word (s : TransactionState) : ofWord? s.word = some s := by cases s <;> rfl

end TransactionState

/-- The outcome of a transaction: what was changed, or why nothing was. -/
structure TransactionResult where
  id : String
  state : TransactionState
  operations : List FlatUpdate
  error : Option String

namespace TransactionResult

def isCommitted (r : TransactionResult) : Bool := r.state == .committed

def isRolledBack (r : TransactionResult) : Bool := r.state == .rolledBack

/-- Committed without anything to change. -/
def isNoop (r : TransactionResult) : Bool := r.isCommitted && r.operations.isEmpty

/-- Reads a transaction's id. -/
def readId (v : Value) : Checked String := (Reader.text v).within "transaction_id"

/-- Reads a result from the entries of a mapping. -/
def read (es : List (Value × Value)) : Checked TransactionResult :=
  TransactionResult.mk
    <$> Reader.required (.plain "transaction_id") Reader.text es
    <*> Reader.required (.plain "state") TransactionState.read es
    <*> Reader.optional (.plain "operations") []
      (Reader.list (Reader.record FlatUpdate.kindName FlatUpdate.read)) es
    <*> Reader.optional (.plain "error") none Reader.textOrNull es

/-- Adds the failure of a hook to the error. -/
def addHookFailure (r : TransactionResult) (e : Failure) : TransactionResult :=
  let added := r.state.word ++ " hook failed: " ++ e.text
  let error := match r.error with
    | some "" | none => added
    | some text => text ++ "; " ++ added
  { r with error := some error }

end TransactionResult

/-- A batch of operations. The id, the user and the mode are as the caller gave them. -/
structure Transaction where
  id : Value
  user : Value
  mode : Value
  /-- Whether the transaction knows who is to process it. -/
  isBound : Bool
  operations : List Operation
  isProcessed : Bool
  state : TransactionState
  result : Option TransactionResult

namespace Transaction

/-- A new transaction; a mode that counts as false gets a default. -/
def new (p : Preferences) (id user mode : Value) (isBound : Bool) : Transaction where
  id := id
  user := user
  mode := if mode.truthy then mode else p.mode
  isBound := isBound
  operations := []
  isProcessed := false
  state := .empty
  result := none

/-- A refusal that names the transaction. -/
def refusal (tx : Transaction) (message : String) : Failure :=
  .report ⟨.transaction, .text message, [("transaction_id", .value tx.id)]⟩

/-- Adds an operation at the end, unless the transaction was processed. -/
def add (tx : Transaction) (given : Given Operation) : Except Failure Transaction :=
  if tx.isProcessed then .error (tx.refusal "Cannot add operations to a processed transaction")
  else do
    let op ← Operation.ofGiven given
    return { tx with operations := tx.operations ++ [op] }

/-- Adds operations until one is refused; what was added before it stays. -/
def addAll (tx : Transaction) : List (Given Operation) → Transaction × Option Failure
  | [] => (tx, none)
  | given :: rest =>
    match tx.add given with
    | .ok tx => tx.addAll rest
    | .error e => (tx, some e)

/-- Marks a transaction as processed, which can be done once. -/
def consume (tx : Transaction) : Except Failure Transaction :=
  if tx.isProcessed then .error (tx.refusal "Transaction already processed")
  else .ok { tx with isProcessed := true }

/-- The description of a transaction. -/
def describe (tx : Transaction) : String :=
  "<Transaction id=" ++ tx.id.plain ++ " operations=" ++ toString tx.operations.length
    ++ " state=" ++ tx.state.word ++ ">"

end Transaction

end DocGateway
