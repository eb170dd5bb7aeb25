import DocGateway.Filter.Source
import DocGateway.Registry
import DocGateway.Transaction.Run

/-!
The gateway: searches and writes of records through a storage driver.

Filters and sort orders are compiled before storage is asked. Writes keep the fields that their
models accept and go to storage in one transaction.
-/

namespace DocGateway

/-- A gateway works with what its transactions are processed with. -/
structure Gateway (σ : Type) extends Coalescer σ where
  /-- The fields that hold time stamps but are compared by calendar day. -/
  stampFields : List String

/-- The registry, the number of ids generated so far, and the state of storage and hooks. -/
structure GatewayState (σ : Type) where
  registry : Registry
  generated : Nat
  storage : σ

namespace GatewayState

variable {σ α : Type}

/-- Does an action on storage. -/
def onStorage (x : Action σ α) : Action (GatewayState σ) α :=
  x.onPart GatewayState.storage fun storage s => { s with storage }

/-- A fresh id. -/
def freshId : Action (GatewayState σ) String := do
  Action.change fun s => { s with generated := s.generated + 1 }
  let s ← Action.current
  return Uid.generated s.generated

end GatewayState

/-- What a caller searches for. -/
structure SearchRequest where
  model : Value
  filter? : Option Filter.Source
  sort : Value
  caller : Option Identity
  projection : Value
  skip : Value
  /-- How many records at most; null for the standard limit. -/
  limit : Value

namespace Gateway

variable {σ α : Type}

def note (level : LogLevel) (text : String) : Action σ Unit :=
  .write ⟨level, LogSource.gateway, text⟩

/-- What filters of a caller are compiled with. -/
def context (g : Gateway σ) (caller : Option Identity) : Filter.Context :=
  ⟨g.clock, caller, g.stampFields⟩

/-- Compiles a filter. -/
def compileFilter (g : Gateway σ) (filter : Filter.Source) (caller : Option Identity)
    : Except Failure Query :=
  filter.compile (g.context caller)

/-- Compiles a sort order and notes the fields that were named again. -/
def compileSort (spec : Value) : Action σ (List (String × Direction)) := do
  let (compiled, fault?) := SortOrder.compile spec
  compiled.repeated.forM fun field =>
    Action.write ⟨.warning, LogSource.sortOrder, SortOrder.repetitionNote field⟩
  match fault? with
  | none => return compiled.directives
  | some fault => Action.fail fault.toFailure

/-- The document of a search's filter; without one every record is meant. -/
def searchQuery (g : Gateway σ) (r : SearchRequest) : Except Failure Value :=
  match r.filter? with
  | some filter => (g.compileFilter filter r.caller).map Query.toValue
  | none => .ok (.mapping [])

/-- Finds the records of a model. -/
def search (g : Gateway σ) (r : SearchRequest) : Action σ Value :=
  match g.driver.find? with
  | none =>
    .fail (.report ⟨.storage, .text "Storage driver does not support search",
      [("driver", .value (.text g.driver.name))]⟩)
  | some find => do
    let query ← Action.ofExcept (g.searchQuery r)
    let sort ← compileSort r.sort
    let limit := if r.limit.isNull then g.preferences.searchLimit else r.limit
    let shown := (SortOrder.toValue sort).plain
    note .debug s!"Searching model={r.model.plain} query={query.plain} sort={shown}"
    find ⟨r.model, query, sort, r.projection, r.skip, limit⟩

/-- A new transaction that is bound to the gateway, with a fresh id unless one is given. -/
def newTransaction (g : Gateway σ) (id user mode : Value) (isBound : Bool)
    : Action (GatewayState σ) Transaction := do
  let id ← if id.truthy then pure id else .text <$> GatewayState.freshId
  return Transaction.new g.preferences id user mode isBound

/-- Processes a transaction that no one else holds. -/
def runNew (g : Gateway σ) (tx : Transaction) : Action (GatewayState σ) TransactionResult :=
  g.run.onPart (fun s => (tx, s.storage)) fun h s => { s with storage := h.2 }

/-- Writes fields of one record. -/
def update (g : Gateway σ) (model record payload user : Value)
    : Action (GatewayState σ) TransactionResult := do
  let s ← Action.current
  let es ← s.registry.sanitize payload model
  let tx ← g.newTransaction .null user .null true
  let op ← Action.ofExcept (Operation.ofParts model record es)
  g.runNew { tx with operations := [op] }

/-- Reads one of several operations and keeps the fields that its model accepts. -/
def acceptOne (given : Given Operation) : Action (GatewayState σ) Operation := do
  let op ← Action.ofExcept (Operation.ofGiven given)
  let s ← Action.current
  let es ← s.registry.sanitize op.updates.toValue (.text op.model)
  Action.ofExcept (Operation.ofParts (.text op.model) (.text op.record) es)

/-- Writes fields of any number of records in one transaction, or none if one is refused. -/
def bulkUpdate (g : Gateway σ) (given : List (Given Operation)) (user : Value)
    : Action (GatewayState σ) TransactionResult := do
  let tx ← g.newTransaction .null user .null true
  let ops ← Action.collect acceptOne given
  note g.level s!"Bulk update of {ops.length} operation(s) for user={user.plain}"
  g.runNew { tx with operations := ops }

/-- Writes the operations that a value holds. -/
def bulkUpdateValue (g : Gateway σ) (items user : Value)
    : Action (GatewayState σ) TransactionResult :=
  match items.items? with
  | some vs => g.bulkUpdate (vs.map .raw) user
  | none => do
    let _ ← g.newTransaction .null user .null true
    Action.fail (.misuse .wrongKind)

end Gateway

end DocGateway
