import DocGateway.Rehearsal.Script
import DocGateway.Rehearsal.Step
import DocGateway.Storage.Connection

/-!
Sessions: a gateway over scripted storage that is asked one step at a time.

Transactions are held by name between steps. A step that fails keeps what it changed before.
-/

namespace DocGateway

/-- The state of storage and hooks during a session. -/
abbrev Stage : Type := Connection Unit × Script

/-- The storage of a session. -/
inductive StorageChoice where
  | recorder
  | writeOnly
  /-- A connection to a database, whose client may be there from the start. -/
  | connection (uri database timeout : Value) (hasClient : Bool)

/-- The hooks of a session. -/
inductive HookChoice where
  | logging
  | silent
  | recording (commitFailure? rollbackFailure? : Option Failure)

/-- What a session consists of besides its state. -/
structure Session where
  gateway : Gateway Stage
  /-- The connection that storage is, or that would be made from the preferences. -/
  connector : Connector Unit Script

/-- What changes during a session. -/
structure SessionState where
  core : GatewayState Stage
  transactions : OrderedMap String Transaction

namespace Session

variable {α : Type}

/-- Registers models before the session starts; a faulty registration ends the preparation. -/
def prepare : List (Value × Value) → Action (GatewayState Stage) Unit
  | [] => pure ()
  | (model, fields) :: rest => do
    let s ← Action.current
    let (registry, _) ← Action.ofExcept (s.registry.registerValue model fields true)
    Action.change fun s => { s with registry }
    prepare rest

/-- Storage that leaves the connection alone. -/
def besideConnection (d : StorageDriver Script) : StorageDriver Stage where
  name := d.name
  updateOne model selector updates := (d.updateOne model selector updates).onSecond
  updateBulk flat := (d.updateBulk flat).onSecond
  find? := d.find?.map fun find s => (find s).onSecond

/-- The storage driver of a session. -/
def driverOf (connector : Connector Unit Script) : StorageChoice → StorageDriver Stage
  | .recorder => besideConnection Script.driver
  | .writeOnly => besideConnection Script.writeOnlyDriver
  | .connection .. => connector.driver

/-- The hooks of a session. -/
def hooksOf (level : LogLevel) : HookChoice → Hooks Stage
  | .logging => Hooks.logging level
  | .silent => Hooks.silent
  | .recording commitFailure? rollbackFailure? =>
    let h := Script.hooks commitFailure? rollbackFailure?
    { onCommit := fun tx flat => (h.onCommit tx flat).onSecond
      onRollback := fun tx flat failure? => (h.onRollback tx flat failure?).onSecond }

/-- A session over a storage, with hooks. -/
def new (p : Preferences) (clock : Clock) (storage : StorageChoice) (hooks : HookChoice)
    : Except Misuse Session := do
  let (uri, database, timeout) := match storage with
    | .connection uri database timeout _ => (uri, database, timeout)
    | _ => (.null, .null, .null)
  let stampFields ← Preferences.fieldNames p.stampFields
  let level ← messageLevel p.logLevel
  let connector := Connector.ofPreferences p level uri database timeout Script.client
  let driver := driverOf connector storage
  return { gateway := ⟨⟨driver, hooksOf level hooks, clock, p, level⟩, stampFields⟩, connector }

/-- The state at the start of a session. -/
def initial (dynamicIds : IdPattern) (storage : StorageChoice) (outcomes : List ScriptedOutcome)
    : SessionState :=
  let hasClient := match storage with
    | .connection _ _ _ hasClient => hasClient
    | _ => false
  let connection : Connection Unit := ⟨if hasClient then some () else none, none⟩
  ⟨⟨Registry.empty dynamicIds, 0, (connection, .ofOutcomes outcomes)⟩, ∅⟩

def onCore (x : Action (GatewayState Stage) α) : Action SessionState α :=
  x.onPart SessionState.core fun core s => { s with core }

def onStage (x : Action Stage α) : Action SessionState α :=
  onCore (GatewayState.onStorage x)

/-- The registry. -/
def registry : Action SessionState Registry := do
  let s ← Action.current
  return s.core.registry

def putRegistry (r : Registry) : Action SessionState Unit :=
  onCore (.change fun s => { s with registry := r })

/-- The transaction of a name. -/
def held (name : String) : Action SessionState Transaction := do
  let s ← Action.current
  match s.transactions.get? name with
  | some tx => return tx
  | none => Action.fail (.unknownTransaction name)

def hold (name : String) (tx : Transaction) : Action SessionState Unit :=
  .change fun s => { s with transactions := s.transactions.set name tx }

/-- Does an action on the transaction of a name and storage. -/
def onHeld (name : String) (x : Action (Held Stage) α) : Action SessionState α := do
  let tx ← held name
  x.onPart (fun s => (tx, s.core.storage)) fun h s =>
    { core := { s.core with storage := h.2 }, transactions := s.transactions.set name h.1 }

/-- Reads operations one by one. -/
def readOperations (vs : List Value) : Except Failure (List (Given Operation)) :=
  vs.mapM fun v => (Operation.ofValue v).map .ready

/-- The operations that a value holds; none if it counts as false. -/
def looseOperations (ops : Value) : Except Failure (List (Given Operation)) :=
  if ops.truthy then
    match ops.items? with
    | some vs => .ok (vs.map .raw)
    | none => .error (.misuse .wrongKind)
  else .ok []

/-- Adds operations one by one until one is refused. Where each is read before it is added, a faulty
one is told even if the transaction takes no more. -/
def addEach (readFirst : Bool) (tx : Transaction) : List Value → Transaction × Option Failure
  | [] => (tx, none)
  | v :: vs =>
    let given := if readFirst then (Operation.ofValue v).map .ready else .ok (.raw v)
    match given.bind tx.add with
    | .ok tx => addEach readFirst tx vs
    | .error e => (tx, some e)

/-- Adds operations to the transaction of a name; what was added before a refusal stays. -/
def addTo (name : String) (ops : List Value) (readFirst : Bool) : Action SessionState Answer := do
  let tx ← held name
  let (tx, failure?) := addEach readFirst tx ops
  hold name tx
  match failure? with
  | some e => Action.fail e
  | none => return .value (.int tx.operations.length)

/-- The parameters of a search in the connection. -/
def findParameters : List Parameter :=
  [⟨"model_id", none⟩, ⟨"query", some .null⟩, ⟨"sort", some .null⟩, ⟨"projection", some .null⟩,
   ⟨"skip", some (.int 0)⟩, ⟨"limit", some (.int 0)⟩]

def updateOneParameters : List Parameter :=
  [⟨"model_id", none⟩, ⟨"record_selector", none⟩, ⟨"updates", none⟩]

def countParameters : List Parameter := [⟨"model_id", none⟩, ⟨"query", some .null⟩]

def bulkParameters : List Parameter := [⟨"operations", none⟩]

/-- The value of each parameter. -/
def bound (a : Arguments) (ps : List Parameter) : Action SessionState (List Value) :=
  .ofExcept ((a.bind ps).mapError Failure.misuse)

def wrongKind : Action SessionState α := .fail (.misuse .wrongKind)

/-- The updates that a value holds, read at once or later. -/
def givenUpdates (v : Value) (readFirst : Bool) : Except Failure (List (Given FlatUpdate)) :=
  match v.items? with
  | none => .error (.misuse .wrongKind)
  | some vs =>
    if readFirst then vs.mapM fun v => (FlatUpdate.ofValue v).map .ready
    else .ok (vs.map .raw)

/-- Does a step on registry and payloads. -/
def performOnRegistry : RegistryStep → Action SessionState Answer
  | .register model fields withCommon => do
    let r ← registry
    let (r, entry) ← Action.ofExcept (r.registerValue model fields withCommon)
    putRegistry r
    Action.write entry
    return .value .null
  | .unregister model => do
    let r ← registry
    Action.ofExcept (Registry.checkKey model)
    putRegistry (r.unregister model)
    return .value .null
  | .models => do
    let r ← registry
    return .value (.list (r.models.map Prod.fst))
  | .contains model => do
    let r ← registry
    Action.ofExcept (Registry.checkKey model)
    return .value (.bool (r.accepted? model).isSome)
  | .accepted model => do
    let r ← registry
    let fields ← Action.ofExcept (r.accepted model)
    match Value.sort? fields with
    | some fields => return .value (.list fields)
    | none => wrongKind
  | .isDynamic model => do
    let r ← registry
    return .value (.bool (r.isDynamic model))
  | .sanitize payload model => do
    let r ← registry
    let es ← r.sanitize payload model
    return .value (.mapping es)

/-- Does a step on a transaction. -/
def performOnTransaction (session : Session) (name : String)
    : TransactionStep → Action SessionState Answer
  | .start id user mode => do
    let tx ← onCore (session.gateway.newTransaction id user mode true)
    hold name tx
    return .value (.text tx.describe)
  | .startLoose ops id user mode isBound => do
    let tx ← onCore (session.gateway.newTransaction id user mode isBound)
    let given ← Action.ofExcept (looseOperations ops)
    match tx.addAll given with
    | (tx, none) =>
      hold name tx
      return .value (.text tx.describe)
    | (_, some e) => Action.fail e
  | .add ops readFirst => addTo name ops readFirst
  | .process => do
    let changed ← onHeld name session.gateway.process
    return .flat changed
  | .run => do
    let r ← onHeld name session.gateway.run
    return .result r
  | .inspect => do
    let tx ← held name
    return .transaction tx

/-- Does a step on the gateway. -/
def performOnGateway (session : Session) : GatewayStep → Action SessionState Answer
  | .group ops => do
    let ops ← Action.ofExcept (ops.mapM Operation.ofValue)
    return .buckets (Buckets.ofOperations ops)
  | .flatten buckets user => do
    let buckets ← Action.ofExcept ((LooseBucket.index buckets).mapError Failure.misuse)
    let g := session.gateway
    let a? ← Action.ofExcept (AuditStamp.of g.clock user)
    let flat ← Action.ofExcept (LooseBucket.flatten g.preferences a? buckets)
    return .flat flat
  | .dispatch flat => do
    let flat ← Action.ofExcept (flat.mapM FlatUpdate.ofValue)
    let success ← onStage (session.gateway.dispatch flat)
    return .value (.bool success)
  | .update model record payload user => do
    let r ← onCore (session.gateway.update model record payload user)
    return .result r
  | .bulkUpdate ops user readFirst => do
    let r ←
      if readFirst then
        match ops.items? with
        | some vs => do
          let given ← Action.ofExcept (readOperations vs)
          onCore (session.gateway.bulkUpdate given user)
        | none => wrongKind
      else onCore (session.gateway.bulkUpdateValue ops user)
    return .result r
  | .search r => do
    let found ← onStage (session.gateway.search r)
    return .value found
  | .compileFilter filter caller => do
    let q ← Action.ofExcept (session.gateway.compileFilter filter caller)
    return .value q.toValue
  | .compileSort spec => do
    let directives ← Gateway.compileSort spec
    return .value (SortOrder.toValue directives)

/-- Does a step on the connection. -/
def performOnConnection (session : Session) : ConnectionStep → Action SessionState Answer
  | .updateOne a => do
    match ← bound a updateOneParameters with
    | [model, selector, updates] =>
      let b ← onStage (session.connector.updateOne model selector updates)
      return .value (.bool b)
    | _ => wrongKind
  | .updateBulk a readFirst => do
    match ← bound a bulkParameters with
    | [items] =>
      let given ← Action.ofExcept (givenUpdates items readFirst)
      let b ← onStage (session.connector.updateBulkGiven given)
      return .value (.bool b)
    | _ => wrongKind
  | .find a => do
    match ← bound a findParameters with
    | [model, query, sort, projection, skip, limit] =>
      let found ← onStage (session.connector.find model ⟨query, sort, projection, skip, limit⟩)
      return .value (.list found)
    | _ => wrongKind
  | .countDocuments a => do
    match ← bound a countParameters with
    | [model, query] =>
      let n ← onStage (session.connector.countDocuments model query)
      return .value n
    | _ => wrongKind
  | .ping a => do
    let _ ← bound a []
    let b ← onStage session.connector.ping
    return .value (.bool b)
  | .close a => do
    let _ ← bound a []
    onStage session.connector.close
    return .value .null
  | .selectDatabase => do
    let database ← onStage session.connector.getDatabase
    return .value database.name
  | .makeClient => do
    let _ ← onStage session.connector.getClient
    return .value .null
  | .configuration =>
    let c := session.connector
    return .value (.list [c.uri, c.database, c.timeout])

/-- Does a step. -/
def perform (session : Session) : Step → Action SessionState Answer
  | .registry step => performOnRegistry step
  | .transaction name step => session.performOnTransaction name step
  | .gateway step => session.performOnGateway step
  | .connection step => session.performOnConnection step

/-- Everything that a step shows: its answer, its calls and its log entries. -/
structure StepReport where
  answer : Except Failure Answer
  /-- The transaction that the step is about, as it stands afterwards. -/
  transaction? : Option Transaction
  calls : List StorageCall
  hookCalls : List HookCall
  log : List LogEntry

/-- Does a step and tells everything that it shows. -/
def report (session : Session) (step : Step) (s : SessionState) : StepReport × SessionState :=
  let o := (session.perform step).run s
  let script := o.state.core.storage.2
  let cleared := { o.state with core := { o.state.core with
    storage := (o.state.core.storage.1, script.clear) } }
  (⟨o.result, step.transaction?.bind o.state.transactions.get?, script.calls, script.hookCalls,
    o.log⟩, cleared)

end Session

end DocGateway
