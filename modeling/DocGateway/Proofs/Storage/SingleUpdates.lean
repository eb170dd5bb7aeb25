import DocGateway.Proofs.Except
import DocGateway.Proofs.Storage.ClientCalls
import DocGateway.Proofs.Transaction.Endings

/-!
Two ways to send a single update: by itself, or as a list of one.

A connection makes the same write either way, and its answer depends on what the client makes of the
write alone. A run of a transaction can tell the two ways apart by the texts of failures only.
-/

namespace DocGateway

variable {κ σ : Type}

-----------------------------------------------------------------------------------------
-- Answers that differ in texts only
-----------------------------------------------------------------------------------------

/-- Failures of one class, whatever their texts are. -/
inductive Failure.SameClass : Failure → Failure → Prop
  | report {r r' : Report} (same : r.reportClass = r'.reportClass)
    : SameClass (.report r) (.report r')
  | client {e e' : ClientError} (same : e.name = e'.name) : SameClass (.client e) (.client e')
  | foreign (name message message' : String)
    : SameClass (.foreign name message) (.foreign name message')
  | invalid (ps ps' : List Problem) : SameClass (.invalid ps) (.invalid ps')
  | itself (e : Failure) : SameClass e e

inductive AnswersAlike {α : Type} : Except Failure α → Except Failure α → Prop
  | answer (a : α) : AnswersAlike (.ok a) (.ok a)
  | failure {e e' : Failure} (same : e.SameClass e') : AnswersAlike (.error e) (.error e')

theorem AnswersAlike.map {α β : Type} (f : α → β) {x y : Except Failure α}
    (alike : AnswersAlike x y)
    : AnswersAlike (x.map f) (y.map f) := by
  cases alike with
  | answer a => exact .answer (f a)
  | failure same => exact .failure same

/-- Outcomes of a write that are told alike: receipts with the same acknowledgement, client errors
that both mean a lost connection or both do not, or other failures of one class. The counts may
differ, but both are there or both are missing.
-/
inductive ReceiptsAlike : Except Failure WriteReceipt → Except Failure WriteReceipt → Prop
  | receipt {r r' : WriteReceipt} (acknowledged : r.acknowledged = r'.acknowledged)
      (counted : AnswersAlike (r.count.map fun _ => ()) (r'.count.map fun _ => ()))
    : ReceiptsAlike (.ok r) (.ok r')
  | client {e e' : ClientError} (same : e.isConnection = e'.isConnection)
    : ReceiptsAlike (.error (.client e)) (.error (.client e'))
  | failure {e e' : Failure} (same : e.SameClass e') : ReceiptsAlike (.error e) (.error e')

/-- A client to which a write by itself and a list of this write only are the same. -/
structure DatabaseClient.WritesAlike (d : DatabaseClient κ σ) : Prop where
  receipts
    : ∀ database collection (w : RecordWrite) s,
        ReceiptsAlike ((d.updateOne database collection w.selector w.change).run s).result
          ((d.bulkWrite database collection [w]).run s).result
  state
    : ∀ database collection (w : RecordWrite) s,
        ((d.updateOne database collection w.selector w.change).run s).state
          = ((d.bulkWrite database collection [w]).run s).state

namespace Connector

theorem sameClass_callFailure_client {e e' : ClientError} (same : e.isConnection = e'.isConnection)
    (call call' : String) (model : Value) (details details' : List (String × Value))
    : (callFailure call model details (.client e)).SameClass
        (callFailure call' model details' (.client e')) := by
  simp only [callFailure, same]
  split
  · exact .report rfl
  · exact .report rfl

theorem sameClass_callFailure {e e' : Failure} (same : e.SameClass e') (call call' : String)
    (model : Value) (details details' : List (String × Value))
    : (callFailure call model details e).SameClass (callFailure call' model details' e') := by
  cases same with
  | report same => exact .report same
  | client same =>
    exact sameClass_callFailure_client (congrArg ClientError.connectionNames.contains same) ..
  | foreign => exact .foreign ..
  | invalid => exact .invalid ..
  | itself e =>
    cases e
    case client e => exact sameClass_callFailure_client rfl ..
    all_goals exact .itself _

-----------------------------------------------------------------------------------------
-- One write through a connection
-----------------------------------------------------------------------------------------

/-- Reads a receipt, the count before the acknowledgement. -/
def reporting (shown : Value → String) (receipt : WriteReceipt)
    : Action (Connection κ × σ) Bool := do
  let count ← Action.ofExcept receipt.count
  note .debug (shown count)
  return receipt.acknowledged.truthy

theorem run_reporting (shown : Value → String) (receipt : WriteReceipt)
    : ∃ log, ∀ {κ σ : Type} (s : Connection κ × σ),
        (reporting shown receipt).run s
          = ⟨receipt.count.map fun _ => receipt.acknowledged.truthy, s, log⟩ := by
  simp only [reporting, Action.run_bind, Action.run_ofExcept]
  cases receipt.count with
  | error e => exact ⟨[], fun _ => rfl⟩
  | ok n => exact ⟨[⟨.debug, LogSource.connection, shown n⟩], fun _ => rfl⟩

theorem reporting_alike {r r' : WriteReceipt} (acknowledged : r.acknowledged = r'.acknowledged)
    (counted : AnswersAlike (r.count.map fun _ => ()) (r'.count.map fun _ => ()))
    (shown shown' : Value → String) (s : Connection κ × σ)
    : AnswersAlike ((reporting shown r).run s).result ((reporting shown' r').run s).result
      ∧ ((reporting shown r).run s).state = ((reporting shown' r').run s).state := by
  obtain ⟨log, reported⟩ := run_reporting shown r
  obtain ⟨log', reported'⟩ := run_reporting shown' r'
  have told := counted.map fun _ => r'.acknowledged.truthy
  rw [Except.map_map, Except.map_map] at told
  rw [reported, reported', acknowledged]
  exact ⟨told, rfl⟩

/-- Requests a write to the collection of a model; tells whether it was acknowledged. -/
def writing (c : Connector κ σ) (call : String) (model : Value) (details : List (String × Value))
    (shown : Value → String) (request : Database κ → Action σ WriteReceipt)
    : Action (Connection κ × σ) Bool := do
  let made : Action (Connection κ × σ) WriteReceipt := do
    let database ← c.getCollection model
    (request database).onSecond
  let receipt ← made.mapFailure (callFailure call model details)
  reporting shown receipt

/-- Requests that come to the same are answered alike, under any names and messages. -/
theorem writing_alike (c : Connector κ σ) (call call' : String) (model : Value)
    (details details' : List (String × Value)) (shown shown' : Value → String)
    {request request' : Database κ → Action σ WriteReceipt}
    (receipts
      : ∀ database t,
          ReceiptsAlike ((request database).run t).result ((request' database).run t).result)
    (state : ∀ database t, ((request database).run t).state = ((request' database).run t).state)
    (s : Connection κ × σ)
    : AnswersAlike ((c.writing call model details shown request).run s).result
        ((c.writing call' model details' shown' request').run s).result
      ∧ ((c.writing call model details shown request).run s).state
        = ((c.writing call' model details' shown' request').run s).state := by
  simp only [writing, Action.run_bind, Action.run_mapFailure]
  rcases (c.getCollection model).run s with ⟨failure | database, ⟨k, t⟩, log⟩
  · exact ⟨.failure (sameClass_callFailure (.itself failure) ..), rfl⟩
  -- Both have the same collection and the same server now, and differ in the request only.
  · have told := receipts database t
    have left := state database t
    simp only [Outcome.andThen_ok, Action.run_onSecond, Outcome.after_mk]
    revert told left
    rcases (request database).run t with ⟨result, after, log⟩
    rcases (request' database).run t with ⟨result', after', log'⟩
    intro told left
    dsimp only at told left ⊢
    obtain rfl := left
    cases told with
    | client same => exact ⟨.failure (sameClass_callFailure_client same ..), rfl⟩
    | failure same => exact ⟨.failure (sameClass_callFailure same ..), rfl⟩
    | receipt acknowledged counted => exact reporting_alike acknowledged counted shown shown' _

/-- The calls of a write: those for the database, and the request if there is one. -/
def writeCalls (c : Connector κ σ) (model : Value) (call : Database κ → ClientCall κ)
    (s : Connection κ × σ)
    : List (ClientCall κ) :=
  c.databaseCalls s.1
    ++ match ((c.getCollection model).run s).result with
      | .ok database => [call database]
      | .error _ => []

theorem run_writing_recorded (c : Connector κ σ) (name : String) (model : Value)
    (details : List (String × Value)) (shown : Value → String)
    {request : Database κ → Action σ WriteReceipt}
    {recording : Database κ → Action (Recorded κ σ) WriteReceipt} {call : Database κ → ClientCall κ}
    (records : ∀ database, recording database = (request database).recorded (call database))
    (k : Connection κ) (t : σ) (past : List (ClientCall κ))
    : (c.recorded.writing name model details shown recording).run (k, (t, past))
      = withCalls past (c.writeCalls model call (k, t))
          ((c.writing name model details shown request).run (k, t)) := by
  simp only [writing, writeCalls, Action.run_bind, Action.run_mapFailure,
    run_getCollection_recorded, records]
  rcases (c.getCollection model).run (k, t) with ⟨failure | database, ⟨k', t'⟩, log⟩
  · simp [withCalls, Except.mapError_error]
  · simp only [withCalls, Outcome.andThen_ok, Action.run_onSecond, Action.run_recorded,
      Outcome.after_mk]
    rcases (request database).run t' with ⟨failure | receipt, after, log'⟩
    · simp [Except.mapError_error]
    · obtain ⟨reports, reported⟩ := run_reporting shown receipt
      simp [Except.mapError_ok, reported]

end Connector

-----------------------------------------------------------------------------------------
-- The two ways to send an update
-----------------------------------------------------------------------------------------

/-- How a single update is sent. -/
inductive Sending where
  | alone
  | listed

/-- The update as a write: what selects its record, and the fields to set. -/
def FlatUpdate.write (f : FlatUpdate) : RecordWrite :=
  ⟨Value.fields [("_id", .text f.record)], Value.fields [("$set", f.updates.toValue)]⟩

namespace Sending

/-- What is asked of the client. -/
def request (d : DatabaseClient κ σ) (f : FlatUpdate)
    : Sending → Database κ → Action σ WriteReceipt
  | alone, database => d.updateOne database (.text f.model) f.write.selector f.write.change
  | listed, database => d.bulkWrite database (.text f.model) [f.write]

def call (f : FlatUpdate) : Sending → Database κ → ClientCall κ
  | alone, database => .updateOne database (.text f.model) f.write
  | listed, database => .bulkWrite database (.text f.model) [f.write]

theorem request_recorded (d : DatabaseClient κ σ) (f : FlatUpdate) (how : Sending)
    (database : Database κ)
    : how.request d.recorded f database
      = (how.request d f database).recorded (how.call f database) := by
  cases how <;> rfl

end Sending

def StorageDriver.sendSingle (d : StorageDriver σ) (f : FlatUpdate) : Sending → Action σ Value
  | .alone => d.updateOne f.model f.selector f.updates
  | .listed => d.updateBulk [f]

namespace Connector

theorem updateBulk_single (c : Connector κ σ) (f : FlatUpdate)
    : c.updateBulk [f] = c.sendModel f.model [f] := by
  have one : (byModel [f]).entries = [(f.model, [f])] := rfl
  simp only [updateBulk, one, Action.collect, pure_bind, bind_assoc]
  simp

/-- Either way is one write through the connection. -/
theorem sendSingle_eq (f : FlatUpdate) (how : Sending)
    : ∃ name details shown, ∀ {κ σ : Type} (c : Connector κ σ),
        c.driver.sendSingle f how
          = Value.bool
            <$> c.writing name (.text f.model) details shown (how.request c.client f) := by
  cases how with
  | alone => exact ⟨_, _, _, fun _ => rfl⟩
  | listed =>
    have single {κ σ : Type} (c : Connector κ σ)
        : c.driver.sendSingle f .listed = Value.bool <$> c.sendModel f.model [f] := by
      rw [← updateBulk_single]
      rfl
    exact ⟨_, _, _, fun c => (single c).trans rfl⟩

/-- The calls of either way are those of one write, and recording them changes nothing else. -/
theorem run_sendSingle_recorded (c : Connector κ σ) (f : FlatUpdate) (how : Sending)
    (k : Connection κ) (t : σ) (past : List (ClientCall κ))
    : (c.recorded.driver.sendSingle f how).run (k, (t, past))
      = withCalls past (c.writeCalls (.text f.model) (how.call f) (k, t))
          ((c.driver.sendSingle f how).run (k, t)) := by
  obtain ⟨name, details, shown, single⟩ := sendSingle_eq f how
  have recorded := c.run_writing_recorded name (.text f.model) details shown
    (how.request_recorded c.client f) k t past
  have client : c.recorded.client = c.client.recorded := rfl
  rw [single, single, Action.run_map, Action.run_map, client, recorded]
  rfl

/-- Both ways have the same answer, apart from texts, and leave the same state. -/
theorem sendSingle_alike (c : Connector κ σ) (alike : c.client.WritesAlike) (f : FlatUpdate)
    (s : Connection κ × σ)
    : AnswersAlike ((c.driver.sendSingle f .alone).run s).result
        ((c.driver.sendSingle f .listed).run s).result
      ∧ ((c.driver.sendSingle f .alone).run s).state
        = ((c.driver.sendSingle f .listed).run s).state := by
  obtain ⟨name, details, shown, alone⟩ := sendSingle_eq f .alone
  obtain ⟨name', details', shown', listed⟩ := sendSingle_eq f .listed
  obtain ⟨answers, state⟩ :=
    c.writing_alike name name' (.text f.model) details details' shown shown'
      (fun database => alike.receipts database (.text f.model) f.write)
      (fun database => alike.state database (.text f.model) f.write) s
  rw [alone, listed, Action.run_map, Action.run_map]
  exact ⟨answers.map Value.bool, state⟩

end Connector

-----------------------------------------------------------------------------------------
-- Runs that send a single update
-----------------------------------------------------------------------------------------

/-- The record that a selector names. -/
def selectedRecord : Value → String
  | .mapping es =>
    match Value.lookup? (.text "_id") es with
    | some (.text record) => record
    | _ => ""
  | _ => ""

/-- The driver that sends a single update as a list of one, too. -/
def StorageDriver.listing (d : StorageDriver σ) : StorageDriver σ :=
  { d with updateOne := fun model selector updates =>
      d.updateBulk [⟨model, selectedRecord selector, updates⟩] }

/-- The coalescer that sends a single update as a list of one, too. -/
def Coalescer.listing (c : Coalescer σ) : Coalescer σ := { c with driver := c.driver.listing }

theorem Coalescer.settlement_single (c : Coalescer σ) (f : FlatUpdate) (s : σ)
    : c.settlement [f] s
      = (.ofAnswer [f] ((c.driver.sendSingle f .alone).run s).result,
          ((c.driver.sendSingle f .alone).run s).state) := rfl

theorem Coalescer.settlement_single_listing (c : Coalescer σ) (f : FlatUpdate) (s : σ)
    : c.listing.settlement [f] s
      = (.ofAnswer [f] ((c.driver.sendSingle f .listed).run s).result,
          ((c.driver.sendSingle f .listed).run s).state) := rfl

/-- Settlements that differ in the text of storage's failure only. -/
inductive Settlement.Alike : Settlement → Settlement → Prop
  | committed (flat : List FlatUpdate) : Alike (.committed flat) (.committed flat)
  | rolledBack (flat : List FlatUpdate) {failure? failure?' : Option Failure}
      (failures : Option.Rel Failure.SameClass failure? failure?')
    : Alike (.rolledBack flat failure?) (.rolledBack flat failure?')

theorem Settlement.alike_ofAnswer (flat : List FlatUpdate) {answer answer' : Except Failure Value}
    (alike : AnswersAlike answer answer')
    : (ofAnswer flat answer).Alike (ofAnswer flat answer') := by
  cases alike with
  | failure same => exact .rolledBack flat (.some same)
  | answer value =>
    unfold ofAnswer
    dsimp only
    split
    · exact .committed flat
    · exact .rolledBack flat .none

/-- Calls of a hook that tell it the same, apart from the text of storage's failure. -/
inductive Exchange.HandsAlike : Exchange → Exchange → Prop
  | commit {tx tx' : Transaction} (state : tx.state = tx'.state) (flat : List FlatUpdate)
      (answer answer' : Except Failure Unit)
    : HandsAlike (.commit tx flat answer) (.commit tx' flat answer')
  | rollback {tx tx' : Transaction} (state : tx.state = tx'.state) (flat : List FlatUpdate)
      {failure? failure?' : Option Failure}
      (failures : Option.Rel Failure.SameClass failure? failure?')
      (answer answer' : Except Failure Unit)
    : HandsAlike (.rollback tx flat failure? answer) (.rollback tx' flat failure?' answer')

theorem Settlement.Alike.state_changed {e e' : Settlement} (alike : e.Alike e')
    : e.state = e'.state ∧ e.changed = e'.changed := by
  cases alike with
  | committed => exact ⟨rfl, rfl⟩
  | rolledBack => exact ⟨rfl, rfl⟩

theorem Settlement.Alike.handsAlike {e e' : Settlement} (alike : e.Alike e') (tx : Transaction)
    (id : String) (answer answer' : Except Failure Unit)
    : (Exchange.ofHook (tx.settled (e.result id)) e answer).HandsAlike
        (.ofHook (tx.settled (e'.result id)) e' answer') := by
  cases alike with
  | committed flat => exact .commit (by rfl) flat answer answer'
  | rolledBack flat failures => exact .rollback (by rfl) flat failures answer answer'

/-- A run that returns a result, leaves its state in the transaction, and calls storage and then a
hook, each once.
-/
structure Coalescer.Sends (c : Coalescer σ) (tx : Transaction) (s : σ)
    (returned : TransactionResult) (hook : Exchange) : Prop where
  returns : (c.run.run (tx, s)).result = .ok returned
  leaves : (c.run.run (tx, s)).state.1.state = returned.state
  exchanges : ∃ call, call.isStorage = true ∧ c.exchanges tx s = [call, hook]

theorem Coalescer.sends_of_single (c : Coalescer σ) {tx : Transaction} {f : FlatUpdate}
    (fresh : tx.isProcessed = false) {id : String} (named : tx.id = .text id)
    (flattened : c.flatten tx.user tx.operations = .ok [f]) (s : σ)
    : ∃ answer,
        c.Sends tx s (c.returned tx id s)
          (.ofHook (tx.settled ((c.settlement [f] s).1.result id)) (c.settlement [f] s).1 answer)
        ∧ (c.returned tx id s).state = (c.settlement [f] s).1.state
        ∧ (c.returned tx id s).operations = (c.settlement [f] s).1.changed := by
  have updates : c.updatesFor tx.user tx.operations = [f] := (eq_updatesFor flattened).symm
  have ending : c.ending tx s = c.settlement [f] s := by rw [Coalescer.ending, updates]
  have flattens : c.Flattens tx := .inr (by rw [flattened, updates])
  obtain ⟨result, state⟩ := flattens.run_eq fresh named s
  have observed := (flattens.observed_run_eq fresh named s []).2
  refine ⟨(c.hooked tx id s).result, ⟨result, by rw [state]; rfl, ?_⟩, ?_, ?_⟩
  · refine ⟨.ofSend [f] ((c.driver.send [f]).run s).result, rfl, ?_⟩
    rw [exchanges, observed, conversation, updates, ending]
    rfl
  · rw [state_returned, ending]
  · rw [operations_returned, ending]

/-- A coalescer's runs that send the same single update in the two ways. -/
theorem Coalescer.sends_alike {c : Coalescer σ} {f : FlatUpdate} {s : σ}
    (answers
      : AnswersAlike ((c.driver.sendSingle f .alone).run s).result
          ((c.driver.sendSingle f .listed).run s).result)
    {tx : Transaction} (fresh : tx.isProcessed = false) {id : String} (named : tx.id = .text id)
    (flattened : c.flatten tx.user tx.operations = .ok [f])
    : ∃ returned returned' hook hook',
        c.Sends tx s returned hook
        ∧ c.listing.Sends tx s returned' hook'
        ∧ returned.state = returned'.state
        ∧ returned.operations = returned'.operations
        ∧ hook.HandsAlike hook' := by
  obtain ⟨answer, sends, state, operations⟩ := c.sends_of_single fresh named flattened s
  obtain ⟨answer', sends', state', operations'⟩ :=
    c.listing.sends_of_single fresh named flattened s
  have alike : (c.settlement [f] s).1.Alike (c.listing.settlement [f] s).1 := by
    rw [settlement_single, settlement_single_listing]
    exact Settlement.alike_ofAnswer [f] answers
  obtain ⟨states, changes⟩ := alike.state_changed
  refine ⟨_, _, _, _, sends, sends', ?_, ?_, alike.handsAlike tx id answer answer'⟩
  · rw [state, state', states]
  · rw [operations, operations', changes]

/-- A single update is sent alike by itself and as a list of one. The connection asks for the same
database and makes the same write to it, has the same answer, apart from the text of a failure, and
is left in the same state; a run that sends the update comes to the same state and operations and
hands a failure of the same class to its hook.
-/
theorem Connector.single_update_sent_alike (c : Connector κ σ) (alike : c.client.WritesAlike)
    (f : FlatUpdate) (s : Connection κ × σ)
    : let alone := (c.driver.sendSingle f .alone).run s
      let listed := (c.driver.sendSingle f .listed).run s
      (∀ past,
        (c.recorded.driver.sendSingle f .alone).run (s.1, (s.2, past))
            = withCalls past (c.writeCalls (.text f.model) (Sending.alone.call f) s) alone
          ∧ (c.recorded.driver.sendSingle f .listed).run (s.1, (s.2, past))
            = withCalls past (c.writeCalls (.text f.model) (Sending.listed.call f) s) listed)
      ∧ alone.state = listed.state
      ∧ AnswersAlike alone.result listed.result
      ∧ ∀ (coalescer : Coalescer (Connection κ × σ)) (tx : Transaction) (id : String),
          coalescer.driver = c.driver
          → tx.isProcessed = false
          → tx.id = .text id
          → coalescer.flatten tx.user tx.operations = .ok [f]
          → ∃ returned returned' hook hook',
              coalescer.Sends tx s returned hook
              ∧ coalescer.listing.Sends tx s returned' hook'
              ∧ returned.state = returned'.state
              ∧ returned.operations = returned'.operations
              ∧ hook.HandsAlike hook' := by
  intro alone listed
  obtain ⟨answers, state⟩ := c.sendSingle_alike alike f s
  refine ⟨?_, state, answers, ?_⟩
  · exact fun past => ⟨c.run_sendSingle_recorded f .alone s.1 s.2 past,
      c.run_sendSingle_recorded f .listed s.1 s.2 past⟩
  · intro coalescer tx id driver fresh named flattened
    rw [← driver] at answers
    exact Coalescer.sends_alike answers fresh named flattened

/-- A first write, which the server refuses with two different errors, so that the connection is
made and the transaction is rolled back.
-/
theorem Connector.single_update_sent_alike_of_refused_write
    : let refused (name text : String) : Failure := .client ⟨name, text⟩
      let client : DatabaseClient Unit Unit :=
        { connect := fun _ _ => pure ()
          selectDatabase := fun _ _ => pure ()
          selectCollection := fun _ _ => pure ()
          updateOne := fun _ _ _ _ => .fail (refused "WriteError" "immutable field")
          bulkWrite := fun _ _ _ => .fail (refused "BulkWriteError" "batch op errors occurred")
          find := fun _ _ _ => pure ⟨[], none⟩
          sort := fun cursor _ => pure cursor
          count := fun _ _ _ => pure (.int 0)
          ping := fun _ => pure ()
          close := fun _ => pure () }
      let c : Connector Unit Unit :=
        ⟨.text "cluster", .text "records", .int 2000, client, .info⟩
      let f : FlatUpdate := ⟨"task", "t1", .ofList [("name", .text "Apollo")]⟩
      let s : Connection Unit × Unit := (⟨none, none⟩, ())
      let coalescer : Coalescer (Connection Unit × Unit) :=
        ⟨c.driver, .silent, .fixed ⟨⟨2024, 1, 5⟩, 10, 30, 0, 0, some 0⟩, .standard, .info⟩
      let tx : Transaction :=
        { Transaction.new coalescer.preferences (.text "x") .null .null true with
          operations := [⟨f.model, f.record, f.updates⟩] }
      let database : Database Unit := ⟨(), .text "records"⟩
      c.client.WritesAlike
      ∧ coalescer.flatten tx.user tx.operations = .ok [f]
      ∧ c.writeCalls (.text f.model) (Sending.listed.call f) s
        = [.connect (.text "cluster") (.int 2000), .bulkWrite database (.text "task") [f.write]]
      ∧ ((c.driver.sendSingle f .alone).run s).state = ((c.driver.sendSingle f .listed).run s).state
      ∧ ((c.driver.sendSingle f .listed).run s).state.1 = ⟨some (), some database⟩
      ∧ ∃ returned returned' hook hook',
          coalescer.Sends tx s returned hook
          ∧ coalescer.listing.Sends tx s returned' hook'
          ∧ returned.state = returned'.state
          ∧ returned.operations = returned'.operations
          ∧ hook.HandsAlike hook' := by
  intro refused client c f s coalescer tx database
  have alike : c.client.WritesAlike := ⟨fun _ _ _ _ => .client rfl, fun _ _ _ _ => rfl⟩
  have flattened : coalescer.flatten tx.user tx.operations = .ok [f] := rfl
  obtain ⟨_, state, _, runs⟩ := c.single_update_sent_alike alike f s
  exact ⟨alike, flattened, rfl, state, rfl, runs coalescer tx "x" rfl rfl rfl flattened⟩

end DocGateway
