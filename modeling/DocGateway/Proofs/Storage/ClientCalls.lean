import DocGateway.Storage.Connection

/-!
Connections seen from the client's side: every call of the client, in order.

Any client can be recorded. Recording adds a history of calls to the state of the server and changes
nothing else, and a connection asks for a client at most once before it makes a write. Selecting by
name reaches no server and is no call.
-/

namespace DocGateway

variable {κ σ τ α : Type}

/-- A call of a client. -/
inductive ClientCall (κ : Type) where
  | connect (uri timeout : Value)
  | updateOne (database : Database κ) (collection : Value) (write : RecordWrite)
  | bulkWrite (database : Database κ) (collection : Value) (writes : List RecordWrite)
  | find (database : Database κ) (collection : Value) (search : CollectionSearch)
  | sort (directives : List Value)
  | count (database : Database κ) (collection query : Value)
  | ping (client : κ)
  | close (client : κ)

abbrev Recorded (κ σ : Type) : Type := σ × List (ClientCall κ)

/-- Does an action and adds the call that it is to the history. -/
def Action.recorded (call : ClientCall κ) (x : Action σ α) : Action (Recorded κ σ) α :=
  ⟨fun t => ⟨(x.run t.1).result, ((x.run t.1).state, t.2 ++ [call]), (x.run t.1).log⟩⟩

@[simp]
theorem Action.run_recorded (call : ClientCall κ) (x : Action σ α) (t : Recorded κ σ)
    : (x.recorded call).run t
      = ⟨(x.run t.1).result, ((x.run t.1).state, t.2 ++ [call]), (x.run t.1).log⟩ := rfl

/-- Does an action beside something that it leaves alone. -/
def Action.beside (x : Action σ α) : Action (σ × τ) α := x.onPart Prod.fst fun s t => (s, t.2)

@[simp]
theorem Action.run_beside (x : Action σ α) (t : σ × τ)
    : x.beside.run t = ⟨(x.run t.1).result, ((x.run t.1).state, t.2), (x.run t.1).log⟩ := rfl

def DatabaseClient.recorded (d : DatabaseClient κ σ) : DatabaseClient κ (Recorded κ σ) where
  connect uri timeout := (d.connect uri timeout).recorded (.connect uri timeout)
  selectDatabase client name := (d.selectDatabase client name).beside
  selectCollection database name := (d.selectCollection database name).beside
  updateOne database collection selector change :=
    (d.updateOne database collection selector change).recorded
      (.updateOne database collection ⟨selector, change⟩)
  bulkWrite database collection writes :=
    (d.bulkWrite database collection writes).recorded (.bulkWrite database collection writes)
  find database collection search :=
    (d.find database collection search).recorded (.find database collection search)
  sort cursor directives := (d.sort cursor directives).recorded (.sort directives)
  count database collection query :=
    (d.count database collection query).recorded (.count database collection query)
  ping client := (d.ping client).recorded (.ping client)
  close client := (d.close client).recorded (.close client)

namespace Connector

def recorded (c : Connector κ σ) : Connector κ (Recorded κ σ) where
  uri := c.uri
  database := c.database
  timeout := c.timeout
  client := c.client.recorded
  level := c.level

@[simp]
theorem run_note (level : LogLevel) (text : String) (s : Connection κ × σ)
    : (note level text).run s = ⟨.ok (), s, [⟨level, LogSource.connection, text⟩]⟩ := rfl

/-- What an outcome is with more calls in the history. -/
def withCalls (past calls : List (ClientCall κ)) (o : Outcome (Connection κ × σ) α)
    : Outcome (Connection κ × Recorded κ σ) α :=
  ⟨o.result, (o.state.1, (o.state.2, past ++ calls)), o.log⟩

/-- The calls that getting a client makes. -/
def clientCalls (c : Connector κ σ) (k : Connection κ) : List (ClientCall κ) :=
  match k.client? with
  | some _ => []
  | none => if c.uri.truthy then [.connect c.uri c.timeout] else []

/-- The calls that getting the database makes. -/
def databaseCalls (c : Connector κ σ) (k : Connection κ) : List (ClientCall κ) :=
  match k.database? with
  | some _ => []
  | none => if c.database.truthy then c.clientCalls k else []

theorem run_getClient_recorded (c : Connector κ σ) (k : Connection κ) (t : σ)
    (past : List (ClientCall κ))
    : c.recorded.getClient.run (k, (t, past))
      = withCalls past (c.clientCalls k) (c.getClient.run (k, t)) := by
  have uri : c.recorded.uri = c.uri := rfl
  have connect : c.recorded.client.connect c.uri c.recorded.timeout
      = (c.client.connect c.uri c.timeout).recorded (.connect c.uri c.timeout) := rfl
  simp only [getClient, clientCalls, Action.run_bind, Action.run_current, Outcome.andThen_ok]
  cases k.client? with
  | some client => simp [withCalls]
  | none =>
    dsimp only
    rw [uri, connect]
    by_cases given : c.uri.truthy = true
    · rw [if_pos given, if_pos given, if_pos given]
      simp only [Action.run_bind, Action.run_onSecond, Action.run_mapFailure, Action.run_recorded]
      rcases (c.client.connect c.uri c.timeout).run t with ⟨failure | client, after, log⟩
      · rfl
      · rfl
    · rw [if_neg given, if_neg given, if_neg given]
      simp [withCalls]

theorem run_getDatabase_recorded (c : Connector κ σ) (k : Connection κ) (t : σ)
    (past : List (ClientCall κ))
    : c.recorded.getDatabase.run (k, (t, past))
      = withCalls past (c.databaseCalls k) (c.getDatabase.run (k, t)) := by
  have database : c.recorded.database = c.database := rfl
  simp only [getDatabase, databaseCalls, Action.run_bind, Action.run_current, Outcome.andThen_ok]
  cases k.database? with
  | some database => simp [withCalls]
  | none =>
    dsimp only
    rw [database]
    by_cases given : c.database.truthy = true
    · rw [if_pos given, if_pos given, if_pos given]
      have select (client : κ) : c.recorded.client.selectDatabase client c.database
          = (c.client.selectDatabase client c.database).beside := rfl
      simp only [Action.run_bind, run_getClient_recorded, select]
      rcases c.getClient.run (k, t) with ⟨failure | client, ⟨k', t'⟩, log⟩
      · rfl
      · simp only [withCalls, Action.run_bind, Outcome.andThen_ok, Action.run_onSecond,
          Action.run_beside]
        rcases (c.client.selectDatabase client c.database).run t' with ⟨failure | _, after, log'⟩
        · rfl
        · rfl
    · rw [if_neg given, if_neg given, if_neg given]
      simp [withCalls]

theorem run_getCollection_recorded (c : Connector κ σ) (model : Value) (k : Connection κ) (t : σ)
    (past : List (ClientCall κ))
    : (c.recorded.getCollection model).run (k, (t, past))
      = withCalls past (c.databaseCalls k) ((c.getCollection model).run (k, t)) := by
  have select (database : Database κ) : c.recorded.client.selectCollection database model
      = (c.client.selectCollection database model).beside := rfl
  simp only [getCollection, Action.run_bind, run_getDatabase_recorded, select]
  rcases c.getDatabase.run (k, t) with ⟨failure | database, ⟨k', t'⟩, log⟩
  · rfl
  · simp only [withCalls, Action.run_bind, Outcome.andThen_ok, Action.run_onSecond,
      Action.run_beside]
    rcases (c.client.selectCollection database model).run t' with ⟨failure | _, after, log'⟩
    · rfl
    · rfl

end Connector

end DocGateway
