import DocGateway.Proofs.Storage.OnDemand
import DocGateway.Proofs.Storage.ShownRecords
import DocGateway.Proofs.Storage.SingleUpdates

/-!
Answers of a connection.

For each request one relation says what it is answered with, by what the client made of its calls.
Inside a search, a count or a write all errors of the client are told, also a refusal of the
collection's name (`Connector.CallAnswer`).
-/

namespace DocGateway

variable {κ σ α β : Type}

/-- What can be read of the client's answers: receipts have their counts, and documents are
mappings, also in an order that was asked for.
-/
structure DatabaseClient.Readable (d : DatabaseClient κ σ) : Prop where
  updateOne
    : ∀ {database collection selector change t receipt},
        ((d.updateOne database collection selector change).run t).result = .ok receipt
        → ∃ n, receipt.count = .ok n
  bulkWrite
    : ∀ {database collection writes t receipt},
        ((d.bulkWrite database collection writes).run t).result = .ok receipt
        → ∃ n, receipt.count = .ok n
  find
    : ∀ {database collection search t cursor},
        ((d.find database collection search).run t).result = .ok cursor
        → ∀ v ∈ cursor.documents, ∃ es, v = .mapping es
  sort
    : ∀ {cursor directives t ordered},
        (∀ v ∈ cursor.documents, ∃ es, v = .mapping es)
        → ((d.sort cursor directives).run t).result = .ok ordered
        → ∀ v ∈ ordered.documents, ∃ es, v = .mapping es

namespace Connector

variable {c : Connector κ σ} {s : Connection κ × σ}

-----------------------------------------------------------------------------------------
-- The client, the database, collections and pings
-----------------------------------------------------------------------------------------

/-- What a request for the client is answered with. -/
inductive ClientAnswer (c : Connector κ σ) (s : Connection κ × σ) : Except Failure κ → Prop
  | kept {client : κ} (kept : s.1.client? = some client) : c.ClientAnswer s (.ok client)
  | unset (absent : s.1.client? = none) (unset : c.uri.truthy = false)
    : c.ClientAnswer s (.error (missing "MONGO_URI"))
  | made {client : κ} (absent : s.1.client? = none) (set : c.uri.truthy = true)
      (made : ((c.client.connect c.uri c.timeout).run s.2).result = .ok client)
    : c.ClientAnswer s (.ok client)
  | refused {e : ClientError} (absent : s.1.client? = none) (set : c.uri.truthy = true)
      (failed : ((c.client.connect c.uri c.timeout).run s.2).result = .error (.client e))
    : c.ClientAnswer s
        (.error (.report
          ⟨.storageConnection, .text ("Cannot create MongoDB client: " ++ e.message), []⟩))
  | passedOn {f : Failure} (absent : s.1.client? = none) (set : c.uri.truthy = true)
      (failed : ((c.client.connect c.uri c.timeout).run s.2).result = .error f)
      (own : ∀ e, f ≠ .client e)
    : c.ClientAnswer s (.error f)

/-- What a request for the database is answered with. A refusal of its name is passed on. -/
inductive DatabaseAnswer (c : Connector κ σ) (s : Connection κ × σ)
    : Except Failure (Database κ) → Prop
  | kept {database : Database κ} (kept : s.1.database? = some database)
    : c.DatabaseAnswer s (.ok database)
  | unset (absent : s.1.database? = none) (unset : c.database.truthy = false)
    : c.DatabaseAnswer s (.error (missing "MONGO_DB_NAME"))
  | noClient {f : Failure} (absent : s.1.database? = none) (set : c.database.truthy = true)
      (failed : c.ClientAnswer s (.error f))
    : c.DatabaseAnswer s (.error f)
  | selected {client : κ} {s' : Connection κ × σ} {log : List LogEntry}
      (absent : s.1.database? = none) (set : c.database.truthy = true)
      (got : c.getClient.run s = ⟨.ok client, s', log⟩)
      (selected : ((c.client.selectDatabase client c.database).run s'.2).result = .ok ())
    : c.DatabaseAnswer s (.ok ⟨client, c.database⟩)
  | refused {client : κ} {s' : Connection κ × σ} {log : List LogEntry} {f : Failure}
      (absent : s.1.database? = none) (set : c.database.truthy = true)
      (got : c.getClient.run s = ⟨.ok client, s', log⟩)
      (refused : ((c.client.selectDatabase client c.database).run s'.2).result = .error f)
    : c.DatabaseAnswer s (.error f)

/-- What a request for a collection is answered with. A refusal of its name is passed on, too. -/
inductive CollectionAnswer (c : Connector κ σ) (model : Value) (s : Connection κ × σ)
    : Except Failure (Database κ) → Prop
  | noDatabase {f : Failure} (failed : c.DatabaseAnswer s (.error f))
    : CollectionAnswer c model s (.error f)
  | selected {database : Database κ} {s' : Connection κ × σ} {log : List LogEntry}
      (got : c.getDatabase.run s = ⟨.ok database, s', log⟩)
      (selected : ((c.client.selectCollection database model).run s'.2).result = .ok ())
    : CollectionAnswer c model s (.ok database)
  | refused {database : Database κ} {s' : Connection κ × σ} {log : List LogEntry} {f : Failure}
      (got : c.getDatabase.run s = ⟨.ok database, s', log⟩)
      (refused : ((c.client.selectCollection database model).run s'.2).result = .error f)
    : CollectionAnswer c model s (.error f)

/-- What a ping is answered with: whether the server answered, if there is a client to ask. -/
inductive PingAnswer (c : Connector κ σ) (s : Connection κ × σ) : Except Failure Bool → Prop
  | noClient {f : Failure} (failed : c.ClientAnswer s (.error f)) : c.PingAnswer s (.error f)
  | answered {client : κ} {s' : Connection κ × σ} {log : List LogEntry}
      (got : c.getClient.run s = ⟨.ok client, s', log⟩)
      (answered : ((c.client.ping client).run s'.2).result = .ok ())
    : c.PingAnswer s (.ok true)
  | unanswered {client : κ} {s' : Connection κ × σ} {log : List LogEntry} {e : ClientError}
      (got : c.getClient.run s = ⟨.ok client, s', log⟩)
      (failed : ((c.client.ping client).run s'.2).result = .error (.client e))
    : c.PingAnswer s (.ok false)
  | passedOn {client : κ} {s' : Connection κ × σ} {log : List LogEntry} {f : Failure}
      (got : c.getClient.run s = ⟨.ok client, s', log⟩)
      (failed : ((c.client.ping client).run s'.2).result = .error f)
      (own : ∀ e, f ≠ .client e)
    : c.PingAnswer s (.error f)

theorem clientAnswer (c : Connector κ σ) (s : Connection κ × σ)
    : c.ClientAnswer s (c.getClient.run s).result := by
  obtain ⟨k, t⟩ := s
  cases kept : k.client? with
  | some client =>
    rw [run_getClient_of_some kept]
    exact .kept kept
  | none =>
    cases set : c.uri.truthy with
    | false =>
      rw [run_getClient_of_unset kept set]
      exact .unset kept set
    | true =>
      rcases dialled : (c.client.connect c.uri c.timeout).run t with ⟨f | client, t', log⟩
      · have failed := congrArg Outcome.result dialled
        rw [run_getClient_of_refused kept set dialled]
        cases f with
        | client e => exact .refused kept set failed
        | _ => exact .passedOn kept set failed nofun
      · rw [run_getClient_of_made kept set dialled]
        exact .made kept set (congrArg Outcome.result dialled)

theorem databaseAnswer (c : Connector κ σ) (s : Connection κ × σ)
    : c.DatabaseAnswer s (c.getDatabase.run s).result := by
  obtain ⟨k, t⟩ := s
  cases kept : k.database? with
  | some database =>
    rw [run_getDatabase_of_some kept]
    exact .kept kept
  | none =>
    cases set : c.database.truthy with
    | false =>
      rw [run_getDatabase_of_unset kept set]
      exact .unset kept set
    | true =>
      have client := c.clientAnswer (k, t)
      rw [run_getDatabase_of_none kept set]
      rcases got : c.getClient.run (k, t) with ⟨f | client, s', log⟩
      · rw [got] at client
        exact .noClient kept set client
      · rw [Outcome.andThen_ok, Action.run_onSecond]
        rcases selected : (c.client.selectDatabase client c.database).run s'.2
          with ⟨f | _, t', log'⟩
        · exact .refused kept set got (congrArg Outcome.result selected)
        · exact .selected kept set got (congrArg Outcome.result selected)

theorem collectionAnswer (c : Connector κ σ) (model : Value) (s : Connection κ × σ)
    : c.CollectionAnswer model s ((c.getCollection model).run s).result := by
  have database := c.databaseAnswer s
  rw [getCollection, Action.run_bind]
  rcases got : c.getDatabase.run s with ⟨f | database, s', log⟩
  · rw [got] at database
    exact .noDatabase database
  · rw [Outcome.andThen_ok, Action.run_bind, Action.run_onSecond]
    rcases selected : (c.client.selectCollection database model).run s'.2 with ⟨f | _, t', log'⟩
    · exact .refused got (congrArg Outcome.result selected)
    · exact .selected got (congrArg Outcome.result selected)

theorem pingAnswer (c : Connector κ σ) (s : Connection κ × σ)
    : c.PingAnswer s (c.ping.run s).result := by
  have made := c.clientAnswer s
  unfold ping
  rw [Action.run_bind]
  rcases got : c.getClient.run s with ⟨f | client, s', log⟩
  · rw [got] at made
    exact .noClient made
  · rw [Outcome.andThen_ok, Action.run_bind, Action.run_onSecond, Action.run_attempt,
      Outcome.andThen_ok]
    cases answer : ((c.client.ping client).run s'.2).result with
    | ok => exact .answered got answer
    | error f =>
      cases f with
      | client e => exact .unanswered got answer
      | _ => exact .passedOn got answer nofun

theorem ClientAnswer.hides {r : Except Failure κ} (answer : c.ClientAnswer s r)
    : HidesClientErrors r := by
  cases answer with
  | kept => exact .ok _
  | unset => exact .error nofun
  | made => exact .ok _
  | refused => exact .error nofun
  | passedOn _ _ _ own => exact .error own

theorem PingAnswer.hides {r : Except Failure Bool} (answer : c.PingAnswer s r)
    : HidesClientErrors r := by
  cases answer with
  | noClient failed => exact .error failed.hides.own
  | answered => exact .ok _
  | unanswered => exact .ok _
  | passedOn _ _ own => exact .error own

-----------------------------------------------------------------------------------------
-- Calls of the database
-----------------------------------------------------------------------------------------

/-- What a request that calls the database is answered with, if `answers` says so of its calls. -/
inductive CallAnswer (c : Connector κ σ) (s : Connection κ × σ) (call : String) (model : Value)
    (details : List (String × Value))
    (answers : Database κ → Connection κ × σ → Except Failure α → Prop)
    : Except Failure α → Prop
  | noCollection {f f' : Failure} (failed : c.CollectionAnswer model s (.error f))
      (told : Told call model details f f')
    : CallAnswer c s call model details answers (.error f')
  | answered {database : Database κ} {s' : Connection κ × σ} {log : List LogEntry} {a : α}
      (got : (c.getCollection model).run s = ⟨.ok database, s', log⟩)
      (answered : answers database s' (.ok a))
    : CallAnswer c s call model details answers (.ok a)
  | failed {database : Database κ} {s' : Connection κ × σ} {log : List LogEntry} {f f' : Failure}
      (got : (c.getCollection model).run s = ⟨.ok database, s', log⟩)
      (failed : answers database s' (.error f)) (told : Told call model details f f')
    : CallAnswer c s call model details answers (.error f')

/-- Gets the collection of a model for a request, and tells of all failures. -/
def calling (c : Connector κ σ) (call : String) (model : Value) (details : List (String × Value))
    (request : Database κ → Action (Connection κ × σ) α)
    : Action (Connection κ × σ) α :=
  (c.getCollection model >>= request).mapFailure (callFailure call model details)

section

variable {call : String} {model : Value} {details : List (String × Value)}

theorem callAnswer_calling {request : Database κ → Action (Connection κ × σ) α}
    {answers : Database κ → Connection κ × σ → Except Failure α → Prop}
    (answered : ∀ database s', answers database s' ((request database).run s').result)
    : c.CallAnswer s call model details answers
        ((c.calling call model details request).run s).result := by
  have opened := c.collectionAnswer model s
  rw [calling, Action.run_mapFailure, Action.run_bind]
  rcases got : (c.getCollection model).run s with ⟨f | database, s', log⟩
  · rw [got] at opened
    exact .noCollection opened (told_callFailure ..)
  · have answer := answered database s'
    rw [Outcome.andThen_ok]
    rcases outcome : (request database).run s' with ⟨f | a, s'', log'⟩
    all_goals rw [outcome] at answer
    · exact .failed got answer (told_callFailure ..)
    · exact .answered got answer

theorem CallAnswer.hides {answers : Database κ → Connection κ × σ → Except Failure α → Prop}
    {r : Except Failure α} (answer : c.CallAnswer s call model details answers r)
    : HidesClientErrors r := by
  cases answer with
  | noCollection _ told => exact .error told.own
  | answered => exact .ok _
  | failed _ _ told => exact .error told.own

end

/-- The cursor of a search, in an order if one is asked for. -/
def cursor (c : Connector κ σ) (model : Value) (search : DocumentSearch) (database : Database κ)
    : Action (Connection κ × σ) Cursor := do
  let cursor ← (c.client.find database model
    ⟨orEmpty search.query, search.projection, search.skip, search.limit⟩).onSecond
  c.order cursor search.sort

/-- What a search is answered with: all documents of its cursor, shown in the cursor's order, or a
failure, at the latest the one that ends the documents.
-/
inductive SearchAnswer (c : Connector κ σ) (model : Value) (search : DocumentSearch)
    (database : Database κ) (s : Connection κ × σ)
    : Except Failure (List Value) → Prop
  | noCursor {f : Failure} (failed : ((c.cursor model search database).run s).result = .error f)
    : c.SearchAnswer model search database s (.error f)
  | cut {cursor : Cursor} {f : Failure}
      (found : ((c.cursor model search database).run s).result = .ok cursor)
      (failed : cursor.failure? = some f)
    : c.SearchAnswer model search database s (.error f)
  | whole {cursor : Cursor} {rs : List Value}
      (found : ((c.cursor model search database).run s).result = .ok cursor)
      (intact : cursor.failure? = none)
      (shown : List.Forall₂ Record.ShowsValue cursor.documents rs)
    : c.SearchAnswer model search database s (.ok rs)

/-- Whether a write was acknowledged. -/
def acknowledgement (r : Except Failure WriteReceipt) : Except Failure Bool :=
  r.map fun receipt => receipt.acknowledged.truthy

section

variable (readable : c.client.Readable)

include readable

theorem mappings_of_cursor {model : Value} {search : DocumentSearch} {database : Database κ}
    {cursor : Cursor} (found : ((c.cursor model search database).run s).result = .ok cursor)
    : ∀ v ∈ cursor.documents, ∃ es, v = .mapping es := by
  unfold Connector.cursor at found
  rw [Action.run_bind, Action.run_onSecond] at found
  cases answer : ((c.client.find database model
    ⟨orEmpty search.query, search.projection, search.skip, search.limit⟩).run s.2).result with
  | error f =>
    rw [answer] at found
    cases found
  | ok unordered =>
    have mappings := readable.find answer
    rw [answer] at found
    unfold order at found
    split at found
    · cases directives : search.sort.items? with
      | none =>
        rw [directives] at found
        cases found
      | some ds =>
        rw [directives] at found
        exact readable.sort mappings found
    · cases found
      exact mappings

theorem searchAnswer (model : Value) (search : DocumentSearch) (database : Database κ)
    : c.SearchAnswer model search database s
        ((c.cursor model search database >>= fun cursor =>
          .ofExcept (records cursor.documents cursor.failure?)).run s).result := by
  rw [Action.run_bind]
  rcases outcome : (c.cursor model search database).run s with ⟨f | cursor, s', log⟩
  · exact .noCursor (congrArg Outcome.result outcome)
  · have found := congrArg Outcome.result outcome
    have mappings := mappings_of_cursor readable found
    rw [Outcome.andThen_ok, Action.run_ofExcept]
    cases failure : cursor.failure? with
    | some f =>
      rw [records_cut mappings]
      exact .cut found failure
    | none =>
      obtain ⟨rs, read, shown⟩ := records_whole mappings
      rw [read]
      exact .whole found failure shown

end

/-- A message about a result does not change it. -/
theorem result_noted (x : Action (Connection κ × σ) α) (level : LogLevel) (text : α → String)
    : ((do let a ← x; note level (text a); return a : Action (Connection κ × σ) α).run s).result
      = (x.run s).result := by
  rw [Action.run_bind]
  rcases x.run s with ⟨f | a, s', log⟩ <;> rfl

theorem findAnswer (readable : c.client.Readable) (s : Connection κ × σ) (model : Value)
    (search : DocumentSearch)
    : c.CallAnswer s "find" model [("query", search.query)] (c.SearchAnswer model search)
        ((c.find model search).run s).result := by
  have one : c.find model search
      = (do
          let found ← c.calling "find" model [("query", search.query)] fun database =>
            c.cursor model search database >>= fun cursor =>
              .ofExcept (records cursor.documents cursor.failure?)
          note .debug s!"find model={model.plain} returned={found.length}"
          return found) := by
    simp only [find, calling, Connector.cursor, bind_assoc]
  rw [one, result_noted]
  exact callAnswer_calling fun database s' => searchAnswer readable model search database

theorem countAnswer (c : Connector κ σ) (s : Connection κ × σ) (model query : Value)
    : c.CallAnswer s "count_documents" model [("query", query)]
        (fun database s' r => r = ((c.client.count database model (orEmpty query)).run s'.2).result)
        ((c.countDocuments model query).run s).result :=
  callAnswer_calling fun _ _ => rfl

/-- A write whose receipt can be counted is answered with its acknowledgement. -/
theorem callAnswer_writing {call : String} {model : Value} {details : List (String × Value)}
    {shown : Value → String} {request : Database κ → Action σ WriteReceipt}
    (counted
      : ∀ {database t receipt}, ((request database).run t).result = .ok receipt
        → ∃ n, receipt.count = .ok n)
    : c.CallAnswer s call model details
        (fun database s' r => r = acknowledgement ((request database).run s'.2).result)
        ((c.writing call model details shown request).run s).result := by
  have made : c.CallAnswer s call model details
      (fun database s' r => r = ((request database).run s'.2).result)
      ((c.calling call model details fun database => (request database).onSecond).run s).result :=
    callAnswer_calling fun _ _ => rfl
  have writes : c.writing call model details shown request
      = (c.calling call model details fun database => (request database).onSecond)
        >>= reporting shown := rfl
  rw [writes, Action.run_bind]
  rcases outcome
    : (c.calling call model details fun database => (request database).onSecond).run s
    with ⟨f | receipt, s', log⟩
  all_goals rw [outcome] at made
  · cases made with
    | noCollection failed told => exact .noCollection failed told
    | failed got failed told => exact .failed got (by rw [← failed]; rfl) told
  · cases made with
    | answered got answered =>
      obtain ⟨n, count⟩ := counted answered.symm
      obtain ⟨reports, reported⟩ := run_reporting shown receipt
      rw [Outcome.andThen_ok, reported, count]
      exact .answered got (by rw [← answered]; rfl)

theorem updateAnswer (readable : c.client.Readable) (s : Connection κ × σ)
    (model selector updates : Value)
    : c.CallAnswer s "update_one" model []
        (fun database s' r =>
          r = acknowledgement
            ((c.client.updateOne database model selector (setting updates)).run s'.2).result)
        ((c.updateOne model selector updates).run s).result := by
  obtain ⟨shown, writes⟩ : ∃ shown, c.updateOne model selector updates
      = c.writing "update_one" model [] shown fun database =>
          c.client.updateOne database model selector (setting updates) := ⟨_, rfl⟩
  rw [writes]
  exact callAnswer_writing readable.updateOne

end Connector

end DocGateway
