import DocGateway.Proofs.Storage.Answers
import DocGateway.Proofs.Storage.BulkUpdates
import DocGateway.Proofs.Storage.LazyConnections

/-!
How a connection tells of failures of its client, whatever is asked of it.

Errors of the client are told as reports or, to a ping, as no answer of the server. The client's own
error is the answer only if the client cannot be closed, or if it refuses the name of a database or
a collection that is asked for by itself (`Connector.Leaks`).
-/

namespace DocGateway

variable {κ σ α : Type}

namespace Connector

variable {c : Connector κ σ} {s : Connection κ × σ}

-----------------------------------------------------------------------------------------
-- Updates of many records
-----------------------------------------------------------------------------------------

/-- What a request for updates of many records is answered with. Updates that cannot be read are
refused, and none are done. Otherwise the answer is what becomes of their batches, which are written
up to the first failure.
-/
inductive BulkAnswer (c : Connector κ σ) (s : Connection κ × σ) (given : List (Given FlatUpdate))
    : Except Failure Bool → Prop
  | unread {f : Failure} (failed : given.mapM FlatUpdate.ofGiven = .error f)
    : c.BulkAnswer s given (.error f)
  | nothing (read : given.mapM FlatUpdate.ofGiven = .ok []) : c.BulkAnswer s given (.ok true)
  | noDatabase {ops : List FlatUpdate} {batch : Batch} {plan : List Batch} {f f' : Failure}
      (read : given.mapM FlatUpdate.ofGiven = .ok ops) (planned : batches ops = batch :: plan)
      (failed : c.DatabaseAnswer s (.error f)) (told : batch.Told f f')
    : c.BulkAnswer s given (.error f')
  | sent {ops : List FlatUpdate} {database : Database κ} {s' : Connection κ × σ}
      {log : List LogEntry} {answers : Except Failure (List Bool)}
      (read : given.mapM FlatUpdate.ofGiven = .ok ops) (some : ops ≠ [])
      (got : c.getDatabase.run s = ⟨.ok database, s', log⟩)
      (delivered
        : Delivered Attempt.ComesTo (batches ops)
            (c.client.attempts database (batches ops) s'.2) answers)
    : c.BulkAnswer s given (answers.map fun bs => bs.all id)

theorem result_updateBulk (c : Connector κ σ) (ops : List FlatUpdate) (s : Connection κ × σ)
    : ((c.updateBulk ops).run s).result
      = ((Action.collect (fun e => c.sendModel e.1 e.2) (batches ops)).run s).result.map
          fun bs => bs.all id := by
  rw [run_updateBulk]

theorem bulkAnswer (c : Connector κ σ) (s : Connection κ × σ) (given : List (Given FlatUpdate))
    : c.BulkAnswer s given ((c.updateBulkGiven given).run s).result := by
  cases read : given.mapM FlatUpdate.ofGiven with
  | error f =>
    have refused : (c.updateBulkGiven given).run s = ⟨.error f, s, []⟩ := by
      simp [updateBulkGiven, read]
    rw [refused]
    exact .unread read
  | ok ops =>
    have sends : (c.updateBulkGiven given).run s = (c.updateBulk ops).run s := by
      simp [updateBulkGiven, read]
    rw [sends, result_updateBulk]
    by_cases none : ops = []
    · subst none
      exact .nothing read
    have some := batches_ne_nil none
    rcases got : c.getDatabase.run s with ⟨f | database, s', log⟩
    · have opened := c.databaseAnswer s
      rw [got] at opened
      obtain ⟨batch, plan, planned⟩ := List.exists_cons_of_ne_nil some
      rw [planned, run_collect_of_not_got got]
      exact .noDatabase read planned opened (told_callFailure ..)
    · have delivered :=
        (delivered_collect (c := c) (database?_of_getDatabase got) (batches ops) s'.2).1
      rw [run_collect_of_got got some]
      exact .sent read none got delivered

end Connector

/-- Updates that cannot be read are no failure of the client. -/
theorem FlatUpdate.own_of_unread {given : List (Given FlatUpdate)} {f : Failure}
    (failed : given.mapM ofGiven = .error f)
    : ∀ e, f ≠ .client e := by
  obtain ⟨g, _, refused⟩ := Except.exists_of_mapM_eq_error failed
  cases g with
  | ready f' => cases refused
  | raw v =>
    rcases Except.bind_eq_error.1 refused with noEntries | ⟨es, _, noUpdate⟩
    · obtain ⟨m, _, rfl⟩ := Except.mapError_eq_error.1 noEntries
      exact nofun
    · unfold ofValue at noUpdate
      split at noUpdate
      · cases noUpdate
      · cases noUpdate
        exact nofun

/-- A write that was made for an attempt is one of the client's. -/
theorem DatabaseClient.exists_of_attempt {client : DatabaseClient κ σ} {database : Database κ}
    {batch : Batch} {t : σ} {receipt : WriteReceipt}
    (made : (client.attempt database batch t).1.outcome = .ok receipt)
    : ∃ t', ((client.bulkWrite database (.text batch.1) (batch.2.map FlatUpdate.write)).run
        t').result = .ok receipt := by
  unfold attempt at made
  dsimp only at made
  split at made
  · cases made
  · exact ⟨_, made⟩

theorem DatabaseClient.Readable.counted {client : DatabaseClient κ σ} (readable : client.Readable)
    (database : Database κ) (plan : List Batch) (t : σ)
    : ∀ a ∈ client.attempts database plan t, a.Counted := by
  induction plan generalizing t with
  | nil => exact List.forall_mem_nil _
  | cons batch plan ih =>
    refine List.forall_mem_cons.2 ⟨fun receipt made => ?_, fun a later => ?_⟩
    · obtain ⟨t', written⟩ := exists_of_attempt made
      exact readable.bulkWrite written
    · split at later
      · exact ih _ a later
      · cases later

/-- A failure that an attempt comes to is not the client's, if its records can be counted. -/
theorem Attempt.ComesTo.own {a : Attempt} {f : Failure} (comes : a.ComesTo (.error f))
    (counted : a.Counted)
    : ∀ e, f ≠ .client e := by
  cases comes with
  | uncounted made uncounted =>
    obtain ⟨n, count⟩ := counted _ made
    cases uncounted.symm.trans count
  | failed _ told => exact told.own

namespace Connector

variable {c : Connector κ σ} {s : Connection κ × σ}

theorem BulkAnswer.hides {given : List (Given FlatUpdate)} {r : Except Failure Bool}
    (answer : c.BulkAnswer s given r) (readable : c.client.Readable)
    : HidesClientErrors r := by
  cases answer with
  | unread failed => exact .error (FlatUpdate.own_of_unread failed)
  | nothing => exact .ok _
  | noDatabase _ _ _ told => exact .error told.own
  | @sent ops database s' log answers read some got delivered =>
    have counted := readable.counted database (batches ops) s'.2
    refine HidesClientErrors.map ?_ _
    generalize c.client.attempts database (batches ops) s'.2 = attempts at delivered counted
    cases delivered with
    | complete => exact .ok _
    | @cut earlier last untried f _ _ failed =>
      exact .error (failed.own (counted last (List.mem_append_right earlier List.mem_cons_self)))

-----------------------------------------------------------------------------------------
-- All requests
-----------------------------------------------------------------------------------------

/-- The database or a collection is asked for by itself, and the client refuses its name with an
error.
-/
inductive Leaks (c : Connector κ σ) (s : Connection κ × σ) : Request → ClientError → Prop
  | database {client : κ} {s' : Connection κ × σ} {log : List LogEntry} {e : ClientError}
      (absent : s.1.database? = none) (set : c.database.truthy = true)
      (got : c.getClient.run s = ⟨.ok client, s', log⟩)
      (refused
        : ((c.client.selectDatabase client c.database).run s'.2).result = .error (.client e))
    : Leaks c s .database e
  | ofDatabase {model : Value} {e : ClientError} (leaks : Leaks c s .database e)
    : Leaks c s (.collection model) e
  | collection {model : Value} {database : Database κ} {s' : Connection κ × σ}
      {log : List LogEntry} {e : ClientError}
      (got : c.getDatabase.run s = ⟨.ok database, s', log⟩)
      (refused
        : ((c.client.selectCollection database model).run s'.2).result = .error (.client e))
    : Leaks c s (.collection model) e

theorem DatabaseAnswer.leaks {e : ClientError}
    (answer : c.DatabaseAnswer s (.error (.client e)))
    : c.Leaks s .database e := by
  cases answer with
  | noClient _ _ failed => exact absurd rfl (failed.hides.own e)
  | refused absent set got refused => exact .database absent set got refused

theorem CollectionAnswer.leaks {model : Value} {e : ClientError}
    (answer : c.CollectionAnswer model s (.error (.client e)))
    : c.Leaks s (.collection model) e := by
  cases answer with
  | noDatabase failed => exact .ofDatabase failed.leaks
  | refused got refused => exact .collection got refused

theorem result_getDatabase_of_leaks {e : ClientError} (leaks : c.Leaks s .database e)
    : (c.getDatabase.run s).result = .error (.client e) := by
  cases leaks with
  | database absent set got refused =>
    rw [run_getDatabase_of_none absent set, got, Outcome.andThen_ok, Action.run_onSecond, refused]
    rfl

theorem result_getCollection_of_leaks {model : Value} {e : ClientError}
    (leaks : c.Leaks s (.collection model) e)
    : ((c.getCollection model).run s).result = .error (.client e) := by
  rw [getCollection, Action.run_bind]
  cases leaks with
  | ofDatabase leaks =>
    have failed := result_getDatabase_of_leaks leaks
    rcases got : c.getDatabase.run s with ⟨f | database, s', log⟩
    all_goals rw [got] at failed
    · exact failed
    · cases failed
  | collection got refused =>
    rw [got, Outcome.andThen_ok, Action.run_bind, Action.run_onSecond, refused]
    rfl

theorem discard_leaks_iff {x : Action (Connection κ × σ) α} {e : ClientError}
    : ((discard x).run s).result = .error (.client e) ↔ (x.run s).result = .error (.client e) := by
  have discarded : ((discard x).run s).result = (x.run s).result.map fun _ => () :=
    congrArg Outcome.result (Action.run_map (fun _ => ()) x s)
  rw [discarded, Except.map_eq_error]

/-- A request that hides errors of the client is none that leaks them. -/
theorem leaks_iff_of_hides {x : Action (Connection κ × σ) α} {r : Request} {e : ClientError}
    (hides : HidesClientErrors (x.run s).result) (tells : ¬ c.Leaks s r e)
    : ((discard x).run s).result = .error (.client e) ↔ c.Leaks s r e :=
  iff_of_false (fun failed => hides e (discard_leaks_iff.1 failed)) tells

theorem perform_leaks_iff (readable : c.client.Readable) {r : Request} (stays : r ≠ .close)
    (e : ClientError)
    : ((c.perform r).run s).result = .error (.client e) ↔ c.Leaks s r e := by
  cases r with
  | client => exact leaks_iff_of_hides (c.clientAnswer s).hides nofun
  | database =>
    rw [perform, discard_leaks_iff]
    refine ⟨fun failed => ?_, result_getDatabase_of_leaks⟩
    exact DatabaseAnswer.leaks (failed ▸ c.databaseAnswer s)
  | collection model =>
    rw [perform, discard_leaks_iff]
    refine ⟨fun failed => ?_, result_getCollection_of_leaks⟩
    exact CollectionAnswer.leaks (failed ▸ c.collectionAnswer model s)
  | ping => exact leaks_iff_of_hides (c.pingAnswer s).hides nofun
  | close => exact absurd rfl stays
  | updateOne model selector updates =>
    exact leaks_iff_of_hides (updateAnswer readable s model selector updates).hides nofun
  | updateBulk given => exact leaks_iff_of_hides ((c.bulkAnswer s given).hides readable) nofun
  | find model search => exact leaks_iff_of_hides (findAnswer readable s model search).hides nofun
  | countDocuments model query => exact leaks_iff_of_hides (c.countAnswer s model query).hides nofun

/-- Searches are answered with all documents of the cursor or with a failure. An error while the
client is made is told as one of the connection, and so is a lost connection during a search, a
count or a write. Any other error there is told as one of the query, and an error during a ping
means no. All other failures are passed on. No request but closing fails with an error of the
client itself, unless it asks for the database or a collection alone and the client refuses its
name; then it fails with just this error.
-/
theorem answers_leak_refused_names (c : Connector κ σ) (readable : c.client.Readable)
    (s : Connection κ × σ)
    : (∀ model search,
        c.CallAnswer s "find" model [("query", search.query)] (c.SearchAnswer model search)
          ((c.find model search).run s).result)
      ∧ (∀ model query,
        c.CallAnswer s "count_documents" model [("query", query)]
          (fun database s' r =>
            r = ((c.client.count database model (orEmpty query)).run s'.2).result)
          ((c.countDocuments model query).run s).result)
      ∧ (∀ model selector updates,
        c.CallAnswer s "update_one" model []
          (fun database s' r =>
            r = acknowledgement
              ((c.client.updateOne database model selector (setting updates)).run s'.2).result)
          ((c.updateOne model selector updates).run s).result)
      ∧ (∀ given, c.BulkAnswer s given ((c.updateBulkGiven given).run s).result)
      ∧ c.PingAnswer s (c.ping.run s).result
      ∧ c.ClientAnswer s (c.getClient.run s).result
      ∧ c.DatabaseAnswer s (c.getDatabase.run s).result
      ∧ (∀ model, c.CollectionAnswer model s ((c.getCollection model).run s).result)
      ∧ ∀ r e, r ≠ .close
          → (((c.perform r).run s).result = .error (.client e) ↔ c.Leaks s r e) :=
  ⟨findAnswer readable s, c.countAnswer s, updateAnswer readable s, c.bulkAnswer s, c.pingAnswer s,
    c.clientAnswer s, c.databaseAnswer s, fun model => c.collectionAnswer model s,
    fun _ e stays => perform_leaks_iff readable stays e⟩

/-- A server that serves two tasks and loses the cursor of notes behind the first one, that fails
otherwise, and that does not answer. Its client refuses one collection, for a search and by itself.
-/
theorem answers_leak_refused_names_of_lost_cursor
    : let failed (name : String) : Failure := .client ⟨name, "gone"⟩
      let misnamed : ClientError := ⟨"InvalidName", "names cannot be empty"⟩
      let named : Value := Value.fields [("_id", .text "t1"), ("rank", .int 1)]
      let bare : Value := Value.fields [("rank", .int 2)]
      let client : DatabaseClient Unit Unit :=
        { connect := fun _ _ => pure ()
          selectDatabase := fun _ _ => pure ()
          selectCollection := fun _ name =>
            match name with
            | .text "a..b" => .fail (.client misnamed)
            | _ => pure ()
          updateOne := fun _ _ _ _ => .fail (failed "WriteError")
          bulkWrite := fun _ _ _ => .fail (.foreign "ValueError" "bad batch")
          find := fun _ collection _ =>
            match collection with
            | .text "task" => pure ⟨[named, bare], none⟩
            | _ => pure ⟨[named], some (failed "CursorNotFound")⟩
          sort := fun cursor _ => pure cursor
          count := fun _ _ _ => .fail (failed "AutoReconnect")
          ping := fun _ => .fail (failed "NetworkTimeout")
          close := fun _ => pure () }
      let c : Connector Unit Unit := ⟨.text "cluster", .text "records", .int 2000, client, .info⟩
      let s : Connection Unit × Unit := (⟨none, none⟩, ())
      let search : DocumentSearch := ⟨.null, .null, .null, .null, .null⟩
      c.client.Readable
      ∧ ((c.find (.text "task") search).run s).result
        = .ok [Value.fields [("rank", .int 1), ("id", .text "t1")], bare]
      ∧ ((c.find (.text "note") search).run s).result
        = .error (.report ⟨.storageQuery, .text "find failed: gone",
            [("model_id", .value (.text "note")), ("query", .value .null)]⟩)
      ∧ ((c.find (.text "a..b") search).run s).result
        = .error (.report ⟨.storageQuery, .text "find failed: names cannot be empty",
            [("model_id", .value (.text "a..b")), ("query", .value .null)]⟩)
      ∧ ((c.countDocuments (.text "task") .null).run s).result
        = .error (.report ⟨.storageConnection, .text "MongoDB is unreachable: gone",
            [("model_id", .value (.text "task"))]⟩)
      ∧ (c.ping.run s).result = .ok false
      ∧ c.Leaks s (.collection (.text "a..b")) misnamed := by
  intro failed misnamed named bare client c s search
  have readable : c.client.Readable := by
    have served : ∀ v ∈ [named, bare], ∃ es, v = .mapping es :=
      List.forall_mem_cons.2 ⟨⟨_, rfl⟩, List.forall_mem_singleton.2 ⟨_, rfl⟩⟩
    refine ⟨nofun, nofun, ?_, ?_⟩
    · intro database collection search t cursor found
      simp only [c, client] at found
      split at found
      · cases found
        exact served
      · cases found
        exact List.forall_mem_singleton.2 (served named List.mem_cons_self)
    · intro cursor directives t ordered mappings found
      cases found
      exact mappings
  obtain ⟨_, _, _, _, _, _, _, _, leaks⟩ := c.answers_leak_refused_names readable s
  have leaked := (leaks (.collection (.text "a..b")) misnamed nofun).1 rfl
  exact ⟨readable, rfl, rfl, rfl, rfl, rfl, leaked⟩

/-- A client that refuses the name of the database. Its error is the answer to a request for the
database, and is told in a count.
-/
theorem database_leaks_refused_name
    : let misnamed : Failure :=
        .client ⟨"InvalidName", "database names cannot contain the character '.'"⟩
      let client : DatabaseClient Unit Unit :=
        { connect := fun _ _ => pure ()
          selectDatabase := fun _ name =>
            match name with
            | .text "my.db" => .fail misnamed
            | _ => pure ()
          selectCollection := fun _ _ => pure ()
          updateOne := fun _ _ _ _ => pure ⟨.bool true, .ok (.int 1)⟩
          bulkWrite := fun _ _ _ => pure ⟨.bool true, .ok (.int 1)⟩
          find := fun _ _ _ => pure ⟨[], none⟩
          sort := fun cursor _ => pure cursor
          count := fun _ _ _ => pure (.int 0)
          ping := fun _ => pure ()
          close := fun _ => pure () }
      let c : Connector Unit Unit :=
        ⟨.text "mongodb://localhost:27017", .text "my.db", .int 2000, client, .info⟩
      let s : Connection Unit × Unit := (⟨none, none⟩, ())
      c.client.Readable
      ∧ (c.getDatabase.run s).result = .error misnamed
      ∧ ¬ HidesClientErrors (c.getDatabase.run s).result
      ∧ ((c.countDocuments (.text "task") .null).run s).result
        = .error (.report ⟨.storageQuery,
            .text "count_documents failed: database names cannot contain the character '.'",
            [("model_id", .value (.text "task")), ("query", .value .null)]⟩) := by
  intro misnamed client c s
  have readable : c.client.Readable := by
    refine ⟨fun found => ?_, fun found => ?_, fun found => ?_, fun mappings found => ?_⟩
    · cases found
      exact ⟨_, rfl⟩
    · cases found
      exact ⟨_, rfl⟩
    · cases found
      exact List.forall_mem_nil _
    · cases found
      exact mappings
  exact ⟨readable, rfl, fun hides => hides _ rfl, rfl⟩

end Connector

end DocGateway
