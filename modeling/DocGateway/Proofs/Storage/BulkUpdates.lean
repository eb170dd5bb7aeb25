import DocGateway.Proofs.Registry.Sanitizing
import DocGateway.Proofs.Storage.Deliveries

/-!
Many updates at once: one bulk write for each model, up to the first that fails.

All updates are read before any is sent. The first batch gets the database for all of them, and
then the calls are the attempts to send the batches (`Connector.Sends`).
-/

namespace DocGateway

variable {κ σ : Type}

theorem Outcome.andThen_after {α β : Type} (log : List LogEntry) (o : Outcome σ α)
    (next : α → σ → Outcome σ β)
    : (o.after log).andThen next = (o.andThen next).after log := by
  rcases o with ⟨_ | a, s, more⟩
  · rfl
  · simp

/-- What only adds to the log at first does so with whatever follows. -/
theorem Action.run_bind_of_after {α β : Type} {x : Action σ α} {s s' : σ} {log : List LogEntry}
    (first : x.run s = (x.run s').after log) (f : α → Action σ β)
    : (x >>= f).run s = ((x >>= f).run s').after log := by
  rw [Action.run_bind, first, Outcome.andThen_after]
  rfl

namespace Connector

-----------------------------------------------------------------------------------------
-- Getting the database first
-----------------------------------------------------------------------------------------

variable {c : Connector κ σ} {database : Database κ} {s s' : Connection κ × σ}
  {log : List LogEntry} {f : Failure}

/-- A database that was got is kept. -/
theorem database?_of_getDatabase (got : c.getDatabase.run s = ⟨.ok database, s', log⟩)
    : s'.1.database? = some database := by
  cases kept : s.1.database? with
  | some database' =>
    rw [run_getDatabase_of_some kept] at got
    cases got
    exact kept
  | none =>
    cases set : c.database.truthy with
    | false =>
      rw [run_getDatabase_of_unset kept set] at got
      cases got
    | true =>
      rw [run_getDatabase_of_none kept set] at got
      rcases made : c.getClient.run s with ⟨f | client, ⟨k', t'⟩, log'⟩
      · rw [made] at got
        cases got
      · simp only [made, Outcome.andThen_ok, Action.run_onSecond] at got
        rcases selected : (c.client.selectDatabase client c.database).run t'
          with ⟨f | _, t'', log''⟩
        all_goals rw [selected] at got
        · cases got
        · cases got
          rfl

/-- The first of several batches gets the database for all of them. -/
theorem run_collect_of_got (got : c.getDatabase.run s = ⟨.ok database, s', log⟩)
    {plan : List Batch} (some : plan ≠ [])
    : (Action.collect (fun e => c.sendModel e.1 e.2) plan).run s
      = ((Action.collect (fun e => c.sendModel e.1 e.2) plan).run s').after log := by
  obtain ⟨batch, rest, rfl⟩ := List.exists_cons_of_ne_nil some
  obtain ⟨shown, sends⟩ := sendModel_eq_writing batch
  have opened : c.getDatabase.run s = (c.getDatabase.run s').after log := by
    rw [run_getDatabase_of_some (database?_of_getDatabase got), got, Outcome.after_mk,
      List.append_nil]
  have selected : (c.getCollection (.text batch.1)).run s
      = ((c.getCollection (.text batch.1)).run s').after log := Action.run_bind_of_after opened _
  have first : (c.sendModel batch.1 batch.2).run s
      = ((c.sendModel batch.1 batch.2).run s').after log := by
    rw [sends]
    refine Action.run_bind_of_after ?_ _
    rw [Action.run_mapFailure, Action.run_bind_of_after selected]
    rfl
  exact Action.run_bind_of_after first _

theorem run_collect_of_not_got (got : c.getDatabase.run s = ⟨.error f, s', log⟩) (batch : Batch)
    (plan : List Batch)
    : (Action.collect (fun e => c.sendModel e.1 e.2) (batch :: plan)).run s
      = ⟨.error (callFailure "update_bulk" (.text batch.1) [("count", .int batch.2.length)] f), s',
          log⟩ := by
  obtain ⟨shown, sends⟩ := sendModel_eq_writing batch
  rw [Action.run_collect_cons, sends]
  simp only [writing, getCollection, Action.run_bind, Action.run_mapFailure, got,
    Outcome.andThen_error, Except.mapError_error]

theorem run_updateBulk (c : Connector κ σ) (ops : List FlatUpdate) (s : Connection κ × σ)
    : let sent := (Action.collect (fun e => c.sendModel e.1 e.2) (batches ops)).run s
      (c.updateBulk ops).run s = ⟨sent.result.map fun bs => bs.all id, sent.state, sent.log⟩ := by
  intro sent
  rw [updateBulk, entries_byModel, bind_pure_comp]
  exact Action.run_map ..

-----------------------------------------------------------------------------------------
-- All updates
-----------------------------------------------------------------------------------------

/-- What a run that sends updates does, if `comes` says so of its attempts. Without updates it does
nothing. Otherwise it gets the database; where that fails it makes no write and tells so for the
first batch, and else the only other calls are its attempts to send the batches. It is answered
whether all attempts were acknowledged, or with the failure of the last.
-/
inductive Sends (c : Connector κ σ) (comes : Attempt → Except Failure Bool → Prop)
    (k : Connection κ) (t : σ) (past : List (ClientCall κ)) (ops : List FlatUpdate)
    (run : Outcome (Connection κ × Recorded κ σ) Bool)
    : List Attempt → Prop
  | nothing (none : ops = []) (unchanged : run = ⟨.ok true, (k, (t, past)), []⟩)
    : Sends c comes k t past ops run []
  | unopened {batch : Batch} {plan : List Batch} {f f' : Failure}
      (planned : batches ops = batch :: plan)
      (failed : (c.getDatabase.run (k, t)).result = .error f) (told : batch.Told f f')
      (answer : run.result = .error f') (calls : run.state.2.2 = past ++ c.databaseCalls k)
    : Sends c comes k t past ops run []
  | sent {database : Database κ} {attempts : List Attempt} {answers : Except Failure (List Bool)}
      (some : ops ≠ []) (got : (c.getDatabase.run (k, t)).result = .ok database)
      (made
        : attempts
          = c.client.attempts database (batches ops) (c.getDatabase.run (k, t)).state.2)
      (calls
        : run.state.2.2
          = past ++ c.databaseCalls k ++ attempts.flatMap (Attempt.calls database))
      (delivered : Delivered comes (batches ops) attempts answers)
      (answer : run.result = answers.map fun bs => bs.all id)
    : Sends c comes k t past ops run attempts

theorem sends_updateBulk (c : Connector κ σ) (ops : List FlatUpdate) (k : Connection κ) (t : σ)
    (past : List (ClientCall κ))
    : ∃ attempts,
        c.Sends Attempt.ComesTo k t past ops ((c.recorded.updateBulk ops).run (k, (t, past)))
          attempts := by
  by_cases none : ops = []
  · subst none
    exact ⟨[], .nothing rfl rfl⟩
  have some := batches_ne_nil none
  have recorded := run_getDatabase_recorded c k t past
  rw [run_updateBulk]
  rcases got : c.getDatabase.run (k, t) with ⟨f | database, s', log⟩
  all_goals rw [got] at recorded
  · obtain ⟨batch, plan, planned⟩ := List.exists_cons_of_ne_nil some
    rw [planned, run_collect_of_not_got recorded]
    exact ⟨[], .unopened planned (by rw [got]) (told_callFailure ..) rfl rfl⟩
  · obtain ⟨delivered, calls⟩ :=
      delivered_collect (c := c) (database?_of_getDatabase got) (batches ops) s'.2
    have later := calls (past ++ c.databaseCalls k)
    rw [run_collect_of_got recorded some, later]
    exact ⟨_, .sent none (by rw [got]) (by rw [got]) rfl delivered rfl⟩

/-- The promise is kept by a run exactly if the records of every write that it made are counted. -/
theorem Sends.promised_iff {c : Connector κ σ} {k : Connection κ} {t : σ}
    {past : List (ClientCall κ)} {ops : List FlatUpdate}
    {run : Outcome (Connection κ × Recorded κ σ) Bool} {attempts : List Attempt}
    (sends : c.Sends Attempt.ComesTo k t past ops run attempts)
    : c.Sends Attempt.Promised k t past ops run attempts ↔ ∀ a ∈ attempts, a.Counted := by
  constructor
  · intro promised
    cases sends with
    | nothing => exact List.forall_mem_nil _
    | unopened => exact List.forall_mem_nil _
    | sent _ _ _ _ delivered answer =>
      cases promised with
      | nothing => exact List.forall_mem_nil _
      | unopened => exact List.forall_mem_nil _
      | sent _ _ _ _ promised answer' =>
        refine delivered.counted promised fun f failed => ?_
        rw [failed, answer'] at answer
        exact Except.map_eq_error.1 answer
  · intro counted
    cases sends with
    | nothing none unchanged => exact .nothing none unchanged
    | unopened planned failed told answer calls => exact .unopened planned failed told answer calls
    | sent some got made calls delivered answer =>
      refine .sent some got made calls (delivered.mono fun a member _ came => ?_) answer
      exact came.promised (counted a member)

end Connector

/-- A mapping that is no update is refused with its problems. -/
theorem FlatUpdate.ofGiven_mapping (es : List (Value × Value))
    : ofGiven (.raw (.mapping es))
      = match read es with
        | .ok f => .ok f
        | .bad ps => .error (.invalid ps) := rfl

/-- The form on the wire stands for the update itself. -/
theorem FlatUpdate.ofGiven_toValue (f : FlatUpdate) : ofGiven (.raw f.toValue) = .ok f := by
  let es : List (Value × Value) :=
    [(.text modelField.wire, .text f.model), (.text recordField.wire, .text f.record),
      (.text "updates", .mapping f.updates.toEntries)]
  have updates : (Fields.read (.mapping f.updates.toEntries)).within "updates" = .ok f.updates := by
    rw [Fields.read_toEntries]
    rfl
  have reads : read es
      = FlatUpdate.mk <$> Checked.ok f.model <*> Checked.ok f.record <*> Checked.ok f.updates := by
    rw [← updates]
    rfl
  have given : ofGiven (.raw f.toValue) = _ := ofGiven_mapping es
  rw [given, reads]
  rfl

namespace Connector

/-- Updates are read before any is sent, in either form. If a mapping is no update, the first such
mapping is refused and no call is made. Else every update is in exactly one batch, and the batches
are sent one after the other, up to the first that fails. The promise is that an unacknowledged
write stops nothing and that all failures of the client are told; it is kept exactly if the records
of every write that was made can be counted.
-/
theorem updateBulkGiven_sends_once (c : Connector κ σ) (k : Connection κ) (t : σ)
    (past : List (ClientCall κ)) {given : List (Given FlatUpdate)}
    (mappings : ∀ v, .raw v ∈ given → ∃ es, v = .mapping es)
    : let run := (c.recorded.updateBulkGiven given).run (k, (t, past))
      (∀ f : FlatUpdate, FlatUpdate.ofGiven (.raw f.toValue) = .ok f)
      ∧ ((∃ before es after ps,
            given = before ++ .raw (.mapping es) :: after
            ∧ (∀ g ∈ before, ∃ f, FlatUpdate.ofGiven g = .ok f)
            ∧ FlatUpdate.read es = .bad ps
            ∧ run = ⟨.error (.invalid ps), (k, (t, past)), []⟩)
          ∨ ∃ ops attempts,
              List.Forall₂ (fun g f => FlatUpdate.ofGiven g = .ok f) given ops
              ∧ ((batches ops).flatMap Prod.snd).Perm ops
              ∧ c.Sends Attempt.ComesTo k t past ops run attempts
              ∧ (c.Sends Attempt.Promised k t past ops run attempts
                ↔ ∀ a ∈ attempts, a.Counted)) := by
  intro run
  refine ⟨FlatUpdate.ofGiven_toValue, ?_⟩
  cases reads : given.mapM FlatUpdate.ofGiven with
  | ok ops =>
    have updates : run = (c.recorded.updateBulk ops).run (k, (t, past)) := by
      simp [run, updateBulkGiven, reads]
    obtain ⟨attempts, sends⟩ := c.sends_updateBulk ops k t past
    rw [updates]
    exact .inr ⟨ops, attempts, Except.mapM_eq_ok.1 reads, perm_batches ops, sends,
      sends.promised_iff⟩
  | error f =>
    obtain ⟨before, g, after, rfl, known, refused⟩ := Except.first_of_mapM_eq_error reads
    cases g with
    | ready f' => cases refused
    | raw v =>
      obtain ⟨es, rfl⟩ := mappings v (List.mem_append_right _ List.mem_cons_self)
      rw [FlatUpdate.ofGiven_mapping] at refused
      cases bad : FlatUpdate.read es with
      | ok f' => simp [bad] at refused
      | bad ps =>
        simp only [bad, Except.error.injEq] at refused
        subst refused
        exact .inl ⟨before, es, after, ps, rfl, known, bad, by simp [run, updateBulkGiven, reads]⟩

/-- Updates of five models, given in both forms. The second write is not acknowledged, the
collection of the fourth model is refused, and nothing is tried for the fifth.
-/
theorem updateBulkGiven_sends_once_of_refused_model
    : let client : DatabaseClient Unit Unit :=
        { connect := fun _ _ => pure ()
          selectDatabase := fun _ _ => pure ()
          selectCollection := fun _ name =>
            match name with
            | .text "a..b" => .fail (.client ⟨"InvalidName", "names cannot be empty"⟩)
            | _ => pure ()
          updateOne := fun _ _ _ _ => pure ⟨.bool true, .ok (.int 1)⟩
          bulkWrite := fun _ collection _ =>
            match collection with
            | .text "note" => pure ⟨.bool false, .ok (.int 0)⟩
            | _ => pure ⟨.bool true, .ok (.int 1)⟩
          find := fun _ _ _ => pure ⟨[], none⟩
          sort := fun cursor _ => pure cursor
          count := fun _ _ _ => pure (.int 0)
          ping := fun _ => pure ()
          close := fun _ => pure () }
      let c : Connector Unit Unit :=
        ⟨.text "cluster", .text "records", .int 2000, client, .info⟩
      let database : Database Unit := ⟨(), .text "records"⟩
      let done (model record : String) : FlatUpdate :=
        ⟨model, record, .ofList [("status", .text "done")]⟩
      let given : List (Given FlatUpdate) :=
        [.ready (done "task" "t1"), .raw (done "note" "n1").toValue,
          .raw (done "task" "t2").toValue, .ready (done "lead" "l1"),
          .ready (done "a..b" "x1"), .ready (done "user" "u1")]
      let run := (c.recorded.updateBulkGiven given).run (⟨none, none⟩, ((), []))
      (∀ v, .raw v ∈ given → ∃ es, v = .mapping es)
      ∧ run.state.2.2
        = [.connect (.text "cluster") (.int 2000),
            .bulkWrite database (.text "task") [(done "task" "t1").write, (done "task" "t2").write],
            .bulkWrite database (.text "note") [(done "note" "n1").write],
            .bulkWrite database (.text "lead") [(done "lead" "l1").write]]
      ∧ run.result
        = .error (.report ⟨.storageQuery, .text "update_bulk failed: names cannot be empty",
            [("model_id", .value (.text "a..b")), ("count", .value (.int 1))]⟩)
      ∧ ((∃ before es after ps,
            given = before ++ .raw (.mapping es) :: after
            ∧ (∀ g ∈ before, ∃ f, FlatUpdate.ofGiven g = .ok f)
            ∧ FlatUpdate.read es = .bad ps
            ∧ run = ⟨.error (.invalid ps), (⟨none, none⟩, ((), [])), []⟩)
          ∨ ∃ ops attempts,
              List.Forall₂ (fun g f => FlatUpdate.ofGiven g = .ok f) given ops
              ∧ ((batches ops).flatMap Prod.snd).Perm ops
              ∧ c.Sends Attempt.ComesTo ⟨none, none⟩ () [] ops run attempts
              ∧ (c.Sends Attempt.Promised ⟨none, none⟩ () [] ops run attempts
                ↔ ∀ a ∈ attempts, a.Counted)) := by
  intro client c database done given run
  have mappings : ∀ v, .raw v ∈ given → ∃ es, v = .mapping es := by
    intro v member
    simp only [given, List.mem_cons, List.not_mem_nil, or_false, reduceCtorEq, false_or,
      Given.raw.injEq] at member
    rcases member with rfl | rfl
    · exact ⟨_, rfl⟩
    · exact ⟨_, rfl⟩
  exact ⟨mappings, rfl, rfl, (c.updateBulkGiven_sends_once ⟨none, none⟩ () [] mappings).2⟩

/-- A client whose writes are never acknowledged, and that does not say how many records they have
reached. Its error is passed on as it is, and the second model is left out.
-/
theorem updateBulk_stops_at_uncounted_write
    : let uncounted : Failure := .client ⟨"InvalidOperation",
        "A value for modified_count is not available when the write is unacknowledged."⟩
      let client : DatabaseClient Unit Unit :=
        { connect := fun _ _ => pure ()
          selectDatabase := fun _ _ => pure ()
          selectCollection := fun _ _ => pure ()
          updateOne := fun _ _ _ _ => pure ⟨.bool false, .error uncounted⟩
          bulkWrite := fun _ _ _ => pure ⟨.bool false, .error uncounted⟩
          find := fun _ _ _ => pure ⟨[], none⟩
          sort := fun cursor _ => pure cursor
          count := fun _ _ _ => pure (.int 0)
          ping := fun _ => pure ()
          close := fun _ => pure () }
      let c : Connector Unit Unit :=
        ⟨.text "mongodb://localhost/?w=0", .text "app", .int 2000, client, .info⟩
      let done (model record : String) : FlatUpdate :=
        ⟨model, record, .ofList [("status", .text "done")]⟩
      let ops := [done "task" "t1", done "note" "n1"]
      let run := (c.recorded.updateBulk ops).run (⟨none, none⟩, ((), []))
      run.state.2.2
        = [.connect (.text "mongodb://localhost/?w=0") (.int 2000),
            .bulkWrite ⟨(), .text "app"⟩ (.text "task") [(done "task" "t1").write]]
      ∧ run.result = .error uncounted
      ∧ ∀ attempts, ¬ c.Sends Attempt.Promised ⟨none, none⟩ () [] ops run attempts := by
  intro uncounted client c done ops run
  refine ⟨rfl, rfl, fun attempts promised => ?_⟩
  have answered : run.result = .error uncounted := rfl
  cases promised with
  | nothing none unchanged =>
    rw [unchanged] at answered
    cases answered
  | unopened _ failed => cases failed
  | sent _ got made _ delivered answer =>
    rw [answered] at answer
    rw [Except.map_eq_error.1 answer.symm] at delivered
    let first : Attempt := ⟨("task", [done "task" "t1"]), .ok (.ok ⟨.bool false, .error uncounted⟩)⟩
    have only : attempts = [] ++ [first] := made
    obtain ⟨n, counted⟩ := (delivered.failed_of_concat only).counted _ rfl
    cases counted

end Connector

end DocGateway
