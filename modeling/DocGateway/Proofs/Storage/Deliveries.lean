import DocGateway.Proofs.OrderedMap.KeyOrder
import DocGateway.Proofs.Storage.OnDemand
import DocGateway.Proofs.Storage.SingleUpdates

/-!
Batches of updates, and what becomes of them.

Every update is in exactly one batch, and batches are sent in the order in which their models are
first named, each by one bulk write and up to the first that fails. What is made of a bulk write
(`Attempt.ComesTo`) is what is promised of it (`Attempt.Promised`) unless its records cannot be
counted.
-/

namespace DocGateway

variable {κ σ : Type}

-----------------------------------------------------------------------------------------
-- Batches
-----------------------------------------------------------------------------------------

/-- A model and updates of it. -/
abbrev Batch : Type := String × List FlatUpdate

/-- Updates by model: models in the order of their first appearance, each with all of its updates in
their order.
-/
def batches (ops : List FlatUpdate) : List Batch :=
  (ops.map FlatUpdate.model).eraseDups.map fun model => (model, ops.filter fun f => f.model = model)

namespace OrderedMap

variable {α ν : Type}

/-- A list under a key that grows by one item grows the lists of all keys by this item. -/
theorem perm_setEntry_concat [DecidableEq α] (k : α) (v : ν) (es : List (α × List ν))
    : ((setEntry k (((es.find? fun e => e.1 = k).map Prod.snd).getD [] ++ [v]) es).flatMap
          Prod.snd).Perm
        (es.flatMap Prod.snd ++ [v]) := by
  induction es with
  | nil => simp [setEntry]
  | cons e es ih =>
    by_cases same : e.1 = k
    · simp only [setEntry, same, if_true, List.find?_cons, decide_true, Option.map_some,
        Option.getD_some, List.flatMap_cons, List.append_assoc]
      exact (@List.perm_append_comm _ [v] _).append_left e.2
    · simp only [setEntry, same, if_false, List.find?_cons, decide_false, List.flatMap_cons,
        List.append_assoc]
      exact ih.append_left e.2

end OrderedMap

namespace Connector

/-- Adds an update at the end of its model's group. -/
def addUpdate (groups : OrderedMap String (List FlatUpdate)) (f : FlatUpdate)
    : OrderedMap String (List FlatUpdate) :=
  groups.update f.model [] (· ++ [f])

theorem byModel_eq_foldl (ops : List FlatUpdate) : byModel ops = ops.foldl addUpdate ∅ := rfl

variable {groups : OrderedMap String (List FlatUpdate)}

theorem keys_foldl_addUpdate {models : List String} (keys : groups.keys = models.eraseDups)
    (ops : List FlatUpdate)
    : (ops.foldl addUpdate groups).keys
      = (models ++ ops.map FlatUpdate.model).eraseDups := by
  induction ops generalizing groups models with
  | nil => simpa using keys
  | cons f ops ih =>
    have added : (addUpdate groups f).keys = (models ++ [f.model]).eraseDups :=
      OrderedMap.keys_set keys ..
    rw [List.foldl_cons, ih added, List.append_assoc]
    rfl

theorem getD_foldl_addUpdate (groups : OrderedMap String (List FlatUpdate)) (ops : List FlatUpdate)
    (model : String)
    : ((ops.foldl addUpdate groups).get? model).getD []
      = (groups.get? model).getD [] ++ ops.filter fun f => f.model = model := by
  induction ops generalizing groups with
  | nil => simp
  | cons f ops ih =>
    have added : (addUpdate groups f).get? model
        = if model = f.model then some ((groups.get? f.model).getD [] ++ [f])
          else groups.get? model := OrderedMap.get?_set ..
    rw [List.foldl_cons, ih, added]
    by_cases same : model = f.model
    · simp [same]
    · simp [same, Ne.symm same]

theorem perm_foldl_addUpdate (groups : OrderedMap String (List FlatUpdate)) (ops : List FlatUpdate)
    : ((ops.foldl addUpdate groups).entries.flatMap Prod.snd).Perm
        (groups.entries.flatMap Prod.snd ++ ops) := by
  induction ops generalizing groups with
  | nil => simp
  | cons f ops ih =>
    have added : ((addUpdate groups f).entries.flatMap Prod.snd).Perm
        (groups.entries.flatMap Prod.snd ++ [f]) := OrderedMap.perm_setEntry_concat ..
    rw [List.foldl_cons, List.append_cons]
    exact (ih (addUpdate groups f)).trans (added.append_right ops)

theorem entries_byModel (ops : List FlatUpdate) : (byModel ops).entries = batches ops := by
  have keys : (byModel ops).keys = (ops.map FlatUpdate.model).eraseDups := by
    have empty : (∅ : OrderedMap String (List FlatUpdate)).keys = ([] : List String).eraseDups :=
      rfl
    exact keys_foldl_addUpdate empty ops
  have values : ∀ model ∈ (byModel ops).keys,
      (byModel ops).get? model = some (ops.filter fun f => f.model = model) := by
    intro model known
    obtain ⟨fs, found⟩ := OrderedMap.exists_get?_of_mem_keys known
    have grouped := getD_foldl_addUpdate ∅ ops model
    rw [← byModel_eq_foldl, found] at grouped
    exact found.trans (congrArg some grouped)
  rw [OrderedMap.entries_eq_map_keys values, keys]
  rfl

end Connector

/-- Every update is in exactly one batch. -/
theorem perm_batches (ops : List FlatUpdate) : ((batches ops).flatMap Prod.snd).Perm ops := by
  rw [← Connector.entries_byModel]
  exact Connector.perm_foldl_addUpdate ∅ ops

theorem batches_ne_nil {ops : List FlatUpdate} (some : ops ≠ []) : batches ops ≠ [] := by
  intro none
  have all := perm_batches ops
  rw [none] at all
  exact some (List.nil_perm.1 all)

-----------------------------------------------------------------------------------------
-- Attempts
-----------------------------------------------------------------------------------------

/-- How a failure that concerns a batch is told: with its model and its size. -/
def Batch.Told (batch : Batch) : Failure → Failure → Prop :=
  DocGateway.Told "update_bulk" (.text batch.1) [("count", .int batch.2.length)]

/-- An attempt to write one batch, and what the client made of it. It may refuse the collection, and
then no write is made.
-/
structure Attempt where
  batch : Batch
  write : Except Failure (Except Failure WriteReceipt)

namespace Attempt

/-- The receipt of the write, or the failure that stands in its place. -/
def outcome (a : Attempt) : Except Failure WriteReceipt := a.write.bind id

/-- What the client was asked for: one write for each update of the batch, in one call. -/
def calls (database : Database κ) (a : Attempt) : List (ClientCall κ) :=
  match a.write with
  | .ok _ => [.bulkWrite database (.text a.batch.1) (a.batch.2.map FlatUpdate.write)]
  | .error _ => []

/-- What is made of an attempt: whether it was acknowledged, or the failure that is told. A failure
to tell how many records a write has reached comes first, and is passed on as it is.
-/
inductive ComesTo (a : Attempt) : Except Failure Bool → Prop
  | written {receipt : WriteReceipt} {count : Value} (made : a.outcome = .ok receipt)
      (counted : receipt.count = .ok count)
    : a.ComesTo (.ok receipt.acknowledged.truthy)
  | uncounted {receipt : WriteReceipt} {f : Failure} (made : a.outcome = .ok receipt)
      (uncounted : receipt.count = .error f)
    : a.ComesTo (.error f)
  | failed {f f' : Failure} (failed : a.outcome = .error f) (told : a.batch.Told f f')
    : a.ComesTo (.error f')

/-- What is promised of an attempt: a write that was made is answered with its acknowledgement, and
only failures of the write are told.
-/
inductive Promised (a : Attempt) : Except Failure Bool → Prop
  | written {receipt : WriteReceipt} (made : a.outcome = .ok receipt)
    : a.Promised (.ok receipt.acknowledged.truthy)
  | failed {f f' : Failure} (failed : a.outcome = .error f) (told : a.batch.Told f f')
    : a.Promised (.error f')

/-- If the write was made, it is known how many records it has reached. -/
def Counted (a : Attempt) : Prop := ∀ receipt, a.outcome = .ok receipt → ∃ n, receipt.count = .ok n

/-- The attempt was written and its records were counted. -/
def written? (a : Attempt) : Bool := (a.outcome.bind WriteReceipt.count).toBool

variable {a : Attempt}

theorem ComesTo.written?_eq {answer : Except Failure Bool} (comes : a.ComesTo answer)
    : a.written? = answer.toBool := by
  cases comes with
  | written made counted => simp [written?, made, counted, Except.bind, Except.toBool]
  | uncounted made uncounted => simp [written?, made, uncounted, Except.bind, Except.toBool]
  | failed failed => simp [written?, failed, Except.bind, Except.toBool]

theorem ComesTo.counted {b : Bool} (comes : a.ComesTo (.ok b)) : a.Counted := by
  intro receipt made'
  cases comes with
  | written made counted =>
    cases made.symm.trans made'
    exact ⟨_, counted⟩

theorem Promised.counted {f : Failure} (promised : a.Promised (.error f)) : a.Counted := by
  intro receipt made
  cases promised with
  | failed failed => cases failed.symm.trans made

theorem ComesTo.promised {answer : Except Failure Bool} (comes : a.ComesTo answer)
    (counted : a.Counted)
    : a.Promised answer := by
  cases comes with
  | written made => exact .written made
  | uncounted made uncounted =>
    obtain ⟨n, count⟩ := counted _ made
    cases uncounted.symm.trans count
  | failed failed told => exact .failed failed told

end Attempt

namespace DatabaseClient

/-- Attempts to write a batch: selects the collection of its model and writes to it. -/
def attempt (client : DatabaseClient κ σ) (database : Database κ) (batch : Batch) (t : σ)
    : Attempt × σ :=
  let selected := (client.selectCollection database (.text batch.1)).run t
  match selected.result with
  | .error f => (⟨batch, .error f⟩, selected.state)
  | .ok () =>
    let written :=
      (client.bulkWrite database (.text batch.1) (batch.2.map FlatUpdate.write)).run selected.state
    (⟨batch, .ok written.result⟩, written.state)

/-- The attempts to write batches one after the other, up to the first that is not written. -/
def attempts (client : DatabaseClient κ σ) (database : Database κ) : List Batch → σ → List Attempt
  | [], _ => []
  | batch :: rest, t =>
    let tried := client.attempt database batch t
    tried.1 :: if tried.1.written? then attempts client database rest tried.2 else []

theorem attempt_batch (client : DatabaseClient κ σ) (database : Database κ) (batch : Batch) (t : σ)
    : (client.attempt database batch t).1.batch = batch := by
  unfold attempt
  dsimp only
  split
  · rfl
  · rfl

end DatabaseClient

/-- What becomes of batches, if `comes` says so of attempts. Either there is one attempt for each of
them and all come to answers, or an attempt comes to a failure: all batches before it were written,
and none after it was tried.
-/
inductive Delivered (comes : Attempt → Except Failure Bool → Prop) (plan : List Batch)
    : List Attempt → Except Failure (List Bool) → Prop
  | complete {attempts : List Attempt} {answers : List Bool}
      (tried : attempts.map Attempt.batch = plan)
      (written : List.Forall₂ (fun a b => comes a (.ok b)) attempts answers)
    : Delivered comes plan attempts (.ok answers)
  | cut {earlier : List Attempt} {last : Attempt} {untried : List Batch} {f : Failure}
      (tried : earlier.map Attempt.batch ++ last.batch :: untried = plan)
      (written : ∀ a ∈ earlier, ∃ b, comes a (.ok b))
      (failed : comes last (.error f))
    : Delivered comes plan (earlier ++ [last]) (.error f)

namespace Delivered

variable {comes : Attempt → Except Failure Bool → Prop} {batch : Batch} {plan : List Batch}
  {a : Attempt} {attempts : List Attempt}

theorem stop {f : Failure} (tried : a.batch = batch) (failed : comes a (.error f))
    : Delivered comes (batch :: plan) [a] (.error f) :=
  @cut comes (batch :: plan) [] a plan f (congrArg (· :: plan) tried) nofun failed

theorem next {b : Bool} {answers : Except Failure (List Bool)} (tried : a.batch = batch)
    (first : comes a (.ok b)) (rest : Delivered comes plan attempts answers)
    : Delivered comes (batch :: plan) (a :: attempts) (answers.map (b :: ·)) := by
  subst tried
  cases rest with
  | complete tried written => exact .complete (congrArg (a.batch :: ·) tried) (.cons first written)
  | @cut earlier last untried f tried written failed =>
    refine @cut comes (a.batch :: plan) (a :: earlier) last untried f ?_ ?_ failed
    · exact congrArg (a.batch :: ·) tried
    · exact List.forall_mem_cons.2 ⟨⟨b, first⟩, written⟩

theorem failed_of_concat {earlier : List Attempt} {last : Attempt} {f : Failure}
    (delivered : Delivered comes plan attempts (.error f)) (ends : attempts = earlier ++ [last])
    : comes last (.error f) := by
  cases delivered with
  | cut tried written failed =>
    obtain ⟨_, same⟩ := List.append_inj' ends rfl
    cases same
    exact failed

theorem mono {comes' : Attempt → Except Failure Bool → Prop} {answers : Except Failure (List Bool)}
    (delivered : Delivered comes plan attempts answers)
    (weaker : ∀ a ∈ attempts, ∀ answer, comes a answer → comes' a answer)
    : Delivered comes' plan attempts answers := by
  cases delivered with
  | complete tried written =>
    refine .complete tried ?_
    clear tried
    induction written with
    | nil => exact .nil
    | cons first rest ih =>
      obtain ⟨here, later⟩ := List.forall_mem_cons.1 weaker
      exact .cons (here _ first) (ih later)
  | cut tried written failed =>
    refine .cut tried (fun a member => ?_) (weaker _ (List.mem_append_right _ ?_) _ failed)
    · obtain ⟨b, came⟩ := written a member
      exact ⟨b, weaker a (List.mem_append_left _ member) _ came⟩
    · exact List.mem_singleton_self _

/-- Attempts that came to answers were counted. What failed last was the write itself, if that is
as promised, and not its count.
-/
theorem counted {answers answers' : Except Failure (List Bool)}
    (delivered : Delivered Attempt.ComesTo plan attempts answers)
    (promised : Delivered Attempt.Promised plan attempts answers')
    (same : ∀ f, answers = .error f → answers' = .error f)
    : ∀ a ∈ attempts, a.Counted := by
  cases delivered with
  | @complete attempts answers tried written =>
    clear tried promised same
    induction written with
    | nil => exact List.forall_mem_nil _
    | cons first _ ih => exact List.forall_mem_cons.2 ⟨first.counted, ih⟩
  | @cut earlier last untried f tried written failed =>
    rw [same f rfl] at promised
    refine List.forall_mem_append.2 ⟨fun a member => ?_, List.forall_mem_singleton.2 ?_⟩
    · obtain ⟨b, came⟩ := written a member
      exact came.counted
    · exact (promised.failed_of_concat rfl).counted

end Delivered

theorem Action.run_collect_cons {α β : Type} (f : α → Action σ β) (a : α) (as : List α) (s : σ)
    : (collect f (a :: as)).run s
      = ((f a).run s).andThen fun b s' =>
          ((collect f as).run s').andThen fun bs s'' => ⟨.ok (b :: bs), s'', []⟩ := rfl

namespace Connector

variable {c : Connector κ σ} {k : Connection κ} {database : Database κ}

/-- Sending a batch is one write through the connection. -/
theorem sendModel_eq_writing (batch : Batch)
    : ∃ shown, ∀ {κ σ : Type} (c : Connector κ σ),
        c.sendModel batch.1 batch.2
        = c.writing "update_bulk" (.text batch.1) [("count", .int batch.2.length)] shown
            fun database =>
              c.client.bulkWrite database (.text batch.1) (batch.2.map FlatUpdate.write) := by
  have length : (batch.2.map FlatUpdate.write).length = batch.2.length := List.length_map ..
  rw [← length]
  exact ⟨_, fun _ => rfl⟩

/-- With the database at hand only the collection is to be selected. -/
theorem run_getCollection_of_kept (kept : k.database? = some database) (model : Value) (t : σ)
    : (c.getCollection model).run (k, t)
      = ((c.client.selectCollection database model).onSecond.run (k, t)).andThen fun _ s =>
          ⟨.ok database, s, []⟩ := by
  simp only [getCollection, Action.run_bind, run_getDatabase_of_some kept, Outcome.andThen_ok,
    Outcome.after_nil]
  rfl

/-- With the database at hand a batch is one attempt, and its answer is what this comes to. -/
theorem run_sendModel_of_kept (kept : k.database? = some database) (t : σ) (batch : Batch)
    : let tried := c.client.attempt database batch t
      ∃ result log,
        (c.sendModel batch.1 batch.2).run (k, t) = ⟨result, (k, tried.2), log⟩
        ∧ tried.1.ComesTo result := by
  intro tried
  obtain ⟨shown, sends⟩ := sendModel_eq_writing batch
  rw [sends]
  simp only [writing, Action.run_bind, Action.run_mapFailure, run_getCollection_of_kept kept]
  rcases selected : (c.client.selectCollection database (.text batch.1)).run t
    with ⟨f | _, t', log⟩
  · have refused : tried = (⟨batch, .error f⟩, t') := by
      simp only [tried, DatabaseClient.attempt, selected]
    rw [refused]
    simp only [Action.run_onSecond, selected, Outcome.andThen_error, Except.mapError_error]
    exact ⟨_, _, rfl, .failed rfl (told_callFailure ..)⟩
  · rcases came : (c.client.bulkWrite database (.text batch.1)
      (batch.2.map FlatUpdate.write)).run t' with ⟨result, t'', log'⟩
    have made : tried = (⟨batch, .ok result⟩, t'') := by
      simp only [tried, DatabaseClient.attempt, selected, came]
    rw [made]
    simp only [Action.run_onSecond, selected, Outcome.andThen_ok, Outcome.after_mk, came]
    cases result with
    | error f =>
      rw [Except.mapError_error, Outcome.andThen_error]
      exact ⟨_, _, rfl, .failed rfl (told_callFailure ..)⟩
    | ok receipt =>
      obtain ⟨log'', reported⟩ := run_reporting shown receipt
      rw [Except.mapError_ok, Outcome.andThen_ok, reported, Outcome.after_mk]
      refine ⟨_, _, rfl, ?_⟩
      cases counted : receipt.count with
      | ok count => exact .written rfl counted
      | error f => exact .uncounted rfl counted

theorem run_sendModel_recorded (kept : k.database? = some database) (t : σ)
    (past : List (ClientCall κ)) (batch : Batch)
    : (c.recorded.sendModel batch.1 batch.2).run (k, (t, past))
      = withCalls past ((c.client.attempt database batch t).1.calls database)
          ((c.sendModel batch.1 batch.2).run (k, t)) := by
  obtain ⟨shown, sends⟩ := sendModel_eq_writing batch
  let call (database : Database κ) : ClientCall κ :=
    .bulkWrite database (.text batch.1) (batch.2.map FlatUpdate.write)
  have records (database : Database κ)
      : c.recorded.client.bulkWrite database (.text batch.1) (batch.2.map FlatUpdate.write)
        = (c.client.bulkWrite database (.text batch.1) (batch.2.map FlatUpdate.write)).recorded
            (call database) := rfl
  have recorded := c.run_writing_recorded "update_bulk" (.text batch.1)
    [("count", .int batch.2.length)] shown records k t past
  have calls : c.writeCalls (.text batch.1) call (k, t)
      = (c.client.attempt database batch t).1.calls database := by
    simp only [writeCalls, databaseCalls, kept, run_getCollection_of_kept kept,
      Action.run_onSecond, DatabaseClient.attempt]
    rcases (c.client.selectCollection database (.text batch.1)).run t with ⟨_ | _, _, _⟩
    · rfl
    · rfl
  rw [sends, sends, ← calls]
  exact recorded

/-- With the database at hand batches are sent one after the other, up to the first that fails.
Recording the calls changes nothing else.
-/
theorem delivered_collect (kept : k.database? = some database) (plan : List Batch) (t : σ)
    : Delivered Attempt.ComesTo plan (c.client.attempts database plan t)
        ((Action.collect (fun e => c.sendModel e.1 e.2) plan).run (k, t)).result
      ∧ ∀ past,
          (Action.collect (fun e => c.recorded.sendModel e.1 e.2) plan).run (k, (t, past))
            = withCalls past
                ((c.client.attempts database plan t).flatMap (Attempt.calls database))
                ((Action.collect (fun e => c.sendModel e.1 e.2) plan).run (k, t)) := by
  induction plan generalizing t with
  | nil =>
    refine ⟨.complete rfl .nil, fun past => ?_⟩
    simp [Action.collect, DatabaseClient.attempts, withCalls]
  | cons batch plan ih =>
    obtain ⟨result, log, sent, comes⟩ := run_sendModel_of_kept (c := c) kept t batch
    have recorded (past) := run_sendModel_recorded (c := c) kept t past batch
    have tried_batch := c.client.attempt_batch database batch t
    have attempts : c.client.attempts database (batch :: plan) t
        = (c.client.attempt database batch t).1 ::
            if (c.client.attempt database batch t).1.written? then
              c.client.attempts database plan (c.client.attempt database batch t).2
            else [] := rfl
    generalize c.client.attempt database batch t = tried at *
    rw [attempts, comes.written?_eq]
    simp only [Action.run_collect_cons, recorded, sent]
    cases result with
    | error f =>
      refine ⟨.stop tried_batch comes, fun past => ?_⟩
      simp [withCalls, Except.toBool]
    | ok b =>
      obtain ⟨delivered, rest⟩ := ih tried.2
      have prepended {τ : Type} (o : Outcome τ (List Bool))
          : (o.andThen fun bs s => ⟨.ok (b :: bs), s, []⟩).after log
            = ⟨o.result.map (b :: ·), o.state, log ++ o.log⟩ := by
        rcases o with ⟨_ | bs, s, log'⟩
        · rfl
        · simp [Except.map]
      simp only [withCalls, Outcome.andThen_ok, rest, prepended]
      exact ⟨delivered.next tried_batch comes, fun past => by simp [Except.toBool]⟩

end Connector

end DocGateway
