import DocGateway.Proofs.Coalescing.MergedUpdates
import DocGateway.Transaction.Run

/-!
What a run of a transaction comes to, as a function of what storage and the hook answer.

A run that is not refused fixes its updates, sends them at most once, and settles. The laws here
give the ending of a run in one equation, so that nothing else has to open the steps of a run.
-/

namespace DocGateway

variable {σ : Type}

-----------------------------------------------------------------------------------------
-- The updates of a run
-----------------------------------------------------------------------------------------

/-- The clock can be read in UTC and the audit fields have names, as loaded settings give them. -/
structure Coalescer.Configured (c : Coalescer σ) : Prop where
  utc : (c.clock.now?.bind Moment.toUtc?).isSome = true
  timeField : ∃ name, c.preferences.updatedAtField = .text name
  userField : ∃ name, c.preferences.updatedByField = .text name

/-- Loaded settings always name the audit fields. -/
theorem Coalescer.configured_of_settings {c : Coalescer σ} {settings : Settings}
    (loaded : c.preferences = .ofSettings settings)
    (utc : (c.clock.now?.bind Moment.toUtc?).isSome = true)
    : c.Configured :=
  ⟨utc, ⟨_, by rw [loaded]; rfl⟩, ⟨_, by rw [loaded]; rfl⟩⟩

/-- The fields of an update with its time and its user noted, if there is a user. -/
def Coalescer.noted (c : Coalescer σ) (user : Value) (f : Fields) : Fields :=
  if user.truthy then
    match c.clock.now?.bind Moment.stamp?, AuditFields.read c.preferences with
    | some time, .ok names => (f.set names.time (.text time)).set names.user user
    | _, _ => f
  else f

/-- The updates that a coalescer sends for operations of a user. -/
def Coalescer.updatesFor (c : Coalescer σ) (user : Value) (ops : List Operation)
    : List FlatUpdate :=
  (Buckets.ofOperations ops).flatten.map fun f => { f with updates := c.noted user f.updates }

@[simp]
theorem Coalescer.updatesFor_nil (c : Coalescer σ) (user : Value) : c.updatesFor user [] = [] := rfl

/-- Whatever flattening gives is the merged updates with the user noted in each. -/
theorem Coalescer.eq_updatesFor {c : Coalescer σ} {user : Value} {ops : List Operation}
    {flat : List FlatUpdate} (h : c.flatten user ops = .ok flat)
    : flat = c.updatesFor user ops := by
  by_cases hu : user.truthy = true
  · cases ht : c.clock.now?.bind Moment.stamp? with
    | none => simp [flatten, AuditStamp.of, hu, ht, bind, Except.bind] at h
    | some time =>
      simp only [flatten, AuditStamp.of, hu, ht, bind, Except.bind, Bool.not_true,
        Bool.false_eq_true, if_false] at h
      split at h
      · rename_i nothing
        have none := List.isEmpty_iff.1 nothing
        cases h
        simp [updatesFor, none]
      · cases hn : AuditFields.read c.preferences with
        | error e => simp [hn] at h
        | ok names =>
          rw [hn] at h
          cases h
          simp [updatesFor, noted, hu, ht, hn, AuditStamp.note, AuditStamp.apply]
  · simp only [flatten, AuditStamp.of, hu, bind, Except.bind, Bool.not_false, if_true] at h
    cases h
    simp [updatesFor, noted, hu]

theorem Coalescer.flatten_of_no_user (c : Coalescer σ) {user : Value} (ops : List Operation)
    (hu : user.truthy = false)
    : c.flatten user ops = .ok (c.updatesFor user ops) := by
  simp [flatten, AuditStamp.of, hu, updatesFor, noted, bind, Except.bind, pure, Except.pure]

/-- With a user, flattening succeeds once the time can be stamped and the fields have names. -/
theorem Coalescer.flatten_of_stamp (c : Coalescer σ) (user : Value) (ops : List Operation)
    {time : String} {names : AuditFields} (ht : c.clock.now?.bind Moment.stamp? = some time)
    (hn : AuditFields.read c.preferences = .ok names)
    : c.flatten user ops = .ok (c.updatesFor user ops) := by
  cases hu : user.truthy with
  | false => exact c.flatten_of_no_user ops hu
  | true =>
    have succeeds : ∃ flat, c.flatten user ops = .ok flat := by
      simp only [flatten, AuditStamp.of, hu, ht, hn, bind, Except.bind, pure, Except.pure,
        Bool.not_true, Bool.false_eq_true, if_false]
      split
      · exact ⟨_, rfl⟩
      · exact ⟨_, rfl⟩
    obtain ⟨flat, h⟩ := succeeds
    rw [h, eq_updatesFor h]

theorem Coalescer.Configured.flatten_eq {c : Coalescer σ} (ready : c.Configured) (user : Value)
    (ops : List Operation)
    : c.flatten user ops = .ok (c.updatesFor user ops) := by
  obtain ⟨timeName, ht⟩ := ready.timeField
  obtain ⟨userName, hu⟩ := ready.userField
  obtain ⟨m, hm⟩ := Option.isSome_iff_exists.1 ready.utc
  obtain ⟨now, hnow, hutc⟩ := Option.bind_eq_some_iff.1 hm
  have stamp : c.clock.now?.bind Moment.stamp? = some (String.ofList m.stampChars) := by
    simp [hnow, Moment.stamp?, hutc]
  exact c.flatten_of_stamp user ops stamp (AuditFields.read_texts c.preferences ht hu)

theorem Coalescer.updatesFor_eq_nil_iff {c : Coalescer σ} {user : Value} {ops : List Operation}
    : c.updatesFor user ops = [] ↔ ∀ key, (mergedFor ops key).isEmpty = true := by
  rw [updatesFor, List.map_eq_nil_iff, flatten_eq_nil_iff]

theorem Coalescer.length_updatesFor_eq_one_iff {c : Coalescer σ} {user : Value}
    {ops : List Operation}
    : (c.updatesFor user ops).length = 1 ↔ ∃! key, (mergedFor ops key).isEmpty = false := by
  rw [updatesFor, List.length_map, flatten_length_eq_one_iff]

/-- A record is sent its merged updates with the user noted, or nothing if they are empty. -/
theorem Coalescer.sentFor_updatesFor (c : Coalescer σ) (user : Value) (ops : List Operation)
    (key : RecordKey)
    : sentFor (c.updatesFor user ops) key
      = if (mergedFor ops key).isEmpty then [] else [c.noted user (mergedFor ops key)] := by
  rw [updatesFor, sentFor_map, sentFor_flatten]
  split <;> rfl

-----------------------------------------------------------------------------------------
-- One storage call
-----------------------------------------------------------------------------------------

/-- The one call that updates are sent in. -/
def StorageDriver.send (d : StorageDriver σ) : List FlatUpdate → Action σ Value
  | [f] => d.updateOne f.model f.selector f.updates
  | flat => d.updateBulk flat

/-- How a run ends after storage has answered. -/
def Settlement.ofAnswer (flat : List FlatUpdate) : Except Failure Value → Settlement
  | .ok answer => if answer.truthy then .committed flat else .rolledBack flat none
  | .error failure => .rolledBack flat (some failure)

/-- How a run ends that has updates to send, and the state that storage is then in. -/
def Coalescer.settlement (c : Coalescer σ) (flat : List FlatUpdate) (s : σ) : Settlement × σ :=
  if flat.isEmpty then (.committed [], s)
  else
    let o := (c.driver.send flat).run s
    (.ofAnswer flat o.result, o.state)

@[simp]
theorem Coalescer.run_note (level : LogLevel) (text : String) (s : σ)
    : (note level text).run s = ⟨.ok (), s, [⟨level, LogSource.coalescer, text⟩]⟩ := rfl

/-- Dispatching is the one call, after a message, and tells whether the answer counts as true. -/
theorem Coalescer.dispatch_eq (flat : List FlatUpdate)
    : ∃ text, ∀ {σ : Type} (c : Coalescer σ),
        c.dispatch flat = do
          note .debug text
          let answer ← c.driver.send flat
          return answer.truthy := by
  match flat with
  | [] => exact ⟨_, fun _ => rfl⟩
  | [_] => exact ⟨_, fun _ => rfl⟩
  | _ :: _ :: _ => exact ⟨_, fun _ => rfl⟩

theorem Coalescer.run_dispatch (c : Coalescer σ) (flat : List FlatUpdate) (s : σ)
    : ∃ log, (c.dispatch flat).run s
        = ⟨((c.driver.send flat).run s).result.map Value.truthy,
            ((c.driver.send flat).run s).state, log⟩ := by
  obtain ⟨text, dispatched⟩ := dispatch_eq flat
  simp only [dispatched, Action.run_bind, run_note, Outcome.andThen_ok]
  rcases (c.driver.send flat).run s with ⟨_ | _, _, _⟩
  · exact ⟨_, rfl⟩
  · exact ⟨_, rfl⟩

-----------------------------------------------------------------------------------------
-- Settling
-----------------------------------------------------------------------------------------

@[simp]
theorem Held.run_enter (state : TransactionState) (h : Held σ)
    : (Held.enter state).run h = ⟨.ok (), ({ h.1 with state }, h.2), []⟩ := rfl

@[simp]
theorem Held.run_putResult (r : TransactionResult) (h : Held σ)
    : (Held.putResult r).run h = ⟨.ok (), ({ h.1 with result := some r }, h.2), []⟩ := rfl

theorem Held.run_consume (tx : Transaction) (s : σ)
    : (Held.consume : Action (Held σ) Unit).run (tx, s)
      = if tx.isProcessed then ⟨.error (tx.refusal "Transaction already processed"), (tx, s), []⟩
        else ⟨.ok (), ({ tx with isProcessed := true }, s), []⟩ := by
  simp only [Held.consume, Action.run_bind, Action.run_current, Outcome.andThen_ok,
    Action.run_ofExcept, Transaction.consume]
  split <;> rfl

/-- The result that a run which ended in some way has before the hook is called. -/
def Settlement.result (e : Settlement) (id : String) : TransactionResult :=
  ⟨id, e.state, e.changed, e.error⟩

def TransactionResult.afterHook (r : TransactionResult) : Except Failure Unit → TransactionResult
  | .ok () => r
  | .error failure => r.addHookFailure failure

def Transaction.settled (tx : Transaction) (r : TransactionResult) : Transaction :=
  { tx with isProcessed := true, state := r.state, result := some r }

/-- Settling leaves the result in the transaction, before the hook is called and after. -/
theorem Coalescer.run_settle (c : Coalescer σ) (e : Settlement) {tx : Transaction}
    {id : String} (named : tx.id = .text id) (s : σ)
    : ∃ log,
        let o := (c.callHook (tx.settled (e.result id)) e).run s
        let r := (e.result id).afterHook o.result
        (c.settle e).run ({ tx with isProcessed := true }, s)
          = ⟨.ok r, (tx.settled r, o.state), log⟩ := by
  have read : resultOf { tx with isProcessed := true, state := e.state } e
      = .ok (e.result id) := by
    simp only [resultOf, named]
    rfl
  have seen : { tx with isProcessed := true, state := e.state, result := some (e.result id) }
      = tx.settled (e.result id) := rfl
  simp only [settle, Action.run_bind, Held.run_enter, Outcome.andThen_ok, Action.run_current,
    Action.run_ofExcept, read, Held.run_putResult, seen, Action.run_onSecond, Action.run_attempt]
  rcases (c.callHook (tx.settled (e.result id)) e).run s with ⟨failure | _, after, log⟩
  · exact ⟨_, rfl⟩
  · exact ⟨_, rfl⟩

-----------------------------------------------------------------------------------------
-- Runs
-----------------------------------------------------------------------------------------

theorem Coalescer.run_send (c : Coalescer σ) {flat : List FlatUpdate} (filled : flat ≠ [])
    (tx : Transaction) (s : σ)
    : ∃ log, (c.send flat).run (tx, s)
        = ((c.settle (c.settlement flat s).1).run (tx, (c.settlement flat s).2)).after log := by
  obtain ⟨log, dispatched⟩ := c.run_dispatch flat s
  have sent : c.settlement flat s
      = (.ofAnswer flat ((c.driver.send flat).run s).result,
          ((c.driver.send flat).run s).state) := by
    simp [settlement, filled]
  rw [sent]
  simp only [send, Action.run_bind, Held.run_enter, Outcome.andThen_ok, Action.run_current,
    Action.run_onSecond, Action.run_attempt, dispatched]
  rcases (c.driver.send flat).run s with ⟨failure | answer, after, _⟩
  · exact ⟨_, by simp [Except.map, Settlement.ofAnswer]; rfl⟩
  · cases h : answer.truthy
    · exact ⟨_, by simp [Except.map, Settlement.ofAnswer, h]; rfl⟩
    · exact ⟨_, by simp [Except.map, Settlement.ofAnswer, h]; rfl⟩

/-- A processed transaction is refused, and nothing else happens. -/
theorem Coalescer.run_of_processed (c : Coalescer σ) {tx : Transaction}
    (processed : tx.isProcessed = true) (s : σ)
    : c.run.run (tx, s)
      = ⟨.error (tx.refusal "Transaction already processed"), (tx, s), []⟩ := by
  simp [run, Held.run_consume, processed]

/-- Flattening gives updates, or is not needed as there are no operations. -/
def Coalescer.Flattens (c : Coalescer σ) (tx : Transaction) : Prop :=
  tx.operations = []
  ∨ c.flatten tx.user tx.operations = .ok (c.updatesFor tx.user tx.operations)

theorem Coalescer.Configured.flattens {c : Coalescer σ} (ready : c.Configured) (tx : Transaction)
    : c.Flattens tx :=
  .inr (ready.flatten_eq tx.user tx.operations)

/-- If flattening fails, the run fails before storage and hooks. -/
theorem Coalescer.run_of_not_flattens (c : Coalescer σ) {tx : Transaction}
    (fresh : tx.isProcessed = false) (stuck : ¬ c.Flattens tx) (s : σ)
    : ∃ e,
        c.flatten tx.user tx.operations = .error e
        ∧ (c.run.run (tx, s)).result = .error e
        ∧ (c.run.run (tx, s)).state.2 = s := by
  obtain ⟨some, fails⟩ := not_or.1 stuck
  simp only [run, Action.run_bind, Held.run_consume, fresh, Bool.false_eq_true, if_false,
    Outcome.andThen_ok, Action.run_current, List.isEmpty_iff, some, Held.run_enter,
    Action.run_ofExcept]
  cases flattened : c.flatten tx.user tx.operations with
  | error e => exact ⟨e, rfl, rfl, rfl⟩
  | ok flat => exact absurd (eq_updatesFor flattened ▸ flattened) fails

/-- A run that is not refused settles by what storage answers. -/
theorem Coalescer.run_of_fresh (c : Coalescer σ) {tx : Transaction}
    (fresh : tx.isProcessed = false) (flattens : c.Flattens tx) (s : σ)
    : ∃ log, (c.run.run (tx, s))
        = ((c.settle (c.settlement (c.updatesFor tx.user tx.operations) s).1).run
            ({ tx with isProcessed := true },
              (c.settlement (c.updatesFor tx.user tx.operations) s).2)).after log := by
  simp only [run, Action.run_bind, Held.run_consume, fresh, Bool.false_eq_true, if_false,
    Outcome.andThen_ok, Action.run_current]
  by_cases none : tx.operations = []
  · exact ⟨[], by simp [none, settlement]⟩
  · have flattened := flattens.resolve_left none
    simp only [List.isEmpty_iff, none, if_false, Action.run_bind, Held.run_enter,
      Outcome.andThen_ok, Action.run_ofExcept, flattened]
    by_cases nothing : c.updatesFor tx.user tx.operations = []
    · exact ⟨_, by simp [nothing, settlement]; rfl⟩
    · obtain ⟨log, sent⟩ := c.run_send nothing
        { tx with isProcessed := true, state := .flattened } s
      exact ⟨log, by simp [nothing, sent]; rfl⟩

/-- How a run ends, and the state that storage is then in. -/
def Coalescer.ending (c : Coalescer σ) (tx : Transaction) (s : σ) : Settlement × σ :=
  c.settlement (c.updatesFor tx.user tx.operations) s

def Coalescer.hooked (c : Coalescer σ) (tx : Transaction) (id : String) (s : σ)
    : Outcome σ Unit :=
  (c.callHook (tx.settled ((c.ending tx s).1.result id)) (c.ending tx s).1).run (c.ending tx s).2

def Coalescer.returned (c : Coalescer σ) (tx : Transaction) (id : String) (s : σ)
    : TransactionResult :=
  ((c.ending tx s).1.result id).afterHook (c.hooked tx id s).result

/-- A run that is not refused sends its updates at most once, and calls the hook with the settled
transaction.
-/
theorem Coalescer.Flattens.run_eq {c : Coalescer σ} {tx : Transaction} (flattens : c.Flattens tx)
    (fresh : tx.isProcessed = false) {id : String} (named : tx.id = .text id) (s : σ)
    : (c.run.run (tx, s)).result = .ok (c.returned tx id s)
      ∧ (c.run.run (tx, s)).state
        = (tx.settled (c.returned tx id s), (c.hooked tx id s).state) := by
  obtain ⟨before, settles⟩ := c.run_of_fresh fresh flattens s
  obtain ⟨log, settled⟩ := c.run_settle (c.ending tx s).1 named (c.ending tx s).2
  have ran := settles.trans (congrArg (Outcome.after before) settled)
  rw [ran]
  exact ⟨rfl, rfl⟩

end DocGateway
