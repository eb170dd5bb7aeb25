import DocGateway.Proofs.Transaction.RunOutcome

/-!
Runs seen from outside: every call of storage and of a hook, in order, with its answer.

Any coalescer can be observed. Observing adds a history of exchanges to the state of storage and
changes nothing else, and a run that is not refused adds at most one storage call and one hook call.
-/

namespace DocGateway

variable {σ α : Type}

/-- A call of storage or of a hook, with what it came to. -/
inductive Exchange where
  | updateOne (model : String) (selector : Value) (updates : Fields)
    (answer : Except Failure Value)
  | updateBulk (flat : List FlatUpdate) (answer : Except Failure Value)
  | find (search : Search) (answer : Except Failure Value)
  | commit (tx : Transaction) (flat : List FlatUpdate) (answer : Except Failure Unit)
  | rollback (tx : Transaction) (flat : List FlatUpdate) (failure? : Option Failure)
    (answer : Except Failure Unit)

namespace Exchange

def isStorage : Exchange → Bool
  | updateOne .. | updateBulk .. | find .. => true
  | commit .. | rollback .. => false

def answer? : Exchange → Option (Except Failure Value)
  | updateOne _ _ _ answer | updateBulk _ answer | find _ answer => some answer
  | commit .. | rollback .. => none

/-- The one call that updates are sent in. -/
def ofSend (flat : List FlatUpdate) (answer : Except Failure Value) : Exchange :=
  match flat with
  | [f] => updateOne f.model f.selector f.updates answer
  | flat => updateBulk flat answer

/-- The call of the hook for how a run ended. -/
def ofHook (tx : Transaction) (e : Settlement) (answer : Except Failure Unit) : Exchange :=
  match e with
  | .committed flat => commit tx flat answer
  | .rolledBack flat failure? => rollback tx flat failure? answer

@[simp]
theorem isStorage_ofSend (flat : List FlatUpdate) (answer : Except Failure Value)
    : (ofSend flat answer).isStorage = true := by
  match flat with
  | [] => rfl
  | [_] => rfl
  | _ :: _ :: _ => rfl

@[simp]
theorem answer?_ofSend (flat : List FlatUpdate) (answer : Except Failure Value)
    : (ofSend flat answer).answer? = some answer := by
  match flat with
  | [] => rfl
  | [_] => rfl
  | _ :: _ :: _ => rfl

@[simp]
theorem isStorage_ofHook (tx : Transaction) (e : Settlement) (answer : Except Failure Unit)
    : (ofHook tx e answer).isStorage = false := by
  cases e <;> rfl

end Exchange

-----------------------------------------------------------------------------------------
-- Observing
-----------------------------------------------------------------------------------------

abbrev Observed (σ : Type) : Type := σ × List Exchange

/-- Does an action and adds what it came to to the history. -/
def Action.observed (exchange : Except Failure α → Exchange) (x : Action σ α)
    : Action (Observed σ) α :=
  ⟨fun t =>
    ⟨(x.run t.1).result, ((x.run t.1).state, t.2 ++ [exchange (x.run t.1).result]),
      (x.run t.1).log⟩⟩

@[simp]
theorem Action.run_observed (exchange : Except Failure α → Exchange) (x : Action σ α)
    (t : Observed σ)
    : (x.observed exchange).run t
      = ⟨(x.run t.1).result, ((x.run t.1).state, t.2 ++ [exchange (x.run t.1).result]),
          (x.run t.1).log⟩ := rfl

def StorageDriver.observed (d : StorageDriver σ) : StorageDriver (Observed σ) where
  name := d.name
  updateOne model selector updates :=
    (d.updateOne model selector updates).observed (.updateOne model selector updates)
  updateBulk flat := (d.updateBulk flat).observed (.updateBulk flat)
  find? := d.find?.map fun find search => (find search).observed (.find search)

def Hooks.observed (h : Hooks σ) : Hooks (Observed σ) where
  onCommit tx flat := (h.onCommit tx flat).observed (.commit tx flat)
  onRollback tx flat failure? := (h.onRollback tx flat failure?).observed
    (.rollback tx flat failure?)

def Coalescer.observed (c : Coalescer σ) : Coalescer (Observed σ) where
  driver := c.driver.observed
  hooks := c.hooks.observed
  clock := c.clock
  preferences := c.preferences
  level := c.level

@[simp]
theorem Coalescer.updatesFor_observed (c : Coalescer σ) (user : Value) (ops : List Operation)
    : c.observed.updatesFor user ops = c.updatesFor user ops := rfl

theorem StorageDriver.send_observed (d : StorageDriver σ) (flat : List FlatUpdate)
    : d.observed.send flat = (d.send flat).observed (.ofSend flat) := by
  match flat with
  | [] => rfl
  | [_] => rfl
  | _ :: _ :: _ => rfl

theorem Coalescer.callHook_observed (c : Coalescer σ) (tx : Transaction) (e : Settlement)
    : c.observed.callHook tx e = (c.callHook tx e).observed (.ofHook tx e) := by
  cases e <;> rfl

-----------------------------------------------------------------------------------------
-- Observing changes nothing
-----------------------------------------------------------------------------------------

def Outcome.forget (o : Outcome (Held (Observed σ)) α) : Outcome (Held σ) α :=
  ⟨o.result, (o.state.1, o.state.2.1), o.log⟩

@[simp]
theorem Outcome.forget_after (log : List LogEntry) (o : Outcome (Held (Observed σ)) α)
    : (o.after log).forget = o.forget.after log := rfl

private theorem forget_settle (c : Coalescer σ) (e : Settlement) (tx : Transaction) (s : σ)
    (past : List Exchange)
    : ((c.observed.settle e).run (tx, (s, past))).forget = (c.settle e).run (tx, s) := by
  simp only [Coalescer.settle, Action.run_bind, Held.run_enter, Outcome.andThen_ok,
    Action.run_current, Action.run_ofExcept]
  cases Coalescer.resultOf { tx with state := e.state } e with
  | error failure => rfl
  | ok r =>
    simp only [Outcome.andThen_ok, Action.run_bind, Held.run_putResult, Action.run_current,
      Action.run_onSecond, Action.run_attempt, c.callHook_observed, Action.run_observed]
    rcases (c.callHook { tx with state := e.state, result := some r } e).run s
      with ⟨_ | _, after, log⟩
    · rfl
    · rfl

private theorem observed_dispatch (c : Coalescer σ) (flat : List FlatUpdate) (s : σ)
    (past : List Exchange)
    : ∃ calls, (c.observed.dispatch flat).run (s, past)
        = ⟨((c.dispatch flat).run s).result, (((c.dispatch flat).run s).state, past ++ calls),
            ((c.dispatch flat).run s).log⟩ := by
  obtain ⟨text, dispatched⟩ := Coalescer.dispatch_eq flat
  have sent : c.observed.driver.send flat = (c.driver.send flat).observed (.ofSend flat) :=
    c.driver.send_observed flat
  simp only [dispatched, sent, Action.run_bind, Coalescer.run_note, Outcome.andThen_ok,
    Action.run_observed]
  rcases (c.driver.send flat).run s with ⟨_ | _, _, _⟩
  · exact ⟨_, rfl⟩
  · exact ⟨_, rfl⟩

private theorem forget_send (c : Coalescer σ) (flat : List FlatUpdate) (tx : Transaction) (s : σ)
    (past : List Exchange)
    : ((c.observed.send flat).run (tx, (s, past))).forget = (c.send flat).run (tx, s) := by
  obtain ⟨calls, dispatched⟩ := observed_dispatch c flat s past
  simp only [Coalescer.send, Action.run_bind, Held.run_enter, Outcome.andThen_ok,
    Action.run_current, Action.run_onSecond, Action.run_attempt, dispatched]
  rcases (c.dispatch flat).run s with ⟨failure | success, after, log⟩
  · simp [forget_settle]
    rfl
  · cases success
    · simp [forget_settle]
      rfl
    · simp [forget_settle]
      rfl

/-- Observing a run changes neither its result nor the transaction nor storage nor the log. -/
theorem Coalescer.forget_run (c : Coalescer σ) (tx : Transaction) (s : σ) (past : List Exchange)
    : (c.observed.run.run (tx, (s, past))).forget = c.run.run (tx, s) := by
  by_cases processed : tx.isProcessed = true
  · rw [run_of_processed _ processed, run_of_processed _ processed]
    rfl
  -- Flattening looks at neither storage nor hooks, so both runs take the same way out.
  · have fresh : tx.isProcessed = false := by simpa using processed
    have same : c.observed.flatten tx.user tx.operations = c.flatten tx.user tx.operations := rfl
    simp only [run, Action.run_bind, Held.run_consume, fresh, Bool.false_eq_true, if_false,
      Outcome.andThen_ok, Action.run_current]
    split
    · simp [forget_settle]
    · simp only [Action.run_bind, Held.run_enter, Outcome.andThen_ok, Action.run_ofExcept, same]
      cases c.flatten tx.user tx.operations with
      | error failure => rfl
      | ok flat =>
        simp only [Outcome.andThen_ok, Action.run_bind, Held.run_enter]
        split
        · simp [forget_settle]
        · simp [forget_send]

-----------------------------------------------------------------------------------------
-- The exchanges of a run
-----------------------------------------------------------------------------------------

/-- The storage calls for updates: one, or none if there are no updates. -/
def Coalescer.calls (c : Coalescer σ) (flat : List FlatUpdate) (s : σ) : List Exchange :=
  if flat.isEmpty then [] else [.ofSend flat ((c.driver.send flat).run s).result]

theorem Coalescer.calls_eq_nil_iff {c : Coalescer σ} {flat : List FlatUpdate} {s : σ}
    : c.calls flat s = [] ↔ flat = [] := by
  by_cases nothing : flat = [] <;> simp [calls, nothing]

theorem Coalescer.settlement_observed (c : Coalescer σ) (flat : List FlatUpdate) (s : σ)
    (past : List Exchange)
    : c.observed.settlement flat (s, past)
      = ((c.settlement flat s).1, ((c.settlement flat s).2, past ++ c.calls flat s)) := by
  have sent : c.observed.driver.send flat = (c.driver.send flat).observed (.ofSend flat) :=
    c.driver.send_observed flat
  by_cases nothing : flat = []
  · simp [settlement, calls, nothing]
  · simp [settlement, calls, nothing, sent]

/-- The exchanges of a run that is not refused: at most one storage call, and then one hook. -/
def Coalescer.conversation (c : Coalescer σ) (tx : Transaction) (id : String) (s : σ)
    : List Exchange :=
  c.calls (c.updatesFor tx.user tx.operations) s
    ++ [.ofHook (tx.settled ((c.ending tx s).1.result id)) (c.ending tx s).1
          (c.hooked tx id s).result]

/-- The ending of a run with the exchanges that led to it. -/
theorem Coalescer.Flattens.observed_run_eq {c : Coalescer σ} {tx : Transaction}
    (flattens : c.Flattens tx) (fresh : tx.isProcessed = false) {id : String}
    (named : tx.id = .text id) (s : σ) (past : List Exchange)
    : (c.observed.run.run (tx, (s, past))).result = .ok (c.returned tx id s)
      ∧ (c.observed.run.run (tx, (s, past))).state
        = (tx.settled (c.returned tx id s),
            ((c.hooked tx id s).state, past ++ c.conversation tx id s)) := by
  have observed : c.observed.Flattens tx := flattens
  obtain ⟨result, state⟩ := observed.run_eq fresh named (s, past)
  simp only [returned, hooked, ending, updatesFor_observed, settlement_observed,
    callHook_observed, Action.run_observed] at result state
  exact ⟨result, by rw [state, conversation, ← List.append_assoc]; rfl⟩

end DocGateway
