import DocGateway.Proofs.Transaction.Observation

/-!
How runs end, whatever storage and the hook do.

Each way out of a run settles state, result and the arguments of the hook together: they all follow
from the updates of the run and from the answer to its one storage call.
-/

namespace DocGateway

variable {σ : Type}

-----------------------------------------------------------------------------------------
-- Settlements and the calls that they come from
-----------------------------------------------------------------------------------------

def Exchange.Succeeded (call : Exchange) : Prop :=
  ∃ answer, call.answer? = some (.ok answer) ∧ answer.truthy = true

def Exchange.FailedWith (call : Exchange) (failure : Failure) : Prop :=
  call.answer? = some (.error failure)

/-- The updates that a run meant to send, sent or not. -/
def Settlement.flat : Settlement → List FlatUpdate
  | .committed flat => flat
  | .rolledBack flat _ => flat

/-- The failure of storage, if it failed. -/
def Settlement.failure? : Settlement → Option Failure
  | .committed _ => none
  | .rolledBack _ failure? => failure?

theorem Settlement.state_eq_or (e : Settlement) : e.state = .committed ∨ e.state = .rolledBack := by
  cases e with
  | committed => exact .inl rfl
  | rolledBack => exact .inr rfl

theorem Settlement.flat_ofAnswer (flat : List FlatUpdate) (answer : Except Failure Value)
    : (ofAnswer flat answer).flat = flat := by
  cases answer with
  | error => rfl
  | ok answer => cases h : answer.truthy <;> simp [ofAnswer, h, Settlement.flat]

theorem Settlement.failure?_ofAnswer {flat : List FlatUpdate} {answer : Except Failure Value}
    {failure : Failure}
    : (ofAnswer flat answer).failure? = some failure ↔ answer = .error failure := by
  cases answer with
  | error => simp [ofAnswer, Settlement.failure?]
  | ok answer => cases h : answer.truthy <;> simp [ofAnswer, h, Settlement.failure?]

theorem Settlement.state_ofAnswer {flat : List FlatUpdate} {answer : Except Failure Value}
    : (ofAnswer flat answer).state = .committed
      ↔ ∃ value, answer = .ok value ∧ value.truthy = true := by
  cases answer with
  | error => simp [ofAnswer, state]
  | ok answer => cases h : answer.truthy <;> simp [ofAnswer, h, state]

/-- What was changed is all that was to be sent, or nothing. -/
theorem Settlement.changed_eq (e : Settlement)
    : e.changed = if e.state = .committed then e.flat else [] := by
  cases e <;> rfl

theorem Exchange.ofHook_eq (tx : Transaction) (e : Settlement) (answer : Except Failure Unit)
    : (e.state = .committed → ofHook tx e answer = .commit tx e.flat answer)
      ∧ (e.state = .rolledBack
        → ofHook tx e answer = .rollback tx e.flat e.failure? answer) := by
  cases e with
  | committed => exact ⟨fun _ => rfl, nofun⟩
  | rolledBack => exact ⟨nofun, fun _ => rfl⟩

/-- A run that sends nothing is committed without updates; otherwise the one call decides. -/
theorem Coalescer.settlement_cases (c : Coalescer σ) (flat : List FlatUpdate) (s : σ)
    : flat = [] ∧ c.calls flat s = [] ∧ (c.settlement flat s).1 = .committed []
      ∨ ∃ answer,
          flat ≠ []
          ∧ c.calls flat s = [.ofSend flat answer]
          ∧ (c.settlement flat s).1 = .ofAnswer flat answer := by
  by_cases nothing : flat = []
  · exact .inl (by simp [calls, settlement, nothing])
  · exact .inr ⟨((c.driver.send flat).run s).result, nothing, by simp [calls, nothing],
      by simp [settlement, nothing]⟩

/-- All updates are kept for the hook, whatever storage answers. -/
theorem Coalescer.flat_settlement (c : Coalescer σ) (flat : List FlatUpdate) (s : σ)
    : (c.settlement flat s).1.flat = flat := by
  rcases c.settlement_cases flat s with ⟨rfl, _, settled⟩ | ⟨answer, _, _, settled⟩
  · rw [settled]
    rfl
  · rw [settled, Settlement.flat_ofAnswer]

theorem Coalescer.settlement_committed_iff (c : Coalescer σ) (flat : List FlatUpdate) (s : σ)
    : (c.settlement flat s).1.state = .committed ↔ ∀ call ∈ c.calls flat s, call.Succeeded := by
  rcases c.settlement_cases flat s with ⟨_, called, settled⟩ | ⟨answer, _, called, settled⟩
  · simp [called, settled, Settlement.state]
  · simp [called, settled, Settlement.state_ofAnswer, Exchange.Succeeded]

/-- The hook of a rollback is given the failure of the call if there was one. -/
theorem Coalescer.settlement_failure_iff (c : Coalescer σ) (flat : List FlatUpdate) (s : σ)
    (failure : Failure)
    : (c.settlement flat s).1.failure? = some failure
      ↔ ∃ call ∈ c.calls flat s, call.FailedWith failure := by
  rcases c.settlement_cases flat s with ⟨_, called, settled⟩ | ⟨answer, _, called, settled⟩
  · simp [called, settled, Settlement.failure?]
  · simp [called, settled, Settlement.failure?_ofAnswer, Exchange.FailedWith]

/-- A result says that there was nothing to do exactly if storage was not called. -/
theorem Coalescer.isNoop_settlement (c : Coalescer σ) (flat : List FlatUpdate) (s : σ)
    (id : String)
    : ((c.settlement flat s).1.result id).isNoop = true ↔ c.calls flat s = [] := by
  rcases c.settlement_cases flat s with ⟨_, called, settled⟩ | ⟨answer, filled, called, settled⟩
  · simp [called, settled, Settlement.result, TransactionResult.isNoop,
      TransactionResult.isCommitted, Settlement.state, Settlement.changed]
  · simp only [called, List.cons_ne_nil, iff_false, TransactionResult.isNoop,
      TransactionResult.isCommitted, Settlement.result, Bool.and_eq_true, beq_iff_eq,
      List.isEmpty_iff, not_and]
    intro committed changedNothing
    rw [Settlement.changed_eq, if_pos committed, c.flat_settlement] at changedNothing
    exact filled changedNothing

/-- A run's exchanges are at most one storage call, with all updates, and one call of a hook. -/
theorem Coalescer.conversation_cases (c : Coalescer σ) (tx : Transaction) (id : String) (s : σ)
    : ∃ hook,
        hook.isStorage = false
        ∧ (c.conversation tx id s = [hook]
          ∨ ∃ answer,
              c.conversation tx id s
              = [.ofSend (c.updatesFor tx.user tx.operations) answer, hook]) := by
  obtain ⟨hook, isHook, all⟩
      : ∃ hook : Exchange,
          hook.isStorage = false
          ∧ c.conversation tx id s = c.calls (c.updatesFor tx.user tx.operations) s ++ [hook] :=
    ⟨_, Exchange.isStorage_ofHook _ _ _, rfl⟩
  refine ⟨hook, isHook, ?_⟩
  rcases c.settlement_cases (c.updatesFor tx.user tx.operations) s
    with ⟨_, called, _⟩ | ⟨answer, _, called, _⟩
  · exact .inl (by rw [all, called]; rfl)
  · exact .inr ⟨answer, by rw [all, called]; rfl⟩

-----------------------------------------------------------------------------------------
-- The ending of a run
-----------------------------------------------------------------------------------------

/-- The exchanges of a run, which is the same run when it is observed (`Coalescer.forget_run`). -/
def Coalescer.exchanges (c : Coalescer σ) (tx : Transaction) (s : σ) : List Exchange :=
  (c.observed.run.run (tx, (s, []))).state.2.2

/-- A run's ending: its storage calls and its one hook call, the result that is settled when the
hook is called, and the result that the run returns.
-/
structure Coalescer.Ends (c : Coalescer σ) (tx : Transaction) (s : σ) (flat : List FlatUpdate)
    (calls : List Exchange) (hook : Exchange) (settled returned : TransactionResult)
    : Prop where
  returns : (c.run.run (tx, s)).result = .ok returned
  leaves : (c.run.run (tx, s)).state.1 = tx.settled returned
  exchanges : c.exchanges tx s = calls ++ [hook]
  /-- The updates are what flattening gives: for each record its merged updates, if there are any,
  with the user noted. -/
  flattened : c.flatten tx.user tx.operations = .ok flat
  merged
    : ∀ key,
        sentFor flat key
        = if (mergedFor tx.operations key).isEmpty then []
          else [c.noted tx.user (mergedFor tx.operations key)]
  /-- Storage is not called exactly if no record got a field. -/
  uncalled : calls = [] ↔ ∀ key, (mergedFor tx.operations key).isEmpty = true
  /-- Exactly one record got a field. -/
  calledForOne
    : (∃! key, (mergedFor tx.operations key).isEmpty = false)
      → ∃ f answer, flat = [f] ∧ calls = [.updateOne f.model f.selector f.updates answer]
  /-- Several records got a field. -/
  calledForMany
    : (∃ key, (mergedFor tx.operations key).isEmpty = false)
      → (¬ ∃! key, (mergedFor tx.operations key).isEmpty = false)
      → ∃ answer, calls = [.updateBulk flat answer]
  committed : returned.state = .committed ↔ ∀ call ∈ calls, call.Succeeded
  rolledBack : returned.state ≠ .committed → returned.state = .rolledBack
  operations : returned.operations = if returned.state = .committed then flat else []
  noop : returned.isNoop = true ↔ calls = []
  /-- The hook is given the transaction with its state and its result settled, and all updates. -/
  hookOfCommit
    : returned.state = .committed → ∃ answer, hook = .commit (tx.settled settled) flat answer
  hookOfRollback
    : returned.state = .rolledBack
      → ∃ failure? answer,
          hook = .rollback (tx.settled settled) flat failure? answer
          ∧ ∀ failure, failure? = some failure ↔ ∃ call ∈ calls, call.FailedWith failure
  /-- Without hooks the settled result is returned; with hooks at most the error is another. -/
  settles
    : (({ c with hooks := .silent } : Coalescer σ).run.run (tx, s)).result = .ok settled
  errorOnly : returned = { settled with error := returned.error }

theorem Coalescer.calls_of_one (c : Coalescer σ) {flat : List FlatUpdate} (s : σ)
    (single : flat.length = 1)
    : ∃ f answer,
        flat = [f] ∧ c.calls flat s = [.updateOne f.model f.selector f.updates answer] := by
  obtain ⟨f, rfl⟩ := List.length_eq_one_iff.1 single
  exact ⟨f, _, rfl, rfl⟩

theorem Coalescer.calls_of_many (c : Coalescer σ) {flat : List FlatUpdate} (s : σ)
    (filled : flat ≠ []) (several : flat.length ≠ 1)
    : ∃ answer, c.calls flat s = [.updateBulk flat answer] := by
  match flat with
  | [] => exact absurd rfl filled
  | [_] => exact absurd rfl several
  | _ :: _ :: _ => exact ⟨_, rfl⟩

/-- A failing hook adds to the error of a result and keeps the rest of it. -/
theorem TransactionResult.afterHook_eq (r : TransactionResult) (answer : Except Failure Unit)
    : r.afterHook answer = { r with error := (r.afterHook answer).error } := by
  cases answer <;> rfl

@[simp]
theorem Coalescer.id_returned (c : Coalescer σ) (tx : Transaction) (id : String) (s : σ)
    : (c.returned tx id s).id = id := by
  rw [returned, TransactionResult.afterHook_eq]
  rfl

@[simp]
theorem Coalescer.state_returned (c : Coalescer σ) (tx : Transaction) (id : String) (s : σ)
    : (c.returned tx id s).state = (c.ending tx s).1.state := by
  rw [returned, TransactionResult.afterHook_eq]
  rfl

@[simp]
theorem Coalescer.operations_returned (c : Coalescer σ) (tx : Transaction) (id : String) (s : σ)
    : (c.returned tx id s).operations = (c.ending tx s).1.changed := by
  rw [returned, TransactionResult.afterHook_eq]
  rfl

theorem Coalescer.isNoop_returned (c : Coalescer σ) (tx : Transaction) (id : String) (s : σ)
    : (c.returned tx id s).isNoop = ((c.ending tx s).1.result id).isNoop := by
  simp only [TransactionResult.isNoop, TransactionResult.isCommitted, state_returned,
    operations_returned]
  rfl

theorem Coalescer.returned_silent (c : Coalescer σ) (tx : Transaction) (id : String) (s : σ)
    : ({ c with hooks := .silent } : Coalescer σ).returned tx id s
      = (c.ending tx s).1.result id := by
  have same : ({ c with hooks := .silent } : Coalescer σ).ending tx s = c.ending tx s := rfl
  rw [returned, hooked, same]
  cases (c.ending tx s).1 <;> rfl

/-- Every run that is not refused ends, whatever storage answers and whatever the hook does. -/
theorem Coalescer.run_ends (c : Coalescer σ) (ready : c.Configured) {tx : Transaction}
    (fresh : tx.isProcessed = false) {id : String} (named : tx.id = .text id) (s : σ)
    : ∃ flat calls hook settled returned, c.Ends tx s flat calls hook settled returned := by
  obtain ⟨result, state⟩ := (ready.flattens tx).run_eq fresh named s
  obtain ⟨_, observed⟩ := (ready.flattens tx).observed_run_eq fresh named s []
  have quiet : ({ c with hooks := .silent } : Coalescer σ).Configured :=
    ⟨ready.utc, ready.timeField, ready.userField⟩
  have kept : (c.ending tx s).1.flat = c.updatesFor tx.user tx.operations :=
    c.flat_settlement ..
  let flat := c.updatesFor tx.user tx.operations
  let settled := (c.ending tx s).1.result id
  obtain ⟨onCommit, onRollback⟩ :=
    Exchange.ofHook_eq (tx.settled settled) (c.ending tx s).1 (c.hooked tx id s).result
  rw [kept] at onCommit onRollback
  let hook := Exchange.ofHook (tx.settled settled) (c.ending tx s).1 (c.hooked tx id s).result
  refine ⟨flat, c.calls flat s, hook, settled, c.returned tx id s, ?_⟩
  exact {
    returns := result
    leaves := by rw [state]
    exchanges := by
      rw [exchanges, observed]
      rfl
    flattened := ready.flatten_eq ..
    merged := c.sentFor_updatesFor tx.user tx.operations
    uncalled := calls_eq_nil_iff.trans updatesFor_eq_nil_iff
    calledForOne := fun one => c.calls_of_one s (length_updatesFor_eq_one_iff.2 one)
    calledForMany := by
      intro ⟨key, received⟩ many
      have filled : flat ≠ [] := by
        intro nothing
        have empty := updatesFor_eq_nil_iff.1 nothing key
        simp [received] at empty
      exact c.calls_of_many s filled fun single => many (length_updatesFor_eq_one_iff.1 single)
    committed := by
      rw [state_returned]
      exact c.settlement_committed_iff flat s
    rolledBack := by
      rw [state_returned]
      exact (c.ending tx s).1.state_eq_or.resolve_left
    operations := by
      rw [operations_returned, state_returned, Settlement.changed_eq, kept]
    noop := by
      rw [isNoop_returned]
      exact c.isNoop_settlement flat s id
    hookOfCommit := by
      rw [state_returned]
      exact fun committed => ⟨_, onCommit committed⟩
    hookOfRollback := by
      rw [state_returned]
      exact fun rolledBack =>
        ⟨_, _, onRollback rolledBack, c.settlement_failure_iff flat s⟩
    settles := by rw [((quiet.flattens tx).run_eq fresh named s).1, returned_silent]
    errorOnly := TransactionResult.afterHook_eq ..
  }

/-- A run whose storage and whose hook both fail. -/
theorem Coalescer.run_ends_of_failures
    : let lost : Failure := .foreign "OSError" "disk full"
      let c : Coalescer Unit :=
        ⟨⟨"Lost", fun _ _ _ => .fail lost, fun _ => .fail lost, none⟩,
          ⟨fun _ _ => .fail lost, fun _ _ _ => .fail lost⟩,
          .fixed ⟨⟨2024, 1, 5⟩, 10, 30, 0, 0, some 0⟩, .standard, .info⟩
      let tx : Transaction :=
        { Transaction.new c.preferences (.text "x") (.text "ann") .null true with
          operations := [⟨"task", "t1", .ofList [("name", .text "Apollo")]⟩, ⟨"task", "t2", ∅⟩] }
      c.Configured
      ∧ tx.isProcessed = false
      ∧ tx.id = .text "x"
      ∧ ∃ flat calls hook settled returned, c.Ends tx () flat calls hook settled returned := by
  intro lost c tx
  have ready : c.Configured := Coalescer.configured_of_settings rfl (by decide +kernel)
  exact ⟨ready, rfl, rfl, c.run_ends ready rfl rfl ()⟩

end DocGateway
