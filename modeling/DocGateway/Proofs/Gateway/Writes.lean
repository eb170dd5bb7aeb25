import DocGateway.Gateway
import DocGateway.Proofs.Registry.Sanitizing
import DocGateway.Proofs.Transaction.Observation

/-!
Writes of a gateway, as what its registry accepts and one run of a new transaction.

Both kinds of writes come to the same thing: operations are accepted one by one, and unless one is
refused they are run together. The laws here leave out messages only.
-/

namespace DocGateway

variable {σ : Type}

-----------------------------------------------------------------------------------------
-- Accepting operations
-----------------------------------------------------------------------------------------

/-- What an outcome is apart from its messages. -/
def Outcome.silent {σ α : Type} (o : Outcome σ α) : Except Failure α × σ :=
  (o.result, o.state)

@[simp]
theorem Outcome.silent_after {σ α : Type} (log : List LogEntry) (o : Outcome σ α)
    : (o.after log).silent = o.silent := rfl

def Registry.acceptGiven (r : Registry) (given : Given Operation) : Except Failure Operation := do
  r.accept (← Operation.ofGiven given)

/-- Accepts operations one by one, or none if one is refused. -/
def Registry.acceptAll (r : Registry) : List (Given Operation) → Except Failure (List Operation)
  | [] => .ok []
  | given :: rest => do
    let op ← r.acceptGiven given
    let ops ← r.acceptAll rest
    return op :: ops

theorem Gateway.run_acceptOne (given : Given Operation) (s : GatewayState σ)
    : ∃ log, (acceptOne given).run s = ⟨s.registry.acceptGiven given, s, log⟩ := by
  simp only [acceptOne, Action.run_bind, Action.run_ofExcept, Registry.acceptGiven]
  cases Operation.ofGiven given with
  | error e => exact ⟨_, rfl⟩
  | ok op =>
    obtain ⟨log, sanitized⟩ := s.registry.run_sanitize op.updates op.model s
    simp only [Outcome.andThen_ok, Action.run_bind, Action.run_current, sanitized]
    simp only [bind, Except.bind, Registry.accept]
    cases s.registry.kept op.model op.updates with
    | error e => exact ⟨_, rfl⟩
    | ok f => exact ⟨_, rfl⟩

theorem Gateway.run_collect_acceptOne (given : List (Given Operation)) (s : GatewayState σ)
    : ∃ log, (Action.collect acceptOne given).run s = ⟨s.registry.acceptAll given, s, log⟩ := by
  induction given with
  | nil => exact ⟨_, rfl⟩
  | cons given rest ih =>
    obtain ⟨log, first⟩ := run_acceptOne given s
    obtain ⟨more, others⟩ := ih
    simp only [Action.collect, Action.run_bind, first, Registry.acceptAll]
    cases s.registry.acceptGiven given with
    | error e => exact ⟨_, rfl⟩
    | ok op =>
      simp only [Outcome.andThen_ok, Action.run_bind, others]
      cases s.registry.acceptAll rest with
      | error e => exact ⟨_, rfl⟩
      | ok ops => exact ⟨_, rfl⟩

-----------------------------------------------------------------------------------------
-- Writes
-----------------------------------------------------------------------------------------

/-- A write of named fields that a gateway is asked for. -/
inductive GatewayWrite where
  | update (model record : String) (payload : Fields)
  | bulk (given : List (Given Operation))

namespace GatewayWrite

def submitted : GatewayWrite → List (Given Operation)
  | update model record payload => [.ready ⟨model, record, payload⟩]
  | bulk given => given

end GatewayWrite

/-- The state after one more id was generated. -/
def GatewayState.counted (s : GatewayState σ) : GatewayState σ :=
  { s with generated := s.generated + 1 }

namespace Gateway

def write (g : Gateway σ) (user : Value) : GatewayWrite → Action (GatewayState σ) TransactionResult
  | .update model record payload => g.update (.text model) (.text record) payload.toValue user
  | .bulk given => g.bulkUpdate given user

/-- The transaction that a write runs for accepted operations. -/
def opened (g : Gateway σ) (user : Value) (s : GatewayState σ) (ops : List Operation)
    : Transaction :=
  { Transaction.new g.preferences (.text (Uid.generated (s.generated + 1))) user .null true with
    operations := ops }

theorem run_newTransaction (g : Gateway σ) (user : Value) (s : GatewayState σ)
    : (g.newTransaction .null user .null true).run s
      = ⟨.ok (g.opened user s []), s.counted, []⟩ := rfl

/-- Several operations are accepted together, and then run. -/
theorem silent_bulk (g : Gateway σ) (user : Value) (given : List (Given Operation))
    (s : GatewayState σ)
    : ((g.write user (.bulk given)).run s).silent
      = match s.registry.acceptAll given with
        | .error e => (.error e, s.counted)
        | .ok ops => ((g.runNew (g.opened user s ops)).run s.counted).silent := by
  obtain ⟨log, accepts⟩ := run_collect_acceptOne given s.counted
  have registry : s.counted.registry = s.registry := rfl
  simp only [write, bulkUpdate, Action.run_bind, run_newTransaction, Outcome.andThen_ok, accepts,
    registry]
  cases s.registry.acceptAll given with
  | error e => rfl
  | ok ops => simp [note, opened]

/-- One operation is accepted in the same way; a model that is unknown costs no id. -/
theorem silent_update (g : Gateway σ) (user : Value) (model record : String) (payload : Fields)
    (s : GatewayState σ)
    : ((g.write user (.update model record payload)).run s).silent
      = match s.registry.kept model payload with
        | .error e => (.error e, s)
        | .ok f =>
          match Operation.ofParts (.text model) (.text record) f.toEntries with
          | .error e => (.error e, s.counted)
          | .ok op => ((g.runNew (g.opened user s [op])).run s.counted).silent := by
  obtain ⟨log, sanitized⟩ := s.registry.run_sanitize payload model s
  simp only [write, update, Action.run_bind, Action.run_current, Outcome.andThen_ok, sanitized]
  cases s.registry.kept model payload with
  | error e => rfl
  | ok f =>
    simp only [Except.map, Outcome.andThen_ok, Action.run_bind, run_newTransaction,
      Action.run_ofExcept]
    cases Operation.ofParts (.text model) (.text record) f.toEntries with
    | error e => rfl
    | ok op => simp [opened]

end Gateway

end DocGateway
