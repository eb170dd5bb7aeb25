import DocGateway.Proofs.Transaction.RunOutcome

/-!
Coalescing keeps the effect of the submitted writes on storage.

Storage is seen as a map from records to their fields. One run changes it as the operations would,
each written by itself in submission order; a user is noted in exactly the records that got a field.
-/

namespace DocGateway

variable {σ : Type}

-----------------------------------------------------------------------------------------
-- Stores
-----------------------------------------------------------------------------------------

/-- The fields of each record that there is. -/
abbrev Store : Type := RecordKey → Option Fields

namespace Store

/-- A record after a write, which sets each listed field; without a field nothing changes. -/
def written (record : Option Fields) (f : Fields) : Option Fields :=
  if f.isEmpty then record else some ((record.getD ∅).merge f)

def write (store : Store) (key : RecordKey) (f : Fields) : Store := fun k =>
  if k = key then written (store k) f else store k

def writeAll (store : Store) (flat : List FlatUpdate) : Store :=
  flat.foldl (fun store f => store.write f.key f.updates) store

def applyAll (store : Store) (ops : List Operation) : Store :=
  ops.foldl (fun store op => store.write op.key op.updates) store

/-- Sets two fields of exactly the records that got a field from operations. -/
def audited (store : Store) (ops : List Operation) (timeField userField : String)
    (time user : Value) : Store := fun key =>
  if ∃ op ∈ ops, op.key = key ∧ op.updates.isEmpty = false then
    (store key).map fun f => (f.set timeField time).set userField user
  else store key

@[simp]
theorem written_empty (record : Option Fields) : written record ∅ = record := rfl

/-- Writing twice comes to writing the merged fields. -/
theorem written_written (record : Option Fields) (f g : Fields)
    : written (written record f) g = written record (f.merge g) := by
  cases hf : f.isEmpty with
  | true =>
    have none := OrderedMap.isEmpty_iff.1 hf
    subst none
    rw [OrderedMap.empty_merge, written_empty]
  | false =>
    cases hg : g.isEmpty with
    | true =>
      have none := OrderedMap.isEmpty_iff.1 hg
      subst none
      rw [OrderedMap.merge_empty, written_empty]
    | false => simp [written, hf, hg, OrderedMap.isEmpty_merge, OrderedMap.merge_assoc]

theorem writeAll_apply (store : Store) (flat : List FlatUpdate) (key : RecordKey)
    : store.writeAll flat key = (sentFor flat key).foldl written (store key) := by
  induction flat generalizing store with
  | nil => rfl
  | cons f flat ih =>
    refine (ih (store.write f.key f.updates)).trans ?_
    by_cases h : f.key = key
    · simp [write, sentFor, h]
    · simp [write, sentFor, h, Ne.symm h]

/-- Writes of operations come to one write of the merged updates of each record. -/
theorem applyAll_apply (store : Store) (ops : List Operation) (key : RecordKey)
    : store.applyAll ops key = written (store key) (mergedFor ops key) := by
  induction ops generalizing store with
  | nil => rfl
  | cons op ops ih =>
    refine (ih (store.write op.key op.updates)).trans ?_
    rw [mergedFor_cons]
    by_cases h : op.key = key
    · simp [write, h, written_written]
    · simp [write, h, Ne.symm h]

/-- A record is audited exactly if something is left for it. -/
theorem audited_apply (store : Store) (ops : List Operation) (timeField userField : String)
    (time user : Value) (key : RecordKey)
    : store.audited ops timeField userField time user key
      = if (mergedFor ops key).isEmpty then store key
        else (store key).map fun f => (f.set timeField time).set userField user := by
  have received : (∃ op ∈ ops, op.key = key ∧ op.updates.isEmpty = false)
      ↔ ¬ (mergedFor ops key).isEmpty = true := by
    rw [Bool.not_eq_true, filled_mergedFor_iff]
  by_cases nothing : (mergedFor ops key).isEmpty = true
  · rw [audited, if_neg (fun h => received.1 h nothing), if_pos nothing]
  · rw [audited, if_pos (received.2 nothing), if_neg nothing]

end Store

-----------------------------------------------------------------------------------------
-- What is sent, written to a store
-----------------------------------------------------------------------------------------

/-- What is sent without a user changes a store as the operations do one by one. -/
theorem Coalescer.writeAll_updatesFor_of_no_user (c : Coalescer σ) (store : Store) {user : Value}
    (ops : List Operation) (hu : user.truthy = false)
    : store.writeAll (c.updatesFor user ops) = store.applyAll ops := by
  funext key
  rw [Store.writeAll_apply, c.sentFor_updatesFor, Store.applyAll_apply]
  split
  case isTrue nothing => rw [OrderedMap.isEmpty_iff.1 nothing]; rfl
  case isFalse => simp [noted, hu]

/-- What is sent with a user changes a store as the operations do, and audits what they changed. -/
theorem Coalescer.writeAll_updatesFor_of_user (c : Coalescer σ) (store : Store) {user : Value}
    (ops : List Operation) {time : String} {names : AuditFields} (hu : user.truthy = true)
    (ht : c.clock.now?.bind Moment.stamp? = some time)
    (hn : AuditFields.read c.preferences = .ok names)
    : store.writeAll (c.updatesFor user ops)
      = (store.applyAll ops).audited ops names.time names.user (.text time) user := by
  funext key
  rw [Store.writeAll_apply, c.sentFor_updatesFor, Store.audited_apply, Store.applyAll_apply]
  split
  case isTrue nothing => rw [OrderedMap.isEmpty_iff.1 nothing]; rfl
  case isFalse filled =>
    simp [noted, hu, ht, hn, Store.written, OrderedMap.isEmpty_set, OrderedMap.merge_set, filled]

-----------------------------------------------------------------------------------------
-- Storage that a store stands for
-----------------------------------------------------------------------------------------

/-- Storage that does what it is asked: a call sets exactly the listed fields of the named records
of the store that it stands for, and answers that it did.
-/
structure StorageDriver.WritesTo (d : StorageDriver σ) (view : σ → Store) : Prop where
  updateOne
    : ∀ (f : FlatUpdate) (s : σ),
        ((d.updateOne f.model f.selector f.updates).run s).result = .ok (.bool true)
        ∧ view ((d.updateOne f.model f.selector f.updates).run s).state
          = (view s).write f.key f.updates
  updateBulk
    : ∀ (flat : List FlatUpdate) (s : σ),
        ((d.updateBulk flat).run s).result = .ok (.bool true)
        ∧ view ((d.updateBulk flat).run s).state = (view s).writeAll flat

/-- The one call of a run writes all its updates, whichever call it is. -/
theorem StorageDriver.WritesTo.send {d : StorageDriver σ} {view : σ → Store}
    (writes : d.WritesTo view) (flat : List FlatUpdate) (s : σ)
    : ((d.send flat).run s).result = .ok (.bool true)
      ∧ view ((d.send flat).run s).state = (view s).writeAll flat := by
  match flat with
  | [] => exact writes.updateBulk [] s
  | [f] => exact writes.updateOne f s
  | f :: g :: rest => exact writes.updateBulk (f :: g :: rest) s

/-- Storage that is a store itself. -/
def Store.driver : StorageDriver Store where
  name := "Store"
  updateOne model selector updates :=
    match selector.get? "_id" with
    | some (.text record) => do
      Action.change fun store => store.write (model, record) updates
      return .bool true
    | _ => return .bool false
  updateBulk flat := do
    Action.change fun store => store.writeAll flat
    return .bool true
  find? := none

theorem Store.driver_writesTo : Store.driver.WritesTo id where
  updateOne _ _ := ⟨rfl, rfl⟩
  updateBulk _ _ := ⟨rfl, rfl⟩

-----------------------------------------------------------------------------------------
-- Runs over such storage
-----------------------------------------------------------------------------------------

/-- A state of storage that a call of a hook may have changed. -/
inductive Hooks.After (h : Hooks σ) (s : σ) : σ → Prop
  | untouched : h.After s s
  | committed (tx : Transaction) (flat : List FlatUpdate)
    : h.After s ((h.onCommit tx flat).run s).state
  | rolledBack (tx : Transaction) (flat : List FlatUpdate) (failure? : Option Failure)
    : h.After s ((h.onRollback tx flat failure?).run s).state

/-- Settling touches storage through a hook only, also if the id of the transaction is no text. -/
theorem Coalescer.after_settle (c : Coalescer σ) (e : Settlement) (tx : Transaction) (s : σ)
    : c.hooks.After s ((c.settle e).run (tx, s)).state.2 := by
  cases read : resultOf { tx with state := e.state } e with
  | error failure =>
    simp only [settle, Action.run_bind, Held.run_enter, Outcome.andThen_ok, Action.run_current,
      Action.run_ofExcept, read, Outcome.andThen_error]
    exact .untouched
  | ok r =>
    simp only [settle, Action.run_bind, Held.run_enter, Outcome.andThen_ok, Action.run_current,
      Action.run_ofExcept, read, Held.run_putResult, Action.run_onSecond, Action.run_attempt]
    have hook : c.hooks.After s
        ((c.callHook { tx with state := e.state, result := some r } e).run s).state := by
      cases e with
      | committed flat => exact .committed _ flat
      | rolledBack flat failure? => exact .rolledBack _ flat failure?
    revert hook
    rcases (c.callHook { tx with state := e.state, result := some r } e).run s
      with ⟨_ | _, after, log⟩
    · exact fun hook => hook
    · exact fun hook => hook

/-- A run leaves a store in storage: it is there when the hook is called, and it stays unless the
hook itself writes.
-/
structure Coalescer.RunLeaves (c : Coalescer σ) (view : σ → Store) (tx : Transaction) (s : σ)
    (store : Store) : Prop where
  stored : ∃ s', view s' = store ∧ c.hooks.After s' (c.run.run (tx, s)).state.2
  kept
    : (∀ s' s'', c.hooks.After s' s'' → view s'' = view s')
      → view (c.run.run (tx, s)).state.2 = store

/-- A run over storage that does what it is asked leaves what its updates make of the store. -/
theorem StorageDriver.WritesTo.run {c : Coalescer σ} {view : σ → Store}
    (writes : c.driver.WritesTo view) {tx : Transaction} (fresh : tx.isProcessed = false)
    (flattens : c.Flattens tx) (s : σ)
    : c.RunLeaves view tx s ((view s).writeAll (c.updatesFor tx.user tx.operations)) := by
  obtain ⟨log, ran⟩ := c.run_of_fresh fresh flattens s
  have stored : view (c.settlement (c.updatesFor tx.user tx.operations) s).2
      = (view s).writeAll (c.updatesFor tx.user tx.operations) := by
    by_cases nothing : c.updatesFor tx.user tx.operations = []
    · simp [Coalescer.settlement, nothing, Store.writeAll]
    · simp [Coalescer.settlement, nothing, (writes.send _ s).2]
  have after : c.hooks.After (c.settlement (c.updatesFor tx.user tx.operations) s).2
      (c.run.run (tx, s)).state.2 := by
    rw [ran]
    exact c.after_settle ..
  exact ⟨⟨_, stored, after⟩, fun quiet => (quiet _ _ after).trans stored⟩

end DocGateway
