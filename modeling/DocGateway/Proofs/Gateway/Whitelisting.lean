import DocGateway.Proofs.Gateway.Writes
import DocGateway.Proofs.Transaction.Endings

/-!
Only whitelisted fields reach storage.

Each operation is sanitized by itself, before any merging. As filtering by name commutes with
merging in order, what is sent for a record is the filtered merge of all that was submitted for it.
-/

namespace DocGateway

variable {σ : Type}

-----------------------------------------------------------------------------------------
-- Whitelisting and merging
-----------------------------------------------------------------------------------------

theorem RegistryCall.whitelisted_empty (ids : IdPattern) (calls : List RegistryCall)
    (model : String)
    : whitelisted ids calls model ∅ = ∅ := by
  unfold whitelisted
  split <;> rfl

theorem RegistryCall.whitelisted_merge (ids : IdPattern) (calls : List RegistryCall)
    (model : String) (f g : Fields)
    : whitelisted ids calls model (f.merge g)
      = (whitelisted ids calls model f).merge (whitelisted ids calls model g) := by
  unfold whitelisted
  split
  · rfl
  · exact OrderedMap.filterKeys_merge ..

/-- An operation without the fields that its model does not accept. -/
def Operation.whitelisted (ids : IdPattern) (calls : List RegistryCall) (op : Operation)
    : Operation :=
  { op with updates := RegistryCall.whitelisted ids calls op.model op.updates }

/-- Merging whitelisted operations comes to whitelisting what they merge to. -/
theorem mergedFor_whitelisted (ids : IdPattern) (calls : List RegistryCall)
    (ops : List Operation) (key : RecordKey)
    : mergedFor (ops.map (Operation.whitelisted ids calls)) key
      = RegistryCall.whitelisted ids calls key.1 (mergedFor ops key) := by
  induction ops with
  | nil => exact (RegistryCall.whitelisted_empty ids calls key.1).symm
  | cons op ops ih =>
    have sameKey : (op.whitelisted ids calls).key = op.key := rfl
    rw [List.map_cons, mergedFor_cons, mergedFor_cons, sameKey]
    split
    case isTrue h =>
      have model : op.model = key.1 := congrArg Prod.fst h
      rw [RegistryCall.whitelisted_merge, ih, ← model]
      rfl
    case isFalse => exact ih

/-- Accepted operations are those submitted, without the fields that are not accepted. -/
theorem Registry.acceptAll_eq {ids : IdPattern} {calls : List RegistryCall}
    {given : List (Given Operation)} {accepted : List Operation}
    (accepts : ((empty ids).applyAll calls).acceptAll given = .ok accepted)
    : ∃ ops,
        given.mapM Operation.ofGiven = .ok ops
        ∧ accepted = ops.map (Operation.whitelisted ids calls) := by
  induction given generalizing accepted with
  | nil =>
    cases accepts
    exact ⟨[], rfl, rfl⟩
  | cons given rest ih =>
    simp only [acceptAll, acceptGiven, bind, Except.bind] at accepts
    cases valid : Operation.ofGiven given with
    | error e => simp [valid] at accepts
    | ok op =>
      simp only [valid] at accepts
      rcases accept_cases ids calls op.model op.record with keeps | ⟨e, refuses⟩
      · simp only [keeps op.updates] at accepts
        cases others : ((empty ids).applyAll calls).acceptAll rest with
        | error e => simp [others] at accepts
        | ok more =>
          obtain ⟨ops, all, rfl⟩ := ih others
          simp only [others] at accepts
          cases accepts
          exact ⟨op :: ops, by simp [List.mapM_cons, valid, all, bind, Except.bind]; rfl, rfl⟩
      · simp [refuses op.updates] at accepts

-----------------------------------------------------------------------------------------
-- Exchanges of writes
-----------------------------------------------------------------------------------------

/-- What a user's name adds to updates: nothing without a user, else the time and the user. -/
structure Coalescer.Stamps (c : Coalescer σ) (user : Value) (stamp : Fields → Fields)
    : Prop where
  plain : user.truthy = false → ∀ f, stamp f = f
  audited
    : user.truthy = true
      → ∃ time names,
          c.clock.now?.bind Moment.stamp? = some time
          ∧ AuditFields.read c.preferences = .ok names
          ∧ ∀ f, stamp f = (f.set names.time (.text time)).set names.user user

/-- Updates that are to be sent were stamped. -/
theorem Coalescer.stamps_noted {c : Coalescer σ} {user : Value} {ops : List Operation}
    (flattened : c.flatten user ops = .ok (c.updatesFor user ops))
    (filled : c.updatesFor user ops ≠ [])
    : c.Stamps user (c.noted user) where
  plain hu f := by simp [noted, hu]
  audited hu := by
    have some : (Buckets.ofOperations ops).flatten.isEmpty = false := by
      simpa [updatesFor] using filled
    simp only [flatten, AuditStamp.of, hu, bind, Except.bind, Bool.not_true, Bool.false_eq_true,
      if_false] at flattened
    cases ht : c.clock.now?.bind Moment.stamp? with
    | none => simp [ht] at flattened
    | some time =>
      simp only [ht, some, Bool.false_eq_true, if_false] at flattened
      cases hn : AuditFields.read c.preferences with
      | error e => simp [hn] at flattened
      | ok names => exact ⟨time, names, rfl, rfl, fun f => by simp [noted, hu, ht, hn]⟩

/-- Every storage call of a run sends all its updates, which flattening gave. -/
theorem Coalescer.storage_of_mem_exchanges {c : Coalescer σ} {tx : Transaction}
    (fresh : tx.isProcessed = false) {id : String} (named : tx.id = .text id) {s : σ}
    {e : Exchange} (member : e ∈ c.exchanges tx s) (storage : e.isStorage = true)
    : c.Stamps tx.user (c.noted tx.user)
      ∧ ∃ answer, e = .ofSend (c.updatesFor tx.user tx.operations) answer := by
  by_cases flattens : c.Flattens tx
  · have all : c.exchanges tx s = c.conversation tx id s :=
      congrArg (fun h => h.2.2) (flattens.observed_run_eq fresh named s []).2
    rw [all, conversation] at member
    rcases List.mem_append.1 member with call | hook
    · rcases c.settlement_cases (c.updatesFor tx.user tx.operations) s
        with ⟨_, called, _⟩ | ⟨answer, filled, called, _⟩
      · rw [called] at call
        cases call
      · rw [called, List.mem_singleton] at call
        -- Without operations flattening is skipped, but then there is nothing to send either.
        have needed : tx.operations ≠ [] := by
          intro none
          rw [none] at filled
          exact filled rfl
        exact ⟨stamps_noted (flattens.resolve_left needed) filled, answer, call⟩
    · rw [List.mem_singleton.1 hook, Exchange.isStorage_ofHook] at storage
      cases storage
  · have stuck : ¬ c.observed.Flattens tx := flattens
    obtain ⟨_, _, _, untouched⟩ := c.observed.run_of_not_flattens fresh stuck (s, [])
    rw [exchanges, untouched] at member
    cases member

/-- A state before anything has been observed. -/
def GatewayState.unobserved (s : GatewayState σ) : GatewayState (Observed σ) where
  registry := s.registry
  generated := s.generated
  storage := (s.storage, [])

def GatewayState.forget (s : GatewayState (Observed σ)) : GatewayState σ where
  registry := s.registry
  generated := s.generated
  storage := s.storage.1

namespace Gateway

def observed (g : Gateway σ) : Gateway (Observed σ) :=
  { g.toCoalescer.observed with stampFields := g.stampFields }

/-- The exchanges of a write, which is the same write when it is observed (`forget_write`). -/
def writeExchanges (g : Gateway σ) (user : Value) (w : GatewayWrite) (s : GatewayState σ)
    : List Exchange :=
  ((g.observed.write user w).run s.unobserved).state.storage.2

/-- Observing a write changes neither its result nor the state that it leaves. -/
theorem forget_write (g : Gateway σ) (user : Value) (w : GatewayWrite) (s : GatewayState σ)
    : Prod.map id GatewayState.forget ((g.observed.write user w).run s.unobserved).silent
      = ((g.write user w).run s).silent := by
  have registry : s.unobserved.registry = s.registry := rfl
  have runs : ∀ ops,
      Prod.map id GatewayState.forget
          ((g.observed.runNew (g.observed.opened user s.unobserved ops)).run
            s.unobserved.counted).silent
        = ((g.runNew (g.opened user s ops)).run s.counted).silent := by
    intro ops
    have same := g.toCoalescer.forget_run (g.opened user s ops) s.storage []
    exact congrArg (fun o => (o.result, { s.counted with storage := o.state.2 })) same
  cases w with
  | bulk given =>
    rw [silent_bulk, silent_bulk, registry]
    cases s.registry.acceptAll given with
    | error e => rfl
    | ok ops => exact runs ops
  | update model record payload =>
    rw [silent_update, silent_update, registry]
    cases s.registry.kept model payload with
    | error e => rfl
    | ok f =>
      dsimp only
      cases Operation.ofParts (.text model) (.text record) f.toEntries with
      | error e => rfl
      | ok op => exact runs [op]

/-- The exchanges of a write are those of the run of its accepted operations. -/
theorem accepted_of_mem_writeExchanges {g : Gateway σ} {user : Value} {w : GatewayWrite}
    {s : GatewayState σ} {e : Exchange} (member : e ∈ g.writeExchanges user w s)
    : ∃ ops,
        s.registry.acceptAll w.submitted = .ok ops
        ∧ e ∈ g.toCoalescer.exchanges (g.opened user s ops) s.storage := by
  have silent : g.writeExchanges user w s
      = ((g.observed.write user w).run s.unobserved).silent.2.storage.2 := rfl
  have registry : s.unobserved.registry = s.registry := rfl
  rw [silent] at member
  cases w with
  | bulk given =>
    rw [silent_bulk, registry] at member
    cases accepts : s.registry.acceptAll given with
    | error e =>
      rw [accepts] at member
      cases member
    | ok ops =>
      rw [accepts] at member
      exact ⟨ops, accepts, member⟩
  | update model record payload =>
    rw [silent_update, registry] at member
    cases keeps : s.registry.kept model payload with
    | error e =>
      rw [keeps] at member
      cases member
    | ok f =>
      simp only [keeps] at member
      cases valid : Operation.ofParts (.text model) (.text record) f.toEntries with
      | error e =>
        rw [valid] at member
        cases member
      | ok op =>
        rw [valid] at member
        have accepts : s.registry.accept ⟨model, record, payload⟩ = .ok op := by
          simp only [Registry.accept, keeps, bind, Except.bind, valid]
        refine ⟨[op], ?_, member⟩
        simp only [GatewayWrite.submitted, Registry.acceptAll, Registry.acceptGiven,
          Operation.ofGiven, bind, Except.bind, accepts]
        rfl

end Gateway

-----------------------------------------------------------------------------------------
-- Writes that agree on the accepted fields
-----------------------------------------------------------------------------------------

/-- Something handed over as an operation, without the fields that its model does not accept. -/
def Given.whitelisted (ids : IdPattern) (calls : List RegistryCall) (given : Given Operation)
    : Except Failure Operation :=
  (Operation.ofGiven given).map (Operation.whitelisted ids calls)

/-- Writes that differ at most in fields that the models do not accept. -/
inductive GatewayWrite.Agree (ids : IdPattern) (calls : List RegistryCall)
    : GatewayWrite → GatewayWrite → Prop
  | update {model record : String} {f g : Fields}
    (same : RegistryCall.whitelisted ids calls model f = RegistryCall.whitelisted ids calls model g)
    : Agree ids calls (.update model record f) (.update model record g)
  | bulk {given other : List (Given Operation)}
    (same : given.map (Given.whitelisted ids calls) = other.map (Given.whitelisted ids calls))
    : Agree ids calls (.bulk given) (.bulk other)

namespace Registry

variable {ids : IdPattern} {calls : List RegistryCall}

theorem kept_congr {model : String} {f g : Fields}
    (same : RegistryCall.whitelisted ids calls model f = RegistryCall.whitelisted ids calls model g)
    : ((empty ids).applyAll calls).kept model f = ((empty ids).applyAll calls).kept model g := by
  rcases kept_cases ids calls model with keeps | ⟨e, refuses⟩
  · rw [keeps, keeps, same]
  · rw [refuses, refuses]

theorem accept_congr {op other : Operation}
    (same : op.whitelisted ids calls = other.whitelisted ids calls)
    : ((empty ids).applyAll calls).accept op = ((empty ids).applyAll calls).accept other := by
  obtain ⟨model, record, f⟩ := op
  obtain ⟨model', record', g⟩ := other
  obtain ⟨rfl, rfl, kept⟩ := Operation.mk.inj same
  simp only [accept, kept_congr kept]

theorem acceptGiven_congr {given other : Given Operation}
    (same : given.whitelisted ids calls = other.whitelisted ids calls)
    : ((empty ids).applyAll calls).acceptGiven given
      = ((empty ids).applyAll calls).acceptGiven other := by
  simp only [Given.whitelisted] at same
  simp only [acceptGiven]
  cases first : Operation.ofGiven given with
  | error e =>
    cases second : Operation.ofGiven other with
    | error e' => rw [first, second] at same; cases same; rfl
    | ok => rw [first, second] at same; cases same
  | ok op =>
    cases second : Operation.ofGiven other with
    | error => rw [first, second] at same; cases same
    | ok op' =>
      rw [first, second] at same
      exact accept_congr (Except.ok.inj same)

theorem acceptAll_congr {given other : List (Given Operation)}
    (same : given.map (Given.whitelisted ids calls) = other.map (Given.whitelisted ids calls))
    : ((empty ids).applyAll calls).acceptAll given
      = ((empty ids).applyAll calls).acceptAll other := by
  induction given generalizing other with
  | nil => rw [List.map_eq_nil_iff.1 same.symm]
  | cons g given ih =>
    obtain ⟨g', rest, rfl, first, others⟩ := List.map_eq_cons_iff.1 same.symm
    simp only [acceptAll, acceptGiven_congr first.symm, ih others.symm]

end Registry

/-- Writes that agree come to the same, apart from messages. -/
theorem Gateway.silent_congr {ids : IdPattern} {calls : List RegistryCall} {w other : GatewayWrite}
    (agree : w.Agree ids calls other) (g : Gateway σ) (user : Value) {s : GatewayState σ}
    (history : s.registry = (Registry.empty ids).applyAll calls)
    : ((g.write user w).run s).silent = ((g.write user other).run s).silent := by
  cases agree with
  | update same => rw [silent_update, silent_update, history, Registry.kept_congr same]
  | bulk same => rw [silent_bulk, silent_bulk, history, Registry.acceptAll_congr same]

-----------------------------------------------------------------------------------------
-- What reaches storage
-----------------------------------------------------------------------------------------

/-- A storage call of a write: for each record it has the merge of everything that was submitted for
it, without the fields that its model does not accept, and with the user noted.
-/
def Gateway.SendsWhitelisted (g : Gateway σ) (user : Value) (ids : IdPattern)
    (calls : List RegistryCall) (w : GatewayWrite) (e : Exchange) : Prop :=
  ∃ ops stamp flat answer,
    w.submitted.mapM Operation.ofGiven = .ok ops
    ∧ g.Stamps user stamp
    ∧ e = .ofSend flat answer
    ∧ ∀ model record,
        let kept := RegistryCall.whitelisted ids calls model (mergedFor ops (model, record))
        sentFor flat (model, record) = if kept.isEmpty then [] else [stamp kept]

/-- Whatever the history of the registry, a write sends only what the models accept, and fields that
they do not accept make no difference to storage, hooks or the result.
-/
theorem Gateway.writes_whitelisted (g : Gateway σ) (user : Value) (ids : IdPattern)
    (calls : List RegistryCall) (generated : Nat) (storage : σ)
    : let s : GatewayState σ := ⟨(Registry.empty ids).applyAll calls, generated, storage⟩
      (∀ w, ∀ e ∈ g.writeExchanges user w s,
        e.isStorage = true → g.SendsWhitelisted user ids calls w e)
      ∧ ∀ w other,
          w.Agree ids calls other
          → g.writeExchanges user w s = g.writeExchanges user other s
            ∧ ((g.write user w).run s).result = ((g.write user other).run s).result
            ∧ ((g.write user w).run s).state = ((g.write user other).run s).state := by
  intro s
  constructor
  · intro w e member storage
    obtain ⟨accepted, accepts, inRun⟩ := accepted_of_mem_writeExchanges member
    obtain ⟨ops, submitted, rfl⟩ := Registry.acceptAll_eq accepts
    obtain ⟨stamps, answer, sends⟩ :=
      Coalescer.storage_of_mem_exchanges rfl rfl inRun storage
    refine ⟨ops, _, _, answer, submitted, stamps, sends, ?_⟩
    intro model record kept
    have sent := g.sentFor_updatesFor user (ops.map (Operation.whitelisted ids calls))
      (model, record)
    rwa [mergedFor_whitelisted] at sent
  · intro w other agree
    have silent := silent_congr agree g user (s := s) rfl
    have watched := silent_congr agree g.observed user (s := s.unobserved) rfl
    exact ⟨congrArg (fun o => o.2.storage.2) watched, congrArg Prod.fst silent,
      congrArg Prod.snd silent⟩

/-- A field that was smuggled in beside an accepted one, in a model that was registered anew. -/
theorem Gateway.writes_whitelisted_of_smuggled_field
    : let g : Gateway Unit :=
        { driver := ⟨"Quiet", fun _ _ _ => pure (.bool true), fun _ => pure (.bool true), none⟩
          hooks := .silent
          clock := .fixed ⟨⟨2024, 1, 5⟩, 10, 30, 0, 0, some 0⟩
          preferences := .standard
          level := .info
          stampFields := [] }
      let calls : List RegistryCall :=
        [.register (.text "task") (.list [.text "secret"]) true, .unregister (.text "task"),
          .register (.text "task") (.list [.text "name"]) false]
      let s : GatewayState Unit := ⟨(Registry.empty .uid).applyAll calls, 0, ()⟩
      let w : GatewayWrite :=
        .update "task" "t1" (.ofList [("secret", .int 1), ("name", .text "Apollo")])
      let other : GatewayWrite := .update "task" "t1" (.ofList [("name", .text "Apollo")])
      let user : Value := .text "ann"
      w.Agree .uid calls other
      ∧ g.writeExchanges user w s = g.writeExchanges user other s
      ∧ ∃ e ∈ g.writeExchanges user w s,
          e.isStorage = true ∧ g.SendsWhitelisted user .uid calls w e := by
  intro g calls s w other user
  obtain ⟨whitelists, agrees⟩ := g.writes_whitelisted user .uid calls 0 ()
  have agree : w.Agree .uid calls other := .update rfl
  obtain ⟨e, member, storage⟩ : ∃ e ∈ g.writeExchanges user w s, e.isStorage = true :=
    ⟨_, List.mem_cons_self, rfl⟩
  exact ⟨agree, (agrees w other agree).1, e, member, storage, whitelists w e member storage⟩

end DocGateway
