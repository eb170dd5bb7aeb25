import DocGateway.Proofs.Gateway.Refusals

/-!
The update of one record beside a write of one operation.

The two look at an operation in different orders, and only the second generates an id before the
operation is accepted. Apart from that they come to the same: the same result, and the same
exchanges with storage and hooks.
-/

namespace DocGateway

variable {σ : Type}

-----------------------------------------------------------------------------------------
-- Operations as values
-----------------------------------------------------------------------------------------

/-- An operation as the entries of a mapping, with its names on the wire. -/
def Operation.toEntries (op : Operation) : List (Value × Value) :=
  [(.text modelField.wire, .text op.model), (.text recordField.wire, .text op.record),
   (.text "updates", .mapping op.updates.toEntries)]

/-- Reading an operation from its entries comes to reading its two ids and its updates. -/
theorem Operation.read_toEntries (op : Operation)
    : read op.toEntries
      = (fun _ model record updates => { model, record, updates : Operation })
        <$> Checked.ok "update"
        <*> (Reader.nonEmptyText (.text op.model)).within modelField.wire
        <*> (Reader.nonEmptyText (.text op.record)).within recordField.wire
        <*> (Fields.read (.mapping op.updates.toEntries)).within "updates" := rfl

/-- An operation with names is read back from its entries. -/
theorem Operation.Named.ofValue_toEntries {op : Operation} (named : op.Named)
    : Operation.ofValue (.mapping op.toEntries) = .ok op := by
  have hasModel : Reader.nonEmptyText (.text op.model) = .ok op.model :=
    Reader.nonEmptyText_eq_ok.2 ⟨rfl, named.1⟩
  have hasRecord : Reader.nonEmptyText (.text op.record) = .ok op.record :=
    Reader.nonEmptyText_eq_ok.2 ⟨rfl, named.2⟩
  rw [ofValue, read_toEntries, hasModel, hasRecord, Fields.read_toEntries]
  rfl

-----------------------------------------------------------------------------------------
-- Both writes of one operation
-----------------------------------------------------------------------------------------

namespace Gateway

/-- Writing one operation is updating its record, except that an unknown model costs an id. -/
theorem silent_bulk_one (g : Gateway σ) (user : Value) {op : Operation} (named : op.Named)
    {given : Given Operation} (reads : Operation.ofGiven given = .ok op) (s : GatewayState σ)
    : let single := ((g.write user (.update op.model op.record op.updates)).run s).silent
      let several := ((g.write user (.bulk [given])).run s).silent
      several = single ∨ ∃ e, single = (.error e, s) ∧ several = (.error e, s.counted) := by
  have accepts : s.registry.acceptAll [given]
      = (s.registry.kept op.model op.updates).map fun f => [{ op with updates := f }] := by
    simp only [Registry.acceptAll, Registry.acceptGiven, reads, Registry.accept, bind,
      Except.bind]
    cases s.registry.kept op.model op.updates with
    | error e => rfl
    | ok f =>
      dsimp only
      rw [named.ofParts f]
      rfl
  intro single several
  simp only [single, several, silent_update, silent_bulk, accepts]
  cases s.registry.kept op.model op.updates with
  | error e => exact .inr ⟨e, rfl, rfl⟩
  | ok f => exact .inl (by simp only [named.ofParts f, Except.map])

/-- Updating one record and writing one operation on it come to the same result, leave storage and
registry in the same state and have the same exchanges with storage and hooks. They also leave the
same count of generated ids, unless the operation is refused before there is a transaction.
-/
theorem update_eq_bulkUpdate_one (g : Gateway σ) (user : Value) {model record : String}
    (hasModel : model ≠ "") (hasRecord : record ≠ "") (payload : Fields) (s : GatewayState σ)
    : let item : Given Operation := .raw (Value.fields
        [("modelId", .text model), ("recordId", .text record), ("updates", payload.toValue)])
      let single := (g.update (.text model) (.text record) payload.toValue user).run s
      let several := (g.bulkUpdate [item] user).run s
      single.result = several.result
      ∧ single.state.storage = several.state.storage
      ∧ single.state.registry = several.state.registry
      ∧ (single.state.generated = several.state.generated
        ∨ ∃ e, single.result = .error e ∧ single.state = s)
      ∧ g.writeExchanges user (.update model record payload) s
        = g.writeExchanges user (.bulk [item]) s := by
  intro item single several
  have named : Operation.Named ⟨model, record, payload⟩ := ⟨hasModel, hasRecord⟩
  have reads : Operation.ofGiven item = .ok ⟨model, record, payload⟩ := named.ofValue_toEntries
  have exchanges : g.writeExchanges user (.update model record payload) s
      = g.writeExchanges user (.bulk [item]) s := by
    rcases g.observed.silent_bulk_one user named reads s.unobserved
      with same | ⟨e, alone, together⟩
    · exact congrArg (fun o => o.2.storage.2) same.symm
    · have none := congrArg (fun o => o.2.storage.2) alone
      exact none.trans (congrArg (fun o => o.2.storage.2) together).symm
  rcases g.silent_bulk_one user named reads s with same | ⟨e, alone, together⟩
  · obtain ⟨result, state⟩ := Prod.mk.inj same
    have state : several.state = single.state := state
    refine ⟨result.symm, ?_, ?_, .inl ?_, exchanges⟩
    all_goals rw [state]
  · obtain ⟨result, state⟩ := Prod.mk.inj alone
    obtain ⟨result', state'⟩ := Prod.mk.inj together
    have state : single.state = s := state
    have state' : several.state = s.counted := state'
    refine ⟨result.trans result'.symm, ?_, ?_, .inr ⟨e, result, state⟩, exchanges⟩
    all_goals
      rw [state, state']
      rfl

/-- A field that is not accepted, in an update that storage and then the hook fail on. -/
theorem update_eq_bulkUpdate_one_of_failures
    : let lost : Failure := .foreign "OSError" "disk full"
      let g : Gateway Unit :=
        { driver := ⟨"Lost", fun _ _ _ => .fail lost, fun _ => .fail lost, none⟩
          hooks := ⟨fun _ _ => .fail lost, fun _ _ _ => .fail lost⟩
          clock := .fixed ⟨⟨2024, 1, 5⟩, 10, 30, 0, 0, some 0⟩
          preferences := .standard
          level := .info
          stampFields := [] }
      let s : GatewayState Unit :=
        ⟨(Registry.empty .uid).register (.text "task") [.text "name"] true, 4, ()⟩
      let payload : Fields := .ofList [("secret", .int 1), ("name", .text "Apollo")]
      let item : Given Operation := .raw (Value.fields
        [("modelId", .text "task"), ("recordId", .text "t1"), ("updates", payload.toValue)])
      let user : Value := .text "ann"
      ("task" ≠ "" ∧ "t1" ≠ "")
      ∧ ((g.update (.text "task") (.text "t1") payload.toValue user).run s).result
        = ((g.bulkUpdate [item] user).run s).result
      ∧ g.writeExchanges user (.update "task" "t1" payload) s
        = g.writeExchanges user (.bulk [item]) s
      ∧ ∃ e ∈ g.writeExchanges user (.bulk [item]) s,
          e.isStorage = true ∧ e.answer? = some (.error lost) := by
  intro lost g s payload item user
  have hasModel : "task" ≠ "" := by decide
  have hasRecord : "t1" ≠ "" := by decide
  obtain ⟨result, _, _, _, exchanges⟩ :=
    g.update_eq_bulkUpdate_one user hasModel hasRecord payload s
  exact ⟨⟨hasModel, hasRecord⟩, result, exchanges, _, List.mem_cons_self, rfl, rfl⟩

end Gateway

end DocGateway
