import DocGateway.Proofs.Except
import DocGateway.Proofs.Gateway.Whitelisting
import DocGateway.Proofs.Transaction.Moves
import DocGateway.Proofs.Validation.Readings

/-!
Refusals of operations, and why several operations are written all or not at all.

An operation is refused if it cannot be read or if its model is neither dynamic nor registered. The
first refused operation decides what a write of several operations fails with, and it does so before
storage or a hook is called.
-/

namespace DocGateway

variable {σ : Type}

-----------------------------------------------------------------------------------------
-- Operations have names
-----------------------------------------------------------------------------------------

theorem Reader.ne_empty_of_required {field : FieldName} {es : List (Value × Value)} {s : String}
    (reads : required field nonEmptyText es = .ok s)
    : s ≠ "" := by
  obtain ⟨_, _, reads⟩ := required_eq_ok.1 reads
  exact (nonEmptyText_eq_ok.1 reads).2

/-- The ids of an operation are not empty, which is checked whenever one is made. -/
def Operation.Named (op : Operation) : Prop := op.model ≠ "" ∧ op.record ≠ ""

theorem Operation.named_of_read {es : List (Value × Value)} {op : Operation}
    (valid : read es = .ok op)
    : op.Named := by
  obtain ⟨_, updates, ids, _, rfl⟩ := Checked.seq_eq_ok.1 valid
  obtain ⟨_, record, model, hasRecord, rfl⟩ := Checked.seq_eq_ok.1 ids
  obtain ⟨_, model, action, hasModel, rfl⟩ := Checked.seq_eq_ok.1 model
  obtain ⟨_, _, rfl⟩ := Checked.map_eq_ok.1 action
  exact ⟨Reader.ne_empty_of_required hasModel, Reader.ne_empty_of_required hasRecord⟩

/-- What was handed over ready for use was made as an operation. -/
def Given.Made (given : Given Operation) : Prop := ∀ op, given = .ready op → op.Named

theorem Given.Made.named {given : Given Operation} (made : given.Made) {op : Operation}
    (valid : Operation.ofGiven given = .ok op)
    : op.Named := by
  cases given with
  | ready own =>
    cases valid
    exact made _ rfl
  | raw v =>
    simp only [Operation.ofGiven, Operation.ofValue] at valid
    split at valid
    · split at valid
      case h_1 read =>
        cases valid
        exact Operation.named_of_read read
      case h_2 => cases valid
    · cases valid

theorem Operation.Named.ofParts {op : Operation} (named : op.Named) (f : Fields)
    : Operation.ofParts (.text op.model) (.text op.record) f.toEntries
      = .ok { op with updates := f } := by
  have hasModel : op.model.isEmpty = false := by simp [named.1]
  have hasRecord : op.record.isEmpty = false := by simp [named.2]
  simp only [Operation.ofParts, read_parts, Reader.nonEmptyText, Reader.text, hasModel, hasRecord]
  rfl

-----------------------------------------------------------------------------------------
-- Refusals
-----------------------------------------------------------------------------------------

/-- The operations that a registry refuses, and the reports that say so. -/
inductive Registry.Refuses (r : Registry) : Given Operation → Report → Prop
  | invalid {v : Value} {report : Report} (unread : Operation.ofValue v = .error (.report report))
      (ofClass : report.reportClass = .transaction)
      (shows : report.details = [("operation", .value v)])
    : r.Refuses (.raw v) report
  | unknown {given : Given Operation} {op : Operation} (valid : Operation.ofGiven given = .ok op)
      (static : r.isDynamic (.text op.model) = false)
      (unregistered : r.accepted? (.text op.model) = none)
    : r.Refuses given
        ⟨.unknownModel, .text "Model is not registered", [("model_id", .value (.text op.model))]⟩

/-- An operation that a registry takes, with the fields that it keeps. -/
def Registry.Takes (r : Registry) (given : Given Operation) (op : Operation) : Prop :=
  ∃ own f,
    Operation.ofGiven given = .ok own
    ∧ r.kept own.model own.updates = .ok f
    ∧ op = { own with updates := f }

theorem Registry.kept_eq_error_iff {r : Registry} {model : String} {f : Fields} {e : Failure}
    : r.kept model f = .error e
      ↔ r.isDynamic (.text model) = false
        ∧ r.accepted? (.text model) = none
        ∧ e = .report ⟨.unknownModel, .text "Model is not registered",
            [("model_id", .value (.text model))]⟩ := by
  unfold kept
  cases r.isDynamic (.text model) with
  | true => simp
  | false =>
    simp only [accepted, checkKey, Value.isKey]
    cases r.accepted? (.text model) with
    | none =>
      simp [bind, Except.bind, Except.map, throw, throwThe, MonadExceptOf.throw, eq_comm]
    | some fields => simp [bind, Except.bind, Except.map, pure, Except.pure]

theorem Registry.acceptGiven_eq_error_iff {r : Registry} {given : Given Operation}
    (made : given.Made) {e : Failure}
    : r.acceptGiven given = .error e ↔ ∃ report, e = .report report ∧ r.Refuses given report := by
  unfold acceptGiven
  rw [Except.bind_eq_error]
  constructor
  · rintro (invalid | ⟨op, valid, refused⟩)
    · obtain ⟨v, report, rfl, rfl, ofClass, shows⟩ := Operation.report_of_ofGiven invalid
      exact ⟨report, rfl, .invalid invalid ofClass shows⟩
    · rcases Except.bind_eq_error.1 refused with unknown | ⟨f, _, refused⟩
      · obtain ⟨static, unregistered, rfl⟩ := kept_eq_error_iff.1 unknown
        exact ⟨_, rfl, .unknown valid static unregistered⟩
      · rw [(made.named valid).ofParts] at refused
        cases refused
  · rintro ⟨report, rfl, refused⟩
    cases refused with
    | invalid unread => exact .inl unread
    | unknown valid static unregistered =>
      refine .inr ⟨_, valid, Except.bind_eq_error.2 (.inl ?_)⟩
      exact kept_eq_error_iff.2 ⟨static, unregistered, rfl⟩

theorem Registry.takes_of_acceptGiven {r : Registry} {given : Given Operation}
    (made : given.Made) {op : Operation} (accepts : r.acceptGiven given = .ok op)
    : r.Takes given op := by
  obtain ⟨own, valid, accepts⟩ := Except.bind_eq_ok.1 accepts
  obtain ⟨f, keeps, accepts⟩ := Except.bind_eq_ok.1 accepts
  rw [(made.named valid).ofParts] at accepts
  cases accepts
  exact ⟨own, f, valid, keeps, rfl⟩

theorem Registry.acceptAll_eq_mapM (r : Registry) (given : List (Given Operation))
    : r.acceptAll given = given.mapM r.acceptGiven := by
  induction given with
  | nil => rfl
  | cons given rest ih => rw [acceptAll, ih, List.mapM_cons]

/-- Operations are refused because of the first of them that is. -/
theorem Registry.acceptAll_of_refused {r : Registry} {given : List (Given Operation)}
    (made : ∀ item ∈ given, item.Made) (refused : ∃ item ∈ given, ∃ report, r.Refuses item report)
    : ∃ before item after report,
        given = before ++ item :: after
        ∧ (∀ item' ∈ before, ∀ report', ¬ r.Refuses item' report')
        ∧ r.Refuses item report
        ∧ r.acceptAll given = .error (.report report) := by
  rw [acceptAll_eq_mapM]
  cases accepts : given.mapM r.acceptGiven with
  | ok ops =>
    obtain ⟨item, member, report, refused⟩ := refused
    obtain ⟨op, _, accepted⟩ := (forall₂_partners (Except.mapM_eq_ok.1 accepts)).1 item member
    have fails := (acceptGiven_eq_error_iff (made item member)).2 ⟨report, rfl, refused⟩
    cases accepted.symm.trans fails
  | error e =>
    obtain ⟨before, item, after, rfl, succeed, fails⟩ := Except.first_of_mapM_eq_error accepts
    have member : item ∈ before ++ item :: after := by simp
    obtain ⟨report, rfl, refused⟩ := (acceptGiven_eq_error_iff (made item member)).1 fails
    refine ⟨before, item, after, report, rfl, ?_, refused, rfl⟩
    intro item' early report' refused'
    have member' : item' ∈ before ++ item :: after := List.mem_append_left _ early
    obtain ⟨op, accepted⟩ := succeed item' early
    have fails' := (acceptGiven_eq_error_iff (made item' member')).2 ⟨report', rfl, refused'⟩
    cases accepted.symm.trans fails'

theorem Registry.acceptAll_of_taken {r : Registry} {given : List (Given Operation)}
    (made : ∀ item ∈ given, item.Made)
    (taken : ∀ item ∈ given, ∀ report, ¬ r.Refuses item report)
    : ∃ ops, List.Forall₂ r.Takes given ops ∧ r.acceptAll given = .ok ops := by
  rw [acceptAll_eq_mapM]
  cases accepts : given.mapM r.acceptGiven with
  | ok ops =>
    have each := Except.mapM_eq_ok.1 accepts
    refine ⟨ops, ?_, rfl⟩
    exact ((List.forall₂_and_left _ _).2 ⟨made, each⟩).imp
      fun item op both => takes_of_acceptGiven both.1 both.2
  | error e =>
    obtain ⟨item, member, fails⟩ := Except.exists_of_mapM_eq_error accepts
    obtain ⟨report, _, refused⟩ := (acceptGiven_eq_error_iff (made item member)).1 fails
    exact absurd refused (taken item member report)

-----------------------------------------------------------------------------------------
-- Runs that fail
-----------------------------------------------------------------------------------------

theorem AuditFields.not_report_of_read {p : Preferences} {e : Failure}
    (failed : read p = .error e) (report : Report)
    : e ≠ .report report := by
  rcases Except.bind_eq_error.1 failed with unfit | ⟨_, _, failed⟩
  · unfold enter at unfit
    split_ifs at unfit
    cases unfit
    nofun
  · split at failed
    · cases failed
    all_goals
      cases failed
      nofun

/-- Flattening fails only for a clock or for settings that cannot be used. -/
theorem Coalescer.not_report_of_flatten {c : Coalescer σ} {user : Value} {ops : List Operation}
    {e : Failure} (failed : c.flatten user ops = .error e) (report : Report)
    : e ≠ .report report := by
  rcases Except.bind_eq_error.1 failed with unread | ⟨stamp?, _, failed⟩
  · unfold AuditStamp.of at unread
    split_ifs at unread
    split at unread
    · cases unread
    · cases unread
      nofun
  · cases stamp? with
    | none => cases failed
    | some stamp =>
      dsimp only at failed
      split_ifs at failed
      · cases failed
      · rcases Except.bind_eq_error.1 failed with unnamed | ⟨_, _, impossible⟩
        · exact AuditFields.not_report_of_read unnamed report
        · cases impossible

theorem Coalescer.run_not_report (c : Coalescer σ) {tx : Transaction}
    (fresh : tx.isProcessed = false) {id : String} (named : tx.id = .text id) (s : σ)
    (report : Report)
    : (c.run.run (tx, s)).result ≠ .error (.report report) := by
  intro failed
  by_cases flattens : c.Flattens tx
  · cases failed.symm.trans (flattens.run_eq fresh named s).1
  · obtain ⟨e, unflattened, result, _⟩ := c.run_of_not_flattens fresh flattens s
    cases failed.symm.trans result
    exact not_report_of_flatten unflattened report rfl

-----------------------------------------------------------------------------------------
-- Writes of several operations
-----------------------------------------------------------------------------------------

namespace Gateway

/-- The exchanges of a write of several operations are those of one run of what is accepted. -/
theorem writeExchanges_bulk {g : Gateway σ} {user : Value} {given : List (Given Operation)}
    {s : GatewayState σ} {ops : List Operation} (accepts : s.registry.acceptAll given = .ok ops)
    : g.writeExchanges user (.bulk given) s
      = g.toCoalescer.exchanges (g.opened user s ops) s.storage := by
  have silent : g.writeExchanges user (.bulk given) s
      = ((g.observed.write user (.bulk given)).run s.unobserved).silent.2.storage.2 := rfl
  have registry : s.unobserved.registry = s.registry := rfl
  rw [silent, silent_bulk, registry, accepts]
  rfl

/-- Operations are written all or not at all. If one is refused, the first refused one is reported,
neither storage nor a hook is called, and registry and storage stay as they are. Otherwise all are
processed in one transaction, which is never refused.
-/
theorem bulkUpdate_all_or_nothing (g : Gateway σ) (user : Value) {given : List (Given Operation)}
    (made : ∀ item ∈ given, item.Made) (s : GatewayState σ)
    : let o := (g.bulkUpdate given user).run s
      let calls := g.writeExchanges user (.bulk given) s
      ((∃ item ∈ given, ∃ report, s.registry.Refuses item report)
        → ∃ before item after report,
            given = before ++ item :: after
            ∧ (∀ item' ∈ before, ∀ report', ¬ s.registry.Refuses item' report')
            ∧ s.registry.Refuses item report
            ∧ o.result = .error (.report report)
            ∧ calls = []
            ∧ o.state.registry = s.registry
            ∧ o.state.storage = s.storage)
      ∧ ((∀ item ∈ given, ∀ report, ¬ s.registry.Refuses item report)
        → ∃ ops,
            List.Forall₂ s.registry.Takes given ops
            ∧ let tx := g.opened user s ops
              let run := g.run.run (tx, s.storage)
              calls = g.toCoalescer.exchanges tx s.storage
              ∧ o.result = run.result
              ∧ o.state = { s.counted with storage := run.state.2 }
              ∧ (∀ report, o.result ≠ .error (.report report))
              ∧ (g.Configured → ∃ result, o.result = .ok result)) := by
  have comes := g.silent_bulk user given s
  constructor
  · intro refused
    obtain ⟨before, item, after, report, split, early, refuses, fails⟩ :=
      Registry.acceptAll_of_refused made refused
    rw [fails] at comes
    have state : ((g.bulkUpdate given user).run s).state = s.counted := congrArg Prod.snd comes
    refine ⟨before, item, after, report, split, early, refuses, congrArg Prod.fst comes, ?_,
      by rw [state]; rfl, by rw [state]; rfl⟩
    -- Any call would be one of a run of accepted operations, but there are none.
    refine List.eq_nil_iff_forall_not_mem.2 fun e member => ?_
    obtain ⟨ops, accepts, _⟩ := accepted_of_mem_writeExchanges member
    cases fails.symm.trans accepts
  · intro taken
    obtain ⟨ops, takes, accepts⟩ := Registry.acceptAll_of_taken made taken
    rw [accepts] at comes
    have result := congrArg Prod.fst comes
    refine ⟨ops, takes, writeExchanges_bulk accepts, result, congrArg Prod.snd comes, ?_, ?_⟩
    · intro report failed
      exact g.toCoalescer.run_not_report rfl rfl s.storage report (result.symm.trans failed)
    · intro ready
      have returns := ((ready.flattens (g.opened user s ops)).run_eq rfl rfl s.storage).1
      exact ⟨_, result.trans returns⟩

/-- A ghost's record stands before a value that is no operation; without the two, both kinds of
operations are written.
-/
theorem bulkUpdate_all_or_nothing_of_ghost
    : let g : Gateway Unit :=
        { driver := ⟨"Quiet", fun _ _ _ => pure (.bool true), fun _ => pure (.bool true), none⟩
          hooks := .silent
          clock := .fixed ⟨⟨2024, 1, 5⟩, 10, 30, 0, 0, some 0⟩
          preferences := .standard
          level := .info
          stampFields := [] }
      let s : GatewayState Unit :=
        ⟨(Registry.empty .uid).register (.text "task") [.text "name"] true, 0, ()⟩
      let item (model record : String) : Value :=
        Value.fields
          [("modelId", .text model), ("recordId", .text record),
            ("updates", Value.fields [("name", .text "Apollo")])]
      let task : Given Operation := .ready ⟨"task", "t1", .ofList [("name", .text "Orion")]⟩
      let good : List (Given Operation) := [task, .raw (item "task" "t2")]
      let bad : List (Given Operation) := [task, .raw (item "ghost" "g1"), .raw (.int 1), task]
      let user : Value := .text "ann"
      ((∀ given ∈ bad, given.Made)
        ∧ (∃ given ∈ bad, ∃ report, s.registry.Refuses given report)
        ∧ g.writeExchanges user (.bulk bad) s = []
        ∧ ((g.bulkUpdate bad user).run s).result
          = .error (.report ⟨.unknownModel, .text "Model is not registered",
              [("model_id", .value (.text "ghost"))]⟩))
      ∧ (∀ given ∈ good, given.Made)
      ∧ (∀ given ∈ good, ∀ report, ¬ s.registry.Refuses given report)
      ∧ ∃ ops result,
          List.Forall₂ s.registry.Takes good ops
          ∧ ((g.bulkUpdate good user).run s).result = .ok result := by
  intro g s item task good bad user
  have ready : g.Configured := Coalescer.configured_of_settings rfl (by decide +kernel)
  have madeTask : task.Made := by
    intro op same
    obtain rfl := Given.ready.inj same
    exact ⟨by decide, by decide⟩
  have madeRaw (v : Value) : (Given.raw v : Given Operation).Made := nofun
  have madeGood : ∀ given ∈ good, given.Made :=
    List.forall_mem_cons.2 ⟨madeTask, List.forall_mem_singleton.2 (madeRaw _)⟩
  have madeBad : ∀ given ∈ bad, given.Made :=
    List.forall_mem_cons.2 ⟨madeTask, List.forall_mem_cons.2 ⟨madeRaw _,
      List.forall_mem_cons.2 ⟨madeRaw _, List.forall_mem_singleton.2 madeTask⟩⟩⟩
  have refused : ∃ given ∈ bad, ∃ report, s.registry.Refuses given report :=
    ⟨_, List.mem_cons_of_mem _ List.mem_cons_self, _, .unknown rfl rfl rfl⟩
  have taken : ∀ given ∈ good, ∀ report, ¬ s.registry.Refuses given report := by
    have accepted (given : Given Operation) (made : given.Made) (op : Operation)
        (accepts : s.registry.acceptGiven given = .ok op) (report : Report)
        : ¬ s.registry.Refuses given report := by
      intro refused
      cases accepts.symm.trans
        ((Registry.acceptGiven_eq_error_iff made).2 ⟨report, rfl, refused⟩)
    exact List.forall_mem_cons.2 ⟨accepted _ madeTask _ rfl,
      List.forall_mem_singleton.2 (accepted _ (madeRaw _) _ rfl)⟩
  obtain ⟨_, _, _, _, _, _, _, _, calls, _⟩ :=
    (g.bulkUpdate_all_or_nothing user madeBad s).1 refused
  obtain ⟨ops, takes, _, _, _, _, returns⟩ :=
    (g.bulkUpdate_all_or_nothing user madeGood s).2 taken
  obtain ⟨result, returned⟩ := returns ready
  exact ⟨⟨madeBad, refused, calls, rfl⟩, madeGood, taken, ops, result, takes, returned⟩

end Gateway

end DocGateway
