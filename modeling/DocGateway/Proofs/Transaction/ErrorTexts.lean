import DocGateway.Proofs.Transaction.Endings

/-!
What the error of a result tells.

The error of a rollback is put together from the answer of storage and the failure of the hook. It
tells why nothing was changed, unless storage failed without a text: then it is empty, or the
failure of the hook stands alone. The error of a commit is that of the hook, if the hook failed.
-/

namespace DocGateway

variable {σ : Type}

-----------------------------------------------------------------------------------------
-- Parts of an error
-----------------------------------------------------------------------------------------

def Exchange.hookAnswer? : Exchange → Option (Except Failure Unit)
  | commit _ _ answer | rollback _ _ _ answer => some answer
  | updateOne .. | updateBulk .. | find .. => none

@[simp]
theorem Exchange.hookAnswer?_ofHook (tx : Transaction) (e : Settlement)
    (answer : Except Failure Unit)
    : (ofHook tx e answer).hookAnswer? = some answer := by
  cases e <;> rfl

/-- What a hook that fails adds to the error. -/
def TransactionState.hookText? (state : TransactionState) : Except Failure Unit → Option String
  | .ok () => none
  | .error failure => some (state.word ++ " hook failed: " ++ failure.text)

/-- What is noted of an answer of storage that is no success. -/
def Settlement.storageText : Except Failure Value → String
  | .ok _ => Hooks.noSuccess
  | .error failure => failure.text

/-- Why nothing was changed: the failure of storage, or a general reason if it has no text. -/
def Settlement.reason (answer : Except Failure Value) : String :=
  if storageText answer = "" then Hooks.noSuccess else storageText answer

/-- An error that starts with the reason why nothing was changed; the failure of the hook, if there
is one, stands behind it.
-/
def Settlement.TellsWhy (answer : Except Failure Value) (hooked : Except Failure Unit)
    (error : Option String) : Prop :=
  error = some (reason answer
    ++ ((TransactionState.rolledBack.hookText? hooked).map ("; " ++ ·)).getD "")

theorem Settlement.storageText_eq_empty_iff {answer : Except Failure Value}
    : storageText answer = "" ↔ ∃ failure, answer = .error failure ∧ failure.text = "" := by
  cases answer with
  | ok answer => simp [storageText, Hooks.noSuccess]
  | error failure => simp [storageText]

-----------------------------------------------------------------------------------------
-- Errors after the hook
-----------------------------------------------------------------------------------------

/-- Without an error of its own, a result has that of the hook. -/
theorem TransactionResult.error_afterHook_of_none {r : TransactionResult} (fine : r.error = none)
    (hooked : Except Failure Unit)
    : (r.afterHook hooked).error = r.state.hookText? hooked := by
  cases hooked with
  | ok => exact fine
  | error failure => simp [afterHook, addHookFailure, fine, TransactionState.hookText?]

/-- The failure of the hook stands behind an error that has a text. -/
theorem TransactionResult.error_afterHook_of_some {r : TransactionResult} {text : String}
    (own : r.error = some text) (told : text ≠ "") (hooked : Except Failure Unit)
    : (r.afterHook hooked).error
      = some (text ++ ((r.state.hookText? hooked).map ("; " ++ ·)).getD "") := by
  cases hooked with
  | ok => simp [afterHook, own, TransactionState.hookText?]
  | error failure =>
    simp [afterHook, addHookFailure, own, TransactionState.hookText?, String.append_assoc]

/-- An empty error gives way to the failure of the hook. -/
theorem TransactionResult.error_afterHook_of_empty {r : TransactionResult}
    (own : r.error = some "") (hooked : Except Failure Unit)
    : (r.afterHook hooked).error = some ((r.state.hookText? hooked).getD "") := by
  cases hooked with
  | ok => simp [afterHook, own, TransactionState.hookText?]
  | error failure => simp [afterHook, addHookFailure, own, TransactionState.hookText?]

theorem Settlement.error_ofAnswer {flat : List FlatUpdate} {answer : Except Failure Value}
    (rolledBack : (ofAnswer flat answer).state = .rolledBack)
    : (ofAnswer flat answer).error = some (storageText answer) := by
  cases answer with
  | error failure => rfl
  | ok answer =>
    cases h : answer.truthy with
    | true => simp [ofAnswer, h, state] at rolledBack
    | false => simp [ofAnswer, h, error, storageText]

-----------------------------------------------------------------------------------------
-- Errors of runs
-----------------------------------------------------------------------------------------

/-- The failure of a hook does not read like a reason. -/
theorem Settlement.not_tellsWhy_of_hookText {answer : Except Failure Value}
    (none : storageText answer = "") (hooked : Except Failure Unit)
    : ¬ TellsWhy answer hooked (some ((TransactionState.rolledBack.hookText? hooked).getD "")) := by
  intro tells
  have texts := congrArg String.toList (Option.some.inj tells)
  rw [reason, if_pos none, String.toList_append] at texts
  cases hooked with
  | ok => cases texts
  | error failure =>
    simp only [TransactionState.hookText?, Option.getD_some, String.toList_append] at texts
    cases texts

/-- The error of a rollback after the hook, if storage gave a text and if it did not. -/
theorem Settlement.error_rolledBack {flat : List FlatUpdate} {answer : Except Failure Value}
    (rolledBack : (ofAnswer flat answer).state = .rolledBack) (id : String)
    (hooked : Except Failure Unit)
    : let error := (((ofAnswer flat answer).result id).afterHook hooked).error
      (storageText answer ≠ "" → TellsWhy answer hooked error)
      ∧ (storageText answer = ""
        → error = some ((TransactionState.rolledBack.hookText? hooked).getD "")) := by
  have own : ((ofAnswer flat answer).result id).error = some (storageText answer) :=
    error_ofAnswer rolledBack
  have state : ((ofAnswer flat answer).result id).state = .rolledBack := rolledBack
  constructor
  · intro told
    rw [TransactionResult.error_afterHook_of_some own told, state, TellsWhy, reason, if_neg told]
  · intro none
    rw [none] at own
    rw [TransactionResult.error_afterHook_of_empty own, state]

/-- The error of a commit is that of the hook, and the error of a rollback follows from the answer
of storage.
-/
theorem Coalescer.error_settlement (c : Coalescer σ) (flat : List FlatUpdate) (s : σ)
    (id : String) (hooked : Except Failure Unit)
    : let e := (c.settlement flat s).1
      let error := ((e.result id).afterHook hooked).error
      e.state = .committed ∧ error = TransactionState.committed.hookText? hooked
      ∨ ∃ answer,
          e.state = .rolledBack
          ∧ c.calls flat s = [.ofSend flat answer]
          ∧ (Settlement.storageText answer ≠ "" → Settlement.TellsWhy answer hooked error)
          ∧ (Settlement.storageText answer = ""
            → error = some ((TransactionState.rolledBack.hookText? hooked).getD "")) := by
  rcases c.settlement_cases flat s with ⟨_, _, settled⟩ | ⟨answer, _, called, settled⟩
  · rw [settled]
    exact .inl ⟨rfl, TransactionResult.error_afterHook_of_none rfl hooked⟩
  · rw [settled]
    rcases (Settlement.ofAnswer flat answer).state_eq_or with committed | rolledBack
    · have fine : ((Settlement.ofAnswer flat answer).result id).error = none := by
        obtain ⟨value, rfl, truthy⟩ := Settlement.state_ofAnswer.1 committed
        simp [Settlement.ofAnswer, truthy, Settlement.result, Settlement.error]
      have state : ((Settlement.ofAnswer flat answer).result id).state = .committed := committed
      exact .inl ⟨committed, by rw [TransactionResult.error_afterHook_of_none fine, state]⟩
    · exact .inr ⟨answer, rolledBack, called, Settlement.error_rolledBack rolledBack id hooked⟩

/-- A rolled back run tells why, exactly if storage did not fail or failed with a text. If its
failure has no text, the error is empty or that of the hook alone. A committed run has no error but
that of the hook. Any other run is refused, or its updates cannot be stamped.
-/
theorem Coalescer.run_tells_why_iff (c : Coalescer σ) {tx : Transaction} {id : String}
    (named : tx.id = .text id) (s : σ)
    : (∃ e,
        (c.run.run (tx, s)).result = .error e
        ∧ (tx.isProcessed = true ∨ c.flatten tx.user tx.operations = .error e))
      ∨ ∃ returned calls hook hooked,
          (c.run.run (tx, s)).result = .ok returned
          ∧ (c.run.run (tx, s)).state.1.result = some returned
          ∧ c.exchanges tx s = calls ++ [hook]
          ∧ hook.hookAnswer? = some hooked
          ∧ (returned.state = .committed
              ∧ returned.error = TransactionState.committed.hookText? hooked
            ∨ returned.state = .rolledBack
              ∧ ∃ call answer,
                  calls = [call]
                  ∧ call.answer? = some answer
                  ∧ (Settlement.TellsWhy answer hooked returned.error
                    ↔ ∀ failure, answer = .error failure → failure.text ≠ "")
                  ∧ ∀ failure,
                      answer = .error failure
                      → failure.text = ""
                      → returned.error
                        = some ((TransactionState.rolledBack.hookText? hooked).getD "")) := by
  by_cases processed : tx.isProcessed = true
  · exact .inl ⟨_, by rw [c.run_of_processed processed], .inl processed⟩
  have fresh : tx.isProcessed = false := by simpa using processed
  by_cases flattens : c.Flattens tx
  case neg =>
    obtain ⟨e, fails, failed, _⟩ := c.run_of_not_flattens fresh flattens s
    exact .inl ⟨e, failed, .inr fails⟩
  obtain ⟨result, state⟩ := flattens.run_eq fresh named s
  obtain ⟨_, observed⟩ := flattens.observed_run_eq fresh named s []
  let hooked := (c.hooked tx id s).result
  let hook := Exchange.ofHook (tx.settled ((c.ending tx s).1.result id)) (c.ending tx s).1 hooked
  have calls : c.exchanges tx s = c.calls (c.updatesFor tx.user tx.operations) s ++ [hook] := by
    rw [exchanges, observed]
    rfl
  refine .inr ⟨c.returned tx id s, _, hook, hooked, result, by rw [state]; rfl, calls,
    Exchange.hookAnswer?_ofHook .., ?_⟩
  rw [state_returned]
  rcases c.error_settlement (c.updatesFor tx.user tx.operations) s id hooked
    with committed | ⟨answer, rolledBack, called, told, untold⟩
  · exact .inl committed
  · refine .inr ⟨rolledBack, _, answer, called, Exchange.answer?_ofSend .., ?_, ?_⟩
    · have tells_iff : Settlement.TellsWhy answer hooked (c.returned tx id s).error
          ↔ Settlement.storageText answer ≠ "" := by
        refine ⟨fun tells none => ?_, told⟩
        exact Settlement.not_tellsWhy_of_hookText none hooked (untold none ▸ tells)
      simp only [tells_iff, ne_eq, Settlement.storageText_eq_empty_iff, not_exists, not_and]
    · rintro failure rfl none
      exact untold none

/-- A failure that has a text, and a hook that fails as well. -/
theorem Coalescer.run_tells_why_iff_of_failures
    : let lost : Failure := .foreign "OSError" "disk full"
      let c : Coalescer Unit :=
        ⟨⟨"Lost", fun _ _ _ => .fail lost, fun _ => .fail lost, none⟩,
          ⟨fun _ _ => .fail lost, fun _ _ _ => .fail lost⟩,
          .fixed ⟨⟨2024, 1, 5⟩, 10, 30, 0, 0, some 0⟩, .standard, .info⟩
      let tx : Transaction :=
        { Transaction.new c.preferences (.text "x") (.text "ann") .null true with
          operations := [⟨"task", "t1", .ofList [("name", .text "Apollo")]⟩] }
      tx.id = .text "x"
      ∧ ∃ returned,
          (c.run.run (tx, ())).result = .ok returned
          ∧ returned.state = .rolledBack
          ∧ Settlement.TellsWhy (.error lost) (.error lost) returned.error := by
  intro lost c tx
  have named : tx.id = .text "x" := rfl
  have ran : (c.run.run (tx, ())).result
      = .ok ⟨"x", .rolledBack, [], some "disk full; rolled_back hook failed: disk full"⟩ := rfl
  rcases c.run_tells_why_iff named ()
    with ⟨e, failed, _⟩
      | ⟨returned, calls, hook, hooked, result, _, exchanges, hookAnswer, outcome⟩
  · cases failed.symm.trans ran
  cases result.symm.trans ran
  rcases outcome with ⟨committed, _⟩ | ⟨_, call, answer, rfl, answered, tells, _⟩
  · cases committed
  · obtain ⟨first, second⟩ := List.cons.inj exchanges.symm
    subst first
    cases answered
    cases (List.cons.inj second).1
    cases hookAnswer
    exact ⟨named, _, ran, rfl, tells.2 fun failure same => by cases same; decide⟩

/-- A failure without a text leaves the error of a rollback empty, or to the hook alone. -/
theorem Coalescer.run_rolls_back_untold
    : let silent : Failure := .foreign "RuntimeError" ""
      let lost : Failure := .foreign "OSError" "disk full"
      let c (hooked : Except Failure Unit) : Coalescer Unit :=
        ⟨⟨"Silent", fun _ _ _ => .fail silent, fun _ => .fail silent, none⟩,
          ⟨fun _ _ => .ofExcept hooked, fun _ _ _ => .ofExcept hooked⟩,
          .fixed ⟨⟨2024, 1, 5⟩, 10, 30, 0, 0, some 0⟩, .standard, .info⟩
      let tx : Transaction :=
        { Transaction.new Preferences.standard (.text "x") (.text "ann") .null true with
          operations := [⟨"task", "t1", .ofList [("name", .text "Apollo")]⟩] }
      ((c (.ok ())).run.run (tx, ())).result = .ok ⟨"x", .rolledBack, [], some ""⟩
      ∧ ¬ Settlement.TellsWhy (.error silent) (.ok ()) (some "")
      ∧ ((c (.error lost)).run.run (tx, ())).result
        = .ok ⟨"x", .rolledBack, [], some "rolled_back hook failed: disk full"⟩
      ∧ ¬ Settlement.TellsWhy (.error silent) (.error lost)
        (some "rolled_back hook failed: disk full") :=
  ⟨rfl, Settlement.not_tellsWhy_of_hookText rfl _, rfl, Settlement.not_tellsWhy_of_hookText rfl _⟩

end DocGateway
