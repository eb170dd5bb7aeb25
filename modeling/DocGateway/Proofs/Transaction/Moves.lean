import DocGateway.Proofs.Transaction.Observation

/-!
Moves: what a caller does with a transaction, and everything that a move can come to.

A move is refused and changes nothing, or it adds an operation, or it processes the transaction. The
case analysis is made here once; what holds of transactions over time follows from it.
-/

namespace DocGateway

variable {σ : Type}

/-- What a caller does with a transaction. -/
inductive Move where
  | add (given : Given Operation)
  | process
  | run

/-- The moves that a transaction refuses. -/
def Move.Refused (tx : Transaction) : Move → Prop
  | add given => tx.isProcessed = true ∨ ∃ e, Operation.ofGiven given = .error e
  | process => tx.isProcessed = true ∨ tx.isBound = false
  | run => tx.isProcessed = true

def Coalescer.move (c : Coalescer σ) : Move → Action (Held σ) Unit
  | .add given => do
    let h ← Action.current
    let tx ← Action.ofExcept (h.1.add given)
    Action.change fun h => (tx, h.2)
  | .process => (fun _ => ()) <$> c.process
  | .run => (fun _ => ()) <$> c.run

/-- The exchanges of a move, which is the same move when it is observed (`forget_move`). -/
def Coalescer.moveExchanges (c : Coalescer σ) (m : Move) (tx : Transaction) (s : σ)
    : List Exchange :=
  ((c.observed.move m).run (tx, (s, []))).state.2.2

-----------------------------------------------------------------------------------------
-- Refusals
-----------------------------------------------------------------------------------------

/-- A failure that says that a transaction refuses something. -/
def Failure.IsRefusal (e : Failure) : Prop :=
  ∃ r : Report, e = .report r ∧ r.reportClass = .transaction

theorem Transaction.isRefusal (tx : Transaction) (message : String)
    : (tx.refusal message).IsRefusal :=
  ⟨_, rfl, rfl⟩

/-- What cannot be read as an operation is a value, which the failure shows. -/
theorem Operation.report_of_ofGiven {given : Given Operation} {e : Failure}
    (invalid : ofGiven given = .error e)
    : ∃ v r,
        given = .raw v
        ∧ e = .report r
        ∧ r.reportClass = .transaction
        ∧ r.details = [("operation", .value v)] := by
  cases given with
  | ready op => cases invalid
  | raw v =>
    simp only [ofGiven, ofValue] at invalid
    split at invalid
    · split at invalid
      · cases invalid
      · cases invalid
        exact ⟨_, _, rfl, rfl, rfl, rfl⟩
    · cases invalid
      exact ⟨_, _, rfl, rfl, rfl, rfl⟩

/-- Whatever cannot be read as an operation is refused. -/
theorem Operation.isRefusal_of_ofGiven {given : Given Operation} {e : Failure}
    (invalid : ofGiven given = .error e)
    : e.IsRefusal := by
  obtain ⟨_, r, _, isReport, ofClass, _⟩ := report_of_ofGiven invalid
  exact ⟨r, isReport, ofClass⟩

/-- Adding fails for the reasons for which a transaction refuses an operation. -/
theorem Transaction.add_of_refused {tx : Transaction} {given : Given Operation}
    (refused : (Move.add given).Refused tx)
    : ∃ e, e.IsRefusal ∧ tx.add given = .error e := by
  by_cases processed : tx.isProcessed = true
  · exact ⟨_, tx.isRefusal _, if_pos processed⟩
  · obtain ⟨e, invalid⟩ := refused.resolve_left processed
    refine ⟨e, Operation.isRefusal_of_ofGiven invalid, ?_⟩
    rw [add, if_neg processed, invalid]
    rfl

theorem Move.refused_of_processed {tx : Transaction} (processed : tx.isProcessed = true)
    (m : Move)
    : m.Refused tx := by
  cases m with
  | add => exact .inl processed
  | process => exact .inl processed
  | run => exact processed

-----------------------------------------------------------------------------------------
-- Runs of moves
-----------------------------------------------------------------------------------------

theorem Transaction.add_of_valid {tx : Transaction} (fresh : tx.isProcessed = false)
    {given : Given Operation} {op : Operation} (valid : Operation.ofGiven given = .ok op)
    : tx.add given = .ok { tx with operations := tx.operations ++ [op] } := by
  rw [add, if_neg (by simp [fresh]), valid]
  rfl

theorem Coalescer.run_move_add (c : Coalescer σ) (given : Given Operation) (tx : Transaction)
    (s : σ)
    : (c.move (.add given)).run (tx, s)
      = match tx.add given with
        | .ok more => ⟨.ok (), (more, s), []⟩
        | .error e => ⟨.error e, (tx, s), []⟩ := by
  simp only [move, Action.run_bind, Action.run_current, Outcome.andThen_ok, Action.run_ofExcept]
  cases tx.add given <;> rfl

theorem Coalescer.run_move_run (c : Coalescer σ) (tx : Transaction) (s : σ)
    : (c.move .run).run (tx, s)
      = ⟨(c.run.run (tx, s)).result.map fun _ => (), (c.run.run (tx, s)).state,
          (c.run.run (tx, s)).log⟩ :=
  Action.run_map ..

theorem Coalescer.run_move_process (c : Coalescer σ) (tx : Transaction) (s : σ)
    : (c.move .process).run (tx, s)
      = if tx.isBound then (c.move .run).run (tx, s)
        else ⟨.error (tx.refusal "Transaction is not bound to a coalescer"), (tx, s), []⟩ := by
  simp only [move, process, Action.run_map, Action.run_bind, Action.run_current,
    Outcome.andThen_ok]
  split
  · simp only [Action.run_bind]
    rcases c.run.run (tx, s) with ⟨_ | _, _, _⟩ <;> simp [Except.map]
  · rfl

/-- A refused move leaves everything as it was. -/
theorem Coalescer.move_of_refused (c : Coalescer σ) {m : Move} {tx : Transaction}
    (refused : m.Refused tx) (s : σ)
    : ∃ e, e.IsRefusal ∧ (c.move m).run (tx, s) = ⟨.error e, (tx, s), []⟩ := by
  have rerun (processed : tx.isProcessed = true)
      : (c.move .run).run (tx, s)
        = ⟨.error (tx.refusal "Transaction already processed"), (tx, s), []⟩ := by
    rw [run_move_run, c.run_of_processed processed]
    rfl
  cases m with
  | add given =>
    obtain ⟨e, refusal, fails⟩ := Transaction.add_of_refused refused
    exact ⟨e, refusal, by rw [run_move_add, fails]⟩
  | process =>
    rw [run_move_process]
    by_cases bound : tx.isBound = true
    · have processed : tx.isProcessed = true := refused.resolve_right (by simp [bound])
      exact ⟨_, tx.isRefusal _, by rw [if_pos bound, rerun processed]⟩
    · exact ⟨_, tx.isRefusal _, if_neg bound⟩
  | run => exact ⟨_, tx.isRefusal _, rerun refused⟩

/-- Observing a move changes neither its result nor the transaction nor storage nor the log. -/
theorem Coalescer.forget_move (c : Coalescer σ) (m : Move) (tx : Transaction) (s : σ)
    (past : List Exchange)
    : ((c.observed.move m).run (tx, (s, past))).forget = (c.move m).run (tx, s) := by
  have runs : ((c.observed.move .run).run (tx, (s, past))).forget = (c.move .run).run (tx, s) := by
    rw [run_move_run, run_move_run, ← c.forget_run tx s past]
    rfl
  cases m with
  | add given =>
    rw [run_move_add, run_move_add]
    cases tx.add given <;> rfl
  | process =>
    rw [run_move_process, run_move_process]
    split
    · exact runs
    · rfl
  | run => exact runs

/-- What a move comes to: it is refused, or it adds an operation, or it processes the transaction
with the exchanges of a run.
-/
inductive Coalescer.Moved (c : Coalescer σ) (m : Move) (tx : Transaction) (s : σ)
    : Except Failure Unit → Transaction → σ → List Exchange → Prop
  | refused {e : Failure} (refused : m.Refused tx) (refusal : e.IsRefusal)
    : c.Moved m tx s (.error e) tx s []
  | added {given : Given Operation} {op : Operation} (move : m = .add given)
    (fresh : tx.isProcessed = false) (valid : Operation.ofGiven given = .ok op)
    : c.Moved m tx s (.ok ()) { tx with operations := tx.operations ++ [op] } s []
  | processed {id : String} (move : ∀ given, m ≠ .add given) (fresh : tx.isProcessed = false)
    (named : tx.id = .text id)
    : c.Moved m tx s (.ok ()) (tx.settled (c.returned tx id s)) (c.hooked tx id s).state
        (c.conversation tx id s)

theorem Coalescer.Moved.result_of_accepted {c : Coalescer σ} {m : Move} {tx next : Transaction}
    {s after : σ} {result : Except Failure Unit} {exchanges : List Exchange}
    (moved : c.Moved m tx s result next after exchanges) (accepted : ¬ m.Refused tx)
    : result = .ok () := by
  cases moved with
  | refused refused => exact absurd refused accepted
  | added => rfl
  | processed => rfl

/-- A run of a pending transaction processes it. -/
theorem Coalescer.Configured.moved_of_run {c : Coalescer σ} (ready : c.Configured) {m : Move}
    {tx : Transaction} {id : String} (named : tx.id = .text id)
    (fresh : tx.isProcessed = false) (move : ∀ given, m ≠ .add given) (s : σ)
    : c.Moved m tx s ((c.move .run).run (tx, s)).result ((c.move .run).run (tx, s)).state.1
        ((c.move .run).run (tx, s)).state.2 (c.moveExchanges .run tx s) := by
  obtain ⟨result, state⟩ := (ready.flattens tx).run_eq fresh named s
  obtain ⟨_, watched⟩ := (ready.flattens tx).observed_run_eq fresh named s []
  rw [moveExchanges, run_move_run, run_move_run, result, state, watched]
  exact .processed move fresh named

/-- Every move of a transaction whose id is text is one of these. -/
theorem Coalescer.Configured.moved {c : Coalescer σ} (ready : c.Configured) (m : Move)
    {tx : Transaction} {id : String} (named : tx.id = .text id) (s : σ)
    : c.Moved m tx s ((c.move m).run (tx, s)).result ((c.move m).run (tx, s)).state.1
        ((c.move m).run (tx, s)).state.2 (c.moveExchanges m tx s) := by
  by_cases refused : m.Refused tx
  · obtain ⟨e, refusal, moves⟩ := c.move_of_refused refused s
    obtain ⟨_, _, watched⟩ := c.observed.move_of_refused refused (s, [])
    rw [moves, moveExchanges, watched]
    exact .refused refused refusal
  · cases m with
    | add given =>
      have fresh : tx.isProcessed = false := by simpa using mt Or.inl refused
      cases valid : Operation.ofGiven given with
      | error e => exact absurd (.inr ⟨e, valid⟩) refused
      | ok op =>
        rw [moveExchanges, run_move_add, run_move_add, Transaction.add_of_valid fresh valid]
        exact .added rfl fresh valid
    | process =>
      have fresh : tx.isProcessed = false := by simpa using mt Or.inl refused
      have bound : tx.isBound = true := by simpa using mt Or.inr refused
      have same : ∀ {τ : Type} (d : Coalescer τ) (t : τ),
          (d.move .process).run (tx, t) = (d.move .run).run (tx, t) := by
        intro τ d t
        rw [run_move_process, if_pos bound]
      rw [moveExchanges, same, same]
      exact ready.moved_of_run named fresh (by simp) s
    | run =>
      have fresh : tx.isProcessed = false := Bool.eq_false_iff.2 refused
      exact ready.moved_of_run named fresh (by simp) s

end DocGateway
