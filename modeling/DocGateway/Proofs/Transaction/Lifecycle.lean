import DocGateway.Proofs.Transaction.Endings
import DocGateway.Proofs.Transaction.Moves

/-!
The life of transactions that share a coalescer, in whatever order they are worked on.

A transaction is pending until it is processed, which happens at most once and for good. This holds
after every sequence of moves, since each single move keeps it.
-/

namespace DocGateway

variable {σ ι : Type}

-----------------------------------------------------------------------------------------
-- Timelines
-----------------------------------------------------------------------------------------

/-- A move of the transaction under an index, with what came of it. -/
structure Event (ι : Type) where
  index : ι
  move : Move
  result : Except Failure Unit
  exchanges : List Exchange

/-- Transactions under indices, the state of storage and hooks, and the events so far. -/
structure Timeline (ι σ : Type) where
  transactions : ι → Transaction
  storage : σ
  events : List (Event ι)

structure Opening where
  id : String
  user : Value
  mode : Value
  isBound : Bool

/-- The operation that a move has added, if it has. -/
def Move.added : Move → Except Failure Unit → List Operation
  | .add given, .ok () => (Operation.ofGiven given).toOption.toList
  | _, _ => []

namespace Timeline

/-- New transactions, before any move. -/
def start (p : Preferences) (openings : ι → Opening) (storage : σ) : Timeline ι σ where
  transactions i :=
    .new p (.text (openings i).id) (openings i).user (openings i).mode (openings i).isBound
  storage := storage
  events := []

variable [DecidableEq ι]

def make (t : Timeline ι σ) (c : Coalescer σ) (i : ι) (m : Move) : Timeline ι σ :=
  let o := (c.move m).run (t.transactions i, t.storage)
  { transactions := fun j => if j = i then o.state.1 else t.transactions j
    storage := o.state.2
    events := t.events ++ [⟨i, m, o.result, c.moveExchanges m (t.transactions i) t.storage⟩] }

def makeAll (t : Timeline ι σ) (c : Coalescer σ) (moves : List (ι × Move)) : Timeline ι σ :=
  moves.foldl (fun t m => t.make c m.1 m.2) t

/-- The operations that were added to a transaction, in order. -/
def added (t : Timeline ι σ) (i : ι) : List Operation :=
  t.events.flatMap fun e => if e.index = i then e.move.added e.result else []

/-- The exchanges that moves of a transaction led to. -/
def exchanges (t : Timeline ι σ) (i : ι) : List Exchange :=
  t.events.flatMap fun e => if e.index = i then e.exchanges else []

theorem added_make (t : Timeline ι σ) (c : Coalescer σ) (i j : ι) (m : Move)
    : (t.make c i m).added j
      = t.added j
        ++ if i = j then m.added ((c.move m).run (t.transactions i, t.storage)).result else [] := by
  simp [added, make]

theorem exchanges_make (t : Timeline ι σ) (c : Coalescer σ) (i j : ι) (m : Move)
    : (t.make c i m).exchanges j
      = t.exchanges j
        ++ if i = j then c.moveExchanges m (t.transactions i) t.storage else [] := by
  simp [exchanges, make]

end Timeline

-----------------------------------------------------------------------------------------
-- Pending and done
-----------------------------------------------------------------------------------------

/-- A transaction that waits for being processed, with what was added to it. -/
structure Transaction.Pending (tx : Transaction) (added : List Operation)
    (exchanges : List Exchange) : Prop where
  state : tx.state = .empty
  result : tx.result = none
  operations : tx.operations = added
  exchanges : exchanges = []

/-- A transaction that was processed. If storage was called, it was for its own operations. -/
structure Coalescer.Done (c : Coalescer σ) (tx : Transaction) (added : List Operation)
    (exchanges : List Exchange) : Prop where
  state : tx.state = .committed ∨ tx.state = .rolledBack
  result : ∃ r, tx.result = some r ∧ r.state = tx.state ∧ tx.id = .text r.id
  operations : tx.operations = added
  storageCalls : (exchanges.filter fun e => e.isStorage).length ≤ 1
  hookCalls : (exchanges.filter fun e => !e.isStorage).length = 1
  ownOperations
    : ∀ e ∈ exchanges,
        e.isStorage = true
        → ∃ flat answer, c.flatten tx.user added = .ok flat ∧ e = .ofSend flat answer

/-- What holds of a transaction at any time. -/
structure Coalescer.Lives (c : Coalescer σ) (tx : Transaction) (added : List Operation)
    (exchanges : List Exchange) : Prop where
  named : ∃ id, tx.id = .text id
  pending : tx.isProcessed = false → tx.Pending added exchanges
  done : tx.isProcessed = true → c.Done tx added exchanges

/-- Processing turns a pending transaction into one that is done. -/
theorem Transaction.Pending.done {tx : Transaction} {added : List Operation}
    {exchanges : List Exchange} (pending : tx.Pending added exchanges) {c : Coalescer σ}
    (ready : c.Configured) {id : String} (named : tx.id = .text id) (s : σ)
    : c.Done (tx.settled (c.returned tx id s)) added (exchanges ++ c.conversation tx id s) := by
  obtain ⟨_, _, rfl, rfl⟩ := pending
  have ended
      : (c.returned tx id s).state = .committed ∨ (c.returned tx id s).state = .rolledBack := by
    rw [c.state_returned]
    exact (c.ending tx s).1.state_eq_or
  have own := ready.flatten_eq tx.user tx.operations
  have result : ∃ r,
      (tx.settled (c.returned tx id s)).result = some r
      ∧ r.state = (tx.settled (c.returned tx id s)).state
      ∧ (tx.settled (c.returned tx id s)).id = .text r.id :=
    ⟨_, rfl, rfl, by rw [c.id_returned]; exact named⟩
  obtain ⟨hook, calls, only | ⟨answer, both⟩⟩ := c.conversation_cases tx id s
  · rw [only]
    refine ⟨ended, result, rfl, by simp [calls], by simp [calls], ?_⟩
    simp [calls]
  · rw [both]
    refine ⟨ended, result, rfl, by simp [calls], by simp [calls], ?_⟩
    intro e member storage
    rcases List.mem_cons.1 member with rfl | member
    · exact ⟨_, answer, own, rfl⟩
    · rw [List.mem_singleton.1 member, calls] at storage
      cases storage

/-- Every move keeps what holds of its transaction. -/
theorem Coalescer.Lives.moved {c : Coalescer σ} {tx : Transaction} {added : List Operation}
    {exchanges : List Exchange} (lives : c.Lives tx added exchanges) (ready : c.Configured)
    {m : Move} {s : σ} {result : Except Failure Unit} {next : Transaction} {after : σ}
    {more : List Exchange} (moved : c.Moved m tx s result next after more)
    : c.Lives next (added ++ m.added result) (exchanges ++ more) := by
  cases moved with
  | refused refused refusal =>
    have nothing : ∀ e, m.added (.error e) = [] := by cases m <;> exact fun _ => rfl
    rwa [nothing, List.append_nil, List.append_nil]
  | added move fresh valid =>
    obtain ⟨state, unsettled, operations, quiet⟩ := lives.pending fresh
    subst move
    have one : (Move.add _).added (.ok ()) = [_] := congrArg (Option.toList ∘ Except.toOption) valid
    rw [one, List.append_nil]
    refine ⟨lives.named, fun _ => ⟨state, unsettled, ?_, quiet⟩, fun processed => ?_⟩
    · rw [operations]
    · cases fresh.symm.trans processed
  | processed move fresh named =>
    have nothing : m.added (.ok ()) = [] := by
      cases m with
      | add given => exact absurd rfl (move given)
      | process => rfl
      | run => rfl
    rw [nothing, List.append_nil]
    exact ⟨lives.named, nofun, fun _ => (lives.pending fresh).done ready named s⟩

-----------------------------------------------------------------------------------------
-- Whole timelines
-----------------------------------------------------------------------------------------

namespace Timeline

variable [DecidableEq ι]

/-- A refused move leaves its event behind and nothing else. -/
theorem make_of_refused (t : Timeline ι σ) (c : Coalescer σ) {i : ι} {m : Move}
    (refused : m.Refused (t.transactions i))
    : ∃ e,
        e.IsRefusal
        ∧ t.make c i m = { t with events := t.events ++ [⟨i, m, .error e, []⟩] } := by
  obtain ⟨e, refusal, moves⟩ := c.move_of_refused refused t.storage
  obtain ⟨_, _, watched⟩ := c.observed.move_of_refused refused (t.storage, [])
  have same : (fun j => if j = i then t.transactions i else t.transactions j) = t.transactions := by
    funext j
    split
    case isTrue h => rw [h]
    case isFalse => rfl
  exact ⟨e, refusal, by simp only [make, Coalescer.moveExchanges, moves, watched, same]⟩

theorem transactions_makeAll_of_processed (t : Timeline ι σ) (c : Coalescer σ) {i : ι}
    (processed : (t.transactions i).isProcessed = true) (moves : List (ι × Move))
    : (t.makeAll c moves).transactions i = t.transactions i := by
  induction moves generalizing t with
  | nil => rfl
  | cons first moves ih =>
    have kept : (t.make c first.1 first.2).transactions i = t.transactions i := by
      by_cases own : first.1 = i
      · subst own
        obtain ⟨_, _, moved⟩ := t.make_of_refused c (Move.refused_of_processed processed first.2)
        rw [moved]
      · exact if_neg (Ne.symm own)
    exact (ih (t.make c first.1 first.2) (by rw [kept]; exact processed)).trans kept

/-- What holds of every transaction at any time, and of every move that may follow. -/
structure Lawful (t : Timeline ι σ) (c : Coalescer σ) : Prop where
  pending
    : ∀ i,
        (t.transactions i).isProcessed = false
        → (t.transactions i).Pending (t.added i) (t.exchanges i)
  done
    : ∀ i,
        (t.transactions i).isProcessed = true
        → c.Done (t.transactions i) (t.added i) (t.exchanges i)
  final
    : ∀ i,
        (t.transactions i).isProcessed = true
        → ∀ moves, (t.makeAll c moves).transactions i = t.transactions i
  refused
    : ∀ i m,
        m.Refused (t.transactions i)
        → ∃ e,
            e.IsRefusal
            ∧ t.make c i m = { t with events := t.events ++ [⟨i, m, .error e, []⟩] }
  accepted
    : ∀ i m,
        ¬ m.Refused (t.transactions i)
        → ∃ exchanges, (t.make c i m).events = t.events ++ [⟨i, m, .ok (), exchanges⟩]

def AllLive (t : Timeline ι σ) (c : Coalescer σ) : Prop :=
  ∀ i, c.Lives (t.transactions i) (t.added i) (t.exchanges i)

theorem AllLive.make {t : Timeline ι σ} {c : Coalescer σ} (live : t.AllLive c)
    (ready : c.Configured) (i : ι) (m : Move)
    : (t.make c i m).AllLive c := by
  intro j
  rw [added_make, exchanges_make]
  by_cases own : i = j
  · subst own
    obtain ⟨id, named⟩ := (live i).named
    rw [if_pos rfl, if_pos rfl]
    have next
        : (t.make c i m).transactions i
          = ((c.move m).run (t.transactions i, t.storage)).state.1 :=
      if_pos rfl
    rw [next]
    exact (live i).moved ready (ready.moved m named t.storage)
  · have kept : (t.make c i m).transactions j = t.transactions j := if_neg (Ne.symm own)
    rw [if_neg own, if_neg own, List.append_nil, List.append_nil, kept]
    exact live j

theorem AllLive.makeAll {t : Timeline ι σ} {c : Coalescer σ} (live : t.AllLive c)
    (ready : c.Configured) (moves : List (ι × Move))
    : (t.makeAll c moves).AllLive c := by
  induction moves generalizing t with
  | nil => exact live
  | cons first moves ih => exact ih (live.make ready first.1 first.2)

theorem allLive_start (p : Preferences) (openings : ι → Opening) (storage : σ) (c : Coalescer σ)
    : (start p openings storage).AllLive c :=
  fun _ => ⟨⟨_, rfl⟩, fun _ => ⟨rfl, rfl, rfl, rfl⟩, nofun⟩

/-- The events of a timeline are the moves that were made. -/
theorem events_makeAll (t : Timeline ι σ) (c : Coalescer σ) (moves : List (ι × Move))
    : (t.makeAll c moves).events.map (fun e => (e.index, e.move))
      = t.events.map (fun e => (e.index, e.move)) ++ moves := by
  induction moves generalizing t with
  | nil => simp [makeAll]
  | cons first moves ih =>
    refine (ih (t.make c first.1 first.2)).trans ?_
    simp [make]

theorem AllLive.lawful {t : Timeline ι σ} {c : Coalescer σ} (live : t.AllLive c)
    (ready : c.Configured)
    : t.Lawful c where
  pending i := (live i).pending
  done i := (live i).done
  final _ processed := t.transactions_makeAll_of_processed c processed
  refused _ _ := t.make_of_refused c
  accepted := by
    intro i m accepted
    obtain ⟨id, named⟩ := (live i).named
    have success := (ready.moved m named t.storage).result_of_accepted accepted
    refine ⟨c.moveExchanges m (t.transactions i) t.storage, ?_⟩
    simp only [Timeline.make, success]

/-- Transactions that share a coalescer live by the rules, whatever moves are made. -/
theorem lawful_makeAll (c : Coalescer σ) (ready : c.Configured) (openings : ι → Opening)
    (storage : σ) (moves : List (ι × Move))
    : let t := (start c.preferences openings storage).makeAll c moves
      t.events.map (fun e => (e.index, e.move)) = moves ∧ t.Lawful c := by
  refine ⟨events_makeAll .., ?_⟩
  exact ((allLive_start c.preferences openings storage c).makeAll ready moves).lawful ready

/-- Two transactions over storage that fails: one is run and then refuses everything, the other
knows no one to process it.
-/
theorem lawful_after_lost_run
    : let lost : Failure := .foreign "OSError" "disk full"
      let c : Coalescer Unit :=
        ⟨⟨"Lost", fun _ _ _ => .fail lost, fun _ => .fail lost, none⟩, Hooks.silent,
          .fixed ⟨⟨2024, 1, 5⟩, 10, 30, 0, 0, some 0⟩, .standard, .info⟩
      let op : Given Operation := .ready ⟨"task", "t1", .ofList [("name", .text "Apollo")]⟩
      let openings : Bool → Opening := fun bound => ⟨"x", .text "ann", .null, bound⟩
      let moves : List (Bool × Move) :=
        [(true, .add op), (false, .add op), (true, .process), (true, .run), (true, .add op),
          (false, .process)]
      let t := (start c.preferences openings ()).makeAll c moves
      c.Configured
      ∧ t.events.map (fun e => (e.index, e.move)) = moves
      ∧ t.Lawful c
      ∧ (t.transactions true).state = .rolledBack
      ∧ (t.transactions false).state = .empty := by
  intro lost c op openings moves t
  have ready : c.Configured := Coalescer.configured_of_settings rfl (by decide +kernel)
  obtain ⟨events, lawful⟩ := lawful_makeAll c ready openings () moves
  exact ⟨ready, events, lawful, by decide +kernel, by decide +kernel⟩

end Timeline

end DocGateway
