import DocGateway.Failure
import DocGateway.Log.Basic

/-!
Actions: what the gateway does to a state, step by step.

An action ends in a result or a failure, leaves a state and writes log entries. A failure skips the
steps after it, but the state and the log that it leaves are kept. Actions form a lawful monad, and
each operation has one equation for its run.
-/

namespace DocGateway

/-- What an action came to. -/
structure Outcome (σ α : Type) where
  result : Except Failure α
  state : σ
  log : List LogEntry

namespace Outcome

variable {σ τ α β : Type}

/-- The same outcome with log entries before its own. -/
def after (log : List LogEntry) (o : Outcome σ α) : Outcome σ α :=
  { o with log := log ++ o.log }

/-- Goes on from a result; a failure stays what it is. -/
def andThen (o : Outcome σ α) (next : α → σ → Outcome σ β) : Outcome σ β :=
  match o with
  | ⟨.ok a, s, log⟩ => (next a s).after log
  | ⟨.error e, s, log⟩ => ⟨.error e, s, log⟩

@[simp]
theorem after_mk (log more : List LogEntry) (r : Except Failure α) (s : σ)
    : after log ⟨r, s, more⟩ = ⟨r, s, log ++ more⟩ := rfl

@[simp]
theorem after_nil (o : Outcome σ α) : o.after [] = o := rfl

@[simp]
theorem after_after (log more : List LogEntry) (o : Outcome σ α)
    : (o.after more).after log = o.after (log ++ more) := by
  simp [after]

@[simp]
theorem andThen_ok (a : α) (s : σ) (log : List LogEntry) (next : α → σ → Outcome σ β)
    : andThen ⟨.ok a, s, log⟩ next = (next a s).after log := rfl

@[simp]
theorem andThen_error (e : Failure) (s : σ) (log : List LogEntry) (next : α → σ → Outcome σ β)
    : andThen ⟨.error e, s, log⟩ next = ⟨.error e, s, log⟩ := rfl

end Outcome

/-- A step on a state. -/
structure Action (σ α : Type) where
  run : σ → Outcome σ α

namespace Action

variable {σ τ α β : Type}

@[ext]
theorem ext {x y : Action σ α} (h : ∀ s, x.run s = y.run s) : x = y := by
  cases x
  cases y
  congr
  exact funext h

instance : Monad (Action σ) where
  pure a := ⟨fun s => ⟨.ok a, s, []⟩⟩
  bind x f := ⟨fun s => (x.run s).andThen fun a => (f a).run⟩

@[simp]
theorem run_pure (a : α) (s : σ) : (pure a : Action σ α).run s = ⟨.ok a, s, []⟩ := rfl

@[simp]
theorem run_bind (x : Action σ α) (f : α → Action σ β) (s : σ)
    : (x >>= f).run s = (x.run s).andThen fun a => (f a).run := rfl

theorem id_map_run (x : Action σ α) : id <$> x = x := by
  apply ext
  intro s
  change (x.run s).andThen _ = x.run s
  rcases x.run s with ⟨_ | _, _, _⟩ <;> simp

theorem bind_assoc_run {γ : Type} (x : Action σ α) (f : α → Action σ β) (g : β → Action σ γ)
    : x >>= f >>= g = x >>= fun a => f a >>= g := by
  apply ext
  intro s
  rw [run_bind, run_bind, run_bind]
  rcases x.run s with ⟨_ | a, s, log⟩
  · simp
  · rw [Outcome.andThen_ok, Outcome.andThen_ok, run_bind]
    rcases (f a).run s with ⟨_ | _, _, _⟩ <;> simp

instance : LawfulMonad (Action σ) :=
  LawfulMonad.mk' (Action σ) id_map_run (fun _ _ => rfl) bind_assoc_run

@[simp]
theorem run_map (f : α → β) (x : Action σ α) (s : σ)
    : (f <$> x).run s = ⟨(x.run s).result.map f, (x.run s).state, (x.run s).log⟩ := by
  change (x.run s).andThen _ = _
  rcases x.run s with ⟨_ | _, _, _⟩ <;> simp [Except.map]

def fail (e : Failure) : Action σ α := ⟨fun s => ⟨.error e, s, []⟩⟩

def ofExcept (r : Except Failure α) : Action σ α := ⟨fun s => ⟨r, s, []⟩⟩

/-- Does an action and tells what it came to, without failing itself. -/
def attempt (x : Action σ α) : Action σ (Except Failure α) :=
  ⟨fun s => ⟨.ok (x.run s).result, (x.run s).state, (x.run s).log⟩⟩

/-- Does an action and replaces its failure. -/
def mapFailure (f : Failure → Failure) (x : Action σ α) : Action σ α :=
  ⟨fun s => ⟨(x.run s).result.mapError f, (x.run s).state, (x.run s).log⟩⟩

/-- The current state. -/
def current : Action σ σ := ⟨fun s => ⟨.ok s, s, []⟩⟩

def change (f : σ → σ) : Action σ Unit := ⟨fun s => ⟨.ok (), f s, []⟩⟩

def write (e : LogEntry) : Action σ Unit := ⟨fun s => ⟨.ok (), s, [e]⟩⟩

/-- Does an action on a part of the state. -/
def onPart (part : τ → σ) (replace : σ → τ → τ) (x : Action σ α) : Action τ α :=
  ⟨fun t =>
    ⟨(x.run (part t)).result, replace (x.run (part t)).state t, (x.run (part t)).log⟩⟩

/-- Does an action on the second part of a pair of states. -/
def onSecond (x : Action τ α) : Action (σ × τ) α := onPart Prod.snd (fun s t => (t.1, s)) x

/-- Does an action for every value in order and collects the results. -/
def collect (f : α → Action σ β) : List α → Action σ (List β)
  | [] => pure []
  | a :: as => do
    let b ← f a
    let bs ← collect f as
    return b :: bs

@[simp]
theorem run_fail (e : Failure) (s : σ) : (fail e : Action σ α).run s = ⟨.error e, s, []⟩ := rfl

@[simp]
theorem run_ofExcept (r : Except Failure α) (s : σ) : (ofExcept r).run s = ⟨r, s, []⟩ := rfl

@[simp]
theorem run_attempt (x : Action σ α) (s : σ)
    : x.attempt.run s = ⟨.ok (x.run s).result, (x.run s).state, (x.run s).log⟩ := rfl

@[simp]
theorem run_mapFailure (f : Failure → Failure) (x : Action σ α) (s : σ)
    : (x.mapFailure f).run s = ⟨(x.run s).result.mapError f, (x.run s).state, (x.run s).log⟩ :=
  rfl

@[simp]
theorem run_current (s : σ) : (current : Action σ σ).run s = ⟨.ok s, s, []⟩ := rfl

@[simp]
theorem run_change (f : σ → σ) (s : σ) : (change f).run s = ⟨.ok (), f s, []⟩ := rfl

@[simp]
theorem run_write (e : LogEntry) (s : σ) : (write e).run s = ⟨.ok (), s, [e]⟩ := rfl

@[simp]
theorem run_onSecond (x : Action τ α) (t : σ × τ)
    : (x.onSecond).run t = ⟨(x.run t.2).result, (t.1, (x.run t.2).state), (x.run t.2).log⟩ :=
  rfl

end Action

end DocGateway
