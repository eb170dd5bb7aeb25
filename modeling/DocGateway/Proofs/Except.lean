import Mathlib.Data.List.Forall2

/-!
Steps that may fail, and chains of them.

A chain succeeds if each of its steps does, and it fails with the first step that fails.
-/

namespace DocGateway

variable {ε α β : Type}

theorem Except.bind_eq_ok {x : Except ε α} {next : α → Except ε β} {b : β}
    : x >>= next = .ok b ↔ ∃ a, x = .ok a ∧ next a = .ok b := by
  cases x <;> simp [bind, Except.bind]

theorem Except.bind_eq_error {x : Except ε α} {next : α → Except ε β} {e : ε}
    : x >>= next = .error e ↔ x = .error e ∨ ∃ a, x = .ok a ∧ next a = .error e := by
  cases x <;> simp [bind, Except.bind]

theorem Except.toOption_bind (x : Except ε α) (next : α → Except ε β)
    : (x >>= next).toOption = x.toOption.bind fun a => (next a).toOption := by
  cases x <;> rfl

theorem Except.map_map {γ : Type} (f : α → β) (g : β → γ) (x : Except ε α)
    : (x.map f).map g = x.map (g ∘ f) := by
  cases x <;> rfl

theorem Except.map_eq_ok {x : Except ε α} {f : α → β} {b : β}
    : x.map f = .ok b ↔ ∃ a, x = .ok a ∧ f a = b := by
  cases x <;> simp [Except.map]

theorem Except.map_eq_error {x : Except ε α} {f : α → β} {e : ε}
    : x.map f = .error e ↔ x = .error e := by
  cases x <;> simp [Except.map]

theorem Except.mapError_ok {ε' : Type} (f : ε → ε') (a : α)
    : (.ok a : Except ε α).mapError f = .ok a := rfl

theorem Except.mapError_error {ε' : Type} (f : ε → ε') (e : ε)
    : (.error e : Except ε α).mapError f = .error (f e) := rfl

theorem Except.mapError_eq_ok {ε' : Type} {x : Except ε α} {f : ε → ε'} {a : α}
    : x.mapError f = .ok a ↔ x = .ok a := by
  cases x <;> simp [Except.mapError]

theorem Except.mapError_eq_error {ε' : Type} {x : Except ε α} {f : ε → ε'} {e' : ε'}
    : x.mapError f = .error e' ↔ ∃ e, x = .error e ∧ f e = e' := by
  cases x <;> simp [Except.mapError]

theorem Except.mapM_eq_ok {step : α → Except ε β} {as : List α} {bs : List β}
    : as.mapM step = .ok bs ↔ List.Forall₂ (fun a b => step a = .ok b) as bs := by
  induction as generalizing bs with
  | nil => simp [pure, Except.pure, eq_comm]
  | cons a as ih =>
    simp only [List.mapM_cons, bind_eq_ok, ih, List.forall₂_cons_left_iff]
    constructor
    · rintro ⟨b, first, bs, rest, all⟩
      cases all
      exact ⟨b, bs, first, rest, rfl⟩
    · rintro ⟨b, bs, first, rest, rfl⟩
      exact ⟨b, first, bs, rest, rfl⟩

/-- Steps that agree on a list's items make the same chain. -/
theorem Except.mapM_congr {step step' : α → Except ε β} {as : List α}
    (same : ∀ a ∈ as, step a = step' a)
    : as.mapM step = as.mapM step' := by
  induction as with
  | nil => rfl
  | cons a as ih =>
    obtain ⟨first, rest⟩ := List.forall_mem_cons.1 same
    rw [List.mapM_cons, List.mapM_cons, first, ih rest]

/-- Of two lists that are related item by item, each item of one has its partner in the other. -/
theorem forall₂_partners {R : α → β → Prop} {as : List α} {bs : List β}
    (related : List.Forall₂ R as bs)
    : (∀ a ∈ as, ∃ b ∈ bs, R a b) ∧ ∀ b ∈ bs, ∃ a ∈ as, R a b := by
  induction related with
  | nil => exact ⟨nofun, nofun⟩
  | cons first _ ih =>
    constructor
    · intro a member
      rcases List.mem_cons.1 member with rfl | member
      · exact ⟨_, List.mem_cons_self, first⟩
      · obtain ⟨b, partner, pair⟩ := ih.1 a member
        exact ⟨b, List.mem_cons_of_mem _ partner, pair⟩
    · intro b member
      rcases List.mem_cons.1 member with rfl | member
      · exact ⟨_, List.mem_cons_self, first⟩
      · obtain ⟨a, partner, pair⟩ := ih.2 b member
        exact ⟨a, List.mem_cons_of_mem _ partner, pair⟩

/-- Relations that agree on a list's items relate the same lists to it. -/
theorem forall₂_congr_right {R S : α → β → Prop} {bs : List β}
    (same : ∀ b ∈ bs, ∀ a, R a b ↔ S a b) {as : List α}
    : List.Forall₂ R as bs ↔ List.Forall₂ S as bs := by
  induction bs generalizing as with
  | nil => simp
  | cons b bs ih =>
    obtain ⟨first, rest⟩ := List.forall_mem_cons.1 same
    simp only [List.forall₂_cons_right_iff, first, ih rest]

/-- Lists that are related through a third one are related item by item. -/
theorem forall₂_comp_iff {γ : Type} {R : α → β → Prop} {S : β → γ → Prop} {as : List α}
    {cs : List γ}
    : (∃ bs, List.Forall₂ R as bs ∧ List.Forall₂ S bs cs)
      ↔ List.Forall₂ (fun a c => ∃ b, R a b ∧ S b c) as cs := by
  constructor
  · rintro ⟨bs, first, second⟩
    induction first generalizing cs with
    | nil =>
      cases second
      exact .nil
    | cons related _ ih =>
      cases second with
      | cons related' rest => exact .cons ⟨_, related, related'⟩ (ih rest)
  · intro related
    induction related with
    | nil => exact ⟨[], .nil, .nil⟩
    | cons first _ ih =>
      obtain ⟨b, related, related'⟩ := first
      obtain ⟨bs, rest, rest'⟩ := ih
      exact ⟨b :: bs, .cons related rest, .cons related' rest'⟩

-----------------------------------------------------------------------------------------
-- The first fault of a list
-----------------------------------------------------------------------------------------

/-- The first item of a list that has a fault has this one. -/
def FirstFault (faulty : α → ε → Prop) (as : List α) (e : ε) : Prop :=
  ∃ before a after,
    as = before ++ a :: after
    ∧ (∀ a' ∈ before, ∀ e', ¬ faulty a' e')
    ∧ faulty a e

namespace FirstFault

variable {faulty faulty' : α → ε → Prop} {a : α} {as bs : List α} {e : ε}

theorem not_nil : ¬ FirstFault faulty [] e := by
  intro first
  obtain ⟨before, a, after, split, _⟩ := first
  cases before <;> cases split

theorem cons_iff
    : FirstFault faulty (a :: as) e
      ↔ faulty a e ∨ (∀ e', ¬ faulty a e') ∧ FirstFault faulty as e := by
  constructor
  · intro first
    obtain ⟨before, a', after, split, sound, fault⟩ := first
    cases before with
    | nil =>
      cases split
      exact .inl fault
    | cons a before =>
      cases split
      obtain ⟨soundHead, soundRest⟩ := List.forall_mem_cons.1 sound
      exact .inr ⟨soundHead, before, a', after, rfl, soundRest, fault⟩
  · intro held
    rcases held with fault | ⟨soundHead, before, a', after, split, soundRest, fault⟩
    · exact ⟨[], a, as, rfl, nofun, fault⟩
    · subst split
      exact ⟨a :: before, a', after, rfl, List.forall_mem_cons.2 ⟨soundHead, soundRest⟩, fault⟩

/-- There is a first fault if there is any. -/
theorem exists_iff : (∃ e, FirstFault faulty as e) ↔ ∃ a ∈ as, ∃ e, faulty a e := by
  induction as with
  | nil => simp [not_nil]
  | cons a as ih =>
    simp only [cons_iff, List.exists_mem_cons_iff, ← ih]
    by_cases fault : ∃ e, faulty a e
    · obtain ⟨e, fault⟩ := fault
      exact ⟨fun _ => .inl ⟨e, fault⟩, fun _ => ⟨e, .inl fault⟩⟩
    · have sound : ∀ e, ¬ faulty a e := not_exists.1 fault
      simp [sound]

theorem append_iff
    : FirstFault faulty (as ++ bs) e
      ↔ FirstFault faulty as e
        ∨ (∀ a ∈ as, ∀ e', ¬ faulty a e') ∧ FirstFault faulty bs e := by
  induction as with
  | nil => simp [not_nil]
  | cons a as ih =>
    rw [List.cons_append, cons_iff, cons_iff, ih, List.forall_mem_cons]
    constructor
    · intro held
      rcases held with fault | ⟨sound, first | ⟨soundRest, first⟩⟩
      · exact .inl (.inl fault)
      · exact .inl (.inr ⟨sound, first⟩)
      · exact .inr ⟨⟨sound, soundRest⟩, first⟩
    · intro held
      rcases held with (fault | ⟨sound, first⟩) | ⟨⟨sound, soundRest⟩, first⟩
      · exact .inl fault
      · exact .inr ⟨sound, .inl first⟩
      · exact .inr ⟨sound, .inr ⟨soundRest, first⟩⟩

/-- In lists that are put together, the first fault is the first one of the first faulty list. -/
theorem flatMap_iff {β : Type} {f : β → List α} {bs : List β}
    : FirstFault faulty (bs.flatMap f) e
      ↔ FirstFault (fun b e => FirstFault faulty (f b) e) bs e := by
  induction bs with
  | nil => simp [not_nil]
  | cons b bs ih =>
    have sound : (∀ a ∈ f b, ∀ e', ¬ faulty a e') ↔ ∀ e', ¬ FirstFault faulty (f b) e' := by
      rw [← not_exists, exists_iff]
      simp
    rw [List.flatMap_cons, append_iff, cons_iff, ih, sound]

theorem congr (same : ∀ a ∈ as, ∀ e, faulty a e ↔ faulty' a e)
    : FirstFault faulty as e ↔ FirstFault faulty' as e := by
  induction as with
  | nil => simp [not_nil]
  | cons a as ih =>
    obtain ⟨head, rest⟩ := List.forall_mem_cons.1 same
    rw [cons_iff, cons_iff, ih rest]
    simp only [head]

end FirstFault

/-- A chain of steps fails with the first step that fails. -/
theorem Except.mapM_eq_error_iff {step : α → Except ε β} {as : List α} {e : ε}
    : as.mapM step = .error e ↔ FirstFault (fun a e => step a = .error e) as e := by
  induction as with
  | nil => simp [FirstFault.not_nil, pure, Except.pure]
  | cons a as ih =>
    rw [FirstFault.cons_iff, ← ih, List.mapM_cons]
    cases first : step a with
    | error e' => simp [bind, Except.bind]
    | ok b => cases as.mapM step <;> simp [bind, Except.bind, pure, Except.pure]

theorem Except.first_of_mapM_eq_error {step : α → Except ε β} {as : List α} {e : ε}
    (failed : as.mapM step = .error e)
    : ∃ before a after,
        as = before ++ a :: after
        ∧ (∀ a' ∈ before, ∃ b, step a' = .ok b)
        ∧ step a = .error e := by
  obtain ⟨before, a, after, split, sound, fails⟩ := mapM_eq_error_iff.1 failed
  refine ⟨before, a, after, split, ?_, fails⟩
  intro a' member
  cases result : step a' with
  | ok b => exact ⟨b, rfl⟩
  | error e' => exact absurd result (sound a' member e')

theorem Except.exists_of_mapM_eq_error {step : α → Except ε β} {as : List α} {e : ε}
    (failed : as.mapM step = .error e)
    : ∃ a ∈ as, step a = .error e := by
  obtain ⟨before, a, after, rfl, _, fails⟩ := first_of_mapM_eq_error failed
  exact ⟨a, List.mem_append_right before List.mem_cons_self, fails⟩

end DocGateway
