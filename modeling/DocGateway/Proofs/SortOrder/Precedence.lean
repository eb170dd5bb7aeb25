import DocGateway.Proofs.SortOrder.Entries

/-!
The order that directives stand for.

A sort order compares records by its keys in turn: the first key that does not tie decides. A later
key of the same field meets only records that tie on this field, so it decides nothing, whatever its
direction, and compilation may drop it.
-/

namespace DocGateway

namespace SortOrder

universe u

variable {ρ : Type u} {κ : Type} {keys : List (String × Direction)}
  {order : String → ρ → ρ → Ordering} {a b : ρ}

/-- The entries of a list or tuple; nothing else has any. -/
def entries : Value → List Value
  | .list es => es
  | .tuple es => es
  | _ => []

/-- The first key of each field: a key stays and drops the later ones of its field. -/
def firsts : List (String × Direction) → List (String × Direction)
  | [] => []
  | key :: keys => key :: (firsts keys).filter fun later => later.1 ≠ key.1

/-- Compares by one key after the other until one does not tie. -/
def lexicographic (compare : κ → ρ → ρ → Ordering) (keys : List κ) (a b : ρ) : Ordering :=
  keys.foldr (fun key rest => (compare key a b).then rest) .eq

/-- Compares by the field of a key in the key's direction, given how each field compares. -/
def byKey (order : String → ρ → ρ → Ordering) (key : String × Direction) (a b : ρ) : Ordering :=
  match key.2 with
  | .ascending => order key.1 a b
  | .descending => (order key.1 a b).swap

/-- Compares by the field of a directive, backwards if its number is negative. -/
def byMarker (order : String → ρ → ρ → Ordering) (directive : String × Int) (a b : ρ) : Ordering :=
  if directive.2 < 0 then (order directive.1 a b).swap else order directive.1 a b

-----------------------------------------------------------------------------------------
-- What is compiled
-----------------------------------------------------------------------------------------

theorem nodup_firsts : ((firsts keys).map Prod.fst).Nodup := by
  induction keys with
  | nil => exact List.nodup_nil
  | cons key keys ih =>
    rw [firsts, List.map_cons, List.nodup_cons]
    constructor
    · intro again
      obtain ⟨later, kept, same⟩ := List.mem_map.1 again
      simp [same] at kept
    · exact (List.filter_sublist.map Prod.fst).nodup ih

/-- A step of compilation: a key whose field has a directive already adds none. -/
theorem directives_add {c : Compiled} {key : String × Direction}
    : (c.add key).directives
      = if key.1 ∈ c.directives.map Prod.fst then c.directives else c.directives ++ [key] := by
  unfold Compiled.add
  by_cases known : key.1 ∈ c.directives.map Prod.fst
  · rw [if_pos known, if_pos (List.contains_iff_mem.2 known)]
  · rw [if_neg known, if_neg (mt List.contains_iff_mem.1 known)]

/-- A run appends the first keys of the fields that have no directive yet. -/
theorem directives_foldl_add {c : Compiled}
    : (keys.foldl Compiled.add c).directives
      = c.directives ++ (firsts keys).filter fun key => key.1 ∉ c.directives.map Prod.fst := by
  induction keys generalizing c with
  | nil => simp [firsts]
  | cons key keys ih =>
    rw [List.foldl_cons, ih, directives_add, firsts]
    by_cases known : key.1 ∈ c.directives.map Prod.fst
    · -- The later keys of this field are left out for the same reason as the key itself.
      rw [if_pos known, List.filter_cons_of_neg (by simpa using known), List.filter_filter]
      congr 1
      apply List.filter_congr
      intro later _
      have apart (fresh : later.1 ∉ c.directives.map Prod.fst) : later.1 ≠ key.1 :=
        fun same => fresh (same ▸ known)
      rw [← Bool.decide_and, decide_eq_decide]
      exact ⟨fun fresh => ⟨fresh, apart fresh⟩, And.left⟩
    · rw [if_neg known, List.filter_cons_of_pos (by simpa using known), List.append_assoc,
        List.singleton_append, List.filter_filter]
      congr 2
      apply List.filter_congr
      intro later _
      rw [← Bool.decide_and, decide_eq_decide, List.map_append, List.mem_append, not_or,
        List.map_singleton, List.mem_singleton]

/-- Entries without a fault all name something, and the first keys of the fields are compiled. -/
theorem directives_compileEntries {es : List Value}
    (faultless : (compileEntries es ⟨[], []⟩).2 = none)
    : ∃ keys, List.Forall₂ Names es keys
      ∧ (compileEntries es ⟨[], []⟩).1.directives = firsts keys := by
  obtain ⟨keys, each, compiled⟩ := compileEntries_eq_none_iff.1
    (Prod.ext rfl faultless : compileEntries es ⟨[], []⟩ = (_, none))
  refine ⟨keys, each, ?_⟩
  simp [congrArg Compiled.directives compiled, directives_foldl_add]

/-- Lists and tuples apart, only what counts as false is accepted, and it is the empty order. -/
theorem directives_of_accepted {spec : Value} (accepted : (compile spec).2 = none)
    : ∃ keys, List.Forall₂ Names (entries spec) keys
      ∧ (compile spec).1.directives = firsts keys := by
  cases spec with
  | list es =>
    rw [compile_list] at accepted ⊢
    exact directives_compileEntries accepted
  | tuple es =>
    rw [compile_tuple] at accepted ⊢
    exact directives_compileEntries accepted
  | _ =>
    refine ⟨[], .nil, ?_⟩
    unfold compile at accepted ⊢
    split
    · rfl
    · simp_all [Value.items?]

-----------------------------------------------------------------------------------------
-- How records compare
-----------------------------------------------------------------------------------------

theorem byKey_eq_eq_iff {key : String × Direction}
    : byKey order key a b = .eq ↔ order key.1 a b = .eq := by
  unfold byKey
  split
  · rfl
  · exact Ordering.swap_eq_eq

theorem byMarker_marker {key : String × Direction}
    : byMarker order (key.1, key.2.marker) = byKey order key := by
  obtain ⟨field, d⟩ := key
  cases d <;> rfl

/-- Keys of a field on which two records tie do not matter to them. -/
theorem lexicographic_filter_of_tie {field : String} (tie : order field a b = .eq)
    : lexicographic (byKey order) (keys.filter fun key => key.1 ≠ field) a b
      = lexicographic (byKey order) keys a b := by
  induction keys with
  | nil => rfl
  | cons key keys ih =>
    by_cases same : key.1 = field
    · have silent : byKey order key a b = .eq := byKey_eq_eq_iff.2 (same ▸ tie)
      rw [List.filter_cons_of_neg (by simp [same]), ih]
      simp [lexicographic, silent]
    · rw [List.filter_cons_of_pos (by simp [same])]
      exact congrArg (byKey order key a b).then ih

/-- A key whose field was compared before decides nothing. -/
theorem lexicographic_firsts
    : lexicographic (byKey order) (firsts keys) a b = lexicographic (byKey order) keys a b := by
  induction keys with
  | nil => rfl
  | cons key keys ih =>
    show (byKey order key a b).then (lexicographic (byKey order) (List.filter _ (firsts keys)) a b)
      = (byKey order key a b).then (lexicographic (byKey order) keys a b)
    cases decided : byKey order key a b with
    | lt => rfl
    | gt => rfl
    | eq => rw [lexicographic_filter_of_tie (byKey_eq_eq_iff.1 decided), ih]

end SortOrder

-----------------------------------------------------------------------------------------
-- Compiled orders
-----------------------------------------------------------------------------------------

namespace Gateway

universe u

variable {σ : Type}

/-- The directives of an accepted sort order name each field once: they are the first keys of the
fields, in the order of the entries, with 1 for ascending and -1 for descending. However each field
compares records, they compare any two records as all the entries do, repeated fields included.
-/
theorem compileSort_keeps_order {spec : Value} {s : σ} {ds : List (String × Direction)}
    (accepted : ((compileSort spec).run s).result = .ok ds)
    : ∃ keys, List.Forall₂ SortOrder.Names (SortOrder.entries spec) keys
      ∧ ds = SortOrder.firsts keys
      ∧ (ds.map Prod.fst).Nodup
      ∧ SortOrder.toValue ds
        = .list ((SortOrder.firsts keys).map fun key =>
            .tuple [.text key.1, .int (if key.2 = .ascending then 1 else -1)])
      ∧ ∀ {ρ : Type u} (order : String → ρ → ρ → Ordering) (a b : ρ),
        SortOrder.lexicographic (SortOrder.byMarker order) (ds.map fun d => (d.1, d.2.marker)) a b
        = SortOrder.lexicographic (SortOrder.byKey order) keys a b := by
  rw [run_compileSort] at accepted
  cases faultless : (SortOrder.compile spec).2 with
  | some f => simp [faultless] at accepted
  | none =>
    simp only [faultless, Except.ok.injEq] at accepted
    obtain ⟨keys, each, compiled⟩ := SortOrder.directives_of_accepted faultless
    have first : ds = SortOrder.firsts keys := accepted.symm.trans compiled
    refine ⟨keys, each, first, ?_, ?_, ?_⟩
    · rw [first]
      exact SortOrder.nodup_firsts
    · rw [first, SortOrder.toValue]
      congr 2
      funext key
      cases key.2 <;> rfl
    · intro ρ order a b
      rw [first, ← SortOrder.lexicographic_firsts]
      simp only [SortOrder.lexicographic, List.foldr_map, SortOrder.byMarker_marker]

/-- A field that comes back in the opposite direction is compared in its first direction only. -/
theorem compileSort_keeps_order_of_contrary_repetition
    : let born := Value.mapping [(.text "born", .text "asc")]
      let name := Value.tuple [.text "name", .text " DESC "]
      let bornAgain := Value.list [.text "born", .text "desc"]
      let spec := Value.list [born, name, bornAgain]
      let ds : List (String × Direction) := [("born", .ascending), ("name", .descending)]
      ((compileSort spec).run ()).result = .ok ds
      ∧ ∃ keys, List.Forall₂ SortOrder.Names [born, name, bornAgain] keys
        ∧ ds = SortOrder.firsts keys
        ∧ ∀ (order : String → Nat → Nat → Ordering) (a b : Nat),
          SortOrder.lexicographic (SortOrder.byMarker order) [("born", 1), ("name", -1)] a b
          = SortOrder.lexicographic (SortOrder.byKey order) keys a b := by
  intro born name bornAgain spec ds
  have accepted : ((compileSort spec).run ()).result = .ok ds := by rfl
  obtain ⟨keys, each, first, _, _, same⟩ := compileSort_keeps_order accepted
  exact ⟨accepted, keys, each, first, same⟩

end Gateway

end DocGateway
