import DocGateway.Gateway
import DocGateway.Proofs.Except

/-!
Entries of sort orders: what they name, and why they are refused.

An entry is a pair of a field and a direction in one of three forms. Compilation goes through the
entries in order and stops at the first one that is flawed on its own, whether its field was named
before or not.
-/

namespace DocGateway

namespace SortOrder

/-- A value's text without blanks around it and in small letters. -/
def directionWord (v : Value) : String := String.ofList (Text.lower (Text.trim v.plain.toList))

/-- The two halves of an entry: a mapping with one entry, or a list or tuple of two items. -/
inductive Halves : Value → Value → Value → Prop
  | mapping (k v : Value) : Halves (.mapping [(k, v)]) k v
  | list (k v : Value) : Halves (.list [k, v]) k v
  | tuple (k v : Value) : Halves (.tuple [k, v]) k v

/-- An entry names a field and a direction. -/
inductive Names : Value → String × Direction → Prop
  | of {entry v : Value} {field : String} {d : Direction} (halves : Halves entry (.text field) v)
      (named : field ≠ "") (direction : directionWord v = d.word)
    : Names entry (field, d)

/-- What is wrong with an entry on its own, and the fault that tells it. -/
inductive Flaw : Value → Fault → Prop
  | notOneField {es : List (Value × Value)} (several : es.length ≠ 1)
    : Flaw (.mapping es) (.notOneField (.mapping es))
  | notEntry {entry : Value} (noMapping : ∀ es, entry ≠ .mapping es)
      (noPair : ∀ k v, entry ≠ .list [k, v] ∧ entry ≠ .tuple [k, v])
    : Flaw entry (.notEntry entry)
  | badField {entry k v : Value} (halves : Halves entry k v)
      (unnamed : ∀ field, k = .text field → field = "")
    : Flaw entry (.badField entry)
  | badDirection {entry v : Value} {field : String} (halves : Halves entry (.text field) v)
      (named : field ≠ "") (unknown : directionWord v ∉ ["asc", "desc"])
    : Flaw entry (.badDirection field v)

-----------------------------------------------------------------------------------------
-- Reading entries
-----------------------------------------------------------------------------------------

theorem ofValue?_eq_some_iff {v : Value} {d : Direction}
    : Direction.ofValue? v = some d ↔ directionWord v = d.word := by
  have spelled (s : String)
      : directionWord v = s ↔ Text.lower (Text.trim v.plain.toList) = s.toList := by
    rw [directionWord, ← String.toList_inj, String.toList_ofList]
  rw [spelled]
  unfold Direction.ofValue?
  cases d <;> grind [Direction.word]

theorem ofValue?_eq_none_iff {v : Value}
    : Direction.ofValue? v = none ↔ directionWord v ∉ ["asc", "desc"] := by
  rw [Option.eq_none_iff_forall_ne_some]
  simp only [ne_eq, ofValue?_eq_some_iff]
  constructor
  · intro unnamed known
    rcases List.mem_cons.1 known with ascending | known
    · exact unnamed .ascending ascending
    · exact unnamed .descending (List.mem_singleton.1 known)
  · intro unknown d direction
    apply unknown
    rw [direction]
    cases d <;> simp [Direction.word]

theorem entryPair_of_halves {entry k v : Value} (halves : Halves entry k v)
    : entryPair entry = .ok (k, v) := by
  cases halves <;> rfl

theorem readEntry_of_names {entry : Value} {key : String × Direction} (names : Names entry key)
    : readEntry entry = .ok key := by
  cases names with
  | of halves named direction =>
    have filled := mt String.isEmpty_iff.1 named
    simp [readEntry, entryPair_of_halves halves, bind, Except.bind, filled,
      ofValue?_eq_some_iff.2 direction]

theorem readEntry_of_flaw {entry : Value} {f : Fault} (flaw : Flaw entry f)
    : readEntry entry = .error f := by
  cases flaw with
  | @notOneField es several =>
    have refused : entryPair (.mapping es) = .error (.notOneField (.mapping es)) := by
      match es with
      | [] => rfl
      | [e] => exact absurd rfl several
      | _ :: _ :: _ => rfl
    rw [readEntry, refused]
    rfl
  | notEntry noMapping noPair =>
    have refused : entryPair entry = .error (.notEntry entry) := by
      unfold entryPair
      split
      · exact absurd rfl (noMapping _)
      · exact absurd rfl (noMapping _)
      · exact absurd rfl (noPair _ _).2
      · exact absurd rfl (noPair _ _).1
      · rfl
    rw [readEntry, refused]
    rfl
  | badField halves unnamed =>
    simp only [readEntry, entryPair_of_halves halves, bind, Except.bind]
    split
    · rw [unnamed _ rfl]
      rfl
    · rfl
  | badDirection halves named unknown =>
    have filled := mt String.isEmpty_iff.1 named
    simp [readEntry, entryPair_of_halves halves, bind, Except.bind, filled,
      ofValue?_eq_none_iff.2 unknown]

/-- An entry that has two halves names something or is flawed in one of them. -/
theorem names_or_flaw_of_halves {entry k v : Value} (halves : Halves entry k v)
    : (∃ key, Names entry key) ∨ ∃ f, Flaw entry f := by
  by_cases unnamed : ∀ field, k = .text field → field = ""
  · exact .inr ⟨_, .badField halves unnamed⟩
  · push Not at unnamed
    obtain ⟨field, isText, named⟩ := unnamed
    subst isText
    cases direction : Direction.ofValue? v with
    | some d => exact .inl ⟨_, .of halves named (ofValue?_eq_some_iff.1 direction)⟩
    | none => exact .inr ⟨_, .badDirection halves named (ofValue?_eq_none_iff.1 direction)⟩

/-- Every entry names something or is flawed. -/
theorem names_or_flaw (entry : Value) : (∃ key, Names entry key) ∨ ∃ f, Flaw entry f := by
  by_cases halved : ∃ k v, Halves entry k v
  · obtain ⟨k, v, halves⟩ := halved
    exact names_or_flaw_of_halves halves
  · by_cases isMapping : ∃ es, entry = .mapping es
    · obtain ⟨es, isMapping⟩ := isMapping
      subst isMapping
      refine .inr ⟨_, .notOneField fun one => ?_⟩
      obtain ⟨e, single⟩ := List.length_eq_one_iff.1 one
      subst single
      exact halved ⟨e.1, e.2, .mapping e.1 e.2⟩
    · refine .inr ⟨_, .notEntry (not_exists.1 isMapping) fun k v => ⟨?_, ?_⟩⟩
      · intro isPair
        subst isPair
        exact halved ⟨k, v, .list k v⟩
      · intro isPair
        subst isPair
        exact halved ⟨k, v, .tuple k v⟩

theorem readEntry_eq_ok_iff {entry : Value} {key : String × Direction}
    : readEntry entry = .ok key ↔ Names entry key := by
  refine ⟨fun reads => ?_, readEntry_of_names⟩
  rcases names_or_flaw entry with ⟨key', names⟩ | ⟨f, flaw⟩
  · cases reads.symm.trans (readEntry_of_names names)
    exact names
  · cases reads.symm.trans (readEntry_of_flaw flaw)

theorem readEntry_eq_error_iff {entry : Value} {f : Fault}
    : readEntry entry = .error f ↔ Flaw entry f := by
  refine ⟨fun refused => ?_, readEntry_of_flaw⟩
  rcases names_or_flaw entry with ⟨key, names⟩ | ⟨f', flaw⟩
  · cases refused.symm.trans (readEntry_of_names names)
  · cases refused.symm.trans (readEntry_of_flaw flaw)
    exact flaw

theorem Flaw.report {entry : Value} {f : Fault} (flaw : Flaw entry f)
    : ∃ r, f.toFailure = .report r ∧ r.reportClass = .sortCompile := by
  cases flaw <;> exact ⟨_, rfl, rfl⟩

-----------------------------------------------------------------------------------------
-- Going through the entries
-----------------------------------------------------------------------------------------

/-- Whether compilation stops, and where, does not depend on what was compiled before. -/
theorem compileEntries_fault_iff {entries : List Value} {c : Compiled} {f : Fault}
    : (compileEntries entries c).2 = some f ↔ FirstFault Flaw entries f := by
  induction entries generalizing c with
  | nil => simp [compileEntries, FirstFault.not_nil]
  | cons entry entries ih =>
    rw [FirstFault.cons_iff]
    simp only [← readEntry_eq_error_iff]
    cases read : readEntry entry with
    | ok key => simp [compileEntries, read, ih]
    | error f' => simp [compileEntries, read]

/-- Without a fault every entry names something, and what they name is added in order. -/
theorem compileEntries_eq_none_iff {entries : List Value} {c c' : Compiled}
    : compileEntries entries c = (c', none)
      ↔ ∃ keys, List.Forall₂ Names entries keys ∧ c' = keys.foldl Compiled.add c := by
  induction entries generalizing c with
  | nil => simp [compileEntries, eq_comm]
  | cons entry entries ih =>
    simp only [List.forall₂_cons_left_iff, ← readEntry_eq_ok_iff]
    cases read : readEntry entry with
    | error f => simp [compileEntries, read]
    | ok key =>
      simp only [compileEntries, read, ih, Except.ok.injEq]
      constructor
      · intro compiled
        obtain ⟨keys, each, same⟩ := compiled
        exact ⟨key :: keys, ⟨key, keys, rfl, each, rfl⟩, same⟩
      · intro compiled
        obtain ⟨_, ⟨_, keys, named, each, split⟩, same⟩ := compiled
        subst named split
        exact ⟨keys, each, same⟩

/-- A list and a tuple of the same entries are the same sort order. -/
theorem compile_list (entries : List Value)
    : compile (.list entries) = compileEntries entries ⟨[], []⟩ := by
  cases entries <;> rfl

theorem compile_tuple (entries : List Value)
    : compile (.tuple entries) = compileEntries entries ⟨[], []⟩ := by
  cases entries <;> rfl

end SortOrder

-----------------------------------------------------------------------------------------
-- Refusals
-----------------------------------------------------------------------------------------

namespace Gateway

variable {σ : Type}

theorem run_forM_write (entry : String → LogEntry) (fields : List String) (s : σ)
    : (fields.forM fun field => Action.write (entry field) : Action σ PUnit).run s
      = ⟨.ok (), s, fields.map entry⟩ := by
  rw [List.forM_eq_forM]
  induction fields with
  | nil => rfl
  | cons field fields ih => simp [ih]

/-- Compiling a sort order changes nothing and notes each repeated field. -/
theorem run_compileSort (spec : Value) (s : σ)
    : (compileSort spec).run s
      = ⟨match (SortOrder.compile spec).2 with
          | none => .ok (SortOrder.compile spec).1.directives
          | some f => .error f.toFailure,
        s,
        (SortOrder.compile spec).1.repeated.map fun field =>
          ⟨.warning, LogSource.sortOrder, SortOrder.repetitionNote field⟩⟩ := by
  simp only [compileSort, Action.run_bind]
  rw [run_forM_write fun field => ⟨.warning, LogSource.sortOrder, SortOrder.repetitionNote field⟩,
    Outcome.andThen_ok]
  cases (SortOrder.compile spec).2 <;> simp

/-- A list of entries is refused exactly if one of them is flawed on its own, be its field new or
not. It is told the fault of the first such entry, always by a report on the sort order, and a tuple
of the same entries fares alike.
-/
theorem compileSort_stops_at_first_flaw (entries : List Value) (s : σ)
    : let result := ((compileSort (.list entries)).run s).result
      ((compileSort (.tuple entries)).run s).result = result
      ∧ ((∃ e, result = .error e) ↔ ∃ entry ∈ entries, ∃ f, SortOrder.Flaw entry f)
      ∧ (∀ e, result = .error e
          ↔ ∃ f, FirstFault SortOrder.Flaw entries f ∧ f.toFailure = e)
      ∧ ∀ e, result = .error e → ∃ r, e = .report r ∧ r.reportClass = .sortCompile := by
  intro result
  have fails : ∀ e, result = .error e
      ↔ ∃ f, FirstFault SortOrder.Flaw entries f ∧ f.toFailure = e := by
    intro e
    simp only [result, run_compileSort, SortOrder.compile_list,
      ← SortOrder.compileEntries_fault_iff (c := ⟨[], []⟩)]
    cases (SortOrder.compileEntries entries ⟨[], []⟩).2 <;> simp
  refine ⟨?_, ?_, fails, ?_⟩
  · simp only [result, run_compileSort, SortOrder.compile_list, SortOrder.compile_tuple]
  · simp only [fails]
    rw [← FirstFault.exists_iff]
    simp
  · intro e refused
    obtain ⟨f, ⟨_, entry, _, _, _, flaw⟩, told⟩ := (fails e).1 refused
    obtain ⟨r, report, ofClass⟩ := flaw.report
    exact ⟨r, told.symm.trans report, ofClass⟩

end Gateway

end DocGateway
