import DocGateway.Operation
import DocGateway.Proofs.OrderedMap.Merging
import DocGateway.Proofs.Registry.History

/-!
Sanitizing named fields.

A payload whose keys are text is sanitized without a failure of its own: what it comes to depends on
the registry and, apart from messages, on the accepted fields only.
-/

namespace DocGateway

-----------------------------------------------------------------------------------------
-- Sorting text
-----------------------------------------------------------------------------------------

namespace Value

def AllText (vs : List Value) : Prop :=
  ∀ v ∈ vs, ∃ s, v = text s

theorem AllText.tail {v : Value} {vs : List Value} (texts : AllText (v :: vs)) : AllText vs :=
  fun w member => texts w (List.mem_cons_of_mem v member)

theorem runLength?_texts (descending : Bool) {v : Value} {ws : List Value}
    (texts : AllText (v :: ws))
    : ∃ n, runLength? descending v ws = some n := by
  induction ws generalizing v with
  | nil => exact ⟨1, rfl⟩
  | cons w ws ih =>
    obtain ⟨s, rfl⟩ := texts v (by simp)
    obtain ⟨t, rfl⟩ := texts w (by simp)
    obtain ⟨n, rest⟩ := ih texts.tail
    have compared : below? (text t) (text s) = some (decide (t < s)) := rfl
    simp only [runLength?, compared, rest, Option.bind_eq_bind, Option.bind_some]
    split
    · exact ⟨n + 1, rfl⟩
    · exact ⟨1, rfl⟩

/-- A text has a place among texts, whichever bounds the search has reached. -/
theorem placeFor?_texts (s : String) {sorted : List Value} (texts : AllText sorted)
    (low high : Nat)
    : ∃ place, placeFor? (text s) sorted low high = some place := by
  induction n : high - low using Nat.strongRecOn generalizing low high with
  | ind n ih =>
    rw [placeFor?]
    split
    case isFalse => exact ⟨low, rfl⟩
    case isTrue between =>
      -- The middle lies among the sorted values, or the text itself stands in for it.
      have found : ∃ t, sorted.getD ((low + high) / 2) (text s) = text t := by
        rw [List.getD_eq_getElem?_getD]
        cases there : sorted[(low + high) / 2]? with
        | none => exact ⟨s, rfl⟩
        | some v => exact texts v (List.mem_of_getElem? there)
      obtain ⟨t, middle⟩ := found
      have compared : below? (text s) (text t) = some (decide (s < t)) := rfl
      simp only [middle, compared, Option.bind_eq_bind, Option.bind_some]
      split
      · exact ih _ (by omega) low ((low + high) / 2) rfl
      · exact ih _ (by omega) ((low + high) / 2 + 1) high rfl

theorem insertSorted?_texts (s : String) {sorted : List Value} (texts : AllText sorted)
    : ∃ more, insertSorted? sorted (text s) = some more ∧ AllText more := by
  obtain ⟨place, found⟩ := placeFor?_texts s texts 0 sorted.length
  refine ⟨_, by simp only [insertSorted?, found, Option.bind_eq_bind, Option.bind_some]; rfl, ?_⟩
  intro v member
  rcases List.mem_append.1 member with before | rest
  · exact texts v (List.mem_of_mem_take before)
  · rcases List.mem_cons.1 rest with rfl | behind
    · exact ⟨s, rfl⟩
    · exact texts v (List.mem_of_mem_drop behind)

theorem foldlM_insertSorted?_texts {vs sorted : List Value} (new : AllText vs)
    (texts : AllText sorted)
    : ∃ more, vs.foldlM insertSorted? sorted = some more := by
  induction vs generalizing sorted with
  | nil => exact ⟨sorted, rfl⟩
  | cons v vs ih =>
    obtain ⟨s, rfl⟩ := new v (by simp)
    obtain ⟨more, inserted, moreTexts⟩ := insertSorted?_texts s texts
    obtain ⟨all, rest⟩ := ih new.tail moreTexts
    exact ⟨all, by rw [List.foldlM_cons, inserted]; exact rest⟩

theorem sort?_texts {vs : List Value} (texts : AllText vs)
    : ∃ sorted, sort? vs = some sorted := by
  match vs with
  | [] => exact ⟨[], rfl⟩
  | [v] => exact ⟨[v], rfl⟩
  | v :: w :: ws =>
    obtain ⟨s, rfl⟩ := texts v (by simp)
    obtain ⟨t, rfl⟩ := texts w (by simp)
    obtain ⟨n, run⟩ := runLength?_texts (decide (t < s)) texts
    have compared : below? (text t) (text s) = some (decide (t < s)) := rfl
    simp only [sort?, compared, run, Option.bind_eq_bind, Option.bind_some]
    apply foldlM_insertSorted?_texts
    · exact fun v member => texts v (List.mem_of_mem_drop member)
    · intro v member
      split at member
      · exact texts v (List.mem_of_mem_take (List.mem_reverse.1 member))
      · exact texts v (List.mem_of_mem_take member)

end Value

-----------------------------------------------------------------------------------------
-- Named fields as entries
-----------------------------------------------------------------------------------------

def Fields.toEntries (f : Fields) : List (Value × Value) :=
  f.entries.map fun e => (.text e.1, e.2)

theorem Fields.readEntries_texts (es : List (String × Value))
    : readEntries (es.map fun e => (.text e.1, e.2)) = .ok es := by
  induction es with
  | nil => rfl
  | cons e es ih =>
    rw [List.map_cons, readEntries, ih]
    rfl

theorem Fields.read_toEntries (f : Fields) : read (.mapping f.toEntries) = .ok f := by
  have entries : readEntries f.toEntries = .ok f.entries := readEntries_texts f.entries
  rw [read, entries]
  exact congrArg Checked.ok (OrderedMap.ofList_entries f)

theorem Fields.filter_toEntries (f : Fields) (p : String → Bool) (q : Value → Bool)
    (same : ∀ name, q (.text name) = p name)
    : f.toEntries.filter (fun e => q e.1) = Fields.toEntries (f.filterKeys p) := by
  rw [toEntries, List.filter_map, toEntries, OrderedMap.entries_filterKeys]
  simp only [Function.comp_def, same]

/-- Reading an operation from its parts comes to reading its two ids. -/
theorem Operation.read_parts (model record : String) (f : Fields)
    : read [(.text modelField.own, .text model), (.text recordField.own, .text record),
          (.text "updates", .mapping f.toEntries)]
      = (fun _ model record updates => { model, record, updates : Operation })
        <$> Checked.ok "update"
        <*> (Reader.nonEmptyText (.text model)).within modelField.own
        <*> (Reader.nonEmptyText (.text record)).within recordField.own
        <*> Checked.ok f := by
  have updates : (Fields.read (.mapping f.toEntries)).within "updates" = .ok f := by
    rw [Fields.read_toEntries]
    rfl
  rw [← updates]
  rfl

/-- Whether an operation can be put together from two ids does not depend on its fields. -/
theorem Operation.ofParts_texts (model record : String)
    : (∀ f : Fields, ofParts (.text model) (.text record) f.toEntries = .ok ⟨model, record, f⟩)
      ∨ ∃ e, ∀ f : Fields, ofParts (.text model) (.text record) f.toEntries = .error e := by
  simp only [ofParts, read_parts, Reader.nonEmptyText, Reader.text]
  cases model.isEmpty <;> cases record.isEmpty
  · exact .inl fun _ => rfl
  · exact .inr ⟨_, fun _ => rfl⟩
  · exact .inr ⟨_, fun _ => rfl⟩
  · exact .inr ⟨_, fun _ => rfl⟩

-----------------------------------------------------------------------------------------
-- What is kept of an operation
-----------------------------------------------------------------------------------------

variable {σ : Type}

/-- What a model accepts after calls of a registry; a dynamic model accepts every field. -/
def RegistryCall.whitelisted (ids : IdPattern) (calls : List RegistryCall) (model : String)
    (f : Fields) : Fields :=
  if ids.matches? model then f
  else f.filterKeys fun field => (latest? model calls).any fun reg => reg.accepts field

/-- What a registry keeps of the fields for a model, which must be known. -/
def Registry.kept (r : Registry) (model : String) (f : Fields) : Except Failure Fields :=
  if r.isDynamic (.text model) then .ok f
  else (r.accepted (.text model)).map fun fields =>
    f.filterKeys fun name => (Value.text name).isIn fields

/-- An operation with what a registry keeps of its fields. -/
def Registry.accept (r : Registry) (op : Operation) : Except Failure Operation := do
  let f ← r.kept op.model op.updates
  Operation.ofParts (.text op.model) (.text op.record) f.toEntries

/-- A registry keeps what its history says, or refuses the model whatever the fields are. -/
theorem Registry.kept_cases (ids : IdPattern) (calls : List RegistryCall) (model : String)
    : (∀ f, ((empty ids).applyAll calls).kept model f
        = .ok (RegistryCall.whitelisted ids calls model f))
      ∨ ∃ e, ∀ f, ((empty ids).applyAll calls).kept model f = .error e := by
  have dynamic : ((empty ids).applyAll calls).isDynamic (.text model) = ids.matches? model := by
    rw [isDynamic, dynamicIds_applyAll]
    rfl
  simp only [kept, dynamic, RegistryCall.whitelisted]
  cases ids.matches? model with
  | true => exact .inl fun _ => rfl
  | false =>
    have known := accepted?_empty_applyAll ids calls model
    simp only [Bool.false_eq_true, if_false, accepted, checkKey, Value.isKey, if_true, known]
    cases RegistryCall.latest? model calls with
    | none => exact .inr ⟨_, fun _ => rfl⟩
    | some reg =>
      have same : (fun field => (Value.text field).isIn (acceptedOf reg.fields reg.withCommon))
          = fun field => reg.accepts field :=
        funext fun field => isIn_acceptedOf ..
      exact .inl fun f => congrArg (fun p => Except.ok (f.filterKeys p)) same

/-- An operation is accepted with what the history of the registry says, or it is refused whatever
its fields are.
-/
theorem Registry.accept_cases (ids : IdPattern) (calls : List RegistryCall)
    (model record : String)
    : (∀ f, ((empty ids).applyAll calls).accept ⟨model, record, f⟩
        = .ok ⟨model, record, RegistryCall.whitelisted ids calls model f⟩)
      ∨ ∃ e, ∀ f, ((empty ids).applyAll calls).accept ⟨model, record, f⟩ = .error e := by
  rcases kept_cases ids calls model with keeps | ⟨e, refuses⟩
  · simp only [accept, keeps, bind, Except.bind]
    rcases Operation.ofParts_texts model record with valid | ⟨e, invalid⟩
    · exact .inl fun f => valid _
    · exact .inr ⟨e, fun f => invalid _⟩
  · exact .inr ⟨e, fun f => by simp only [accept, refuses, bind, Except.bind]⟩

theorem Registry.run_noteDropped (model : Value) {dropped : List (Value × Value)}
    (texts : Value.AllText (dropped.map Prod.fst)) (s : σ)
    : ∃ log, (noteDropped model dropped : Action σ Unit).run s = ⟨.ok (), s, log⟩ := by
  obtain ⟨sorted, sorts⟩ := Value.sort?_texts texts
  rw [noteDropped]
  split
  · exact ⟨_, rfl⟩
  · rw [sorts]
    exact ⟨_, rfl⟩

/-- Sanitizing named fields comes to what the registry keeps. -/
theorem Registry.run_sanitize (r : Registry) (f : Fields) (model : String) (s : σ)
    : ∃ log, (r.sanitize f.toValue (.text model) : Action σ (List (Value × Value))).run s
        = ⟨(r.kept model f).map Fields.toEntries, s, log⟩ := by
  have payload : f.toValue = .mapping f.toEntries := rfl
  simp only [payload, sanitize, kept]
  split
  · exact ⟨_, rfl⟩
  · simp only [Action.run_bind, Action.run_ofExcept]
    cases r.accepted (.text model) with
    | error e => exact ⟨_, rfl⟩
    | ok fields =>
      have texts : Value.AllText
          ((f.toEntries.filter fun e => !e.1.isIn fields).map Prod.fst) := by
        intro v member
        obtain ⟨e, kept, rfl⟩ := List.mem_map.1 member
        obtain ⟨named, _, rfl⟩ := List.mem_map.1 (List.mem_filter.1 kept).1
        exact ⟨named.1, rfl⟩
      obtain ⟨log, noted⟩ := run_noteDropped (.text model) texts s
      simp only [Outcome.andThen_ok, Action.run_bind, noted, Action.run_pure]
      rw [f.filter_toEntries _ (fun v => v.isIn fields) fun _ => rfl]
      exact ⟨_, rfl⟩

end DocGateway
