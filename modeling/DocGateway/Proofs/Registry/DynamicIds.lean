import DocGateway.Proofs.Registry.Sanitizing
import Mathlib.Data.List.Forall2

/-!
Which ids make a model dynamic.

An id counts as generated if a uid stands anywhere in it with no word character next to it, not only
if the whole id is one. The payload of such a model passes the whitelist as it is.
-/

namespace DocGateway

namespace Uid

-----------------------------------------------------------------------------------------
-- Uids in writing
-----------------------------------------------------------------------------------------

/-- So many small hexadecimal digits. -/
def Digits (n : Nat) (cs : List Char) : Prop :=
  cs.length = n ∧ ∀ c ∈ cs, isHex c = true

/-- Groups of digits of these sizes, joined by hyphens. -/
def Grouped (sizes : List Nat) (cs : List Char) : Prop :=
  ∃ groups, List.Forall₂ Digits sizes groups ∧ cs = ['-'].intercalate groups

/-- The 36 characters of a uid. -/
def Written (cs : List Char) : Prop := Grouped [8, 4, 4, 4, 12] cs

/-- No word character stands on this side. -/
def Free (side : Option Char) : Prop := ∀ c ∈ side, Text.isWord c = false

/-- Somewhere in a text there is a uid that is free on both sides. -/
def ShownIn (cs : List Char) : Prop :=
  ∃ before u after,
    cs = before ++ u ++ after ∧ Written u ∧ Free before.getLast? ∧ Free after.head?

theorem grouped_nil {cs : List Char} : Grouped [] cs ↔ cs = [] := by
  simp [Grouped]

theorem grouped_singleton {n : Nat} {cs : List Char} : Grouped [n] cs ↔ Digits n cs := by
  simp [Grouped, List.forall₂_cons_left_iff]

theorem grouped_cons_cons {n m : Nat} {sizes : List Nat} {cs : List Char}
    : Grouped (n :: m :: sizes) cs
      ↔ ∃ group rest,
          Digits n group ∧ Grouped (m :: sizes) rest ∧ cs = group ++ '-' :: rest := by
  constructor
  · rintro ⟨groups, sized, rfl⟩
    obtain ⟨group, others, digits, rest, rfl⟩ := List.forall₂_cons_left_iff.1 sized
    obtain ⟨next, more, _, _, rfl⟩ := List.forall₂_cons_left_iff.1 rest
    exact ⟨group, _, digits, ⟨_, rest, rfl⟩, by simp [List.intercalate_cons_cons]⟩
  · rintro ⟨group, _, digits, ⟨others, sized, rfl⟩, rfl⟩
    obtain ⟨next, more, _, _, rfl⟩ := List.forall₂_cons_left_iff.1 sized
    exact ⟨group :: next :: more, .cons digits sized, by simp [List.intercalate_cons_cons]⟩

/-- What stands at each place of groups of these sizes: a digit or a hyphen. -/
def template (sizes : List Nat) : List Bool :=
  [false].intercalate (sizes.map fun n => List.replicate n true)

theorem shape_eq_template : shape = template [8, 4, 4, 4, 12] := rfl

theorem template_cons_cons (n m : Nat) (sizes : List Nat)
    : template (n :: m :: sizes) = List.replicate n true ++ false :: template (m :: sizes) := by
  simp [template, List.intercalate_cons_cons]

theorem Grouped.length_eq {sizes : List Nat} {cs : List Char} (grouped : Grouped sizes cs)
    : cs.length = (template sizes).length := by
  induction sizes generalizing cs with
  | nil =>
    rw [grouped_nil.1 grouped]
    rfl
  | cons n sizes ih =>
    cases sizes with
    | nil =>
      have digits : cs.length = n := (grouped_singleton.1 grouped).1
      simpa [template] using digits
    | cons m sizes =>
      obtain ⟨group, rest, digits, others, rfl⟩ := grouped_cons_cons.1 grouped
      simp only [template_cons_cons, List.length_append, List.length_cons, List.length_replicate,
        digits.1, ih others]

theorem Written.length_eq {cs : List Char} (written : Written cs) : cs.length = 36 :=
  Grouped.length_eq written

-----------------------------------------------------------------------------------------
-- Finding uids
-----------------------------------------------------------------------------------------

theorem dropUid?_append (first second : List Bool) (cs : List Char)
    : dropUid? (first ++ second) cs = (dropUid? first cs).bind (dropUid? second) := by
  induction first generalizing cs with
  | nil => rfl
  | cons digit first ih =>
    cases cs with
    | nil => rfl
    | cons c cs =>
      rw [List.cons_append, dropUid?, dropUid?]
      cases (if digit then isHex c else c == '-') with
      | true => exact ih cs
      | false => rfl

theorem dropUid?_digits {n : Nat} {cs rest : List Char}
    : dropUid? (List.replicate n true) cs = some rest
      ↔ ∃ group, Digits n group ∧ cs = group ++ rest := by
  induction n generalizing cs with
  | zero => simp [dropUid?, Digits, and_assoc]
  | succ n ih =>
    rw [List.replicate_succ]
    constructor
    · intro dropped
      cases cs with
      | nil => cases dropped
      | cons c cs =>
        obtain ⟨digit, dropped⟩
            : isHex c = true ∧ dropUid? (List.replicate n true) cs = some rest := by
          simpa [dropUid?] using dropped
        obtain ⟨group, ⟨size, digits⟩, rfl⟩ := ih.1 dropped
        have all : ∀ d ∈ c :: group, isHex d = true := List.forall_mem_cons.2 ⟨digit, digits⟩
        exact ⟨c :: group, ⟨congrArg (· + 1) size, all⟩, rfl⟩
    · rintro ⟨group, ⟨size, digits⟩, rfl⟩
      obtain ⟨c, group, rfl⟩ := List.exists_cons_of_length_eq_add_one size
      obtain ⟨digit, digits⟩ := List.forall_mem_cons.1 digits
      have dropped : dropUid? (List.replicate n true) (group ++ rest) = some rest :=
        ih.2 ⟨group, ⟨Nat.succ.inj size, digits⟩, rfl⟩
      simpa [dropUid?, digit] using dropped

theorem dropUid?_hyphen {digits : List Bool} {cs rest : List Char}
    : dropUid? (false :: digits) cs = some rest
      ↔ ∃ others, cs = '-' :: others ∧ dropUid? digits others = some rest := by
  cases cs with
  | nil => simp [dropUid?]
  | cons c cs => simp [dropUid?, and_assoc]

/-- What is dropped is groups of digits, and the rest does not matter. -/
theorem dropUid?_template {sizes : List Nat} {cs rest : List Char}
    : dropUid? (template sizes) cs = some rest ↔ ∃ u, Grouped sizes u ∧ cs = u ++ rest := by
  induction sizes generalizing cs with
  | nil => simp [template, dropUid?, grouped_nil]
  | cons n sizes ih =>
    cases sizes with
    | nil =>
      simp only [template, List.map_cons, List.map_nil, List.intercalate_singleton,
        dropUid?_digits, grouped_singleton]
    | cons m sizes =>
      rw [template_cons_cons, dropUid?_append, Option.bind_eq_some_iff]
      constructor
      · rintro ⟨behind, first, dropped⟩
        obtain ⟨group, digits, rfl⟩ := dropUid?_digits.1 first
        obtain ⟨others, rfl, dropped⟩ := dropUid?_hyphen.1 dropped
        obtain ⟨u, grouped, rfl⟩ := ih.1 dropped
        exact ⟨_, grouped_cons_cons.2 ⟨group, u, digits, grouped, rfl⟩, by simp⟩
      · rintro ⟨u, grouped, rfl⟩
        obtain ⟨group, others, digits, behind, rfl⟩ := grouped_cons_cons.1 grouped
        refine ⟨'-' :: (others ++ rest), dropUid?_digits.2 ⟨group, digits, by simp⟩, ?_⟩
        exact dropUid?_hyphen.2 ⟨_, rfl, ih.2 ⟨others, behind, rfl⟩⟩

theorem startsWithUid_iff {cs : List Char}
    : startsWithUid cs = true
      ↔ ∃ u after, cs = u ++ after ∧ Written u ∧ Free after.head? := by
  have dropped (after : List Char)
      : dropUid? shape cs = some after ↔ ∃ u, Written u ∧ cs = u ++ after := by
    rw [shape_eq_template]
    exact dropUid?_template
  rw [startsWithUid]
  constructor
  · intro starts
    split at starts
    case h_1 whole =>
      obtain ⟨u, written, rfl⟩ := (dropped []).1 whole
      exact ⟨u, [], rfl, written, nofun⟩
    case h_2 c after front =>
      obtain ⟨u, written, rfl⟩ := (dropped (c :: after)).1 front
      exact ⟨u, c :: after, rfl, written, by simpa [Free] using starts⟩
    case h_3 => cases starts
  · rintro ⟨u, after, text, written, free⟩
    rw [(dropped after).2 ⟨u, written, text⟩]
    cases after with
    | nil => rfl
    | cons c after => simpa [Free] using free

/-- What stands in front of the rest of a text decides whether the rest may start with a uid. -/
theorem free_getLast?_cons {c : Char} {before : List Char}
    : Free (c :: before).getLast?
      ↔ (before = [] → Text.isWord c = false) ∧ Free before.getLast? := by
  cases before with
  | nil => simp [Free]
  | cons d before => simp [List.getLast?_cons_cons]

/-- A search that has come to the rest of a text finds the uids in the rest; at its very start only
behind a word boundary.
-/
theorem showsUid_iff {boundary : Bool} {cs : List Char}
    : showsUid boundary cs = true
      ↔ ∃ before u after,
          cs = before ++ u ++ after
          ∧ Written u
          ∧ (before = [] → boundary = true)
          ∧ Free before.getLast?
          ∧ Free after.head? := by
  induction cs generalizing boundary with
  | nil =>
    refine iff_of_false (by simp [showsUid]) ?_
    rintro ⟨before, u, after, text, written, _⟩
    have size := congrArg List.length text
    simp only [List.length_nil, List.length_append, written.length_eq] at size
    omega
  | cons c cs ih =>
    rw [showsUid, Bool.or_eq_true, Bool.and_eq_true, startsWithUid_iff, ih]
    constructor
    · rintro (⟨here, u, after, text, written, free⟩
        | ⟨before, u, after, rfl, written, here, front, free⟩)
      · exact ⟨[], u, after, text, written, fun _ => here, nofun, free⟩
      · refine ⟨c :: before, u, after, rfl, written, nofun, ?_, free⟩
        exact free_getLast?_cons.2 ⟨fun first => by simpa using here first, front⟩
    · rintro ⟨before, u, after, text, written, here, front, free⟩
      cases before with
      | nil => exact .inl ⟨here rfl, u, after, text, written, free⟩
      | cons d before =>
        obtain ⟨rfl, rfl⟩ := List.cons.inj text
        obtain ⟨first, front⟩ := free_getLast?_cons.1 front
        refine .inr ⟨before, u, after, rfl, written, fun none => ?_, front, free⟩
        simp [first none]

theorem showsUid_iff_shownIn {cs : List Char} : showsUid true cs = true ↔ ShownIn cs := by
  simp [showsUid_iff, ShownIn]

end Uid

-----------------------------------------------------------------------------------------
-- Payloads of dynamic models and of others
-----------------------------------------------------------------------------------------

variable {σ : Type}

/-- Noting what is left out can fail only if it has names that are no text. -/
theorem Registry.noteDropped_cases (model : Value) (dropped : List (Value × Value)) (s : σ)
    : (∃ log, (noteDropped model dropped : Action σ Unit).run s = ⟨.ok (), s, log⟩)
      ∨ ¬ Value.AllText (dropped.map Prod.fst)
        ∧ (noteDropped model dropped : Action σ Unit).run s
          = ⟨.error (.misuse .wrongKind), s, []⟩ := by
  by_cases texts : Value.AllText (dropped.map Prod.fst)
  · exact .inl (run_noteDropped model texts s)
  · rw [noteDropped]
    split
    · exact .inl ⟨_, rfl⟩
    · split
      · exact .inr ⟨texts, rfl⟩
      · exact .inl ⟨_, rfl⟩

/-- A payload of a model that is not dynamic comes to its accepted entries, unless the model is
unknown or the names of the other entries cannot be sorted for the log.
-/
theorem Registry.sanitize_static_cases {r : Registry} {id : String}
    (static : r.isDynamic (.text id) = false) (es : List (Value × Value)) (s : σ)
    : let outcome := (r.sanitize (.mapping es) (.text id) : Action σ _).run s
      r.accepted? (.text id) = none
        ∧ outcome = ⟨.error (.report ⟨.unknownModel, .text "Model is not registered",
            [("model_id", .value (.text id))]⟩), s, []⟩
      ∨ ∃ fields,
          r.accepted? (.text id) = some fields
          ∧ ((∃ log, outcome = ⟨.ok (es.filter fun e => e.1.isIn fields), s, log⟩)
            ∨ ¬ Value.AllText (es.map Prod.fst)
              ∧ outcome = ⟨.error (.misuse .wrongKind), s, []⟩) := by
  rw [sanitize, static, if_neg Bool.false_ne_true, accepted]
  simp only [checkKey, Value.isKey, if_true]
  cases r.accepted? (.text id) with
  | none => exact .inl ⟨rfl, rfl⟩
  | some fields =>
    refine .inr ⟨fields, rfl, ?_⟩
    have dropped_texts (texts : Value.AllText (es.map Prod.fst))
        : Value.AllText ((es.filter fun e => !e.1.isIn fields).map Prod.fst) := by
      intro v member
      obtain ⟨e, left, rfl⟩ := List.mem_map.1 member
      exact texts _ (List.mem_map_of_mem (List.mem_filter.1 left).1)
    rcases noteDropped_cases (.text id) (es.filter fun e => !e.1.isIn fields) s
      with ⟨log, noted⟩ | ⟨unsorted, noted⟩
    · exact .inl ⟨log, by simp [noted, bind, Except.bind, pure, Except.pure]⟩
    · exact .inr ⟨mt dropped_texts unsorted, by simp [noted, Except.map]⟩

/-- An id makes a model dynamic exactly if it shows a uid. The payload of such a model is returned
as it is. That of any other model comes to its accepted entries, unless the model is unknown or the
names of the other entries cannot be sorted for the log.
-/
theorem Registry.isDynamic_iff_uid_shown (models : List (Value × List Value)) (id : String)
    : let r : Registry := ⟨.ofSource Settings.default.dynamicPattern, models⟩
      ∃ shown,
        IdPattern.test (.text Settings.default.dynamicPattern) (.text id) .null = .ok shown
        ∧ r.isDynamic (.text id) = shown
        ∧ (shown = true ↔ Uid.ShownIn id.toList)
        ∧ ∀ (es : List (Value × Value)) (s : σ),
            let outcome := (r.sanitize (.mapping es) (.text id) : Action σ _).run s
            shown = true ∧ outcome = ⟨.ok es, s, []⟩
            ∨ shown = false
              ∧ r.accepted? (.text id) = none
              ∧ outcome = ⟨.error (.report ⟨.unknownModel, .text "Model is not registered",
                  [("model_id", .value (.text id))]⟩), s, []⟩
            ∨ shown = false
              ∧ ∃ fields,
                  r.accepted? (.text id) = some fields
                  ∧ ((∃ log, outcome = ⟨.ok (es.filter fun e => e.1.isIn fields), s, log⟩)
                    ∨ ¬ Value.AllText (es.map Prod.fst)
                      ∧ outcome = ⟨.error (.misuse .wrongKind), s, []⟩) := by
  intro r
  have standard : IdPattern.ofSource Settings.default.dynamicPattern = .uid :=
    if_pos (beq_self_eq_true _)
  have dynamic : r.isDynamic (.text id) = Uid.showsUid true id.toList := by
    simp only [isDynamic, r, standard, IdPattern.matches?]
  refine ⟨Uid.showsUid true id.toList, ?_, dynamic, Uid.showsUid_iff_shownIn, fun es s => ?_⟩
  · simp only [IdPattern.test, Value.isNull, if_true, standard, IdPattern.matches?]
  · rw [← dynamic]
    cases shown : r.isDynamic (.text id) with
    | true => exact .inl ⟨rfl, by rw [sanitize, if_pos shown, Action.run_pure]⟩
    | false =>
      rcases sanitize_static_cases shown es s with unknown | known
      · exact .inr (.inl ⟨rfl, unknown⟩)
      · exact .inr (.inr ⟨rfl, known⟩)

/-- A longer id that shows a uid: it takes a payload past an empty registry. -/
theorem Registry.isDynamic_of_longer_id
    : let r := Registry.empty (.ofSource Settings.default.dynamicPattern)
      let id := "x 01f6c940-e247-4d85-9f35-e3d59ea49289"
      let payload : List (Value × Value) := [(.text "role", .text "admin")]
      ¬ Uid.Written id.toList
      ∧ IdPattern.test (.text Settings.default.dynamicPattern) (.text id) .null = .ok true
      ∧ r.isDynamic (.text id) = true
      ∧ r.accepted? (.text id) = none
      ∧ (r.sanitize (.mapping payload) (.text id) : Action Unit _).run ()
        = ⟨.ok payload, (), []⟩ := by
  intro r id payload
  have dynamic : r.isDynamic (.text id) = true := by decide +kernel
  refine ⟨fun written => ?_, congrArg Except.ok dynamic, dynamic, rfl, ?_⟩
  · exact absurd written.length_eq (by decide)
  · rw [sanitize, if_pos dynamic, Action.run_pure]

end DocGateway
