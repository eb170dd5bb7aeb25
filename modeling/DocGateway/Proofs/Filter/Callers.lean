import DocGateway.Proofs.Filter.DayMacros
import DocGateway.Proofs.Query.Positions

/-!
What a filter learns about the caller.

Only leaves that compare a field with the user macro ask who calls. Each of them becomes the list of
all ids that the caller acts as, or the filter is refused; no other leaf can tell callers apart.
-/

namespace DocGateway

theorem Date.text_ne_userMacro (d : Date) : d.text ≠ Filter.userMacro := by
  intro same
  have dashed : '-' ∈ d.text.toList := by simp [text, chars]
  rw [same] at dashed
  exact absurd dashed (by decide)

namespace Filter

theorem isUserMacro_iff {v : Value} : isUserMacro v = true ↔ v = .text userMacro := by
  cases v <;> simp [isUserMacro]

-----------------------------------------------------------------------------------------
-- Leaves that ask for the caller
-----------------------------------------------------------------------------------------

/-- A leaf that compares its field with the user macro. -/
structure Leaf.AsksUser (l : Leaf) : Prop where
  operand : l.operand = some (.text userMacro)
  undated : l.Undated
  operator : l.operator ≠ Operator.isEmpty.word ∧ l.operator ≠ Operator.isNotEmpty.word

/-- What a leaf that asks for the caller becomes: its field must hold one of the ids, or none. -/
inductive Leaf.NamesIds (l : Leaf) (ids : List Value) : Value → Prop
  | one (operator : l.operator = "=" ∨ l.operator = "contains")
    : l.NamesIds ids (Value.fields [(l.field, Value.fields [("$in", .list ids)])])
  | none (operator : l.operator = "<>" ∨ l.operator = "does not contain")
    : l.NamesIds ids (Value.fields [(l.field, Value.fields [("$nin", .list ids)])])

/-- The operand of a leaf is the one it has, or the text of a day. -/
theorem operand_cases {l : Leaf} {clock : Clock} {v : Value} (operand : resolveDay l clock = .ok v)
    : (l.Undated ∧ v = l.value) ∨ ∃ d : Date, v = .text d.text := by
  have today {v : Value} (operand : todayOperand clock = .ok v) : ∃ d : Date, v = .text d.text := by
    obtain ⟨d, _, rfl⟩ := Except.map_eq_ok.1 operand
    exact ⟨d, rfl⟩
  rcases l.dating_cases with undated | given | ⟨sign, counts⟩ | ⟨w, given, nonempty, unknown⟩
  · rw [undated.operand] at operand
    split_ifs at operand
    · exact .inr (today operand)
    · cases operand
      exact .inl ⟨undated, rfl⟩
  · rw [operand_of_today given] at operand
    exact .inr (today operand)
  · rw [counts.operand] at operand
    obtain ⟨start, _, operand⟩ := Except.bind_eq_ok.1 operand
    obtain ⟨days, _, operand⟩ := Except.bind_eq_ok.1 operand
    obtain ⟨s, after, operand⟩ := Except.bind_eq_ok.1 operand
    unfold dayAfter at after
    split at after
    · cases after
      cases operand
      exact .inr ⟨_, rfl⟩
    · cases after
  · rw [operand_of_unknown given nonempty unknown] at operand
    cases operand

/-- Only leaves that ask for the caller have the user macro as operand. -/
theorem asksUser_of_operand {l : Leaf} {o : Operator} {clock : Clock}
    (operator : Operator.ofWord? l.operator = some o) (takes : o.TakesOperand)
    (operand : resolveDay l clock = .ok (.text userMacro))
    : l.AsksUser := by
  rcases operand_cases operand with ⟨undated, own⟩ | ⟨d, day⟩
  · have given : l.operand = some (.text userMacro) := by
      unfold Leaf.value at own
      cases given : l.operand with
      | none => simp [given] at own
      | some v => simpa [given] using own.symm
    exact ⟨given, undated, (Operator.takesOperand_iff operator).1 takes⟩
  · exact absurd (Value.text.inj day).symm d.text_ne_userMacro

theorem compileUser_congr {l : Leaf} {o : Operator} {caller caller' : Option Identity}
    (same : caller.map Identity.effective = caller'.map Identity.effective)
    : compileUser l o caller = compileUser l o caller' := by
  have ids : resolveUser l caller = resolveUser l caller' := by
    cases caller <;> cases caller' <;> simp_all [resolveUser]
  rw [compileUser, compileUser, ids]

/-- Leaves read the caller's ids and nothing else of the caller, and only if they ask for them. -/
theorem compileLeaf_congr {clock : Clock} {stampFields : List String} {l : Leaf}
    {caller caller' : Option Identity}
    (same : l.AsksUser → caller.map Identity.effective = caller'.map Identity.effective)
    : compileLeaf ⟨clock, caller, stampFields⟩ l = compileLeaf ⟨clock, caller', stampFields⟩ l := by
  cases operator : Operator.ofWord? l.operator with
  | none => simp [compileLeaf, operator]
  | some o =>
    by_cases takes : o.TakesOperand
    · rw [compileLeaf_of_takesOperand operator takes, compileLeaf_of_takesOperand operator takes]
      unfold compileWithOperand
      split_ifs
      · rfl
      · cases operand : resolveDay l clock with
        | error f => rfl
        | ok v =>
          simp only [bind, Except.bind]
          -- Comparisons by day come first and do not look at the caller.
          refine if_congr Iff.rfl rfl ?_
          by_cases names : isUserMacro v = true
          · obtain rfl := isUserMacro_iff.1 names
            have ids := same (asksUser_of_operand operator takes operand)
            rw [if_pos names, if_pos names, compileUser_congr ids]
          · rw [if_neg names, if_neg names]
    · obtain ⟨q, compiled⟩ := compileLeaf_of_not_takesOperand operator takes
      rw [compiled, compiled]

/-- The user macro is no day. -/
theorem compileDay_userMacro (l : Leaf) (negated : Bool)
    : compileDay l (.text userMacro) negated = .error (.dayExpected l.describe) := by
  have none : dayOf? (.text userMacro) = none := by decide
  simp [compileDay, calendarDay, none, bind, Except.bind, Node.describe]

theorem namesIds_compileUser {l : Leaf} {o : Operator} {caller : Option Identity} {q : Query}
    (operator : Operator.ofWord? l.operator = some o) (compiled : compileUser l o caller = .ok q)
    : ∃ i, caller = some i ∧ l.NamesIds i.effective q.toValue := by
  have word := Operator.eq_word_of_ofWord? operator
  obtain ⟨ids, resolved, compiled⟩ := Except.bind_eq_ok.1 compiled
  cases caller with
  | none => cases resolved
  | some i =>
    cases resolved
    refine ⟨i, rfl, ?_⟩
    cases o
    all_goals cases compiled
    · exact .one (.inl word)
    · exact .none (.inl word)
    · exact .one (.inr word)
    · exact .none (.inr word)

/-- A leaf that asks for the caller compiles only to the list of the caller's ids. -/
theorem Leaf.AsksUser.compile {ctx : Context} {l : Leaf} {q : Query} (asks : l.AsksUser)
    (compiled : compileLeaf ctx l = .ok q)
    : ∃ i, ctx.caller = some i ∧ l.NamesIds i.effective q.toValue := by
  have value : l.value = .text userMacro := by simp [Leaf.value, asks.operand]
  have operand : resolveDay l ctx.clock = .ok (.text userMacro) := by
    rw [asks.undated.operand, value]
    rfl
  cases operator : Operator.ofWord? l.operator with
  | none => simp [compileLeaf, operator] at compiled
  | some o =>
    have takes : o.TakesOperand := (Operator.takesOperand_iff operator).2 asks.operator
    rw [compileLeaf_of_takesOperand operator takes] at compiled
    unfold compileWithOperand at compiled
    split_ifs at compiled
    rw [operand] at compiled
    simp only [bind, Except.bind] at compiled
    split_ifs at compiled with byDay names
    -- On a time stamp the macro would be compared by day, so the filter is refused.
    · rw [compileDay_userMacro] at compiled
      cases compiled
    · exact namesIds_compileUser operator compiled
    · exact absurd rfl names

-----------------------------------------------------------------------------------------
-- Trees
-----------------------------------------------------------------------------------------

/-- A document that is put together as a tree is: of a part for each leaf, and for each group the
list of its members' documents under its connective, gaps left out.
-/
inductive Node.Assembles (part : Leaf → Value → Prop) : Node → Value → Prop
  | leaf {l : Leaf} {doc : Value} (written : part l doc) : Assembles part (.leaf l) doc
  | group {operator : Option String} {members : List Node} {c : Connective} {docs : List Value}
      (word : Connective.ofWord? (operator.getD "") = some c)
      (each : List.Forall₂ (Assembles part) (present members) docs)
    : Assembles part (.group operator members) (Value.fields [(c.key, .list docs)])

/-- The document of a tree's query is put together of its leaves' documents. -/
theorem Node.assembles_compile {ctx : Context} {part : Leaf → Value → Prop}
    (leaf : ∀ l q, compileLeaf ctx l = .ok q → part l q.toValue) {n : Node} {q : Query}
    (compiled : n.compile ctx = .ok q)
    : n.Assembles part q.toValue := by
  refine compile_induction (P := fun n q => n.Assembles part q.toValue) ?_ ?_ compiled
  · exact fun l q compiled => .leaf (leaf l q compiled)
  · intro operator members c qs word _ each
    rw [Query.toValue_combine]
    exact .group word (List.forall₂_map_right_iff.2 each)

/-- What a leaf is compiled to for a caller with some ids: the list of these ids if it asks for
them, and otherwise a document that is the same for all callers.
-/
structure Leaf.Confined (clock : Clock) (stampFields : List String) (ids : List Value) (l : Leaf)
    (doc : Value) : Prop where
  asking : l.AsksUser → l.NamesIds ids doc
  other
    : ¬ l.AsksUser →
      ∀ caller, ∃ q, compileLeaf ⟨clock, caller, stampFields⟩ l = .ok q ∧ q.toValue = doc

namespace Source

/-- A filter that compiles without a caller compiles alike for all callers; callers with the same
ids have the same outcome; and where a filter compiles for a caller, its leaves that ask for the
caller name all ids of this caller, while the others are the same for everyone.
-/
theorem compile_confines_caller (source : Source) (clock : Clock) (stampFields : List String)
    : (∀ q,
        source.compile ⟨clock, none, stampFields⟩ = .ok q
        → ∀ caller, source.compile ⟨clock, caller, stampFields⟩ = .ok q)
      ∧ (∀ i j : Identity,
          i.effective = j.effective
          → source.compile ⟨clock, some i, stampFields⟩
            = source.compile ⟨clock, some j, stampFields⟩)
      ∧ ∀ (i : Identity) (q : Query),
          source.compile ⟨clock, some i, stampFields⟩ = .ok q
          → ∃ n,
              source.normalize = .ok (.node n)
              ∧ n.Assembles (Leaf.Confined clock stampFields i.effective) q.toValue := by
  refine ⟨?_, ?_, ?_⟩
  · intro q compiled caller
    obtain ⟨n, taken, compiled⟩ := normalize_of_compile compiled
    have nobodyAsks : ∀ l ∈ n.leaves, ¬ l.AsksUser := by
      intro l isLeaf asks
      obtain ⟨p, compiled⟩ := Node.leaf_compiles compiled l isLeaf
      obtain ⟨i, called, _⟩ := asks.compile compiled
      cases called
    have same : n.compile ⟨clock, caller, stampFields⟩ = n.compile ⟨clock, none, stampFields⟩ :=
      Node.compile_congr fun l isLeaf =>
        compileLeaf_congr fun asks => absurd asks (nobodyAsks l isLeaf)
    rw [compile_of_normalize taken, same, compiled]
    rfl
  · intro i j sameIds
    have same (n : Node)
        : n.compile ⟨clock, some i, stampFields⟩ = n.compile ⟨clock, some j, stampFields⟩ :=
      Node.compile_congr fun l _ => compileLeaf_congr fun _ => congrArg some sameIds
    cases taken : source.normalize with
    | error f => simp [compile, taken, bind, Except.bind]
    | ok ready =>
      cases ready with
      | node n => rw [compile_of_normalize taken, compile_of_normalize taken, same]
      | unchecked operator members => simp [compile, taken, bind, Except.bind, Ready.compile]
  · intro i q compiled
    obtain ⟨n, taken, compiled⟩ := normalize_of_compile compiled
    refine ⟨n, taken, Node.assembles_compile ?_ compiled⟩
    intro l p compiled
    refine ⟨?_, ?_⟩
    · intro asks
      obtain ⟨_, called, names⟩ := asks.compile compiled
      cases called
      exact names
    · intro notAsks caller
      have same
          : Filter.compileLeaf ⟨clock, caller, stampFields⟩ l
            = Filter.compileLeaf ⟨clock, some i, stampFields⟩ l :=
        compileLeaf_congr fun asks => absurd asks notAsks
      exact ⟨p, same.trans compiled, rfl⟩

/-- Two leaves ask for the caller, in two ways and one of them in a group with a gap; the third one
has the day macro. Without them the filter is for everyone.
-/
theorem compile_confines_caller_of_shared_records
    : let clock : Clock := .fixed ⟨⟨2024, 1, 5⟩, 10, 30, 0, 0, some 0⟩
      let leaf (field operator operand : String) : Value :=
        Value.fields
          [("fieldId", .text field), ("operator", .text operator), ("value", .text operand)]
      let dueToday := leaf "due" "<=" "$today"
      let filter : Source :=
        .value (groupTree .all
          [leaf "owner" "=" "$userId",
            groupTree .any [.null, leaf "hiddenFrom" "does not contain" "$userId", dueToday]])
      let i : Identity := .member (.text "john") [.text "team", .text "john", .text "*"]
      let j : Identity := .acting [.text "john", .text "team", .text "*"]
      let q : Query :=
        .all [.field "owner" (.oneOf j.effective),
          .any [.field "hiddenFrom" (.noneOf j.effective),
            .field "due" (.compare .atMost (.text "2024-01-05"))]]
      ((Source.value dueToday).compile ⟨clock, none, []⟩
          = .ok (.field "due" (.compare .atMost (.text "2024-01-05")))
        ∧ (Source.value dueToday).compile ⟨clock, some i, []⟩
          = .ok (.field "due" (.compare .atMost (.text "2024-01-05"))))
      ∧ (i.effective = j.effective
        ∧ filter.compile ⟨clock, some i, []⟩ = filter.compile ⟨clock, some j, []⟩)
      ∧ (filter.compile ⟨clock, some i, []⟩ = .ok q
        ∧ ∃ n,
            filter.normalize = .ok (.node n)
            ∧ n.Assembles (Leaf.Confined clock [] i.effective) q.toValue) := by
  intro clock leaf dueToday filter i j q
  have everyone
      : (Source.value dueToday).compile ⟨clock, none, []⟩
        = .ok (.field "due" (.compare .atMost (.text "2024-01-05"))) := rfl
  have sameIds : i.effective = j.effective := rfl
  have compiled : filter.compile ⟨clock, some i, []⟩ = .ok q := rfl
  exact ⟨⟨everyone, (compile_confines_caller _ clock []).1 _ everyone (some i)⟩,
    ⟨sameIds, (compile_confines_caller filter clock []).2.1 i j sameIds⟩,
    ⟨compiled, (compile_confines_caller filter clock []).2.2 i q compiled⟩⟩

end Source

end Filter

end DocGateway
