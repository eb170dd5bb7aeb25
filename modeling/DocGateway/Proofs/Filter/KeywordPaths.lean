import DocGateway.Filter.Expression
import Mathlib.Data.List.Infix

/-!
Keywords and the field paths that they are made of.

A keyword joins the parts of a path by double underscores and may end in a look-up. It is cut at the
last double underscore but dotted from the left, so three underscores in a row belong to different
parts in the two readings; that the parts do not end in an underscore keeps the readings together
(`keyword_names_path`).
-/

namespace DocGateway.Filter

/-- What joins the parts of a keyword. -/
def joint : List Char := ['_', '_']

/-- A part of a path that a keyword can carry. -/
structure PathPart (cs : List Char) : Prop where
  nonempty : cs ≠ []
  unjoined : ¬ joint <:+: cs
  closed : cs.getLast? ≠ some '_'

/-- The look-ups that compare, by their words. -/
def Lookup.comparisons : List (String × Operator) :=
  [("eq", .equal), ("ne", .notEqual), ("gt", .greater), ("gte", .atLeast), ("lt", .less),
   ("lte", .atMost), ("contains", .contains), ("not_contains", .containsNot)]

/-- The words of all look-ups. -/
def Lookup.words : List String := "empty" :: comparisons.map Prod.fst

/-- A text without the underscore that it starts with, if it starts with one. -/
def unmarked : List Char → List Char
  | '_' :: cs => cs
  | cs => cs

-----------------------------------------------------------------------------------------
-- The two readings of double underscores
-----------------------------------------------------------------------------------------

theorem splitLast?_cons (c : Char) (cs : List Char)
    : splitLast? (c :: cs)
      = match splitLast? cs with
        | some (front, back) => some (c :: front, back)
        | none =>
          match c, cs with
          | '_', '_' :: rest => some ([], rest)
          | _, _ => none := rfl

theorem splitLast?_of_unjoined {cs : List Char} (unjoined : ¬ joint <:+: cs)
    : splitLast? cs = none := by
  induction cs with
  | nil => rfl
  | cons c cs ih =>
    rw [List.infix_cons_iff, not_or] at unjoined
    rw [splitLast?_cons, ih unjoined.2]
    dsimp only
    split
    · exact absurd ⟨_, rfl⟩ unjoined.1
    · rfl

/-- The last double underscore is the one after which there is none, its own second half included.
-/
theorem splitLast?_append (front : List Char) {back : List Char}
    (last : ¬ joint <:+: '_' :: back)
    : splitLast? (front ++ '_' :: '_' :: back) = some (front, back) := by
  induction front with
  | nil =>
    rw [List.nil_append, splitLast?_cons, splitLast?_of_unjoined last]
    rfl
  | cons c front ih => rw [List.cons_append, splitLast?_cons, ih]

theorem dotted_cons {c : Char} {cs : List Char} (apart : c = '_' → cs.head? ≠ some '_')
    : dotted (c :: cs) = c :: dotted cs := by
  rw [dotted]
  rintro rest rfl rfl
  exact apart rfl rfl

theorem dotted_of_unjoined {cs : List Char} (unjoined : ¬ joint <:+: cs) : dotted cs = cs := by
  induction cs with
  | nil => rfl
  | cons c cs ih =>
    rw [List.infix_cons_iff, not_or] at unjoined
    rw [dotted_cons, ih unjoined.2]
    rintro rfl head
    obtain ⟨rest, rfl⟩ := List.head?_eq_some_iff.1 head
    exact unjoined.1 ⟨rest, rfl⟩

/-- A double underscore is read where the part before it ends. -/
theorem dotted_append {part : List Char} (unjoined : ¬ joint <:+: part)
    (closed : part.getLast? ≠ some '_') (rest : List Char)
    : dotted (part ++ '_' :: '_' :: rest) = part ++ '.' :: dotted rest := by
  induction part with
  | nil => rfl
  | cons c part ih =>
    rw [List.infix_cons_iff, not_or] at unjoined
    have apart : c = '_' → (part ++ '_' :: '_' :: rest).head? ≠ some '_' := by
      rintro rfl
      cases part with
      | nil => exact absurd rfl closed
      | cons d part =>
        intro head
        cases head
        exact absurd ⟨part, rfl⟩ unjoined.1
    have closed' : part.getLast? ≠ some '_' := by
      cases part with
      | nil => exact nofun
      | cons d part => rwa [List.getLast?_cons_cons] at closed
    rw [List.cons_append, dotted_cons apart, ih unjoined.2 closed', List.cons_append]

theorem dotted_intercalate {parts : List (List Char)} (each : ∀ p ∈ parts, PathPart p)
    : dotted (joint.intercalate parts) = ['.'].intercalate parts := by
  induction parts with
  | nil => rfl
  | cons part parts ih =>
    obtain ⟨first, rest⟩ := List.forall_mem_cons.1 each
    cases parts with
    | nil => simpa using dotted_of_unjoined first.unjoined
    | cons next parts =>
      rw [List.intercalate_cons_cons, List.intercalate_cons_cons, ← ih rest]
      simpa [joint] using dotted_append first.unjoined first.closed _

/-- A path's last part is cut off, less the underscore that it starts with. -/
theorem PathPart.splitLast? {part : List Char} (last : PathPart part) (front : List Char)
    : ∃ front', Filter.splitLast? (front ++ '_' :: '_' :: part) = some (front', unmarked part) := by
  by_cases marked : ∃ rest, part = '_' :: rest
  · obtain ⟨rest, rfl⟩ := marked
    refine ⟨front ++ ['_'], ?_⟩
    simpa [unmarked] using splitLast?_append (front ++ ['_']) last.unjoined
  · have same : unmarked part = part := by
      unfold unmarked
      split
      · exact absurd ⟨_, rfl⟩ marked
      · rfl
    refine ⟨front, ?_⟩
    rw [same]
    refine splitLast?_append front ?_
    rw [List.infix_cons_iff, not_or]
    refine ⟨?_, last.unjoined⟩
    rintro ⟨rest, start⟩
    exact marked ⟨rest, (List.cons.inj start).2.symm⟩

-----------------------------------------------------------------------------------------
-- Reading keywords
-----------------------------------------------------------------------------------------

theorem Lookup.ofWord?_of_mem_comparisons
    : ∀ e ∈ comparisons, ofWord? e.1.toList = some (.operator e.2) := by
  decide

theorem Lookup.ofWord?_eq_none {cs : List Char} (unknown : String.ofList cs ∉ words)
    : ofWord? cs = none := by
  have listed : ∀ l ∈ all, l.word ∈ words := by decide
  unfold ofWord?
  rw [List.find?_eq_none]
  intro l known same
  rw [beq_iff_eq] at same
  rw [← same, String.ofList_toList] at unknown
  exact unknown (listed l known)

/-- No word of a look-up has or completes a double underscore. -/
theorem Lookup.unjoined_of_mem_words : ∀ w ∈ words, ¬ joint <:+: '_' :: w.toList := by
  decide

variable {parts : List String}

theorem toList_keyword (parts : List String)
    : ("__".intercalate parts).toList = joint.intercalate (parts.map String.toList) := by
  rw [String.toList_intercalate]
  rfl

/-- Dotting a keyword gives the path of its parts. -/
theorem dotted_keyword (each : ∀ p ∈ parts, PathPart p.toList)
    : String.ofList (dotted ("__".intercalate parts).toList) = ".".intercalate parts := by
  have each' : ∀ p ∈ parts.map String.toList, PathPart p := by simpa using each
  rw [toList_keyword, dotted_intercalate each', ← String.ofList_toList (s := ".".intercalate parts),
    String.toList_intercalate]
  rfl

/-- A keyword that ends in a look-up is the path in front of it with this look-up. -/
theorem readKeyword_lookup (each : ∀ p ∈ parts, PathPart p.toList) {w : String} {l : Lookup}
    (listed : w ∈ Lookup.words) (known : Lookup.ofWord? w.toList = some l)
    : readKeyword ("__".intercalate parts ++ "__" ++ w) = (".".intercalate parts, l) := by
  have chars : ("__".intercalate parts ++ "__" ++ w).toList
      = ("__".intercalate parts).toList ++ '_' :: '_' :: w.toList := by
    simp
  have cut := splitLast?_append ("__".intercalate parts).toList
    (Lookup.unjoined_of_mem_words w listed)
  simp only [readKeyword, chars, cut, known, dotted_keyword each]

/-- A keyword whose end is no look-up is equality on the whole path. -/
theorem readKeyword_path (each : ∀ p ∈ parts, PathPart p.toList) (some : parts ≠ [])
    (plain
      : parts.length = 1
        ∨ String.ofList (unmarked (parts.getLast some).toList) ∉ Lookup.words)
    : readKeyword ("__".intercalate parts) = (".".intercalate parts, .operator .equal) := by
  have whole := dotted_keyword each
  by_cases single : parts.length = 1
  · obtain ⟨part, rfl⟩ := List.length_eq_one_iff.1 single
    have uncut : splitLast? ("__".intercalate [part]).toList = none := by
      rw [String.intercalate_singleton]
      exact splitLast?_of_unjoined (each part List.mem_cons_self).unjoined
    simp only [readKeyword, uncut, whole]
  · have unknown := Lookup.ofWord?_eq_none (plain.resolve_left single)
    have split := (List.dropLast_append_getLast some).symm
    have front : parts.dropLast ≠ [] := by
      intro none
      rw [none] at split
      exact single (by rw [split]; rfl)
    have chars : ("__".intercalate parts).toList
        = ("__".intercalate parts.dropLast).toList
          ++ '_' :: '_' :: (parts.getLast some).toList := by
      conv => lhs; rw [split, String.intercalate_append_of_ne_nil front (List.cons_ne_nil _ _)]
      simp
    obtain ⟨front', cut⟩ := (each _ (List.getLast_mem some)).splitLast?
      ("__".intercalate parts.dropLast).toList
    rw [← chars] at cut
    simp only [readKeyword, cut, unknown, whole]

/-- The tree of an expression with one keyword. -/
def treeOfKeyword (key : String) (v : Value) : Except Misuse Value :=
  Operand.ofKeywords [(key, v)] >>= Operand.tree

theorem treeOfKeyword_eq {key : String} (free : key ≠ Operand.reserved) (v : Value)
    : treeOfKeyword key v = .ok (keywordTree key v) := by
  have notReserved : (key == Operand.reserved) = false := beq_eq_false_iff_ne.2 free
  simp only [treeOfKeyword, Operand.ofKeywords, List.any_cons, notReserved]
  rfl

/-- The reserved keyword has no look-up. -/
theorem ne_reserved_of_lookup (front w : String) : front ++ "__" ++ w ≠ Operand.reserved := by
  intro same
  have joined : '_' ∈ (front ++ "__" ++ w).toList := by simp
  rw [same] at joined
  exact absurd joined (by decide)

/-- Keywords stand for what they were made of: the parts of a path and a look-up, which asks for
emptiness without an operand or compares with it. Without a look-up a keyword stands for equality on
the path; its last part must not look like a look-up then, unless it is the only part.
-/
theorem keyword_names_path (each : ∀ p ∈ parts, PathPart p.toList) (some : parts ≠ []) (v : Value)
    : let key := "__".intercalate parts
      let path := ".".intercalate parts
      (∀ e ∈ Lookup.comparisons,
        treeOfKeyword (key ++ "__" ++ e.1) v = .ok (leafTree path e.2 v))
      ∧ treeOfKeyword (key ++ "__" ++ "empty") v
        = .ok (bareLeafTree path (if v.truthy then .isEmpty else .isNotEmpty))
      ∧ (key ≠ Operand.reserved
        → parts.length = 1 ∨ String.ofList (unmarked (parts.getLast some).toList) ∉ Lookup.words
        → treeOfKeyword key v = .ok (leafTree path .equal v)) := by
  intro key path
  refine ⟨?_, ?_, ?_⟩
  · intro e member
    have listed : e.1 ∈ Lookup.words := List.mem_cons_of_mem _ (List.mem_map_of_mem member)
    have reads := readKeyword_lookup each listed (Lookup.ofWord?_of_mem_comparisons e member)
    rw [treeOfKeyword_eq (ne_reserved_of_lookup key e.1), keywordTree, reads]
  · have reads := readKeyword_lookup each (w := "empty") (l := .empty) List.mem_cons_self rfl
    rw [treeOfKeyword_eq (ne_reserved_of_lookup key "empty"), keywordTree, reads]
  · intro free plain
    rw [treeOfKeyword_eq free, keywordTree, readKeyword_path each some plain]

/-- A part that looks like a look-up and one that starts with an underscore. -/
theorem keyword_names_path_of_marked_part
    : let parts := ["info", "lt", "_rank"]
      let last := String.ofList (unmarked (parts.getLast (List.cons_ne_nil _ _)).toList)
      (∀ p ∈ parts, PathPart p.toList)
      ∧ "info__lt___rank" ≠ Operand.reserved
      ∧ last ∉ Lookup.words
      ∧ treeOfKeyword "info__lt___rank__not_contains" (.int 3)
        = .ok (leafTree "info.lt._rank" .containsNot (.int 3))
      ∧ treeOfKeyword "info__lt___rank__empty" (.int 3)
        = .ok (bareLeafTree "info.lt._rank" .isEmpty)
      ∧ treeOfKeyword "info__lt___rank" (.int 3)
        = .ok (leafTree "info.lt._rank" .equal (.int 3)) := by
  intro parts last
  have each : ∀ p ∈ parts, PathPart p.toList := by
    have info : PathPart "info".toList := ⟨by decide, by decide, by decide⟩
    have lt : PathPart "lt".toList := ⟨by decide, by decide, by decide⟩
    have rank : PathPart "_rank".toList := ⟨by decide, by decide, by decide⟩
    simpa [parts] using ⟨info, lt, rank⟩
  have free : "info__lt___rank" ≠ Operand.reserved := by decide
  have unknown : last ∉ Lookup.words := by decide
  obtain ⟨compares, empty, equal⟩ := keyword_names_path each (List.cons_ne_nil _ _) (.int 3)
  exact ⟨each, free, unknown, compares ("not_contains", .containsNot) (by decide), empty,
    equal free (.inr unknown)⟩

end DocGateway.Filter
