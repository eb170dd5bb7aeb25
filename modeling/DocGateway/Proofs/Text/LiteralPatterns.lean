import DocGateway.Filter.Compile
import DocGateway.Text.Word
import Mathlib.Data.List.Forall2

/-!
Literal patterns read back.

A reader that knows no more of patterns than that a backslash takes the meaning from a symbol gets
through every literal pattern and finds the text that it was made from. So the pattern matches this
text and nothing else, whichever characters count as alike.
-/

namespace DocGateway

namespace Text

/-- The characters that are never read as themselves in a pattern. -/
def metacharacters : List Char :=
  ['.', '^', '$', '*', '+', '?', '\x7b', '\x7d', '[', ']', '\\', '|', '(', ')']

/-- Letters and numbers, which a backslash may give a meaning of its own. -/
def isAlphanumeric (c : Char) : Bool := isWord c && c != '_'

/-- The text that a pattern denotes, read from left to right. There is none if a metacharacter
stands bare, or a backslash at the end or before a letter or number.
-/
def denoted? : List Char → Option (List Char)
  | [] => some []
  | '\\' :: c :: cs => if isAlphanumeric c then none else (denoted? cs).map (c :: ·)
  | c :: cs => if c ∈ metacharacters then none else (denoted? cs).map (c :: ·)

/-- A pattern matches a text character by character. Only characters that denote something match,
and they match what is like the character that they denote.
-/
inductive Matches (alike : Char → Char → Prop) : List Char → List Char → Prop
  | nil : Matches alike [] []
  | escaped {c d : Char} {cs ds : List Char} (symbol : isAlphanumeric c = false)
      (same : alike c d) (rest : Matches alike cs ds)
    : Matches alike ('\\' :: c :: cs) (d :: ds)
  | plain {c d : Char} {cs ds : List Char} (own : c ∉ metacharacters) (same : alike c d)
      (rest : Matches alike cs ds)
    : Matches alike (c :: cs) (d :: ds)

theorem backslash_mem_metacharacters : '\\' ∈ metacharacters := by decide

theorem denoted?_escaped {c : Char} (symbol : isAlphanumeric c = false) (cs : List Char)
    : denoted? ('\\' :: c :: cs) = (denoted? cs).map (c :: ·) := by
  simp [denoted?, symbol]

theorem denoted?_plain {c : Char} (own : c ∉ metacharacters) (cs : List Char)
    : denoted? (c :: cs) = (denoted? cs).map (c :: ·) := by
  have bare : ∀ d ds, c = '\\' → cs = d :: ds → False := by
    rintro d ds rfl
    exact absurd backslash_mem_metacharacters own
  rw [denoted?.eq_3 c cs bare, if_neg own]

/-- What a pattern denotes decides what it matches. -/
theorem matches_iff_of_denoted? {alike : Char → Char → Prop} {p v : List Char}
    (reads : denoted? p = some v) (s : List Char)
    : Matches alike p s ↔ List.Forall₂ alike v s := by
  fun_induction denoted? p generalizing v s with
  | case1 =>
    cases reads
    constructor
    · rintro ⟨⟩
      exact .nil
    · rintro ⟨⟩
      exact .nil
  | case2 | case4 => cases reads
  | case3 c cs symbol ih =>
    obtain ⟨v, denotes, rfl⟩ := Option.map_eq_some_iff.1 reads
    constructor
    · intro found
      cases found with
      | escaped _ same rest => exact .cons same ((ih denotes _).1 rest)
      | plain own => exact absurd backslash_mem_metacharacters own
    · rintro (_ | ⟨same, rest⟩)
      exact .escaped (Bool.eq_false_iff.2 symbol) same ((ih denotes _).2 rest)
  | case5 c cs _ own ih =>
    obtain ⟨v, denotes, rfl⟩ := Option.map_eq_some_iff.1 reads
    constructor
    · intro found
      cases found with
      | escaped => exact absurd backslash_mem_metacharacters own
      | plain _ same rest => exact .cons same ((ih denotes _).1 rest)
    · rintro (_ | ⟨same, rest⟩)
      exact .plain own same ((ih denotes _).2 rest)

/-- What is escaped is no letter or number, so the backslash takes its meaning. -/
theorem isAlphanumeric_of_mem_patternSpecials {c : Char} (special : c ∈ patternSpecials)
    : isAlphanumeric c = false := by
  -- As a check of the list: there are also ways to decide this for all characters, one by one.
  have all : patternSpecials.all (fun c => !isAlphanumeric c) = true := by decide +kernel
  simpa using List.all_eq_true.1 all c special

theorem mem_patternSpecials_of_mem_metacharacters {c : Char} (own : c ∈ metacharacters)
    : c ∈ patternSpecials := by
  have all : metacharacters.all patternSpecials.contains = true := by decide
  simpa using List.all_eq_true.1 all c own

theorem denoted?_literalChar (c : Char) (cs : List Char)
    : denoted? (literalChar c ++ cs) = (denoted? cs).map (c :: ·) := by
  by_cases special : c ∈ patternSpecials
  · rw [literalChar, if_pos special]
    exact denoted?_escaped (isAlphanumeric_of_mem_patternSpecials special) cs
  · rw [literalChar, if_neg special]
    exact denoted?_plain (mt mem_patternSpecials_of_mem_metacharacters special) cs

/-- A literal pattern denotes the text that it was made from. -/
theorem denoted?_literalPattern (cs : List Char) : denoted? (literalPattern cs) = some cs := by
  induction cs with
  | nil => rfl
  | cons c cs ih =>
    have pattern : literalPattern (c :: cs) = literalChar c ++ literalPattern cs := rfl
    rw [pattern, denoted?_literalChar, ih]
    rfl

end Text

namespace Filter

/-- The pattern for a value reads as the plain text of the value, which for a text is this text. So
it is found in exactly the texts in which the plain text occurs, whichever characters are alike, and
values with one pattern have one plain text.
-/
theorem containsPattern_literal (v : Value)
    : let pattern := (containsPattern v).toList
      (∀ s, v = .text s → v.plain = s)
      ∧ Text.denoted? pattern = some v.plain.toList
      ∧ (∀ (alike : Char → Char → Prop) (s : String),
          (∃ part, part <:+: s.toList ∧ Text.Matches alike pattern part)
            ↔ ∃ part, part <:+: s.toList ∧ List.Forall₂ alike v.plain.toList part)
      ∧ ∀ w, containsPattern w = containsPattern v → w.plain = v.plain := by
  intro pattern
  have denotes (w : Value)
      : Text.denoted? (containsPattern w).toList = some w.plain.toList := by
    rw [containsPattern, String.toList_ofList]
    exact Text.denoted?_literalPattern w.plain.toList
  refine ⟨?_, denotes v, fun alike s => ?_, fun w same => ?_⟩
  · rintro s rfl
    rfl
  · exact exists_congr fun part =>
      and_congr_right fun _ => Text.matches_iff_of_denoted? (denotes v) part
  · have reads := denotes w
    rw [same, denotes v] at reads
    exact String.toList_inj.1 (Option.some.inj reads).symm

/-- A text that is a pattern itself, with a backslash in front of a metacharacter. -/
example : containsPattern (.text "\\d+ (a|b)") = "\\\\d\\+\\ \\(a\\|b\\)" := by decide

end Filter

end DocGateway
