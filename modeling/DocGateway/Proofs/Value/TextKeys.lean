import DocGateway.Value.Entries

/-!
Text among values: nothing but the text itself equals a text, so look-ups of text keys are exact.
-/

namespace DocGateway

namespace Value

def isText (s : String) : Value → Bool
  | text t => t == s
  | _ => false

/-- Nothing but the text itself equals a text. -/
theorem same_text_right (v : Value) (s : String) : same v (text s) = isText s v := by
  cases v <;> simp [same, sameScalar, isText, asInt?]

theorem same_text_left (s : String) (v : Value) : same (text s) v = isText s v := by
  cases v with
  | text t => simp [same, sameScalar, isText, Bool.beq_comm]
  | _ => simp [same, sameScalar, isText, asInt?]

theorem isText_iff {s : String} {v : Value} : isText s v = true ↔ v = text s := by
  cases v <;> simp [isText]

theorem isIn_text (s : String) (vs : List Value) : isIn (text s) vs = vs.any (isText s) := by
  simp only [isIn, same_text_left]

/-- Equal keys are the same text, or neither of them is. -/
theorem isText_of_same {s : String} {v w : Value} (equal : same v w = true)
    : isText s v = isText s w := by
  cases hv : isText s v with
  | true => rw [isText_iff.1 hv, same_text_left] at equal; exact equal.symm
  | false =>
    cases hw : isText s w with
    | true => rw [isText_iff.1 hw, same_text_right, hv] at equal; exact equal
    | false => rfl

/-- Look-ups in a mapping with text keys are those among the names of its fields. -/
theorem lookup?_fields (s : String) (es : List (String × Value))
    : lookup? (text s) (es.map fun e => (text e.1, e.2))
      = (es.find? fun e => e.1 == s).map Prod.snd := by
  simp only [lookup?, same_text_right, List.find?_map, Option.map_map]
  rfl

theorem lookup?_insertEntry_text {α : Type} (s : String) (k : Value) (v : α)
    (es : List (Value × α))
    : lookup? (text s) (insertEntry k v es)
      = if isText s k then some v else lookup? (text s) es := by
  simp only [lookup?, same_text_right]
  induction es with
  | nil => cases h : isText s k <;> simp [insertEntry, h]
  | cons e es ih =>
    by_cases equal : same e.1 k = true
    · have both := isText_of_same (s := s) equal
      cases hk : isText s k <;> simp [insertEntry, equal, both, hk]
    · cases he : isText s e.1 with
      | true =>
        have other : isText s k = false := by
          rw [isText_iff.1 he, same_text_left] at equal
          exact Bool.eq_false_iff.2 equal
        simp [insertEntry, equal, he, other]
      | false => simp [insertEntry, equal, he, ih]

theorem lookup?_eraseEntry_text {α : Type} (s : String) (k : Value) (es : List (Value × α))
    : lookup? (text s) (eraseEntry k es)
      = if isText s k then none else lookup? (text s) es := by
  have kept : ∀ e : Value × α,
      (!same e.1 k && isText s e.1) = (!isText s k && isText s e.1) := by
    intro e
    cases he : isText s e.1 with
    | true => rw [isText_iff.1 he, same_text_left]
    | false => rw [Bool.and_false, Bool.and_false]
  simp only [lookup?, same_text_right, eraseEntry, List.find?_filter, Bool.decide_and,
    Bool.decide_eq_true, kept]
  cases isText s k <;> simp

end Value

end DocGateway
