import DocGateway.Calendar.Date
import Mathlib.Algebra.Group.Nat.Defs

/-!
Decimal numbers of a fixed width, and their order as text.

Among numbers that fit the width, text order is number order, and what stands behind two numbers is
only compared if the numbers are equal (`padded_append_lt_iff`).
-/

namespace DocGateway

namespace Calendar

/-- The last digits of a number, as many as there is room for. -/
def lastDigits : Nat → Nat → List Char
  | 0, _ => []
  | width + 1, n => lastDigits width (n / 10) ++ [Nat.digitChar (n % 10)]

theorem lastDigits_zero (width : Nat) : lastDigits width 0 = List.replicate width '0' := by
  induction width with
  | zero => rfl
  | succ width ih =>
    rw [lastDigits, Nat.zero_div, ih, List.replicate_succ']
    rfl

theorem length_lastDigits (width n : Nat) : (lastDigits width n).length = width := by
  induction width generalizing n with
  | zero => rfl
  | succ width ih => simp [lastDigits, ih]

theorem mem_lastDigits {width n : Nat} {c : Char} (member : c ∈ lastDigits width n)
    : ∃ k : Fin 10, c = Nat.digitChar k := by
  induction width generalizing n with
  | zero => cases member
  | succ width ih =>
    rcases List.mem_append.1 member with front | last
    · exact ih front
    · exact ⟨⟨n % 10, Nat.mod_lt n (by decide)⟩, List.mem_singleton.1 last⟩

/-- A number that fits is padded to its last digits. -/
theorem padded_eq_lastDigits {width n : Nat} (room : 0 < width) (fits : n < 10 ^ width)
    : padded width n = lastDigits width n := by
  induction width generalizing n with
  | zero => exact absurd room (Nat.lt_irrefl 0)
  | succ width ih =>
    by_cases single : n < 10
    · simp [padded, lastDigits, Nat.toDigits_of_lt_base single, Nat.div_eq_of_lt single,
        Nat.mod_eq_of_lt single, lastDigits_zero]
    · have room' : 0 < width := by
        rcases Nat.eq_zero_or_pos width with rfl | room'
        · exact absurd fits single
        · exact room'
      have fits' : n / 10 < 10 ^ width := by
        rw [Nat.pow_succ] at fits
        omega
      have front := ih room' fits'
      have more : 10 ≤ n := Nat.le_of_not_lt single
      simp only [padded] at front
      simp only [padded, lastDigits, Nat.toDigits_of_base_le (by decide) more, List.length_append,
        List.length_singleton, Nat.add_sub_add_right, ← front, List.append_assoc]

theorem digitChar_lt_iff {a b : Nat} (ha : a < 10) (hb : b < 10)
    : Nat.digitChar a < Nat.digitChar b ↔ a < b := by
  have all : ∀ a b : Fin 10, Nat.digitChar a < Nat.digitChar b ↔ a.val < b.val := by decide
  exact all ⟨a, ha⟩ ⟨b, hb⟩

theorem digitChar_inj {a b : Nat} (ha : a < 10) (hb : b < 10)
    : Nat.digitChar a = Nat.digitChar b ↔ a = b := by
  have all : ∀ a b : Fin 10, Nat.digitChar a = Nat.digitChar b ↔ a.val = b.val := by decide
  exact all ⟨a, ha⟩ ⟨b, hb⟩

theorem lastDigits_append_lt_iff {width m n : Nat} (fits : m < 10 ^ width) (fits' : n < 10 ^ width)
    (s t : List Char)
    : lastDigits width m ++ s < lastDigits width n ++ t ↔ m < n ∨ m = n ∧ s < t := by
  induction width generalizing m n s t with
  | zero =>
    have zero : m = 0 ∧ n = 0 := by simp at fits fits'; omega
    simp [lastDigits, zero]
  | succ width ih =>
    rw [Nat.pow_succ] at fits fits'
    have shorter := ih (m := m / 10) (n := n / 10) (by omega) (by omega)
    simp only [lastDigits, List.append_assoc, List.singleton_append]
    rw [shorter, List.cons_lt_cons_iff, digitChar_lt_iff (by omega) (by omega),
      digitChar_inj (by omega) (by omega)]
    by_cases first : s < t
    · simp only [first, and_true]
      omega
    · simp only [first, and_false, or_false]
      omega

/-- Text order of padded numbers, whatever follows them. -/
theorem padded_append_lt_iff {width m n : Nat} (room : 0 < width) (fits : m < 10 ^ width)
    (fits' : n < 10 ^ width) (s t : List Char)
    : padded width m ++ s < padded width n ++ t ↔ m < n ∨ m = n ∧ s < t := by
  rw [padded_eq_lastDigits room fits, padded_eq_lastDigits room fits',
    lastDigits_append_lt_iff fits fits']

/-- A number that needs the whole width is not padded. -/
theorem padded_of_full {width n : Nat} (full : 10 ^ width ≤ n)
    : padded (width + 1) n = Nat.toDigits 10 n := by
  have long : width < (Nat.toDigits 10 n).length := by
    cases width with
    | zero => exact Nat.length_toDigits_pos
    | succ width =>
      have short := Nat.length_toDigits_le_iff (b := 10) (n := n) (by decide) (Nat.succ_pos width)
      exact Nat.lt_of_not_le fun le => absurd (short.1 le) (Nat.not_lt_of_le full)
  have none : width + 1 - (Nat.toDigits 10 n).length = 0 := Nat.sub_eq_zero_of_le long
  simp [padded, none]

end Calendar

end DocGateway
