import DocGateway.Number.Binary64
import Mathlib.Data.Int.Init

/-!
Whole numbers among binary64 numbers.

A finite number equals an integer if it is as many units as the integer is, so it equals at most one
integer, and its integer part is this one.
-/

namespace DocGateway.Binary64

variable {x : Binary64} {m n : Int}

theorem unit_pos : 0 < unit := by
  -- The power is not to be computed.
  unfold unit
  generalize 1074 = exponent
  exact Nat.two_pow_pos exponent

theorem unit_ne_zero : (unit : Int) ≠ 0 := Int.ofNat_ne_zero.2 (Nat.ne_of_gt unit_pos)

theorem mul_unit_inj : m * unit = n * unit ↔ m = n := Int.mul_eq_mul_right_iff unit_ne_zero

theorem equalsInt_iff : x.equalsInt n = true ↔ x.scaled? = some (n * unit) := by
  unfold equalsInt
  cases x.scaled? with
  | none => exact ⟨nofun, nofun⟩
  | some a => exact beq_iff_eq.trans Option.some_inj.symm

/-- The integer part of a number that equals an integer is this integer. -/
theorem truncate?_of_equalsInt (whole : x.equalsInt n = true) : x.truncate? = some n := by
  rw [truncate?, equalsInt_iff.1 whole, Option.map_some, Int.mul_tdiv_cancel n unit_ne_zero]

end DocGateway.Binary64
