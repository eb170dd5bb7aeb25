/-!
Binary64 numbers as exact dyadic fractions.

A finite number is a whole multiple of `2 ^ (-1074)`, so two finite numbers are compared as
integers (`scaled?`) and an exact ratio is rounded to a number once, half to even (`ofRatio`).
-/

namespace DocGateway

/-- A binary64 number; `finite` stands for `± significand * 2 ^ shift / 2 ^ 1074`. -/
inductive Binary64 where
  | nan
  | infinite (negative : Bool)
  | finite (negative : Bool) (significand shift : Nat)
deriving DecidableEq, Inhabited

/-- The quotient rounded to the nearest integer, a half to the even neighbour. -/
def roundHalfEven (num den : Nat) : Nat :=
  let q := num / den
  let r := num % den
  if 2 * r < den then q
  else if den < 2 * r then q + 1
  else if q % 2 = 0 then q else q + 1

namespace Binary64

/-- Every finite number is a multiple of `1 / unit`. -/
def unit : Nat := Nat.pow 2 1074

/-- The power of two at the top of a positive ratio: `2 ^ e ≤ num / den < 2 ^ (e + 1)`. -/
def leadingPower (num den : Nat) : Int :=
  let guess : Int := (num.log2 : Int) - den.log2
  let reached : Bool :=
    if 0 ≤ guess then den * Nat.pow 2 guess.toNat ≤ num
    else den ≤ num * Nat.pow 2 (-guess).toNat
  if reached then guess else guess - 1

/-- The number nearest to `num / den`, a tie going to the even significand. -/
def ofRatio (negative : Bool) (num den : Nat) : Binary64 :=
  if num = 0 then finite negative 0 0
  else
    let shift := (leadingPower num den - 52 + 1074).toNat
    let significand := roundHalfEven (num * unit) (den * Nat.pow 2 shift)
    let carried := significand = Nat.pow 2 53
    let shift := if carried then shift + 1 else shift
    let significand := if carried then Nat.pow 2 52 else significand
    if 2045 < shift then infinite negative else finite negative significand shift

/-- Powers of ten beyond this one, either way, leave nothing between zero and infinity. -/
def extremePower : Nat := 400

/-- The number nearest to `digits * 10 ^ power`. -/
def ofDecimal (negative : Bool) (digits : Nat) (power : Int) : Binary64 :=
  if digits = 0 || power < -(extremePower + digits.log2 : Int) then finite negative 0 0
  else if extremePower < power then infinite negative
  else if 0 ≤ power then ofRatio negative (digits * Nat.pow 10 power.toNat) 1
  else ofRatio negative digits (Nat.pow 10 (-power).toNat)

/-- The value in units of `2 ^ (-1074)`, for a finite number. -/
def scaled? : Binary64 → Option Int
  | finite negative m s =>
    some (if negative then -((m * Nat.pow 2 s : Nat) : Int) else (m * Nat.pow 2 s : Nat))
  | _ => none

/-- Equality of values: `nan` differs from everything and both zeros agree. -/
def equals : Binary64 → Binary64 → Bool
  | infinite a, infinite b => a == b
  | x, y =>
    match x.scaled?, y.scaled? with
    | some a, some b => a == b
    | _, _ => false

/-- Equality with an integer. -/
def equalsInt (x : Binary64) (n : Int) : Bool :=
  match x.scaled? with
  | some a => a == n * unit
  | none => false

/-- The order of values; `nan` is below nothing and above nothing. -/
def below : Binary64 → Binary64 → Bool
  | nan, _ => false
  | _, nan => false
  | infinite a, infinite b => a && !b
  | infinite a, finite .. => a
  | finite .., infinite b => !b
  | x, y =>
    match x.scaled?, y.scaled? with
    | some a, some b => decide (a < b)
    | _, _ => false

/-- The order of integers among numbers. -/
def belowInt (x : Binary64) (n : Int) : Bool :=
  match x with
  | infinite negative => negative
  | _ => match x.scaled? with
    | some a => decide (a < n * unit)
    | none => false

/-- The order of numbers among integers. -/
def aboveInt (x : Binary64) (n : Int) : Bool :=
  match x with
  | infinite negative => !negative
  | _ => match x.scaled? with
    | some a => decide (n * unit < a)
    | none => false

def isZero : Binary64 → Bool
  | finite _ m _ => m == 0
  | _ => false

/-- The integer part, cut toward zero, of a finite number. -/
def truncate? (x : Binary64) : Option Int :=
  x.scaled?.map (Int.tdiv · unit)

/-- The part after the point, with the number's sign. -/
def fraction : Binary64 → Binary64
  | finite negative m s => ofRatio negative (m * Nat.pow 2 s % unit) unit
  | _ => finite false 0 0

/-- The product with a natural number, rounded once. -/
def scale (x : Binary64) (n : Nat) : Binary64 :=
  match x with
  | finite negative m s => ofRatio negative (m * Nat.pow 2 s * n) unit
  | other => other

/-- The nearest integer, a half to the even neighbour, of a finite number. -/
def nearestInt? : Binary64 → Option Int
  | finite negative m s =>
    let n : Int := roundHalfEven (m * Nat.pow 2 s) unit
    some (if negative then -n else n)
  | _ => none

end Binary64

end DocGateway
