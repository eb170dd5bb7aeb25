import DocGateway.Number.Shortest

/-!
Decimal text of binary64 numbers with a chosen count of digits.

The exact value is rounded once, half to even. A number is written with a fixed count of decimals,
with an exponent, or in whichever of these two ways suits its size. Magnitudes are counted in units
of `2 ^ (-1074)`, of which every finite number is a whole multiple.
-/

namespace DocGateway.Rounded

/-- How digits are written. -/
inductive Style where
  /-- All digits before the point and a count of them after it. -/
  | fixed
  /-- One digit before the point, a count of them after it, and an exponent. -/
  | exponent
  /-- A count of digits in all, zeros at the end left out, with an exponent if the number is large
  or small. -/
  | general
deriving DecidableEq, Inhabited

/-- The digits before and after a point, which is left out if nothing follows unless it is kept. -/
def pointed (keepPoint : Bool) (whole places : List Char) : List Char :=
  whole ++ (if places.isEmpty && !keepPoint then [] else '.' :: places)

/-- The exponent part, its number at least two digits long. -/
def exponentPart (power : Int) : List Char :=
  let digits := Layout.padLeft Layout.standard.exponentDigits '0' (Decimal.digitChars power.natAbs)
  'e' :: (if power < 0 then '-' else '+') :: digits

/-- A magnitude with a count of decimals. -/
def fixed (magnitude places : Nat) (keepPoint : Bool) : List Char :=
  let n := roundHalfEven (magnitude * Nat.pow 10 places) Binary64.unit
  let digits := Layout.padLeft (places + 1) '0' (Decimal.digitChars n)
  let whole := digits.length - places
  pointed keepPoint (digits.take whole) (digits.drop whole)

/-- The first digits of a magnitude, rounded, and the power of ten that the first one counts. A
carry moves the power up. -/
def leading (magnitude count : Nat) : List Char × Int :=
  if magnitude = 0 then (List.replicate count '0', 0)
  else
    let power := Decimal.pointOf (4 * magnitude) - 1
    let shift : Int := count - 1 - power
    let n := roundHalfEven (magnitude * Nat.pow 10 shift.toNat)
      (Binary64.unit * Nat.pow 10 (-shift).toNat)
    let digits := Decimal.digitChars n
    (digits.take count, power + ((digits.length : Int) - count))

/-- A magnitude with a count of decimals and an exponent. -/
def exponent (magnitude places : Nat) (keepPoint : Bool) : List Char :=
  let (digits, power) := leading magnitude (places + 1)
  pointed keepPoint (digits.take 1) (digits.drop 1) ++ exponentPart power

/-- The smallest power of ten that the general style writes without an exponent. -/
def smallestPower : Int := -4

/-- A magnitude with a count of digits in all; zeros at the end are kept along with the point. -/
def general (magnitude precision : Nat) (keepPoint : Bool) : List Char :=
  let count := max precision 1
  let (digits, power) := leading magnitude count
  let digits :=
    if keepPoint then digits else (digits.reverse.dropWhile (· == '0')).reverse
  if smallestPower ≤ power ∧ power < count then
    if power < 0 then
      pointed keepPoint ['0'] (List.replicate (-power - 1).toNat '0' ++ digits)
    else
      let n := power.toNat + 1
      pointed keepPoint (digits.take n ++ List.replicate (n - digits.length) '0') (digits.drop n)
  else pointed keepPoint (digits.take 1) (digits.drop 1) ++ exponentPart power

/-- A magnitude in a style. -/
def write (style : Style) (magnitude precision : Nat) (keepPoint : Bool) : List Char :=
  match style with
  | .fixed => fixed magnitude precision keepPoint
  | .exponent => exponent magnitude precision keepPoint
  | .general => general magnitude precision keepPoint

end DocGateway.Rounded

namespace DocGateway.Binary64

/-- Whether a number carries a minus sign, and the text of its size in a style. -/
def rounded (x : Binary64) (style : Rounded.Style) (precision : Nat) (keepPoint : Bool)
    : Bool × List Char :=
  match x with
  | nan => (false, ['n', 'a', 'n'])
  | infinite negative => (negative, ['i', 'n', 'f'])
  | finite negative m s => (negative, Rounded.write style (m * Nat.pow 2 s) precision keepPoint)

end DocGateway.Binary64
