import DocGateway.Number.Binary64

/-!
Decimal text of binary64 numbers.

The digits are the fewest that read back as the same number and, of those, the nearest
(`shortest`); `Layout` says how digits and decimal point are written down.
-/

namespace DocGateway

/-- A positive decimal `0.d₁d₂… * 10 ^ point`, held as the integer of its digits. -/
structure Decimal where
  digits : Nat
  point : Int
deriving DecidableEq, Inhabited

namespace Decimal

/-- The decimal digits of a natural number, most significant first. -/
def digitChars (n : Nat) : List Char := Nat.toDigits 10 n

/-- The reals that read back as one number, in units of `2 ^ (-1076)`. -/
structure Interval where
  low : Nat
  value : Nat
  high : Nat
  closed : Bool

/-- Halfway to both neighbours; the lower one is closer when the significand is a power of two. -/
def Interval.of (significand shift : Nat) : Interval :=
  let step := Nat.pow 2 shift
  let gap := if significand = Nat.pow 2 52 ∧ 0 < shift then step else 2 * step
  { low := 4 * significand * step - gap
    value := 4 * significand * step
    high := 4 * significand * step + 2 * step
    closed := significand % 2 = 0 }

def Interval.contains (i : Interval) (x scale : Nat) : Bool :=
  if i.closed then i.low * scale ≤ x && x ≤ i.high * scale
  else i.low * scale < x && x < i.high * scale

/-- The units that `Interval` counts in. -/
def quarterUnit : Nat := 4 * Binary64.unit

/-- The count of digits before the point of `value / quarterUnit`, negative for leading zeros. -/
def pointOf (value : Nat) : Int :=
  if quarterUnit ≤ value then ((digitChars (value / quarterUnit)).length : Int)
  else 1 - ((digitChars ((quarterUnit + value - 1) / value - 1)).length : Int)

/-- The nearer of the value's two neighbours on the grid of `count` digits, if one reads back. -/
def onGrid? (i : Interval) (point : Int) (count : Nat) : Option Decimal :=
  let power := point - count
  let up := Nat.pow 10 power.toNat
  let down := Nat.pow 10 (-power).toNat
  -- a grid point is `n * up / down`; everything below is multiplied by `down`
  let size := up * quarterUnit
  let lower := i.value * down / size
  let upper := lower + 1
  let far := upper * size - i.value * down
  let near := i.value * down - lower * size
  let lowerIn := 0 < lower && i.contains (lower * size) down
  let upperIn := i.contains (upper * size) down
  let preferUpper := far < near || (far = near && lower % 2 = 1)
  if lowerIn && upperIn then some ⟨if preferUpper then upper else lower, point⟩
  else if lowerIn then some ⟨lower, point⟩
  else if upperIn then some ⟨upper, point⟩
  else none

/-- Drops trailing zeros, which the fewest digits never have but a carry may leave. -/
def normalize (count : Nat) (d : Decimal) : List Char × Int :=
  let cs := digitChars d.digits
  let point := d.point + ((cs.length : Int) - count)
  (((cs.reverse.dropWhile (· == '0')).reverse), point)

/-- The fewest digits that read back, with the place of the point before the first digit. -/
def shortest (significand shift : Nat) : List Char × Int :=
  let i := Interval.of significand shift
  let point := pointOf i.value
  let rec search : Nat → Nat → List Char × Int
    | 0, _ => (['0'], 1)
    | fuel + 1, count =>
      match onGrid? i point count with
      | some d => normalize count d
      | none => search fuel (count + 1)
  search 17 1

end Decimal

/-- How digits are laid out as text. -/
structure Layout where
  /-- Numbers from `10 ^ smallest` on are written with a plain point. -/
  smallest : Int
  /-- Numbers below `10 ^ largest` are written with a plain point. -/
  largest : Int
  /-- The least count of digits in an exponent. -/
  exponentDigits : Nat

namespace Layout

/-- A plain point from 0.0001 up to below 10 ^ 16, else an exponent of two digits or more. -/
def standard : Layout := ⟨-4, 16, 2⟩

def padLeft (width : Nat) (c : Char) (cs : List Char) : List Char :=
  List.replicate (width - cs.length) c ++ cs

/-- Digits `d₁d₂…` standing for `0.d₁d₂… * 10 ^ point`. -/
def write (l : Layout) (digits : List Char) (point : Int) : List Char :=
  if l.smallest < point ∧ point ≤ l.largest then
    if point ≤ 0 then
      '0' :: '.' :: (List.replicate (-point).toNat '0' ++ digits)
    else
      let n := point.toNat
      let whole := digits.take n ++ List.replicate (n - digits.length) '0'
      let rest := digits.drop n
      whole ++ '.' :: (if rest.isEmpty then ['0'] else rest)
  else
    let e := point - 1
    let lead := digits.take 1
    let rest := digits.drop 1
    let exponent := padLeft l.exponentDigits '0' (Decimal.digitChars e.natAbs)
    lead ++ (if rest.isEmpty then [] else '.' :: rest)
      ++ 'e' :: (if e < 0 then '-' else '+') :: exponent

end Layout

/-- The text of a number in the standard layout. -/
def Binary64.text (x : Binary64) : String :=
  let signed (negative : Bool) (cs : List Char) : String :=
    String.ofList (if negative then '-' :: cs else cs)
  match x with
  | .nan => "nan"
  | .infinite negative => signed negative ['i', 'n', 'f']
  | .finite negative 0 _ => signed negative ['0', '.', '0']
  | .finite negative m s =>
    let (digits, point) := Decimal.shortest m s
    signed negative (Layout.standard.write digits point)

end DocGateway
