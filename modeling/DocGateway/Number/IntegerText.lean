import DocGateway.Text.Blank
import DocGateway.Text.Digit

/-!
Reading integers from text.

The written form is an optional sign and at most 4300 decimal digits of any script, with single
underscores between digits allowed and blanks allowed around the whole.
-/

namespace DocGateway.IntegerText

/-- The longest run of digits that is read. -/
def maxDigits : Nat := 4300

/-- The blanks that may frame a number: the separators below space do not count. -/
def isFramingBlank (c : Char) : Bool :=
  let n := c.toNat
  (9 ≤ n && n ≤ 13) || n == 0x20 || (0x80 ≤ n && Text.isBlank c)

/-- The values of digits, a single underscore being allowed after any digit but the last. -/
def digitValues? : List Char → Option (List Nat)
  | [] => none
  | [c] => (Text.digitValue? c).map ([·])
  | c :: '_' :: rest => do
    let d ← Text.digitValue? c
    let ds ← digitValues? rest
    return d :: ds
  | c :: rest => do
    let d ← Text.digitValue? c
    let ds ← digitValues? rest
    return d :: ds

/-- The number that decimal digits stand for. -/
def ofDigits (ds : List Nat) : Nat := ds.foldl (fun n d => 10 * n + d) 0

/-- Reads unsigned digits within the length limit. -/
def magnitude? (cs : List Char) : Option Nat := do
  let ds ← digitValues? cs
  if ds.length ≤ maxDigits then some (ofDigits ds) else none

/-- Reads an integer; `none` if the text does not have the written form. -/
def read? (cs : List Char) : Option Int :=
  match Text.trimBy isFramingBlank cs with
  | '-' :: rest => (magnitude? rest).map fun n => -(n : Int)
  | '+' :: rest => (magnitude? rest).map fun n => (n : Int)
  | rest => (magnitude? rest).map fun n => (n : Int)

/-- Reads an integer from bytes, which must be ASCII. -/
def readBytes? (bs : List UInt8) : Option Int :=
  if bs.all (·.toNat < 0x80) then read? (bs.map fun b => Char.ofNat b.toNat) else none

/-- The usual decimal text of an integer. -/
def write (n : Int) : String := toString n

end DocGateway.IntegerText
