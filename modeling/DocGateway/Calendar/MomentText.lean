import DocGateway.Calendar.Moment
import DocGateway.Calendar.DateText

/-!
Reading moments from text: a day, a separator, a time of day and an optional offset.
-/

namespace DocGateway.Moment

/-- Reads `:` and two digits if they follow, else nothing. -/
def takePart (cs : List Char) : Nat × List Char :=
  match cs with
  | ':' :: rest =>
    match Date.takeDigits? 2 rest with
    | some (n, rest) => (n, rest)
    | none => (0, cs)
  | _ => (0, cs)

/-- Reads a fraction of a second to the microsecond, cutting further digits. -/
def takeFraction (cs : List Char) : Nat × List Char :=
  match cs with
  | '.' :: rest =>
    let digits := rest.takeWhile Char.isDigit
    let six := digits.take 6 ++ List.replicate (6 - digits.length) '0'
    (six.foldl (fun n c => 10 * n + (c.toNat - 0x30)) 0, rest.dropWhile Char.isDigit)
  | _ => (0, cs)

/-- Reads a time of day as its microseconds. -/
def takeTime? (cs : List Char) : Option (Nat × List Char) := do
  let (hour, rest) ← Date.takeDigits? 2 cs
  let (minute, rest) := takePart rest
  let (second, rest) := takePart rest
  let (micros, rest) := takeFraction rest
  return (((hour * 60 + minute) * 60 + second) * microsPerSecond + micros, rest)

/-- Reads an offset at the end of a text. -/
def readOffset? : List Char → Option (Option Int)
  | [] => some none
  | ['Z'] => some (some 0)
  | sign :: cs => do
    let (n, rest) ← takeTime? cs
    if !rest.isEmpty then none
    else if sign = '+' then some (some n)
    else if sign = '-' then some (some (-(n : Int)))
    else none

/-- Reads a moment that fills the text. -/
def read? (cs : List Char) : Option Moment := do
  let date ← Date.read? (cs.take 10)
  match cs.drop 10 with
  | [] => ofMicros? (((date.ordinal : Int) - 1) * microsPerDay) none
  | _ :: rest =>
    let (n, rest) ← takeTime? rest
    let offset ← readOffset? rest
    ofMicros? (((date.ordinal : Int) - 1) * microsPerDay + n) offset

end DocGateway.Moment
