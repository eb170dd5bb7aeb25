/-!
Days of the proleptic Gregorian calendar, years 1 to 9999.

A day is also a number, counted from day 1 on 0001-01-01 (`ordinal`), which turns shifts of a day
into integer arithmetic.
-/

namespace DocGateway

namespace Calendar

def isLeap (year : Nat) : Bool :=
  year % 4 = 0 && (year % 100 ≠ 0 || year % 400 = 0)

def daysInMonth (year month : Nat) : Nat :=
  if month = 2 then (if isLeap year then 29 else 28)
  else if month = 4 ∨ month = 6 ∨ month = 9 ∨ month = 11 then 30
  else 31

/-- The days of all years before the given one. -/
def daysBeforeYear (year : Nat) : Nat :=
  let y := year - 1
  365 * y + y / 4 - y / 100 + y / 400

/-- The days of the year's months before the given one. -/
def daysBeforeMonth (year : Nat) : Nat → Nat
  | 0 => 0
  | 1 => 0
  | month + 1 => daysBeforeMonth year month + daysInMonth year month

def maxYear : Nat := 9999

end Calendar

/-- A calendar day. -/
structure Date where
  year : Nat
  month : Nat
  day : Nat
deriving DecidableEq, Inhabited

namespace Date

open Calendar

/-- Whether year, month and day name a day of the calendar. -/
def Valid (d : Date) : Prop :=
  1 ≤ d.year ∧ d.year ≤ maxYear ∧ 1 ≤ d.month ∧ d.month ≤ 12 ∧
    1 ≤ d.day ∧ d.day ≤ daysInMonth d.year d.month

instance (d : Date) : Decidable d.Valid := by unfold Valid; infer_instance

/-- The day named by year, month and day, if there is one. -/
def of? (year month day : Nat) : Option Date :=
  let d : Date := ⟨year, month, day⟩
  if d.Valid then some d else none

/-- The number of the day, 0001-01-01 being day 1. -/
def ordinal (d : Date) : Nat :=
  daysBeforeYear d.year + daysBeforeMonth d.year d.month + d.day

/-- The number of 9999-12-31. -/
def maxOrdinal : Nat := 3652059

/-- The year of a day number: the estimate is never too late and at most one year early. -/
def yearOfOrdinal (n : Nat) : Nat :=
  let z := n - 1
  let era := z / 146097
  let r := z % 146097
  let century := min (r / 36524) 3
  let r := r % 146097 - century * 36524
  let quad := r / 1461
  let r := r % 1461
  let y := min (r / 365) 3
  400 * era + 100 * century + 4 * quad + y + 1

/-- The month that a day of the year falls in, searching forward from `month`. -/
def monthFrom (year dayOfYear : Nat) : Nat → Nat → Nat
  | 0, month => month
  | fuel + 1, month =>
    if dayOfYear ≤ daysBeforeMonth year (month + 1) then month
    else monthFrom year dayOfYear fuel (month + 1)

/-- The day with the given number, which must be between 1 and `maxOrdinal`. -/
def ofOrdinal (n : Nat) : Date :=
  let year := yearOfOrdinal n
  let dayOfYear := n - daysBeforeYear year
  let month := monthFrom year dayOfYear 11 1
  ⟨year, month, dayOfYear - daysBeforeMonth year month⟩

/-- The day with the given number, if the calendar has it. -/
def ofOrdinal? (n : Int) : Option Date :=
  if 1 ≤ n ∧ n ≤ maxOrdinal then some (ofOrdinal n.toNat) else none

/-- The day `days` later, or earlier for a negative count, if the calendar has it. -/
def addDays? (d : Date) (days : Int) : Option Date :=
  ofOrdinal? (d.ordinal + days)

/-- The day of the week, Monday being 1 and Sunday 7. -/
def weekday (d : Date) : Nat := (d.ordinal + 6) % 7 + 1

end Date

namespace Calendar

/-- A number in decimal, with zeros put in front up to the width. -/
def padded (width n : Nat) : List Char :=
  let digits := Nat.toDigits 10 n
  List.replicate (width - digits.length) '0' ++ digits

end Calendar

/-- The written form `YYYY-MM-DD`. -/
def Date.chars (d : Date) : List Char :=
  Calendar.padded 4 d.year ++ '-' :: (Calendar.padded 2 d.month ++ '-' :: Calendar.padded 2 d.day)

def Date.text (d : Date) : String := String.ofList d.chars

end DocGateway
