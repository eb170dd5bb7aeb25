import DocGateway.Calendar.Date

/-!
Moments: a calendar day with a time of day and, if known, an offset from UTC.

A moment's local reading is a count of microseconds (`localMicros`); its instant is that count less
the offset, and a moment without an offset is read as UTC (`instant`).
-/

namespace DocGateway

/-- A day and a time of day to the microsecond; the offset from UTC is in microseconds. -/
structure Moment where
  date : Date
  hour : Nat
  minute : Nat
  second : Nat
  microsecond : Nat
  offset : Option Int
deriving DecidableEq, Inhabited

namespace Moment

open Calendar

def microsPerSecond : Nat := 1000000

def microsPerDay : Nat := 86400 * microsPerSecond

/-- The microseconds of the time of day. -/
def timeOfDay (m : Moment) : Nat :=
  ((m.hour * 60 + m.minute) * 60 + m.second) * microsPerSecond + m.microsecond

/-- Microseconds of the local reading since the start of day 1. -/
def localMicros (m : Moment) : Int :=
  ((m.date.ordinal : Int) - 1) * microsPerDay + m.timeOfDay

/-- Microseconds of the instant in UTC since the start of day 1. -/
def instant (m : Moment) : Int :=
  m.localMicros - m.offset.getD 0

/-- Whether day, time and offset are in range. -/
def Valid (m : Moment) : Prop :=
  m.date.Valid ∧ m.hour < 24 ∧ m.minute < 60 ∧ m.second < 60 ∧ m.microsecond < microsPerSecond ∧
    ∀ o ∈ m.offset, -(microsPerDay : Int) < o ∧ o < microsPerDay

instance (m : Moment) : Decidable m.Valid := by unfold Valid; infer_instance

/-- The moment whose local reading is a count of microseconds, if the calendar has its day. -/
def ofMicros? (n : Int) (offset : Option Int) : Option Moment := do
  let day := n.fdiv microsPerDay
  let rest := (n.fmod microsPerDay).toNat
  let date ← Date.ofOrdinal? (day + 1)
  let seconds := rest / microsPerSecond
  return {
    date := date
    hour := seconds / 3600
    minute := seconds / 60 % 60
    second := seconds % 60
    microsecond := rest % microsPerSecond
    offset := offset }

/-- The same instant read in UTC, if the calendar has its day; without an offset nothing changes. -/
def toUtc? (m : Moment) : Option Moment :=
  match m.offset with
  | none => some m
  | some _ => ofMicros? m.instant (some 0)

/-- The moment some microseconds later on the local clock, if the calendar has its day. -/
def addMicros? (m : Moment) (n : Int) : Option Moment :=
  ofMicros? (m.localMicros + n) m.offset

/-- A moment without an offset taken as UTC. -/
def assumeUtc (m : Moment) : Moment :=
  match m.offset with
  | none => { m with offset := some 0 }
  | some _ => m

/-- Equality of moments: with offsets the instants count, and one offset alone tells them apart. -/
def equals (a b : Moment) : Bool :=
  match a.offset, b.offset with
  | none, none => a.localMicros == b.localMicros
  | some _, some _ => a.instant == b.instant
  | _, _ => false

/-- The written form of a time, seconds included and a fraction only if there is one. -/
def timeChars (hour minute second microsecond : Nat) : List Char :=
  padded 2 hour ++ ':' :: (padded 2 minute ++ ':' :: (padded 2 second ++
    if microsecond = 0 then [] else '.' :: padded 6 microsecond))

/-- The written form of an offset, seconds and fraction only if there are any. -/
def offsetChars (offset : Int) : List Char :=
  let n := offset.natAbs
  let seconds := n / microsPerSecond
  let micros := n % microsPerSecond
  (if offset < 0 then '-' else '+') ::
    (padded 2 (seconds / 3600) ++ ':' :: (padded 2 (seconds / 60 % 60) ++
      if seconds % 60 = 0 ∧ micros = 0 then []
      else ':' :: (padded 2 (seconds % 60) ++
        if micros = 0 then [] else '.' :: padded 6 micros)))

/-- The written form `YYYY-MM-DDTHH:MM:SS`, with another separator if wanted. -/
def chars (m : Moment) (separator : Char) : List Char :=
  m.date.chars ++ separator :: (timeChars m.hour m.minute m.second m.microsecond ++
    (m.offset.map offsetChars).getD [])

def text (m : Moment) : String := String.ofList (m.chars 'T')

def spacedText (m : Moment) : String := String.ofList (m.chars ' ')

/-- The stamp of a moment's own reading: milliseconds cut short, the year without padding. -/
def stampChars (m : Moment) : List Char :=
  Nat.toDigits 10 m.date.year ++ '-' :: (padded 2 m.date.month ++ '-' :: (padded 2 m.date.day ++
    'T' :: (timeChars m.hour m.minute m.second 0 ++
      '.' :: (padded 3 (m.microsecond / 1000) ++ ['Z']))))

/-- The stamp of an instant in UTC; `none` if the calendar does not have its day there. -/
def stamp? (m : Moment) : Option String :=
  m.toUtc?.map fun u => String.ofList u.stampChars

end Moment

end DocGateway
