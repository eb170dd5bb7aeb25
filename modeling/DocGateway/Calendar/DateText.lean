import DocGateway.Calendar.Date
import DocGateway.Text.Blank

/-!
Reading calendar days from text.

Two spellings are read, each with or without separators: year, month and day, and year, week and
day of the week. Only the first ten characters after leading blanks are looked at, and of those
whatever stands after the day is ignored.
-/

namespace DocGateway.Date

/-- Reads exactly `count` ASCII digits from the front. -/
def takeDigits? : Nat → List Char → Option (Nat × List Char)
  | count, cs => go count 0 cs
where
  go : Nat → Nat → List Char → Option (Nat × List Char)
    | 0, n, cs => some (n, cs)
    | _ + 1, _, [] => none
    | k + 1, n, c :: cs => if c.isDigit then go k (10 * n + (c.toNat - 0x30)) cs else none

/-- Reads the separator, which the rest of the text must carry too. -/
def dropSeparator? (separated : Bool) (cs : List Char) : Option (List Char) :=
  if separated then
    match cs with
    | '-' :: rest => some rest
    | _ => none
  else some cs

/-- The day number of the Monday that starts week 1, the week with the year's first Thursday. -/
def firstMonday (year : Nat) : Int :=
  let start : Date := ⟨year, 1, 1⟩
  let firstWeekday := start.weekday - 1
  let monday : Int := start.ordinal - firstWeekday
  if firstWeekday > 3 then monday + 7 else monday

/-- Whether a year has 53 weeks. -/
def hasLongYear (year : Nat) : Bool :=
  let w := (⟨year, 1, 1⟩ : Date).weekday
  w = 4 || (w = 3 && Calendar.isLeap year)

/-- The day given by year, week and day of the week. -/
def ofWeek? (year week weekday : Nat) : Option Date :=
  if 1 ≤ year ∧ year ≤ Calendar.maxYear ∧ 1 ≤ week ∧ (week ≤ 52 ∨ (week = 53 ∧ hasLongYear year))
      ∧ 1 ≤ weekday ∧ weekday ≤ 7 then
    ofOrdinal? (firstMonday year + 7 * (week - 1) + (weekday - 1))
  else none

/-- Reads week and day of the week; without a day the week's Monday is meant. -/
def readWeek? (year : Nat) (separated : Bool) (cs : List Char) : Option Date := do
  let (week, rest) ← takeDigits? 2 cs
  match rest with
  | [] => ofWeek? year week 1
  | _ =>
    let rest ← dropSeparator? separated rest
    let (weekday, _) ← takeDigits? 1 rest
    ofWeek? year week weekday

/-- Reads month and day. -/
def readMonth? (year : Nat) (separated : Bool) (cs : List Char) : Option Date := do
  let (month, rest) ← takeDigits? 2 cs
  let rest ← dropSeparator? separated rest
  let (day, _) ← takeDigits? 2 rest
  of? year month day

/-- Reads a day from a text of 7, 8 or 10 bytes. -/
def read? (cs : List Char) : Option Date := do
  let size := (String.ofList cs).utf8ByteSize
  if size = 7 ∨ size = 8 ∨ size = 10 then
    let (year, rest) ← takeDigits? 4 cs
    let separated := rest.head? == some '-'
    let rest := if separated then rest.drop 1 else rest
    match rest with
    | 'W' :: rest => readWeek? year separated rest
    | _ => readMonth? year separated rest
  else none

/-- Reads the day that a text starts with, after leading blanks. -/
def readPrefix? (s : String) : Option Date :=
  read? ((Text.trim s.toList).take 10)

end DocGateway.Date
