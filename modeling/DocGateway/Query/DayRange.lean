import DocGateway.Failure
import DocGateway.Query.Basic
import DocGateway.Validation.Checked
import DocGateway.Value.Day

/-!
Ranges of one calendar day on a field that holds time stamps as text.

Stamps start with their day and are ordered as text, so the stamps of a day are those at or after
the day's text and before the next day's text.
-/

namespace DocGateway

/-- The texts at or after `start` and before `stop`. -/
structure DayRange where
  field : String
  start : String
  stop : String
deriving DecidableEq, Inhabited

namespace DayRange

/-- The range of one day, if the calendar has a next one. -/
def of? (field : String) (day : Date) : Option DayRange :=
  (day.addDays? 1).map fun next => ⟨field, day.text, next.text⟩

def toQuery (r : DayRange) : Query :=
  .field r.field (.within r.start r.stop)

/-- The query for everything outside the range. -/
def toNegatedQuery (r : DayRange) : Query :=
  .any [.field r.field (.compare .less (.text r.start)),
        .field r.field (.compare .atLeast (.text r.stop))]

/-- The range of the day of a value on a field that is still to be read. -/
def ofValues (field day : Value) : Except Failure DayRange := do
  let start ← day.dayText.mapError Failure.misuse
  let next ← (day.shiftDays (.int 1)).mapError Failure.misuse
  let stop ← next.dayText.mapError Failure.misuse
  match (Reader.text field).within "field" with
  | .ok name => return ⟨name, start, stop⟩
  | .bad ps => throw (.invalid ps)

/-- Reads a range from the entries of a mapping. -/
def read (es : List (Value × Value)) : Checked DayRange :=
  DayRange.mk
    <$> Reader.required (.plain "field") Reader.text es
    <*> Reader.required (.plain "gte") Reader.text es
    <*> Reader.required (.plain "lt") Reader.text es

end DayRange

end DocGateway
