import DocGateway.Calendar.DateText
import DocGateway.Value.Basic

/-!
Calendar arithmetic on values that are days or moments.
-/

namespace DocGateway.Value

/-- The written form of a day or moment. -/
def dayText : Value → Except Misuse String
  | date d => .ok d.text
  | moment m => .ok m.text
  | _ => .error .noSuchMember

/-- The stamp of a moment in UTC. -/
def stamp : Value → Except Misuse String
  | moment m =>
    match m.stamp? with
    | some s => .ok s
    | none => .error .outOfRange
  | _ => .error .noSuchMember

/-- The longest span in days. -/
def maxSpanDays : Nat := 999999999

/-- A span of microseconds, if it is not too long. -/
def spanWithin (micros : Int) : Except Misuse Int :=
  if (micros.fdiv Moment.microsPerDay).natAbs ≤ maxSpanDays then .ok micros
  else .error .outOfRange

/-- A number of days as a span of microseconds; a part of a day is rounded to a microsecond. -/
def daySpan : Value → Except Misuse Int
  | bool b => .ok (if b then Moment.microsPerDay else 0)
  | int n => spanWithin (n * Moment.microsPerDay)
  | float x =>
    match x, x.truncate?, (x.fraction.scale Moment.microsPerDay).nearestInt? with
    | .nan, _, _ => .error .wrongValue
    | _, some days, some part => spanWithin (days * Moment.microsPerDay + part)
    | _, _, _ => .error .outOfRange
  | _ => .error .wrongKind

/-- The day or moment some days later; a day moves by whole days, rounded down. -/
def shiftDays (v days : Value) : Except Misuse Value := do
  let span ← daySpan days
  match v with
  | date d =>
    match d.addDays? (span.fdiv Moment.microsPerDay) with
    | some e => .ok (date e)
    | none => .error .outOfRange
  | moment m =>
    match m.addMicros? span with
    | some n => .ok (moment n)
    | none => .error .outOfRange
  | _ => .error .wrongKind

end DocGateway.Value
