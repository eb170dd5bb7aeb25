import DocGateway.Calendar.DateText
import DocGateway.Clock
import DocGateway.Filter.Fault
import DocGateway.Filter.Operator
import DocGateway.Identity
import DocGateway.Number.IntegerText

/-!
Macros and dates in filter leaves.

The day macro and the date operators stand for days counted from the clock's current day, the user
macro for every id of the caller.
-/

namespace DocGateway.Filter

/-- The operand of a leaf as a whole number of days. -/
def dayCount (l : Leaf) : Except Fault Int :=
  let number (n? : Option Int) : Except Fault Int :=
    match n? with
    | some n => .ok n
    | none => .error (.daysNotNumber l)
  match l.value with
  | .int n => .ok n
  | .float .nan => .error (.daysNotNumber l)
  | .float x =>
    match x.truncate? with
    | some n => if x.equalsInt n then .ok n else .error (.daysNotWhole l)
    | none => .error (.misuse .outOfRange)
  | .text s => number (IntegerText.read? s.toList)
  | .bytes bs => number (IntegerText.readBytes? bs)
  | _ => .error (.daysNotNumber l)

/-- The current day of a clock. -/
def currentDay (clock : Clock) : Except Fault Date := clock.today.mapError Fault.misuse

/-- The text of a day some days later. -/
def dayAfter (day : Date) (days : Int) : Except Fault String :=
  match day.addDays? days with
  | some d => .ok d.text
  | none => .error (.misuse .outOfRange)

/-- The operand of a leaf with the day macros replaced. The clock is read before the count of days,
and only where a macro asks for it. -/
def resolveDay (l : Leaf) (clock : Clock) : Except Fault Value :=
  match l.dateOperator with
  | some "" | none =>
    if l.value.same (.text todayMacro) then (currentDay clock).map fun d => .text d.text
    else .ok l.value
  | some w =>
    match DateOperator.ofWord? w with
    | some .today => (currentDay clock).map fun d => .text d.text
    | some .daysFromNow => do
      let day ← currentDay clock
      let days ← dayCount l
      return .text (← dayAfter day days)
    | some .daysAgo => do
      let day ← currentDay clock
      let days ← dayCount l
      return .text (← dayAfter day (-days))
    | none => .error (.unknownDateOperator w l)

/-- The ids that the user macro stands for. -/
def resolveUser (l : Leaf) (caller : Option Identity) : Except Fault (List Value) :=
  match caller with
  | some i => .ok i.effective
  | none => .error (.noIdentity l.field)

/-- The calendar day of a value: a day itself, a moment's own day, or the day a text starts with. -/
def dayOf? : Value → Option Date
  | .moment m => some m.date
  | .date d => some d
  | .text s => Date.readPrefix? s
  | _ => none

/-- The calendar day of a value, or why it has none. -/
def readDay (v : Value) : Except Failure Date :=
  match dayOf? v, v with
  | some d, _ => .ok d
  | none, .text _ => .error (.misuse .wrongValue)
  | none, _ => .error (.noDay v)

/-- The calendar day that a node on a time stamp compares with. -/
def calendarDay (n : Node) (v : Value) : Except Fault Date :=
  match dayOf? v with
  | some d => .ok d
  | none => .error (.dayExpected n.describe)

namespace Node

/-- The operand of a node with the day macros replaced; only leaves have one. -/
def resolveDay (n : Node) (clock : Clock) : Except Fault Value :=
  match n with
  | leaf l => Filter.resolveDay l clock
  | _ => .error (.misuse .noSuchMember)

/-- The ids that the user macro stands for in a node; without a caller the field is to blame, which
only leaves have. -/
def resolveUser (n : Node) (caller : Option Identity) : Except Fault (List Value) :=
  match n, caller with
  | leaf l, caller => Filter.resolveUser l caller
  | _, some i => .ok i.effective
  | _, none => .error (.misuse .noSuchMember)

end Node

end DocGateway.Filter
