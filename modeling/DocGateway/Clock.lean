import DocGateway.Value.Basic

/-!
Clocks: the source of the current moment and of the current day.
-/

namespace DocGateway

/-- A clock frozen at a moment, or the system's clock, which reads in UTC. -/
inductive Clock where
  | fixed (moment : Moment)
  | system (moment : Moment)
deriving DecidableEq, Inhabited

namespace Clock

/-- A clock frozen at a moment; without an offset it is taken as UTC. -/
def fixedAt (m : Moment) : Clock := fixed m.assumeUtc

/-- What the clock reads; the system's clock reads nothing if the calendar has no day for it in
UTC. -/
def now? : Clock → Option Moment
  | fixed m => some m
  | system m => m.toUtc?

/-- The current moment, or the misuse of asking a clock that cannot be read. -/
def now (c : Clock) : Except Misuse Moment :=
  match c.now? with
  | some m => .ok m
  | none => .error .outOfRange

/-- The current day on the clock's own calendar. -/
def today (c : Clock) : Except Misuse Date := c.now.map Moment.date

end Clock

end DocGateway
