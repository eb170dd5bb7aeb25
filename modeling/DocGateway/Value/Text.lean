import DocGateway.Value.Basic
import DocGateway.Number.Shortest
import DocGateway.Text.Quoted

/-!
Text of values.

`quoted` describes a value so that its kind shows; `plain` is the text itself for a text and the
spoken form for days and moments.
-/

namespace DocGateway.Value

/-- The longest description of a pattern's source. -/
def patternLimit : Nat := 200

/-- A count of microseconds as whole days, seconds and microseconds, those that are not zero. -/
def spanText (micros : Int) : String :=
  let days := micros.fdiv Moment.microsPerDay
  let rest := (micros.fmod Moment.microsPerDay).toNat
  let seconds := rest / Moment.microsPerSecond
  let parts :=
    (if days ≠ 0 then [s!"days={days}"] else [])
      ++ (if seconds ≠ 0 then [s!"seconds={seconds}"] else [])
      ++ (if rest % Moment.microsPerSecond ≠ 0 then
            [s!"microseconds={rest % Moment.microsPerSecond}"] else [])
  let inner := if parts.isEmpty then "0" else ", ".intercalate parts
  s!"datetime.timedelta({inner})"

def zoneText (offset : Int) : String :=
  if offset = 0 then "datetime.timezone.utc"
  else s!"datetime.timezone({spanText offset})"

def momentText (m : Moment) : String :=
  let seconds :=
    if m.microsecond ≠ 0 then [m.second, m.microsecond]
    else if m.second ≠ 0 then [m.second] else []
  let numbers := [m.date.year, m.date.month, m.date.day, m.hour, m.minute] ++ seconds
  let zone := match m.offset with
    | some o => [s!"tzinfo={zoneText o}"]
    | none => []
  let inner := ", ".intercalate (numbers.map toString ++ zone)
  s!"datetime.datetime({inner})"

def dateText (d : Date) : String :=
  s!"datetime.date({d.year}, {d.month}, {d.day})"

def patternText (source : String) : String :=
  let shown := String.ofList ((Text.quoted source.toList).take patternLimit)
  s!"re.compile({shown}, re.IGNORECASE)"

mutual

/-- The description of a value. -/
def quoted : Value → String
  | null => "None"
  | bool b => if b then "True" else "False"
  | int n => toString n
  | float x => x.text
  | text s => DocGateway.quoted s
  | bytes bs => String.ofList (Text.quotedBytes bs)
  | date d => dateText d
  | moment m => momentText m
  | list xs => "[" ++ ", ".intercalate (quotedItems xs) ++ "]"
  | tuple xs => "(" ++ ", ".intercalate (quotedItems xs) ++ (if xs.length = 1 then ",)" else ")")
  | mapping es => "\x7b" ++ ", ".intercalate (quotedEntries es) ++ "\x7d"
  | pattern source => patternText source
termination_by structural v => v

def quotedItems : List Value → List String
  | [] => []
  | x :: xs => quoted x :: quotedItems xs
termination_by structural xs => xs

def quotedEntries : List (Value × Value) → List String
  | [] => []
  | (k, v) :: es => (quoted k ++ ": " ++ quoted v) :: quotedEntries es
termination_by structural es => es

end

/-- The text of a value when it stands alone. -/
def plain : Value → String
  | text s => s
  | date d => d.text
  | moment m => m.spacedText
  | v => v.quoted

end DocGateway.Value
