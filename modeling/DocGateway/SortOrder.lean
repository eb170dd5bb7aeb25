import DocGateway.Failure
import DocGateway.Text.Blank
import DocGateway.Text.Letters
import DocGateway.Value.Entries

/-!
Sort orders: lists of fields with a direction, the first field being the most significant.

A field that is named again keeps its first direction, since a later one can no longer break a tie;
the repetition is noted.
-/

namespace DocGateway

inductive Direction where
  | ascending
  | descending
deriving DecidableEq, Inhabited

namespace Direction

def word : Direction → String
  | ascending => "asc"
  | descending => "desc"

/-- The number that stands for a direction in directives. -/
def marker : Direction → Int
  | ascending => 1
  | descending => -1

/-- The direction that a value's text names, blanks around it and letter case aside. -/
def ofValue? (v : Value) : Option Direction :=
  let w := Text.lower (Text.trim v.plain.toList)
  if w == ascending.word.toList then some ascending
  else if w == descending.word.toList then some descending
  else none

end Direction

namespace SortOrder

/-- What can be wrong with a sort order. -/
inductive Fault where
  | notList (found : Value)
  | notOneField (entry : Value)
  | notEntry (entry : Value)
  | badField (entry : Value)
  | badDirection (field : String) (direction : Value)
  /-- A value that cannot be gone through. -/
  | misuse (m : Misuse)
deriving Inhabited

def Fault.toFailure : Fault → Failure
  | notList found =>
    .report ⟨.sortCompile, .text "Sort spec must be an ordered list of entries",
      [("sort", .value found)]⟩
  | notOneField entry =>
    .report ⟨.sortCompile, .text "Sort entry must hold exactly one field",
      [("entry", .value entry)]⟩
  | notEntry entry =>
    .report ⟨.sortCompile,
      .text "Sort entry must be a single-entry mapping or a (field, direction) pair",
      [("entry", .value entry)]⟩
  | badField entry =>
    .report ⟨.sortCompile, .text "Sort field must be a non-empty string",
      [("entry", .value entry)]⟩
  | badDirection field direction =>
    .report ⟨.sortCompile, .text "Invalid sort direction. Supported: asc, desc",
      [("field", .value (.text field)), ("direction", .value direction)]⟩
  | misuse m => .misuse m

/-- The field and the direction of an entry, neither of which was looked at. -/
def entryPair (entry : Value) : Except Fault (Value × Value) :=
  match entry with
  | .mapping [e] => .ok e
  | .mapping _ => .error (.notOneField entry)
  | .tuple [k, v] => .ok (k, v)
  | .list [k, v] => .ok (k, v)
  | _ => .error (.notEntry entry)

/-- The field and the direction that an entry names. -/
def readEntry (entry : Value) : Except Fault (String × Direction) := do
  let (field, direction) ← entryPair entry
  match field with
  | .text name =>
    if name.isEmpty then .error (.badField entry)
    else
      match Direction.ofValue? direction with
      | some d => .ok (name, d)
      | none => .error (.badDirection name direction)
  | _ => .error (.badField entry)

/-- Directives in order, and the fields whose repetition was dropped. -/
structure Compiled where
  directives : List (String × Direction)
  repeated : List String
deriving Inhabited

/-- Adds a directive unless its field is there. -/
def Compiled.add (c : Compiled) (d : String × Direction) : Compiled :=
  if (c.directives.map Prod.fst).contains d.1 then { c with repeated := c.repeated ++ [d.1] }
  else { c with directives := c.directives ++ [d] }

/-- Compiles entries one after the other; a fault keeps what was noted before it. -/
def compileEntries : List Value → Compiled → Compiled × Option Fault
  | [], c => (c, none)
  | e :: es, c =>
    match readEntry e with
    | .ok d => compileEntries es (c.add d)
    | .error f => (c, some f)

/-- Compiles a sort order; whatever counts as false is the empty one. -/
def compile (spec : Value) : Compiled × Option Fault :=
  if !spec.truthy then (⟨[], []⟩, none)
  else
    match spec with
    | .text _ | .bytes _ | .mapping _ => (⟨[], []⟩, some (.notList spec))
    | _ =>
      match spec.items? with
      | some es => compileEntries es ⟨[], []⟩
      | none => (⟨[], []⟩, some (.misuse .wrongKind))

/-- Directives as pairs of a field and a marker. -/
def toValue (ds : List (String × Direction)) : Value :=
  .list (ds.map fun d => .tuple [.text d.1, .int d.2.marker])

/-- The note about a repeated field. -/
def repetitionNote (field : String) : String :=
  "Duplicate sort field '" ++ field ++ "' ignored; first occurrence kept"

end SortOrder

end DocGateway
