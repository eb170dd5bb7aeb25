import DocGateway.Validation.Problem
import DocGateway.Value.Entries

/-!
Checked readings of values.

A reading gives a result or every problem that it met, in order; two readings combined give the
problems of both.
-/

namespace DocGateway

/-- The outcome of a reading. -/
inductive Checked (α : Type) where
  | ok (a : α)
  | bad (ps : List Problem)

namespace Checked

variable {α β : Type}

def map (f : α → β) : Checked α → Checked β
  | ok a => ok (f a)
  | bad ps => bad ps

/-- Combines two readings, problems of the first one coming first. -/
def seq (f : Checked (α → β)) (x : Checked α) : Checked β :=
  match f, x with
  | ok f, ok a => ok (f a)
  | bad ps, ok _ => bad ps
  | ok _, bad qs => bad qs
  | bad ps, bad qs => bad (ps ++ qs)

instance : Functor Checked where
  map := map

instance : Applicative Checked where
  pure := ok
  seq f x := seq f (x ())

def problem (kind : ProblemKind) : Checked α := bad [⟨[], kind⟩]

/-- Says where a reading took place. -/
def within (name : String) : Checked α → Checked α
  | ok a => ok a
  | bad ps => bad (ps.map fun p => { p with place := name :: p.place })

def toExcept : Checked α → Except (List Problem) α
  | ok a => .ok a
  | bad ps => .error ps

end Checked

/-- The names of a field: the one on the wire, which wins, and its own. -/
structure FieldName where
  wire : String
  own : String

/-- A field with one name only. -/
def FieldName.plain (name : String) : FieldName := ⟨name, name⟩

namespace Reader

/-- The name that a field goes by in a mapping, and its value. -/
def find? (field : FieldName) (es : List (Value × Value)) : Option (String × Value) :=
  match Value.lookup? (.text field.wire) es with
  | some v => some (field.wire, v)
  | none => (Value.lookup? (.text field.own) es).map fun v => (field.own, v)

/-- Reads a field that must be there. -/
def required {α : Type} (field : FieldName) (read : Value → Checked α)
    (es : List (Value × Value))
    : Checked α :=
  match find? field es with
  | some (name, v) => (read v).within name
  | none => (Checked.problem .missing).within field.wire

/-- Reads a field that has a default. -/
def optional {α : Type} (field : FieldName) (default : α) (read : Value → Checked α)
    (es : List (Value × Value))
    : Checked α :=
  match find? field es with
  | some (name, v) => (read v).within name
  | none => .ok default

/-- Text, or bytes that encode text. -/
def text : Value → Checked String
  | .text s => .ok s
  | .bytes bs =>
    match String.fromUTF8? ⟨bs.toArray⟩ with
    | some s => .ok s
    | none => .problem .undecodableText
  | _ => .problem .notText

/-- Text with at least one character. -/
def nonEmptyText (v : Value) : Checked String :=
  match text v with
  | .ok s => if s.isEmpty then .problem .emptyText else .ok s
  | .bad ps => .bad ps

/-- Text or null. -/
def textOrNull : Value → Checked (Option String)
  | .null => .ok none
  | v => (text v).map some

/-- One of some exact texts. -/
def oneOf (choices : List String) : Value → Checked String
  | .text s => if choices.contains s then .ok s else .problem (.notOneOf choices)
  | _ => .problem (.notOneOf choices)

/-- How a key is called on the way to a place: integers and truth values by number. -/
def keyName : Value → String
  | .text s => s
  | .bool b => if b then "1" else "0"
  | v => v.quoted

/-- Reads the items of a list one by one. -/
def each {α : Type} (read : Value → Checked α) : Nat → List Value → Checked (List α)
  | _, [] => .ok []
  | n, v :: vs => List.cons <$> (read v).within (toString n) <*> each read (n + 1) vs

/-- A list or tuple, with a reading for its items. -/
def list {α : Type} (read : Value → Checked α) : Value → Checked (List α)
  | .list xs => each read 0 xs
  | .tuple xs => each read 0 xs
  | _ => .problem .notList

/-- The entries of keyword arguments, whose keys are text. -/
def keywords : Value → Except Misuse (List (Value × Value))
  | .mapping es =>
    if es.all fun e => match e.1 with
      | .text _ => true
      | _ => false
    then .ok es
    else .error .wrongKind
  | _ => .error .wrongKind

/-- A mapping read as a whole, or the problem that there is none. -/
def record {α : Type} (name : String) (read : List (Value × Value) → Checked α)
    : Value → Checked α
  | .mapping es => read es
  | _ => .problem (.notRecord name)

end Reader

end DocGateway
