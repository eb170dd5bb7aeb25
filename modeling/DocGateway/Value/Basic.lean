import DocGateway.Number.Binary64
import DocGateway.Calendar.Moment

/-!
Values: the data that records, filters and updates are made of.

A mapping keeps its entries in insertion order. A pattern is a search for text in any letter case
and only arises in compiled queries.
-/

namespace DocGateway

inductive Value where
  | null
  | bool (b : Bool)
  | int (n : Int)
  | float (x : Binary64)
  | text (s : String)
  | bytes (bs : List UInt8)
  | date (d : Date)
  | moment (m : Moment)
  | list (xs : List Value)
  | tuple (xs : List Value)
  | mapping (entries : List (Value × Value))
  | pattern (source : String)
deriving Inhabited

/-- A use of a value in a way that its kind or content does not allow. -/
inductive Misuse where
  | wrongKind
  | wrongValue
  | outOfRange
  | noSuchMember
  | noSuchKey
  | noSuchIndex
deriving DecidableEq, Inhabited

namespace Value

/-- The name of a value's kind, as it stands in messages. -/
def kindName : Value → String
  | null => "NoneType"
  | bool _ => "bool"
  | int _ => "int"
  | float _ => "float"
  | text _ => "str"
  | bytes _ => "bytes"
  | date _ => "date"
  | moment _ => "datetime"
  | list _ => "list"
  | tuple _ => "tuple"
  | mapping _ => "dict"
  | pattern _ => "Pattern"

/-- Whether a value counts as true: null, zero and whatever is empty do not. -/
def truthy : Value → Bool
  | null => false
  | bool b => b
  | int n => n != 0
  | float x => !x.isZero
  | text s => !s.isEmpty
  | bytes bs => !bs.isEmpty
  | list xs => !xs.isEmpty
  | tuple xs => !xs.isEmpty
  | mapping es => !es.isEmpty
  | date _ | moment _ | pattern _ => true

def isNull : Value → Bool
  | null => true
  | _ => false

/-- Null for an absent text. -/
def ofText? : Option String → Value
  | some s => text s
  | none => null

/-- The values met when going through a value: items, characters, bytes or keys. -/
def items? : Value → Option (List Value)
  | list xs => some xs
  | tuple xs => some xs
  | text s => some (s.toList.map fun c => text (String.singleton c))
  | bytes bs => some (bs.map fun b => int b.toNat)
  | mapping es => some (es.map Prod.fst)
  | _ => none

/-- A mapping with text keys. -/
def fields (es : List (String × Value)) : Value :=
  mapping (es.map fun e => (text e.1, e.2))

end Value

end DocGateway
