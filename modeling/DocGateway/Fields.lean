import DocGateway.OrderedMap
import DocGateway.Validation.Checked

/-!
Fields: the named values of a record or of an update to it.
-/

namespace DocGateway

/-- Named values in insertion order. -/
abbrev Fields := OrderedMap String Value

namespace Fields

/-- The mapping with these entries. -/
def toValue (f : Fields) : Value := Value.fields f.entries

/-- The problem of a key that is no text. -/
def keyProblem (k : Value) (kind : ProblemKind) : Checked String :=
  ((Checked.problem kind).within "[key]").within (Reader.keyName k)

/-- Reads a key: text, or bytes that encode text. -/
def readKey (k : Value) : Checked String :=
  match Reader.text k with
  | .ok s => .ok s
  | .bad ps => match ps with
    | p :: _ => keyProblem k p.kind
    | [] => keyProblem k .notText

/-- Reads entries with text keys. -/
def readEntries : List (Value × Value) → Checked (List (String × Value))
  | [] => .ok []
  | (k, v) :: es => (fun name rest => (name, v) :: rest) <$> readKey k <*> readEntries es

/-- Reads a mapping with text keys. -/
def read : Value → Checked Fields
  | .mapping es => OrderedMap.ofList <$> readEntries es
  | _ => .problem .notMapping

end Fields

end DocGateway
