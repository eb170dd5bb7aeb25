import DocGateway.Value.Text

/-!
Problems found while reading structured data from values, each with the place where it stands.
-/

namespace DocGateway

/-- What is wrong at a place. -/
inductive ProblemKind where
  | missing
  | notText
  | undecodableText
  | emptyText
  | notOneOf (choices : List String)
  | notMapping
  | notRecord (name : String)
  | notList
  | notInteger
  | fractionalInteger
  | notIntegerText
  | tooLongInteger
  | notFinite
deriving DecidableEq, Inhabited

/-- Choices in quotes, the last two joined by `or`. -/
def choicesText : List String → String
  | [] => ""
  | [c] => "'" ++ c ++ "'"
  | [c, d] => "'" ++ c ++ "' or '" ++ d ++ "'"
  | c :: rest => "'" ++ c ++ "', " ++ choicesText rest

def ProblemKind.message : ProblemKind → String
  | missing => "Field required"
  | notText => "Input should be a valid string"
  | undecodableText =>
    "Input should be a valid string, unable to parse raw data as a unicode string"
  | emptyText => "String should have at least 1 character"
  | notOneOf choices => "Input should be " ++ choicesText choices
  | notMapping => "Input should be a valid dictionary"
  | notRecord name => "Input should be a valid dictionary or instance of " ++ name
  | notList => "Input should be a valid list"
  | notInteger => "Input should be a valid integer"
  | fractionalInteger => "Input should be a valid integer, got a number with a fractional part"
  | notIntegerText => "Input should be a valid integer, unable to parse string as an integer"
  | tooLongInteger => "Unable to parse input string as an integer, exceeded maximum size"
  | notFinite => "Input should be a finite number"

/-- A problem at a place, given by the names and positions on the way to it. -/
structure Problem where
  place : List String
  kind : ProblemKind
deriving DecidableEq, Inhabited

namespace Problem

def text (p : Problem) : String :=
  ".".intercalate p.place ++ ": " ++ p.kind.message

/-- The text of several problems, in order. -/
def listText (ps : List Problem) : String :=
  "; ".intercalate (ps.map text)

end Problem

end DocGateway
