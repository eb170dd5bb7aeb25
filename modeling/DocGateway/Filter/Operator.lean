import DocGateway.Text.Blank
import DocGateway.Text.Letters

/-!
The words of the filter language: comparison operators, connectives, macros and date operators.
-/

namespace DocGateway.Filter

/-- What a leaf asks of a field. -/
inductive Operator where
  | equal
  | notEqual
  | less
  | greater
  | atMost
  | atLeast
  | contains
  | containsNot
  | isEmpty
  | isNotEmpty
deriving DecidableEq, Inhabited

namespace Operator

def all : List Operator :=
  [equal, notEqual, less, greater, atMost, atLeast, contains, containsNot, isEmpty, isNotEmpty]

def word : Operator → String
  | equal => "="
  | notEqual => "<>"
  | less => "<"
  | greater => ">"
  | atMost => "<="
  | atLeast => ">="
  | contains => "contains"
  | containsNot => "does not contain"
  | isEmpty => "is empty"
  | isNotEmpty => "is not empty"

/-- The operator written as a word, exactly as it is spelled. -/
def ofWord? (w : String) : Option Operator :=
  all.find? fun o => o.word == w

theorem mem_all (o : Operator) : o ∈ all := by cases o <;> decide

theorem ofWord?_word (o : Operator) : ofWord? o.word = some o := by cases o <;> rfl

end Operator

/-- How a group combines its members. -/
inductive Connective where
  | all
  | any
deriving DecidableEq, Inhabited

namespace Connective

def word : Connective → String
  | all => "and"
  | any => "or"

/-- A word without blanks around it and in small letters. -/
def simplify (w : String) : String :=
  String.ofList (Text.lower (Text.trim w.toList))

/-- The connective written as a word in any letter case, blanks around it allowed. -/
def ofWord? (w : String) : Option Connective :=
  let w := simplify w
  if w == all.word then some all
  else if w == any.word then some any
  else none

end Connective

/-- How a leaf's day is counted from today. -/
inductive DateOperator where
  | today
  | daysFromNow
  | daysAgo
deriving DecidableEq, Inhabited

namespace DateOperator

def word : DateOperator → String
  | today => "today"
  | daysFromNow => "days from now"
  | daysAgo => "days ago"

/-- The date operator written as a word, exactly as it is spelled. -/
def ofWord? (w : String) : Option DateOperator :=
  [today, daysFromNow, daysAgo].find? fun o => o.word == w

theorem ofWord?_word (o : DateOperator) : ofWord? o.word = some o := by cases o <;> rfl

end DateOperator

/-- The operand that stands for the current day. -/
def todayMacro : String := "$today"

/-- The operand that stands for every id of the caller. -/
def userMacro : String := "$userId"

end DocGateway.Filter
