import DocGateway.Value.Basic

/-!
Compiled queries and the documents that they are sent as.

A query is a condition on a field or a combination of queries. As a document (`toValue`) each is a
mapping: of a field to its condition, or of a connective to the list of its parts.
-/

namespace DocGateway

/-- A comparison other than equality. -/
inductive Comparison where
  | notEqual
  | less
  | greater
  | atMost
  | atLeast
deriving DecidableEq, Inhabited

def Comparison.key : Comparison → String
  | notEqual => "$ne"
  | less => "$lt"
  | greater => "$gt"
  | atMost => "$lte"
  | atLeast => "$gte"

/-- What is asked of one field. -/
inductive Condition where
  /-- Equal to a value, which stands there by itself. -/
  | is (v : Value)
  /-- Equal to a value that would be read as operators if it stood there by itself. -/
  | literally (v : Value)
  | compare (c : Comparison) (v : Value)
  | oneOf (vs : List Value)
  | noneOf (vs : List Value)
  /-- Matches a pattern, given by its source. -/
  | like (source : String)
  | notLike (source : String)
  | presence (present : Bool)
  /-- At or after the first text and before the second one. -/
  | within (start stop : String)
deriving Inhabited

namespace Condition

def toValue : Condition → Value
  | is v => v
  | literally v => Value.fields [("$eq", v)]
  | compare c v => Value.fields [(c.key, v)]
  | oneOf vs => Value.fields [("$in", .list vs)]
  | noneOf vs => Value.fields [("$nin", .list vs)]
  | like source => .pattern source
  | notLike source => Value.fields [("$not", .pattern source)]
  | presence present => Value.fields [("$exists", .bool present)]
  | within start stop => Value.fields [("$gte", .text start), ("$lt", .text stop)]

end Condition

inductive Query where
  | field (name : String) (c : Condition)
  /-- Every part holds. -/
  | all (qs : List Query)
  /-- Some part holds. -/
  | any (qs : List Query)
deriving Inhabited

namespace Query

mutual

/-- The document that a query is sent as. -/
def toValue : Query → Value
  | field name c => Value.fields [(name, c.toValue)]
  | all qs => Value.fields [("$and", .list (toValues qs))]
  | any qs => Value.fields [("$or", .list (toValues qs))]
termination_by structural q => q

def toValues : List Query → List Value
  | [] => []
  | q :: qs => toValue q :: toValues qs
termination_by structural qs => qs

end

/-- The field is missing, an empty text or an empty list. -/
def fieldEmpty (name : String) : Query :=
  any [field name (.is (.text "")), field name (.is (.list [])), field name (.presence false)]

/-- The field is there and neither an empty text nor an empty list. -/
def fieldNotEmpty (name : String) : Query :=
  all [field name (.compare .notEqual (.text "")), field name (.compare .notEqual (.list [])),
       field name (.presence true)]

end Query

end DocGateway
