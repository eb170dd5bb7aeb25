import DocGateway.Failure
import DocGateway.Filter.Node

/-!
What can be wrong with a filter, from its reading to its compilation.
-/

namespace DocGateway.Filter

inductive Fault where
  /-- A node that is no mapping. -/
  | notMapping (found : Detail)
  /-- A mapping whose fields do not make a node. -/
  | malformed (ps : List Problem) (found : Value)
  /-- Members that are no list. -/
  | membersNotList (found : Value)
  /-- A group where a leaf was asked for. -/
  | notLeaf (group : Value)
  /-- A group operator that is no connective, with its text. -/
  | unknownConnective (shown : String) (group : Value)
  /-- A group with no members other than gaps. -/
  | emptyGroup (group : Value)
  /-- A member that is neither leaf nor group. -/
  | unsupported (found : Value)
  | unknownOperator (leaf : Leaf)
  /-- A leaf that needs an operand and has none, or null where null will not do. -/
  | operandRequired (leaf : Leaf)
  | unknownDateOperator (word : String) (leaf : Leaf)
  /-- A count of days that is no number. -/
  | daysNotNumber (leaf : Leaf)
  /-- A count of days with a fraction. -/
  | daysNotWhole (leaf : Leaf)
  /-- An operand without a calendar day. -/
  | dayExpected (node : Value)
  /-- The user macro with no caller to stand for. -/
  | noIdentity (field : String)
  /-- The user macro under an operator that cannot take it. -/
  | userMacroMisplaced (leaf : Leaf)
  /-- A value used in a way that its kind or content does not allow. -/
  | misuse (m : Misuse)
deriving Inhabited

namespace Fault

/-- A report about a filter, naming the node. -/
def about (message : String) (node : Value) : Failure :=
  .report ⟨.filterCompile, .text message, [("node", .value node)]⟩

/-- How a fault is told to the caller. -/
def toFailure : Fault → Failure
  | notMapping found =>
    .report ⟨.filterCompile, .text "Filter node must be a mapping", [("node", found)]⟩
  | malformed ps found => about ("Malformed filter node: " ++ Problem.listText ps) found
  | membersNotList found =>
    .report ⟨.filterCompile, .text "Filter group 'filters' must be a list",
      [("filters", .value found)]⟩
  | notLeaf group => about "Expected a filter leaf, got a group" group
  | unknownConnective shown group =>
    about ("Unknown filter group operator '" ++ shown ++ "'. Supported: and, or") group
  | emptyGroup group => about "Filter group has no filters" group
  | unsupported found => about "Unsupported filter node" found
  | unknownOperator l => about ("Unknown filter operator '" ++ l.operator ++ "'") l.describe
  | operandRequired l => about ("Operator '" ++ l.operator ++ "' requires a value") l.describe
  | unknownDateOperator word l => about ("Unknown date operator '" ++ word ++ "'") l.describe
  | daysNotNumber l => about "Relative date operators need a number of days" l.describe
  | daysNotWhole l => about "Number of days must be a whole number" l.describe
  | dayExpected node => about "Timestamp field filters need a date value" node
  | noIdentity field =>
    .report ⟨.macroResolution, .text "No identity context to resolve $userId",
      [("field", .value (.text field))]⟩
  | userMacroMisplaced l =>
    about ("Operator '" ++ l.operator ++ "' cannot be used with $userId") l.describe
  | misuse m => .misuse m

end Fault

end DocGateway.Filter
