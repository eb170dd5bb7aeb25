/-!
Patterns that match a text literally.

A character with a meaning of its own in patterns gets a backslash in front; any other character
stands for itself.
-/

namespace DocGateway.Text

/-- The characters that have a meaning of their own in patterns, blanks included. -/
def patternSpecials : List Char :=
  ['(', ')', '[', ']', '\x7b', '\x7d', '?', '*', '+', '-', '|', '^', '$', '\\', '.', '&', '~', '#',
   ' ', '\t', '\n', '\r', '\x0b', '\x0c']

/-- The pattern of one character. -/
def literalChar (c : Char) : List Char :=
  if c ∈ patternSpecials then ['\\', c] else [c]

/-- The pattern that matches a text literally. -/
def literalPattern (cs : List Char) : List Char := cs.flatMap literalChar

end DocGateway.Text
