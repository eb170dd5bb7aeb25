import DocGateway.Number.IntegerText

/-!
Integer literals, and looser spellings that are tidied into literals.

A literal is an optional minus sign and decimal digits without a leading zero. Text that is none is
tidied once: blanks around it, a plus sign, leading zeros with or without a minus sign before them,
a fraction of zeros and single underscores are dropped, and what remains must be a literal.
-/

namespace DocGateway.IntegerLiteral

/-- What a text is found to be. -/
inductive Reading where
  | number (n : Int)
  /-- It starts like a literal and goes on for too long. -/
  | tooLong
  | malformed
deriving DecidableEq, Inhabited

/-- The longest literal that is read, its sign included. -/
def maxLength : Nat := 4300

/-- The number of a text that is nothing but digits without a leading zero. -/
def digits? (cs : List Char) : Option Nat :=
  match cs with
  | ['0'] => some 0
  | c :: _ =>
    if c ≠ '0' && cs.all Char.isDigit then
      some (IntegerText.ofDigits (cs.map fun d => d.toNat - 0x30))
    else none
  | [] => none

/-- Reads a literal. Its length is judged before what follows its digits is looked at. -/
def read (cs : List Char) : Reading :=
  let (negative, unsigned) := match cs with
    | '-' :: rest => (true, rest)
    | _ => (false, cs)
  let leading := (unsigned.takeWhile Char.isDigit).length
  if unsigned.head? ≠ some '0' && maxLength < leading + (if negative then 1 else 0) then .tooLong
  else
    match digits? unsigned with
    | some n => .number (if negative then -(n : Int) else n)
    | none => .malformed

/-- Drops a plus sign, which no minus sign may follow. -/
def dropPlus? : List Char → Option (List Char)
  | '+' :: '-' :: _ => none
  | '+' :: cs => some cs
  | cs => some cs

/-- What follows a leading zero once further zeros and underscores are dropped; the one before a
point or the end stays. -/
def dropZerosAfter? (last : Char) : List Char → Option (List Char)
  | [] => some [last]
  | c :: cs =>
    if c == '0' || c == '_' then dropZerosAfter? c cs
    else if c.isDigit || c == '-' then some (c :: cs)
    else if c == '.' then some (last :: c :: cs)
    else none

/-- Drops leading zeros; what does not start with a digit is refused. -/
def dropZeros? : List Char → Option (List Char)
  | [] => none
  | c :: cs =>
    if c == '0' then dropZerosAfter? c cs
    else if c.isDigit then some (c :: cs)
    else none

/-- Drops a point and the zeros after it, of which there must be one and nothing else. -/
def dropFraction (cs : List Char) : List Char :=
  match cs.dropWhile (· != '.') with
  | '.' :: places =>
    if !places.isEmpty && places.all (· == '0') then cs.takeWhile (· != '.') else cs
  | _ => cs

/-- Whether two underscores stand side by side. -/
def hasDoubleUnderscore : List Char → Bool
  | '_' :: '_' :: _ => true
  | _ :: cs => hasDoubleUnderscore cs
  | [] => false

/-- Drops underscores if each of them stands alone between other characters. -/
def dropUnderscores (cs : List Char) : List Char :=
  if cs.head? == some '_' || cs.getLast? == some '_' || hasDoubleUnderscore cs then cs
  else cs.filter (· != '_')

/-- Digits without a sign, tidied. -/
def tidyUnsigned? (cs : List Char) : Option (List Char) :=
  (dropZeros? cs).map fun significant => dropUnderscores (dropFraction significant)

/-- A looser spelling turned into what may be a literal; a minus sign stays in front. -/
def tidy? (cs : List Char) : Option (List Char) := do
  match ← dropPlus? (Text.trimBy IntegerText.isFramingBlank cs) with
  | '-' :: unsigned => (tidyUnsigned? unsigned).map ('-' :: ·)
  | unsigned => tidyUnsigned? unsigned

/-- Reads a literal, or a looser spelling of one. -/
def readLoosely (cs : List Char) : Reading :=
  match read cs with
  | .malformed =>
    match (tidy? cs).map read with
    | some (.number n) => .number n
    | _ => .malformed
  | found => found

end DocGateway.IntegerLiteral
