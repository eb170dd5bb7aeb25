import DocGateway.Text.Word
import DocGateway.Value.Basic

/-!
Uids and the patterns by which ids are told to be generated ones.

A uid is 32 small hexadecimal digits in groups of 8, 4, 4, 4 and 12 joined by hyphens. A text shows
a uid if it holds one that no word character stands next to.
-/

namespace DocGateway

namespace Uid

def isHex (c : Char) : Bool := c.isDigit || ('a' ≤ c && c ≤ 'f')

/-- What stands at each place of a uid: a digit or a hyphen. -/
def shape : List Bool :=
  let run (n : Nat) := List.replicate n true
  run 8 ++ false :: (run 4 ++ false :: (run 4 ++ false :: (run 4 ++ false :: run 12)))

/-- Drops a uid from the front of a text. -/
def dropUid? : List Bool → List Char → Option (List Char)
  | [], cs => some cs
  | _ :: _, [] => none
  | digit :: rest, c :: cs =>
    if (if digit then isHex c else c == '-') then dropUid? rest cs else none

/-- Whether a uid that ends before a word boundary stands at the front. -/
def startsWithUid (cs : List Char) : Bool :=
  match dropUid? shape cs with
  | some [] => true
  | some (c :: _) => !Text.isWord c
  | none => false

/-- Whether a text that follows a given word boundary or not shows a uid. -/
def showsUid (boundary : Bool) : List Char → Bool
  | [] => false
  | c :: cs => (boundary && startsWithUid (c :: cs)) || showsUid (!Text.isWord c) cs

/-- The n-th generated uid. -/
def generated (n : Nat) : String :=
  let digits := Nat.toDigits 16 n
  "00000000-0000-4000-8000-"
    ++ String.ofList (List.replicate (12 - digits.length) '0' ++ digits)

end Uid

/-- A test for ids. -/
inductive IdPattern where
  /-- The text shows a uid. -/
  | uid
  /-- The text starts with another one. -/
  | starting (s : String)
  /-- The text holds another one; every text holds the empty one. -/
  | holding (s : String)
deriving DecidableEq, Inhabited

namespace IdPattern

/-- The written form of the uid pattern. -/
def uidSource : String :=
  "\\b[0-9a-f]\x7b8\x7d\\b-[0-9a-f]\x7b4\x7d-[0-9a-f]\x7b4\x7d-[0-9a-f]\x7b4\x7d-"
    ++ "\\b[0-9a-f]\x7b12\x7d\\b"

/-- Reads a pattern: that of uids, or a literal text with `^` in front for a start. -/
def ofSource (source : String) : IdPattern :=
  if source == uidSource then uid
  else
    match source.toList with
    | '^' :: cs => starting (String.ofList cs)
    | cs => holding (String.ofList cs)

/-- Whether one text stands somewhere in another one. -/
def holds (part : List Char) : List Char → Bool
  | [] => part.isEmpty
  | c :: cs => part.isPrefixOf (c :: cs) || holds part cs

def matches? (p : IdPattern) (s : String) : Bool :=
  match p with
  | uid => Uid.showsUid true s.toList
  | starting t => t.toList.isPrefixOf s.toList
  | holding t => holds t.toList s.toList

/-- Whether a value is a text that a pattern matches; null stands for the standard pattern. -/
def test (standard v pattern : Value) : Except Misuse Bool :=
  match v, if pattern.isNull then standard else pattern with
  | .text s, .text source => .ok ((ofSource source).matches? s)
  | .text _, _ => .error .wrongKind
  | _, _ => .ok false

end IdPattern

end DocGateway
