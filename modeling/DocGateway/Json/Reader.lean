import DocGateway.Number.IntegerText
import DocGateway.Value.Entries

/-!
Reading values from JSON text.

Numbers may also be `NaN` and `Infinity`, and a number without point and exponent is read up to a
limit of digits only.

Every reading step takes the text that is left and returns what it did not use, which is never
longer; a bound on the depth that is never reached stands for the length of the text.
-/

namespace DocGateway.Json

def isBlank (c : Char) : Bool := c == ' ' || c == '\t' || c == '\n' || c == '\r'

def skip (cs : List Char) : List Char := cs.dropWhile isBlank

/-- The value of a hexadecimal digit. -/
def hexValue? (c : Char) : Option Nat :=
  if c.isDigit then some (c.toNat - 0x30)
  else if 'a' ≤ c && c ≤ 'f' then some (c.toNat - 0x61 + 10)
  else if 'A' ≤ c && c ≤ 'F' then some (c.toNat - 0x41 + 10)
  else none

/-- Reads four hexadecimal digits. -/
def takeUnit? : List Char → Option (Nat × List Char)
  | a :: b :: c :: d :: cs => do
    let high := (← hexValue? a) * 16 + (← hexValue? b)
    let low := (← hexValue? c) * 16 + (← hexValue? d)
    return (high * 256 + low, cs)
  | _ => none

/-- The character of a pair of surrogates. -/
def ofSurrogates (high low : Nat) : Char :=
  Char.ofNat (0x10000 + (high - 0xd800) * 0x400 + (low - 0xdc00))

/-- The character that a letter after a backslash stands for. -/
def escape? : Char → Option Char
  | '"' => some '"'
  | '\\' => some '\\'
  | '/' => some '/'
  | 'b' => some '\x08'
  | 'f' => some '\x0c'
  | 'n' => some '\n'
  | 'r' => some '\r'
  | 't' => some '\t'
  | _ => none

/-- The characters of a string; nothing stands for a surrogate without its other half. -/
abbrev Units : Type := List (Option Char)

/-- The character of a code unit, unless it is a surrogate. -/
def ofUnit (n : Nat) : Option Char :=
  if 0xd800 ≤ n ∧ n < 0xe000 then none else some (Char.ofNat n)

/-- The text of a string. One with a lone surrogate is no text: it is read as bytes that do not
encode any. -/
def valueOf (units : Units) : Value :=
  match units.mapM id with
  | some cs => .text (String.ofList cs)
  | none => .bytes (units.flatMap fun c? =>
    match c? with
    | some c => (String.singleton c).toUTF8.toList
    | none => [0xff])

/-- Reads the characters of a string up to its closing quote. -/
def takeString? : Nat → List Char → Option (Units × List Char)
  | 0, _ => none
  | _ + 1, [] => none
  | _ + 1, '"' :: cs => some ([], cs)
  | fuel + 1, '\\' :: 'u' :: cs => do
    let (unit, rest) ← takeUnit? cs
    let pair := match rest with
      | '\\' :: 'u' :: rest =>
        match takeUnit? rest with
        | some (low, rest) =>
          if 0xd800 ≤ unit ∧ unit < 0xdc00 ∧ 0xdc00 ≤ low ∧ low < 0xe000 then
            some (some (ofSurrogates unit low), rest)
          else none
        | none => none
      | _ => none
    let (c?, rest) := pair.getD (ofUnit unit, rest)
    let (s, rest) ← takeString? fuel rest
    return (c? :: s, rest)
  | fuel + 1, '\\' :: c :: cs => do
    let c ← escape? c
    let (s, rest) ← takeString? fuel cs
    return (some c :: s, rest)
  | fuel + 1, c :: cs =>
    if c.toNat < 0x20 then none
    else do
      let (s, rest) ← takeString? fuel cs
      return (some c :: s, rest)

def digits (cs : List Char) : List Char × List Char :=
  (cs.takeWhile Char.isDigit, cs.dropWhile Char.isDigit)

def natOf (cs : List Char) : Nat := cs.foldl (fun n c => 10 * n + (c.toNat - 0x30)) 0

/-- Reads an exponent, if one follows. -/
def takeExponent (cs : List Char) : Option Int × List Char :=
  let exponent (negative : Bool) (rest : List Char) : Option Int × List Char :=
    match digits rest with
    | ([], _) => (none, cs)
    | (ds, rest) => (some (if negative then -(natOf ds : Int) else natOf ds), rest)
  match cs with
  | e :: '-' :: rest => if e = 'e' ∨ e = 'E' then exponent true rest else (none, cs)
  | e :: '+' :: rest => if e = 'e' ∨ e = 'E' then exponent false rest else (none, cs)
  | e :: rest => if e = 'e' ∨ e = 'E' then exponent false rest else (none, cs)
  | [] => (none, cs)

/-- Reads a number without a sign; a point or an exponent makes it a fraction. -/
def takeNumber? (negative : Bool) (cs : List Char) : Option (Value × List Char) :=
  match digits cs with
  | ([], _) => none
  | ('0' :: _ :: _, _) => none
  | (whole, rest) =>
    let (places, rest) := match rest with
      | '.' :: more =>
        match digits more with
        | ([], _) => (none, rest)
        | (ds, more) => (some ds, more)
      | _ => (none, rest)
    let (exponent, rest) := takeExponent rest
    match places, exponent with
    | none, none =>
      if IntegerText.maxDigits < whole.length then none
      else
        let n : Int := natOf whole
        some (.int (if negative then -n else n), rest)
    | _, _ =>
      let places := places.getD []
      some (.float (.ofDecimal negative (natOf (whole ++ places))
        (exponent.getD 0 - places.length)), rest)

/-- Reads the name of a number that has no digits; only infinity takes a sign. -/
def takeSpecial? (negative : Bool) (cs : List Char) : Option (Value × List Char) :=
  let infinity := "Infinity".toList
  let notNumber := "NaN".toList
  if infinity.isPrefixOf cs then
    some (.float (.infinite negative), cs.drop infinity.length)
  else if !negative && notNumber.isPrefixOf cs then
    some (.float .nan, cs.drop notNumber.length)
  else none

mutual

/-- Reads a value after blanks. -/
def takeValue? : Nat → List Char → Option (Value × List Char)
  | 0, _ => none
  | fuel + 1, cs =>
    match skip cs with
    | 'n' :: 'u' :: 'l' :: 'l' :: cs => some (.null, cs)
    | 't' :: 'r' :: 'u' :: 'e' :: cs => some (.bool true, cs)
    | 'f' :: 'a' :: 'l' :: 's' :: 'e' :: cs => some (.bool false, cs)
    | '"' :: cs => (takeString? (cs.length + 1) cs).map fun r => (valueOf r.1, r.2)
    | '[' :: cs =>
      match skip cs with
      | ']' :: cs => some (.list [], cs)
      | cs => (takeItems? fuel cs).map fun r => (.list r.1, r.2)
    | '\x7b' :: cs =>
      match skip cs with
      | '\x7d' :: cs => some (.mapping [], cs)
      | cs => (takeMembers? fuel cs).map fun r => (Value.ofPairs r.1, r.2)
    | '-' :: cs => takeSpecial? true cs <|> takeNumber? true cs
    | cs => takeSpecial? false cs <|> takeNumber? false cs

/-- Reads the items of a list and its closing bracket. -/
def takeItems? : Nat → List Char → Option (List Value × List Char)
  | 0, _ => none
  | fuel + 1, cs => do
    let (v, rest) ← takeValue? fuel cs
    match skip rest with
    | ',' :: rest =>
      let (vs, rest) ← takeItems? fuel rest
      return (v :: vs, rest)
    | ']' :: rest => return ([v], rest)
    | _ => none

/-- Reads the members of an object and its closing brace. -/
def takeMembers? : Nat → List Char → Option (List (Value × Value) × List Char)
  | 0, _ => none
  | fuel + 1, cs =>
    match skip cs with
    | '"' :: cs => do
      let (k, rest) ← takeString? (cs.length + 1) cs
      match skip rest with
      | ':' :: rest =>
        let (v, rest) ← takeValue? fuel rest
        let entry := (valueOf k, v)
        match skip rest with
        | ',' :: rest =>
          let (es, rest) ← takeMembers? fuel rest
          return (entry :: es, rest)
        | '\x7d' :: rest => return ([entry], rest)
        | _ => none
      | _ => none
    | _ => none

end

/-- Reads a value that fills the text. -/
def read? (cs : List Char) : Option Value :=
  match takeValue? (2 * cs.length + 2) cs with
  | some (v, rest) => if (skip rest).isEmpty then some v else none
  | none => none

end DocGateway.Json
