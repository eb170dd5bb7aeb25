import DocGateway.Number.IntegerText
import DocGateway.Number.Rounded
import DocGateway.Value.Entries
import DocGateway.Value.Text

/-!
Message templates: text with places for values.

A place is a percent sign, an optional key in brackets, flags, width and precision, and a letter
that says what is made of the value. A doubled percent sign is the sign itself. Values are taken in
order, or by key if a single mapping supplies them.
-/

namespace DocGateway.Template

/-- How a place is aligned and marked. -/
structure Flags where
  left : Bool
  plus : Bool
  space : Bool
  zeros : Bool
  /-- Marks the base of a number, or keeps its point and zeros. -/
  alternate : Bool

/-- A width or precision: in the template, or the next value. -/
inductive Extent where
  | number (n : Nat)
  | nextValue

/-- The key of a place. -/
inductive Key where
  | absent
  | named (name : String)
  | unclosed

/-- A place as it is written; the template may end before its letter. -/
structure Place where
  key : Key
  flags : Flags
  width? : Option Extent
  precision? : Option Extent
  letter? : Option Char

inductive Piece where
  | char (c : Char)
  | place (p : Place)

/-! Reading a template -/

/-- Reads a key up to its closing bracket; brackets within it come in pairs. -/
def takeKey? : Nat → List Char → Option (List Char × List Char)
  | _, [] => none
  | 0, ')' :: cs => some ([], cs)
  | depth + 1, ')' :: cs => (takeKey? depth cs).map fun r => (')' :: r.1, r.2)
  | depth, '(' :: cs => (takeKey? (depth + 1) cs).map fun r => ('(' :: r.1, r.2)
  | depth, c :: cs => (takeKey? depth cs).map fun r => (c :: r.1, r.2)

/-- Reads the key of a place, if there is one. -/
def takeKey : List Char → Key × List Char
  | '(' :: cs =>
    match takeKey? 0 cs with
    | some (name, rest) => (.named (String.ofList name), rest)
    | none => (.unclosed, [])
  | cs => (.absent, cs)

def isFlag (c : Char) : Bool := c == '-' || c == '+' || c == ' ' || c == '0' || c == '#'

/-- Reads flags, in any order. -/
def takeFlags (cs : List Char) : Flags × List Char :=
  let fs := cs.takeWhile isFlag
  ({ left := fs.contains '-', plus := fs.contains '+', space := fs.contains ' ',
     zeros := fs.contains '0', alternate := fs.contains '#' }, cs.dropWhile isFlag)

/-- Reads a width or what follows the point of a precision, if it is there. -/
def takeExtent : List Char → Option Extent × List Char
  | '*' :: cs => (some .nextValue, cs)
  | cs =>
    match cs.takeWhile Char.isDigit with
    | [] => (none, cs)
    | ds => (some (.number (IntegerText.ofDigits (ds.map fun d => d.toNat - 0x30))),
      cs.dropWhile Char.isDigit)

/-- Reads a precision; a point alone stands for zero. -/
def takePrecision : List Char → Option Extent × List Char
  | '.' :: cs =>
    let (extent?, rest) := takeExtent cs
    (some (extent?.getD (.number 0)), rest)
  | cs => (none, cs)

/-- Drops a mark of size, which means nothing. -/
def dropSizeMark : List Char → List Char
  | c :: cs => if c == 'h' || c == 'l' || c == 'L' then cs else c :: cs
  | [] => []

/-- Reads what follows a percent sign. -/
def takePlace (cs : List Char) : Place × List Char :=
  let (key, rest) := takeKey cs
  let (flags, rest) := takeFlags rest
  let (width?, rest) := takeExtent rest
  let (precision?, rest) := takePrecision rest
  let rest := dropSizeMark rest
  (⟨key, flags, width?, precision?, rest.head?⟩, rest.drop 1)

/-- The pieces of a template; the bound is its length. -/
def piecesWithin : Nat → List Char → List Piece
  | 0, _ => []
  | _ + 1, [] => []
  | fuel + 1, '%' :: '%' :: cs => .char '%' :: piecesWithin fuel cs
  | fuel + 1, '%' :: cs => .place (takePlace cs).1 :: piecesWithin fuel (takePlace cs).2
  | fuel + 1, c :: cs => .char c :: piecesWithin fuel cs

def pieces (cs : List Char) : List Piece := piecesWithin cs.length cs

/-! Supplying values -/

/-- The values that are left, and the mapping that keys are looked up in. -/
structure Supply where
  mapping? : Option (List (Value × Value))
  rest : List Value

/-- Filling takes values from a supply and may fail. -/
abbrev Filling (α : Type) : Type := StateT Supply (Except Misuse) α

/-- Takes the next value. -/
def takeValue : Filling Value := do
  match (← get).rest with
  | [] => throw .wrongKind
  | v :: vs =>
    modify fun s => { s with rest := vs }
    return v

/-- Makes the value of a key the only one that is left. -/
def lookUp (name? : Option String) : Filling Unit := do
  match (← get).mapping?, name? with
  | none, _ => throw .wrongKind
  | some _, none => throw .wrongValue
  | some es, some name =>
    match Value.lookup? (.text name) es with
    | some v => modify fun s => { s with rest := [v] }
    | none => throw .noSuchKey

def chooseKey : Key → Filling Unit
  | .absent => pure ()
  | .named name => lookUp (some name)
  | .unclosed => lookUp none

/-- Takes an integer between bounds. -/
def takeInteger (bound : Nat) : Filling Int := do
  let v ← takeValue
  match v.asInt? with
  | none => throw .wrongKind
  | some n => if -(bound : Int) - 1 ≤ n && n ≤ bound then return n else throw .outOfRange

/-- The number of a width or precision, which in a template has a bound as well. -/
def takeNumber (bound : Nat) : Extent → Filling Int
  | .number n => if n ≤ bound then return n else throw .wrongValue
  | .nextValue => takeInteger bound

def maxWidth : Nat := Nat.pow 2 63 - 1

def maxPrecision : Nat := Nat.pow 2 31 - 1

/-! Showing values -/

/-- What is shown in a place: a sign, a mark of the base, and the rest. -/
structure Shown where
  sign : List Char
  mark : List Char
  body : List Char
  isNumber : Bool

/-- Something that is no number. -/
def Shown.ofChars (cs : List Char) : Shown := ⟨[], [], cs, false⟩

/-- Fills up to a width; zeros stand between the sign and the digits of a number. -/
def Shown.pad (s : Shown) (f : Flags) (width : Nat) : List Char :=
  let whole := s.sign ++ s.mark ++ s.body
  let missing := width - whole.length
  if f.left then whole ++ List.replicate missing ' '
  else if f.zeros && s.isNumber then s.sign ++ s.mark ++ List.replicate missing '0' ++ s.body
  else List.replicate missing ' ' ++ whole

/-- The sign of a number. -/
def signOf (f : Flags) (negative : Bool) : List Char :=
  if negative then ['-'] else if f.plus then ['+'] else if f.space then [' '] else []

/-- The integer that a number is shown as. -/
def integerOf : Value → Except Misuse Int
  | .int n => .ok n
  | .bool b => .ok (if b then 1 else 0)
  | .float .nan => .error .wrongValue
  | .float x =>
    match x.truncate? with
    | some n => .ok n
    | none => .error .outOfRange
  | _ => .error .wrongKind

/-- The integer that a value is, which no fraction is. -/
def wholeOf (v : Value) : Except Misuse Int :=
  match v.asInt? with
  | some n => .ok n
  | none => .error .wrongKind

/-- The binary64 number that a value is shown as. -/
def numberOf (v : Value) : Except Misuse Binary64 :=
  match v, v.asInt? with
  | .float x, _ => .ok x
  | _, some n =>
    match Binary64.ofRatio (decide (n < 0)) n.natAbs 1 with
    | .infinite _ => .error .outOfRange
    | x => .ok x
  | _, none => .error .wrongKind

/-- The longest precision that digits of integers are filled up to. -/
def maxDigits : Nat := maxPrecision - 3

/-- An integer in a base, filled up with zeros to the precision. -/
def showInteger (f : Flags) (precision : Nat) (base : Nat) (mark : List Char) (n : Int)
    : Except Misuse Shown :=
  if maxDigits < precision then .error .outOfRange
  else
    let digits := Layout.padLeft precision '0' (Nat.toDigits base n.natAbs)
    .ok ⟨signOf f (decide (n < 0)), if f.alternate then mark else [], digits, true⟩

/-- The precision of numbers with a point that give none. -/
def standardPrecision : Nat := 6

/-- A number with a point. -/
def showNumber (f : Flags) (precision? : Option Nat) (style : Rounded.Style) (v : Value)
    : Except Misuse Shown :=
  (numberOf v).map fun x =>
    let (negative, body) := x.rounded style (precision?.getD standardPrecision) f.alternate
    ⟨signOf f negative, [], body, true⟩

/-- The same in capitals. -/
def Shown.inCapitals (s : Shown) : Shown :=
  { s with mark := s.mark.map Char.toUpper, body := s.body.map Char.toUpper }

/-- The one character that a text is or that an integer counts. -/
def characterOf (v : Value) : Except Misuse Char :=
  match v with
  | .text s =>
    match s.toList with
    | [c] => .ok c
    | _ => .error .wrongKind
  | v => do
    let n ← wholeOf v
    if 0 ≤ n && n < 0x110000 then .ok (Char.ofNat n.toNat) else .error .outOfRange

/-- A description in ASCII alone. -/
def inAscii (cs : List Char) : List Char :=
  cs.flatMap fun c => if c.toNat < 0x80 then [c] else Text.escapeCode c.toNat

/-- What a letter makes of a value. -/
def showAs (letter : Char) (f : Flags) (precision? : Option Nat) (v : Value)
    : Except Misuse Shown :=
  let cut (cs : List Char) : Shown := .ofChars (match precision? with
    | some n => cs.take n
    | none => cs)
  let digits := precision?.getD 0
  match letter with
  | 's' => .ok (cut v.plain.toList)
  | 'r' => .ok (cut v.quoted.toList)
  | 'a' => .ok (cut (inAscii v.quoted.toList))
  | 'c' => (characterOf v).map fun c => .ofChars [c]
  | 'd' | 'i' | 'u' => do showInteger f digits 10 [] (← integerOf v)
  | 'o' => do showInteger f digits 8 ['0', 'o'] (← wholeOf v)
  | 'x' => do showInteger f digits 16 ['0', 'x'] (← wholeOf v)
  | 'X' => do return (← showInteger f digits 16 ['0', 'x'] (← wholeOf v)).inCapitals
  | 'f' => showNumber f precision? .fixed v
  | 'F' => (showNumber f precision? .fixed v).map Shown.inCapitals
  | 'e' => showNumber f precision? .exponent v
  | 'E' => (showNumber f precision? .exponent v).map Shown.inCapitals
  | 'g' => showNumber f precision? .general v
  | 'G' => (showNumber f precision? .general v).map Shown.inCapitals
  | _ => .error .wrongValue

/-! Filling a template -/

/-- Fills a place. Its key, its width and its precision are settled, in this order, before its
letter is looked at. -/
def Place.fill (p : Place) : Filling (List Char) := do
  chooseKey p.key
  let width ← match p.width? with
    | some e => takeNumber maxWidth e
    | none => pure 0
  let precision? ← p.precision?.mapM fun e => do return (← takeNumber maxPrecision e).toNat
  match p.letter? with
  | none => throw .wrongValue
  | some letter =>
    let v ← takeValue
    let shown ← showAs letter p.flags precision? v
    return shown.pad { p.flags with left := p.flags.left || width < 0 } width.natAbs

def Piece.fill : Piece → Filling (List Char)
  | char c => pure [c]
  | place p => p.fill

/-- Fails if values are left that nothing looks up by key. -/
def checkUsed : Filling Unit := do
  let s ← get
  if s.mapping?.isNone && !s.rest.isEmpty then throw .wrongKind

/-- What values supply: one mapping that is not empty supplies its own values as well. -/
def supplyOf : List Value → Supply
  | [.mapping (e :: es)] => ⟨some (e :: es), [.mapping (e :: es)]⟩
  | vs => ⟨none, vs⟩

/-- Fills the pieces of a template and uses up the values. -/
def fillPieces (ps : List Piece) : Filling (List Char) := do
  let filled ← ps.mapM Piece.fill
  checkUsed
  return filled.flatten

/-- Fills a template; without values it is taken as it is. -/
def fill (template : String) (vs : List Value) : Except Misuse String :=
  if vs.isEmpty then .ok template
  else
    ((fillPieces (pieces template.toList)).run (supplyOf vs)).map fun r => String.ofList r.1

end DocGateway.Template
