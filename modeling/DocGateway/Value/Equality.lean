import DocGateway.Value.Basic

/-!
Equality of values across kinds.

Truth values count as the integers 0 and 1, and numbers are equal when their values are. Sequences
are compared item by item and mappings without regard to the order of their entries.
-/

namespace DocGateway.Value

/-- The integer that a truth value or integer stands for. -/
def asInt? : Value → Option Int
  | bool b => some (if b then 1 else 0)
  | int n => some n
  | _ => none

/-- Equality of values that hold no other values. -/
def sameScalar : Value → Value → Bool
  | null, null => true
  | float x, float y => x.equals y
  | float x, w => (w.asInt?.map x.equalsInt).getD false
  | v, float y => (v.asInt?.map y.equalsInt).getD false
  | text s, text t => s == t
  | bytes as, bytes bs => as == bs
  | date d, date e => d == e
  | moment a, moment b => a.equals b
  | pattern s, pattern t => s == t
  | v, w =>
    match v.asInt?, w.asInt? with
    | some m, some n => m == n
    | _, _ => false

mutual

/-- Equality of values. -/
def same : Value → Value → Bool
  | list xs, w => match w with
    | list ys => sameItems xs ys
    | _ => false
  | tuple xs, w => match w with
    | tuple ys => sameItems xs ys
    | _ => false
  | mapping es, w => match w with
    | mapping fs => es.length == fs.length && sameEntries es fs
    | _ => false
  | v, w => sameScalar v w
termination_by structural v => v

/-- Equality of sequences, item by item. -/
def sameItems : List Value → List Value → Bool
  | [], ys => ys.isEmpty
  | x :: xs, ys => match ys with
    | [] => false
    | y :: ys => same x y && sameItems xs ys
termination_by structural xs => xs

/-- Whether every entry of the first mapping stands in the second one. -/
def sameEntries : List (Value × Value) → List (Value × Value) → Bool
  | [], _ => true
  | (k, v) :: es, fs => (fs.any fun f => same k f.1 && same v f.2) && sameEntries es fs
termination_by structural es => es

end

mutual

/-- Whether a value may be the key of a mapping: lists and mappings may not. -/
def isKey : Value → Bool
  | list _ => false
  | mapping _ => false
  | tuple xs => areKeys xs
  | _ => true
termination_by structural v => v

def areKeys : List Value → Bool
  | [] => true
  | x :: xs => isKey x && areKeys xs
termination_by structural xs => xs

end

/-- Whether a value equals some value of a list. -/
def isIn (v : Value) (vs : List Value) : Bool :=
  vs.any fun w => same v w

end DocGateway.Value
