import DocGateway.Value.Equality

/-!
The order of values, where two values have one.

Numbers are ordered by value, text by code points, sequences by their first difference; values of
different kinds have no order.
-/

namespace DocGateway.Value

def belowBytes : List UInt8 → List UInt8 → Bool
  | [], bs => !bs.isEmpty
  | _ :: _, [] => false
  | a :: as, b :: bs => if a = b then belowBytes as bs else a < b

/-- The order of values that hold no other values. -/
def scalarBelow? : Value → Value → Option Bool
  | float x, float y => some (x.below y)
  | float x, w => w.asInt?.map x.belowInt
  | v, float y => v.asInt?.map y.aboveInt
  | text s, text t => some (decide (s < t))
  | bytes as, bytes bs => some (belowBytes as bs)
  | date d, date e => some (decide (d.ordinal < e.ordinal))
  | moment a, moment b =>
    match a.offset, b.offset with
    | none, none => some (decide (a.localMicros < b.localMicros))
    | some _, some _ => some (decide (a.instant < b.instant))
    | _, _ => none
  | v, w =>
    match v.asInt?, w.asInt? with
    | some m, some n => some (decide (m < n))
    | _, _ => none

mutual

/-- Whether the first value comes before the second, if they can be compared. -/
def below? : Value → Value → Option Bool
  | list xs, w => match w with
    | list ys => itemsBelow? xs ys
    | _ => none
  | tuple xs, w => match w with
    | tuple ys => itemsBelow? xs ys
    | _ => none
  | v, w => scalarBelow? v w
termination_by structural v => v

def itemsBelow? : List Value → List Value → Option Bool
  | [], ys => some !ys.isEmpty
  | x :: xs, ys => match ys with
    | [] => some false
    | y :: ys => if same x y then itemsBelow? xs ys else below? x y
termination_by structural xs => xs

end

/-- How many values from the front on keep an order, ascending or descending; a descending run has
no equal neighbours. -/
def runLength? (descending : Bool) : Value → List Value → Option Nat
  | _, [] => some 1
  | v, w :: ws => do
    if (← below? w v) == descending then return (← runLength? descending w ws) + 1
    else return 1

/-- The place for a value in sorted values between two bounds, after all that it does not come
before; each comparison halves what lies between the bounds. -/
def placeFor? (v : Value) (sorted : List Value) (low high : Nat) : Option Nat :=
  if _ : low < high then do
    let middle := (low + high) / 2
    if ← below? v (sorted.getD middle v) then placeFor? v sorted low middle
    else placeFor? v sorted (middle + 1) high
  else some low
termination_by high - low

/-- Puts a value in its place among sorted values. -/
def insertSorted? (sorted : List Value) (v : Value) : Option (List Value) := do
  let place ← placeFor? v sorted 0 sorted.length
  return sorted.take place ++ v :: sorted.drop place

/-- The values in ascending order, equal ones as they stood; `none` if two that are compared have
no order. Compared are the neighbours in the run at the front and what placing each later value
between sorted ones takes, so values without an order may go unnoticed. -/
def sort? : List Value → Option (List Value)
  | [] => some []
  | [v] => some [v]
  | v :: w :: ws => do
    let descending ← below? w v
    let length ← runLength? descending v (w :: ws)
    let front := (v :: w :: ws).take length
    ((v :: w :: ws).drop length).foldlM insertSorted? (if descending then front.reverse else front)

end DocGateway.Value
