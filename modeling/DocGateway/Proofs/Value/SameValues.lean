import DocGateway.Proofs.Except
import DocGateway.Proofs.Number.WholeNumbers
import DocGateway.Value.Equality

/-!
Equality across kinds as a relation between values.

Equal values that hold no others have the same content, in which numbers of all kinds are one
(`sameScalar_iff`). Equality is transitive, equal values count as true or false alike, and it is
symmetric where no mapping repeats a key. It is not reflexive: a float may be no number.
-/

namespace DocGateway

/-- A number as equality sees it: as many units of the smallest binary64 number, or infinite. -/
inductive Amount where
  | units (n : Int)
  | infinite (negative : Bool)

/-- The amount of a binary64 number, if it is a number. -/
def Binary64.amount? : Binary64 → Option Amount
  | infinite negative => some (.infinite negative)
  | x => x.scaled?.map .units

theorem Binary64.amount?_eq_units_iff {x : Binary64} {n : Int}
    : x.amount? = some (.units n) ↔ x.scaled? = some n := by
  cases x <;> simp [amount?, scaled?]

theorem Binary64.equals_iff {x y : Binary64}
    : x.equals y = true ↔ ∃ a, x.amount? = some a ∧ y.amount? = some a := by
  cases x <;> cases y <;> simp [equals, amount?, scaled?]
  all_goals exact eq_comm

/-- A moment as equality sees it: its instant, and whether it has an offset. -/
def Moment.reading (m : Moment) : Bool × Int := (m.offset.isSome, m.instant)

theorem Moment.equals_iff {a b : Moment} : a.equals b = true ↔ a.reading = b.reading := by
  unfold equals reading instant
  cases a.offset <;> cases b.offset <;> simp

namespace Value

/-- What equality sees of a value that holds no others. -/
inductive Content where
  | null
  | number (a : Amount)
  | text (s : String)
  | bytes (bs : List UInt8)
  | date (d : Date)
  | moment (reading : Bool × Int)
  | pattern (source : String)

/-- The amount of a whole number. -/
def whole (n : Int) : Amount := .units (n * Binary64.unit)

theorem whole_inj {m n : Int} : whole m = whole n ↔ m = n := by
  rw [whole, whole, Amount.units.injEq, Binary64.mul_unit_inj]

theorem equalsInt_iff_amount? {x : Binary64} {n : Int}
    : x.equalsInt n = true ↔ x.amount? = some (whole n) := by
  rw [Binary64.equalsInt_iff, whole, Binary64.amount?_eq_units_iff]

def content? : Value → Option Content
  | null => some .null
  | bool b => some (.number (whole (if b then 1 else 0)))
  | int n => some (.number (whole n))
  | float x => x.amount?.map .number
  | text s => some (.text s)
  | bytes bs => some (.bytes bs)
  | date d => some (.date d)
  | moment m => some (.moment m.reading)
  | pattern s => some (.pattern s)
  | list _ | tuple _ | mapping _ => none

/-- Values that hold no others are equal if they have the same content. -/
theorem sameScalar_iff {v w : Value}
    : sameScalar v w = true ↔ ∃ c, v.content? = some c ∧ w.content? = some c := by
  cases v <;> cases w
  all_goals
    simp [sameScalar, asInt?, content?, equalsInt_iff_amount?, whole_inj, Binary64.equals_iff,
      Moment.equals_iff]
  all_goals exact eq_comm

-----------------------------------------------------------------------------------------
-- Values that hold others
-----------------------------------------------------------------------------------------

/-- Induction over values, with everything that a value holds at once. A value that holds nothing is
compared by its content.
-/
@[induction_eliminator]
theorem induction {P : Value → Prop} (single : ∀ v, (∀ w, same v w = sameScalar v w) → P v)
    (list : ∀ xs, (∀ x ∈ xs, P x) → P (.list xs)) (tuple : ∀ xs, (∀ x ∈ xs, P x) → P (.tuple xs))
    (mapping : ∀ es, (∀ e ∈ es, P e.1 ∧ P e.2) → P (.mapping es)) (v : Value)
    : P v := by
  refine @Value.rec P (fun xs => ∀ x ∈ xs, P x) (fun es => ∀ e ∈ es, P e.1 ∧ P e.2)
    (fun e => P e.1 ∧ P e.2) ?_ ?_ ?_ ?_ ?_ ?_ ?_ ?_ list tuple mapping ?_ ?_ ?_ ?_ ?_ ?_ v
  case refine_10 => exact fun _ none => nomatch none
  case refine_11 => exact fun x xs first rest => List.forall_mem_cons.2 ⟨first, rest⟩
  case refine_12 => exact fun _ none => nomatch none
  case refine_13 => exact fun e es first rest => List.forall_mem_cons.2 ⟨first, rest⟩
  case refine_14 => exact fun _ _ key value => ⟨key, value⟩
  all_goals
    intros
    exact single _ fun _ => rfl

theorem sameItems_iff {xs ys : List Value}
    : sameItems xs ys = true ↔ List.Forall₂ (fun x y => same x y = true) xs ys := by
  induction xs generalizing ys with
  | nil => simp [sameItems]
  | cons x xs ih => cases ys <;> simp [sameItems, ih]

/-- The second entry has an equal key and an equal value. -/
def SameEntry (e f : Value × Value) : Prop := same e.1 f.1 = true ∧ same e.2 f.2 = true

theorem sameEntries_iff {es fs : List (Value × Value)}
    : sameEntries es fs = true ↔ ∀ e ∈ es, ∃ f ∈ fs, SameEntry e f := by
  induction es with
  | nil => simp [sameEntries]
  | cons e es ih => simp [sameEntries, ih, SameEntry]

theorem same_list_iff {xs : List Value} {w : Value}
    : same (list xs) w = true
      ↔ ∃ ys, w = list ys ∧ List.Forall₂ (fun x y => same x y = true) xs ys := by
  cases w <;> simp [same, sameItems_iff]

theorem same_tuple_iff {xs : List Value} {w : Value}
    : same (tuple xs) w = true
      ↔ ∃ ys, w = tuple ys ∧ List.Forall₂ (fun x y => same x y = true) xs ys := by
  cases w <;> simp [same, sameItems_iff]

theorem same_mapping_iff {es : List (Value × Value)} {w : Value}
    : same (mapping es) w = true
      ↔ ∃ fs, w = mapping fs ∧ es.length = fs.length ∧ ∀ e ∈ es, ∃ f ∈ fs, SameEntry e f := by
  cases w <;> simp [same, sameEntries_iff]

/-- A value with a content equals exactly those with the same one. -/
theorem same_iff_of_content? {v w : Value} {c : Content} (content : v.content? = some c)
    : same v w = true ↔ w.content? = some c := by
  have single : same v w = sameScalar v w := by
    cases v with
    | list | tuple | mapping => cases content
    | _ => rfl
  rw [single, sameScalar_iff]
  simp [content]

/-- Lists that are related item by item are so under what follows for their items. -/
theorem forall₂_imp_of_mem {α β : Type} {R S : α → β → Prop} {as : List α} {bs : List β}
    (step : ∀ a ∈ as, ∀ b ∈ bs, R a b → S a b) (related : List.Forall₂ R as bs)
    : List.Forall₂ S as bs := by
  induction related with
  | nil => exact .nil
  | cons first _ ih =>
    refine .cons (step _ List.mem_cons_self _ List.mem_cons_self first) (ih ?_)
    intro a member b member'
    exact step a (List.mem_cons_of_mem _ member) b (List.mem_cons_of_mem _ member')

/-- Items that equal items of equal lists are equal through them. -/
theorem forall₂_same_trans {xs ys zs : List Value}
    (step : ∀ x ∈ xs, ∀ {y z}, same x y = true → same y z = true → same x z = true)
    (first : List.Forall₂ (fun x y => same x y = true) xs ys)
    (second : List.Forall₂ (fun y z => same y z = true) ys zs)
    : List.Forall₂ (fun x z => same x z = true) xs zs := by
  refine forall₂_imp_of_mem ?_ (forall₂_comp_iff.1 ⟨ys, first, second⟩)
  rintro x member z _ ⟨y, equal, equal'⟩
  exact step x member equal equal'

theorem same_trans {u v w : Value} (first : same u v = true) (second : same v w = true)
    : same u w = true := by
  induction u generalizing v w with
  | single u single =>
    obtain ⟨c, content, content'⟩ := sameScalar_iff.1 (single v ▸ first)
    rw [same_iff_of_content? content'] at second
    exact (same_iff_of_content? content).2 second
  | list xs ih =>
    obtain ⟨ys, rfl, items⟩ := same_list_iff.1 first
    obtain ⟨zs, rfl, items'⟩ := same_list_iff.1 second
    exact same_list_iff.2 ⟨zs, rfl, forall₂_same_trans (fun x member => ih x member) items items'⟩
  | tuple xs ih =>
    obtain ⟨ys, rfl, items⟩ := same_tuple_iff.1 first
    obtain ⟨zs, rfl, items'⟩ := same_tuple_iff.1 second
    exact same_tuple_iff.2 ⟨zs, rfl, forall₂_same_trans (fun x member => ih x member) items items'⟩
  | mapping es ih =>
    obtain ⟨fs, rfl, length, entries⟩ := same_mapping_iff.1 first
    obtain ⟨gs, rfl, length', entries'⟩ := same_mapping_iff.1 second
    refine same_mapping_iff.2 ⟨gs, rfl, length.trans length', fun e member => ?_⟩
    obtain ⟨f, member', key, value⟩ := entries e member
    obtain ⟨g, member'', key', value'⟩ := entries' f member'
    obtain ⟨keyStep, valueStep⟩ := ih e member
    exact ⟨g, member'', keyStep key key', valueStep value value'⟩

-----------------------------------------------------------------------------------------
-- Truth
-----------------------------------------------------------------------------------------

/-- Whether values of a content count as true. -/
def Content.truthy : Content → Bool
  | null => false
  | number (.units n) => n != 0
  | text s => !s.isEmpty
  | bytes bs => !bs.isEmpty
  | number (.infinite _) | date _ | moment _ | pattern _ => true

theorem truthy_whole (n : Int) : (Content.number (whole n)).truthy = (n != 0) := by
  have zero : n * Binary64.unit = 0 ↔ n = 0 := by
    rw [Int.mul_eq_zero, or_iff_left Binary64.unit_ne_zero]
  rw [whole, Content.truthy, bne, bne, Bool.eq_iff_iff, Bool.not_eq_true', Bool.not_eq_true',
    beq_eq_false_iff_ne, beq_eq_false_iff_ne, Ne, Ne, zero]

theorem truthy_of_amount? {x : Binary64} {a : Amount} (amount : x.amount? = some a)
    : (!x.isZero) = (Content.number a).truthy := by
  cases x with
  | nan => cases amount
  | infinite negative =>
    cases amount
    rfl
  | finite negative m shift =>
    have power : Nat.pow 2 shift ≠ 0 := Nat.ne_of_gt (Nat.two_pow_pos shift)
    simp only [Binary64.amount?, Binary64.scaled?, Option.map_some, Option.some.injEq] at amount
    rw [← amount, Content.truthy, Binary64.isZero, Bool.eq_iff_iff]
    cases negative <;> simp [power, -Nat.pow_eq]

theorem truthy_of_content? {v : Value} {c : Content} (content : v.content? = some c)
    : v.truthy = c.truthy := by
  cases v with
  | bool b =>
    cases content
    rw [truthy_whole]
    cases b <;> rfl
  | int n =>
    cases content
    exact (truthy_whole n).symm
  | float x =>
    obtain ⟨a, amount, rfl⟩ := Option.map_eq_some_iff.1 content
    exact truthy_of_amount? amount
  | list | tuple | mapping => cases content
  | _ =>
    cases content
    rfl

/-- Equal values count as true or false alike. -/
theorem truthy_of_same {v w : Value} (equal : same v w = true) : v.truthy = w.truthy := by
  cases v with
  | list xs =>
    obtain ⟨ys, rfl, items⟩ := same_list_iff.1 equal
    cases items <;> rfl
  | tuple xs =>
    obtain ⟨ys, rfl, items⟩ := same_tuple_iff.1 equal
    cases items <;> rfl
  | mapping es =>
    obtain ⟨fs, rfl, length, _⟩ := same_mapping_iff.1 equal
    cases es <;> cases fs <;> simp_all [truthy]
  | _ =>
    obtain ⟨c, content, content'⟩ := sameScalar_iff.1 equal
    rw [truthy_of_content? content, truthy_of_content? content']

-----------------------------------------------------------------------------------------
-- Symmetry
-----------------------------------------------------------------------------------------

mutual

/-- Whether no mapping in a value, or in what it holds, repeats a key. -/
def hasDistinctKeys : Value → Bool
  | list xs => haveDistinctKeys xs
  | tuple xs => haveDistinctKeys xs
  | mapping es => entriesDistinct es
  | _ => true
termination_by structural v => v

def haveDistinctKeys : List Value → Bool
  | [] => true
  | x :: xs => hasDistinctKeys x && haveDistinctKeys xs
termination_by structural xs => xs

def entriesDistinct : List (Value × Value) → Bool
  | [] => true
  | (k, v) :: es =>
    hasDistinctKeys k && hasDistinctKeys v && !(es.any fun e => same k e.1) && entriesDistinct es
termination_by structural es => es

end

theorem haveDistinctKeys_iff {xs : List Value}
    : haveDistinctKeys xs = true ↔ ∀ x ∈ xs, x.hasDistinctKeys = true := by
  induction xs with
  | nil => simp [haveDistinctKeys]
  | cons x xs ih => simp [haveDistinctKeys, ih]

theorem entriesDistinct_iff {es : List (Value × Value)}
    : entriesDistinct es = true
      ↔ (∀ e ∈ es, e.1.hasDistinctKeys = true ∧ e.2.hasDistinctKeys = true)
        ∧ es.Pairwise fun e e' => ¬ same e.1 e'.1 = true := by
  induction es with
  | nil => simp [entriesDistinct]
  | cons e es ih =>
    simp only [entriesDistinct, Bool.and_eq_true, ih, List.forall_mem_cons, List.pairwise_cons,
      Bool.not_eq_true', List.any_eq_false]
    tauto

/-- If each item of a list has a partner in a list of the same length, and no two items share one,
then nothing there is left without a partner.
-/
theorem partners_of_length_eq {α β : Type} {R : α → β → Prop} {as : List α} {bs : List β}
    (apart : as.Pairwise fun a a' => ∀ b ∈ bs, R a b → ¬ R a' b)
    (length : as.length = bs.length) (each : ∀ a ∈ as, ∃ b ∈ bs, R a b)
    : ∀ b ∈ bs, ∃ a ∈ as, R a b := by
  induction as generalizing bs with
  | nil =>
    cases bs with
    | nil => exact nofun
    | cons => cases length
  | cons a as ih =>
    obtain ⟨⟨b, member, partner⟩, rest⟩ := List.forall_mem_cons.1 each
    obtain ⟨first, apart⟩ := List.pairwise_cons.1 apart
    obtain ⟨before, after, rfl⟩ := List.append_of_mem member
    -- The others have their partners beside the first item's one.
    have kept : ∀ b' ∈ before ++ after, b' ∈ before ++ b :: after := by simp; tauto
    have each' : ∀ a' ∈ as, ∃ b' ∈ before ++ after, R a' b' := by
      intro a' member'
      obtain ⟨b', other, partner'⟩ := rest a' member'
      rcases List.mem_append.1 other with other | other
      · exact ⟨b', List.mem_append_left _ other, partner'⟩
      rcases List.mem_cons.1 other with rfl | other
      · exact absurd partner' (first a' member' b' member partner)
      · exact ⟨b', List.mem_append_right _ other, partner'⟩
    have length' : as.length = (before ++ after).length := by
      simp only [List.length_append, List.length_cons] at length ⊢
      omega
    have partners := ih (apart.imp fun apart b' other => apart b' (kept b' other)) length' each'
    intro b' member'
    rcases List.mem_append.1 member' with other | other
    · obtain ⟨a', member', partner'⟩ := partners b' (List.mem_append_left _ other)
      exact ⟨a', List.mem_cons_of_mem _ member', partner'⟩
    rcases List.mem_cons.1 other with rfl | other
    · exact ⟨a, List.mem_cons_self, partner⟩
    · obtain ⟨a', member', partner'⟩ := partners b' (List.mem_append_right _ other)
      exact ⟨a', List.mem_cons_of_mem _ member', partner'⟩

/-- The items of equal lists are equal in both directions if they are so one by one. -/
theorem forall₂_same_symm {xs ys : List Value}
    (step : ∀ x ∈ xs, ∀ y ∈ ys, same x y = true → same y x = true)
    (items : List.Forall₂ (fun x y => same x y = true) xs ys)
    : List.Forall₂ (fun y x => same y x = true) ys xs :=
  List.Forall₂.flip (forall₂_imp_of_mem step items)

/-- Equality is symmetric where no mapping repeats a key. -/
theorem same_symm {v w : Value} (distinct : v.hasDistinctKeys = true)
    (distinct' : w.hasDistinctKeys = true) (equal : same v w = true)
    : same w v = true := by
  induction v generalizing w with
  | single v single =>
    obtain ⟨c, content, content'⟩ := sameScalar_iff.1 (single w ▸ equal)
    exact (same_iff_of_content? content').2 content
  | list xs ih =>
    obtain ⟨ys, rfl, items⟩ := same_list_iff.1 equal
    have each := haveDistinctKeys_iff.1 distinct
    have each' := haveDistinctKeys_iff.1 distinct'
    exact same_list_iff.2 ⟨xs, rfl, forall₂_same_symm
      (fun x member y member' => ih x member (each x member) (each' y member')) items⟩
  | tuple xs ih =>
    obtain ⟨ys, rfl, items⟩ := same_tuple_iff.1 equal
    have each := haveDistinctKeys_iff.1 distinct
    have each' := haveDistinctKeys_iff.1 distinct'
    exact same_tuple_iff.2 ⟨xs, rfl, forall₂_same_symm
      (fun x member y member' => ih x member (each x member) (each' y member')) items⟩
  | mapping es ih =>
    obtain ⟨fs, rfl, length, entries⟩ := same_mapping_iff.1 equal
    obtain ⟨each, apart⟩ := entriesDistinct_iff.1 distinct
    obtain ⟨each', _⟩ := entriesDistinct_iff.1 distinct'
    have partners : ∀ f ∈ fs, ∃ e ∈ es, SameEntry e f := by
      refine partners_of_length_eq (apart.imp_of_mem ?_) length entries
      intro e e' _ member' other f memberOf first second
      have back := (ih e' member').1 (each e' member').1 (each' f memberOf).1 second.1
      exact other (same_trans first.1 back)
    refine same_mapping_iff.2 ⟨es, rfl, length.symm, fun f member => ?_⟩
    obtain ⟨e, member', key, value⟩ := partners f member
    obtain ⟨keyStep, valueStep⟩ := ih e member'
    exact ⟨e, member', keyStep (each e member').1 (each' f member).1 key,
      valueStep (each e member').2 (each' f member).2 value⟩

end Value

end DocGateway
