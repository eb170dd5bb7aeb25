import DocGateway.Fields
import DocGateway.Proofs.Value.TextKeys
import DocGateway.Registry

/-!
Registries as what their history of calls makes of them.

What a model accepts depends on the last call about it only: a registration, which replaces the one
before it, or its removal. A call that fails changes nothing.
-/

namespace DocGateway

inductive RegistryCall where
  | register (model fields : Value) (withCommon : Bool)
  | unregister (model : Value)

/-- What a model was registered with: fields, and whether the common ones are accepted too. -/
structure Registration where
  fields : List Value
  withCommon : Bool

def Registration.accepts (r : Registration) (field : String) : Bool :=
  r.fields.any (Value.isText field) || (r.withCommon && Registry.commonFields.contains field)

namespace RegistryCall

/-- The fields that a registration names; it fails unless they and the model are fit to be keys. -/
def fieldsOf? (model fields : Value) : Option (List Value) :=
  fields.items?.filter fun vs => vs.all Value.isKey && model.isKey

/-- What a call makes of a model's registration, if it is about this model and does not fail. -/
def outcome? (model : String) : RegistryCall → Option (Option Registration)
  | register m fields withCommon =>
    if m.isText model then (fieldsOf? m fields).map fun vs => some ⟨vs, withCommon⟩ else none
  | unregister m => if m.isText model then some none else none

/-- The registration of a model after calls: what the last call about it has left. -/
def latest? (model : String) (calls : List RegistryCall) : Option Registration :=
  (calls.reverse.findSome? (outcome? model)).join

end RegistryCall

namespace Registry

/-- Makes a call; one that fails changes nothing. -/
def apply (r : Registry) : RegistryCall → Registry
  | .register model fields withCommon =>
    match r.registerValue model fields withCommon with
    | .ok (next, _) => next
    | .error _ => r
  | .unregister model =>
    match checkKey model with
    | .ok () => r.unregister model
    | .error _ => r

def applyAll (r : Registry) (calls : List RegistryCall) : Registry :=
  calls.foldl apply r

theorem forM_checkKey (vs : List Value)
    : vs.forM checkKey = if vs.all Value.isKey then .ok () else .error (.misuse .wrongKind) := by
  induction vs with
  | nil => rfl
  | cons v vs ih =>
    have first : (v :: vs).forM checkKey = checkKey v >>= fun _ => vs.forM checkKey := rfl
    rw [first, List.all_cons, checkKey]
    cases v.isKey with
    | true => exact ih
    | false => rfl

/-- Registering replaces what a model accepts, unless it fails. -/
theorem apply_register (r : Registry) (model fields : Value) (withCommon : Bool)
    : r.apply (.register model fields withCommon)
      = match RegistryCall.fieldsOf? model fields with
        | some vs => r.register model vs withCommon
        | none => r := by
  simp only [apply, registerValue, RegistryCall.fieldsOf?]
  cases fields.items? with
  | none => rfl
  | some vs =>
    simp only [forM_checkKey, Option.filter_some]
    cases vs.all Value.isKey with
    | false => rfl
    | true =>
      simp only [checkKey]
      cases model.isKey <;> rfl

theorem apply_unregister (r : Registry) (model : Value)
    : r.apply (.unregister model) = if model.isKey then r.unregister model else r := by
  simp only [apply, checkKey]
  cases model.isKey <;> rfl

/-- One call changes what a model accepts in the way that its outcome says. -/
theorem accepted?_apply (r : Registry) (call : RegistryCall) (model : String)
    : (r.apply call).accepted? (.text model)
      = match call.outcome? model with
        | some found => found.map fun reg => acceptedOf reg.fields reg.withCommon
        | none => r.accepted? (.text model) := by
  cases call with
  | register m fields withCommon =>
    rw [apply_register, RegistryCall.outcome?]
    cases RegistryCall.fieldsOf? m fields with
    | none => cases m.isText model <;> rfl
    | some vs =>
      simp only [accepted?, register, Value.lookup?_insertEntry_text]
      cases m.isText model <;> rfl
  | unregister m =>
    rw [apply_unregister, RegistryCall.outcome?]
    cases own : m.isText model with
    | true =>
      have key : m.isKey = true := by
        rw [Value.isText_iff.1 own]
        rfl
      simp only [key, if_true, accepted?, unregister, Value.lookup?_eraseEntry_text, own,
        Option.map_none]
    | false =>
      cases m.isKey with
      | false => rfl
      | true =>
        simp only [if_true, accepted?, unregister, Value.lookup?_eraseEntry_text, own]
        rfl

/-- A registry accepts for a model what the last call about the model says. -/
theorem accepted?_applyAll (r : Registry) (calls : List RegistryCall) (model : String)
    : (r.applyAll calls).accepted? (.text model)
      = match calls.reverse.findSome? (RegistryCall.outcome? model) with
        | some found => found.map fun reg => acceptedOf reg.fields reg.withCommon
        | none => r.accepted? (.text model) := by
  induction calls generalizing r with
  | nil => rfl
  | cons call calls ih =>
    refine (ih (r.apply call)).trans ?_
    rw [List.reverse_cons, List.findSome?_append]
    cases calls.reverse.findSome? (RegistryCall.outcome? model) with
    | some found => rfl
    | none =>
      rw [accepted?_apply]
      cases h : call.outcome? model <;> simp [h]

/-- A new registry accepts for a model what its latest registration says. -/
theorem accepted?_empty_applyAll (ids : IdPattern) (calls : List RegistryCall) (model : String)
    : ((empty ids).applyAll calls).accepted? (.text model)
      = (RegistryCall.latest? model calls).map fun reg => acceptedOf reg.fields reg.withCommon := by
  rw [accepted?_applyAll, RegistryCall.latest?]
  cases calls.reverse.findSome? (RegistryCall.outcome? model) with
  | none => rfl
  | some found => cases found <;> rfl

theorem dynamicIds_apply (r : Registry) (call : RegistryCall)
    : (r.apply call).dynamicIds = r.dynamicIds := by
  cases call with
  | register model fields withCommon =>
    rw [apply_register]
    cases RegistryCall.fieldsOf? model fields <;> rfl
  | unregister model =>
    rw [apply_unregister]
    cases model.isKey <;> rfl

theorem dynamicIds_applyAll (r : Registry) (calls : List RegistryCall)
    : (r.applyAll calls).dynamicIds = r.dynamicIds := by
  induction calls generalizing r with
  | nil => rfl
  | cons call calls ih => exact (ih (r.apply call)).trans (r.dynamicIds_apply call)

theorem any_addDistinct (vs : List Value) (v : Value) (s : String)
    : (Value.addDistinct vs v).any (Value.isText s)
      = (vs.any (Value.isText s) || v.isText s) := by
  cases there : v.isIn vs with
  | false => simp [Value.addDistinct, there]
  | true =>
    cases own : v.isText s with
    | false => simp [Value.addDistinct, there]
    | true =>
      rw [Value.isText_iff.1 own, Value.isIn_text] at there
      simp [Value.addDistinct, Value.isText_iff.1 own, Value.isIn_text, there]

/-- The accepted fields of a registration are those that it says. -/
theorem isIn_acceptedOf (fields : List Value) (withCommon : Bool) (field : String)
    : (Value.text field).isIn (acceptedOf fields withCommon)
      = (⟨fields, withCommon⟩ : Registration).accepts field := by
  have added : ∀ (vs start : List Value),
      (vs.foldl Value.addDistinct start).any (Value.isText field)
        = (start.any (Value.isText field) || vs.any (Value.isText field)) := by
    intro vs
    induction vs with
    | nil => simp
    | cons v vs ih =>
      intro start
      rw [List.foldl_cons, ih, any_addDistinct, List.any_cons, Bool.or_assoc]
  rw [Value.isIn_text, acceptedOf, added, Bool.or_comm, Registration.accepts]
  congr 1
  cases withCommon with
  | false => rfl
  | true =>
    simp only [if_true, List.any_map, Bool.true_and]
    rw [List.contains_eq_any_beq]
    congr 1
    funext common
    exact Bool.beq_comm

end Registry

end DocGateway
