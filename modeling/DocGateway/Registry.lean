import DocGateway.Action
import DocGateway.Log.Source
import DocGateway.Settings
import DocGateway.Value.Entries
import DocGateway.Value.Order

/-!
Registries of models and the fields that each of them accepts.

A registered model accepts the fields that it was registered with and, unless left out, the fields
that every record has. A model whose id was generated is dynamic: it accepts every field.
-/

namespace DocGateway

/-- Adds a value unless an equal one is there. -/
def Value.addDistinct (vs : List Value) (v : Value) : List Value :=
  if v.isIn vs then vs else vs ++ [v]

/-- The models by id, with the fields that each accepts, and the test for dynamic ids. -/
structure Registry where
  dynamicIds : IdPattern
  models : List (Value × List Value)

namespace Registry

/-- The fields that every record has. -/
def commonFields : List String :=
  ["id", "accessRead", "accessUpdate", "accessDelete", "accessManage", "createdAt", "createdBy",
   "updatedAt", "updatedBy", "deletedAt", "deletedBy"]

def empty (dynamicIds : IdPattern) : Registry := ⟨dynamicIds, []⟩

/-- The accepted fields of a registration. -/
def acceptedOf (fields : List Value) (withCommon : Bool) : List Value :=
  fields.foldl Value.addDistinct (if withCommon then commonFields.map .text else [])

/-- Registers a model; a new registration replaces the one before. -/
def register (r : Registry) (model : Value) (fields : List Value) (withCommon : Bool) : Registry :=
  { r with models := Value.insertEntry model (acceptedOf fields withCommon) r.models }

def unregister (r : Registry) (model : Value) : Registry :=
  { r with models := Value.eraseEntry model r.models }

/-- The fields that a registered model accepts. -/
def accepted? (r : Registry) (model : Value) : Option (List Value) :=
  Value.lookup? model r.models

/-- Whether a model's id is that of a dynamic model. -/
def isDynamic (r : Registry) : Value → Bool
  | .text s => r.dynamicIds.matches? s
  | _ => false

/-- Fails unless a value can be a key. -/
def checkKey (v : Value) : Except Failure Unit :=
  if v.isKey then .ok () else .error (.misuse .wrongKind)

/-- The fields that a model accepts, which must be registered. -/
def accepted (r : Registry) (model : Value) : Except Failure (List Value) := do
  checkKey model
  match r.accepted? model with
  | some fields => return fields
  | none =>
    throw (.report ⟨.unknownModel, .text "Model is not registered", [("model_id", .value model)]⟩)

/-- Registers a model with the fields that a value holds. -/
def registerValue (r : Registry) (model fields : Value) (withCommon : Bool)
    : Except Failure (Registry × LogEntry) := do
  match fields.items? with
  | none => throw (.misuse .wrongKind)
  | some vs =>
    vs.forM checkKey
    checkKey model
    let count := (acceptedOf vs withCommon).length
    return (r.register model vs withCommon,
      ⟨.debug, LogSource.registry, s!"Registered model={model.plain} fields={count}"⟩)

variable {σ : Type}

/-- Notes the fields that were left out, in order. -/
def noteDropped (model : Value) (dropped : List (Value × Value)) : Action σ Unit :=
  if dropped.isEmpty then pure ()
  else
    match Value.sort? (dropped.map Prod.fst) with
    | none => .fail (.misuse .wrongKind)
    | some keys =>
      let shown := (Value.list keys).quoted
      .write ⟨.debug, LogSource.sanitizer,
        s!"Dropped {dropped.length} field(s) not accepted by model={model.plain}: {shown}"⟩

/-- The entries of a payload that a model accepts. -/
def sanitize (r : Registry) (payload model : Value) : Action σ (List (Value × Value)) :=
  match payload with
  | .mapping es =>
    if r.isDynamic model then pure es
    else do
      let fields ← Action.ofExcept (r.accepted model)
      noteDropped model (es.filter fun e => !e.1.isIn fields)
      return es.filter fun e => e.1.isIn fields
  | _ =>
    .fail (.report ⟨.gateway, .text "Payload must be a mapping",
      [("model_id", .value model), ("payload", .value payload)]⟩)

end Registry

end DocGateway
