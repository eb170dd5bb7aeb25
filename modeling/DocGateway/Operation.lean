import DocGateway.Failure
import DocGateway.Fields

/-!
Operations: updates to the fields of one record.

An operation is what a caller submits; a flat update is what is sent to storage, after everything
that was submitted for one record has been merged.
-/

namespace DocGateway

/-- Updates to one record, as they are submitted. -/
structure Operation where
  model : String
  record : String
  updates : Fields

/-- The updates of one record, ready for storage. -/
structure FlatUpdate where
  model : String
  record : String
  updates : Fields

/-- Something that was handed over either ready for use or as a value that is still to be read. -/
inductive Given (α : Type) where
  | ready (a : α)
  | raw (v : Value)

/-- The names of the field that holds a model's id. -/
def modelField : FieldName := ⟨"modelId", "model_id"⟩

/-- The names of the field that holds a record's id. -/
def recordField : FieldName := ⟨"recordId", "record_id"⟩

namespace Operation

/-- What an operation may do. -/
def actions : List String := ["update"]

/-- Reads an operation from the entries of a mapping. -/
def read (es : List (Value × Value)) : Checked Operation :=
  (fun _ model record updates => { model, record, updates : Operation })
    <$> Reader.optional (.plain "action") "update" (Reader.oneOf actions) es
    <*> Reader.required modelField Reader.nonEmptyText es
    <*> Reader.required recordField Reader.nonEmptyText es
    <*> Reader.optional (.plain "updates") ∅ Fields.read es

/-- The first of several problems as a report about the operation that has them. -/
def invalid (ps : List Problem) (es : List (Value × Value)) : Failure :=
  let message := match ps with
    | p :: _ => p.kind.message
    | [] => ""
  .report ⟨.transaction, .text ("Invalid operation: " ++ message),
    [("operation", .value (.mapping es))]⟩

/-- Reads an operation. -/
def ofValue : Value → Except Failure Operation
  | .mapping es =>
    match read es with
    | .ok op => .ok op
    | .bad ps => .error (invalid ps es)
  | v =>
    .error (.report ⟨.transaction, .text "Operation must be a mapping or Operation",
      [("operation", .value v)]⟩)

/-- Takes an operation in either form. -/
def ofGiven : Given Operation → Except Failure Operation
  | .ready op => .ok op
  | .raw v => ofValue v

/-- Puts an operation together from its parts. -/
def ofParts (model record : Value) (updates : List (Value × Value)) : Except Failure Operation :=
  match read [(.text modelField.own, model), (.text recordField.own, record),
      (.text "updates", .mapping updates)] with
  | .ok op => .ok op
  | .bad ps => .error (.invalid ps)

end Operation

namespace FlatUpdate

/-- The names of the model and the record. -/
def key (f : FlatUpdate) : String × String := (f.model, f.record)

/-- What selects the record in storage. -/
def selector (f : FlatUpdate) : Value := Value.fields [("_id", .text f.record)]

/-- The update as a mapping with its names on the wire. -/
def toValue (f : FlatUpdate) : Value :=
  Value.fields
    [(modelField.wire, .text f.model), (recordField.wire, .text f.record),
     ("updates", f.updates.toValue)]

/-- Reads an update from the entries of a mapping. -/
def read (es : List (Value × Value)) : Checked FlatUpdate :=
  FlatUpdate.mk
    <$> Reader.required modelField Reader.text es
    <*> Reader.required recordField Reader.text es
    <*> Reader.optional (.plain "updates") ∅ Fields.read es

/-- The name of updates in problems. -/
def kindName : String := "FlatOperation"

/-- Reads an update. -/
def ofValue (v : Value) : Except Failure FlatUpdate :=
  match Reader.record kindName read v with
  | .ok f => .ok f
  | .bad ps => .error (.invalid ps)

/-- Takes an update in either form; entries of a mapping may also come as pairs. -/
def ofGiven : Given FlatUpdate → Except Failure FlatUpdate
  | .ready f => .ok f
  | .raw v => do
    let es ← v.toEntries.mapError Failure.misuse
    ofValue (.mapping es)

/-- Puts an update together from its parts. -/
def ofParts (model record updates : Value) : Except Failure FlatUpdate :=
  ofValue (Value.fields
    [(modelField.own, model), (recordField.own, record), ("updates", updates)])

end FlatUpdate

end DocGateway
