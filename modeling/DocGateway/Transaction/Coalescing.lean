import DocGateway.Clock
import DocGateway.Operation
import DocGateway.Preferences
import DocGateway.Value.Day

/-!
Coalescing: merging operations into one update per record.

Operations on the same record are merged in submission order, so the last value of a field wins;
records that got no field are dropped, and the rest is stamped with the time and the user of the
update if there is a user.
-/

namespace DocGateway

/-- The merged updates of each record, by model and record. -/
abbrev Buckets := OrderedMap (String × String) Fields

/-- The fields that note the time and the user of an update. -/
structure AuditFields where
  time : String
  user : String
deriving DecidableEq, Inhabited

namespace AuditFields

/-- The entries of a mapping with two more, whose keys must be fit to be keys. -/
def enter (timeField userField time user : Value) (es : List (Value × Value))
    : Except Failure (List (Value × Value)) :=
  if timeField.isKey && userField.isKey then
    .ok (Value.insertEntry userField user (Value.insertEntry timeField time es))
  else .error (.misuse .wrongKind)

/-- The fields in force, which must have names that updates can have. -/
def read (p : Preferences) : Except Failure AuditFields := do
  let _ ← enter p.updatedAtField p.updatedByField .null .null []
  match Fields.readKey p.updatedAtField, Fields.readKey p.updatedByField with
  | .ok time, .ok user => return ⟨time, user⟩
  | .bad ps, .ok _ => throw (invalid ps)
  | .ok _, .bad qs => throw (invalid qs)
  | .bad ps, .bad qs =>
    throw (invalid (if p.updatedAtField.same p.updatedByField then ps else ps ++ qs))
where
  invalid (ps : List Problem) : Failure :=
    .invalid (ps.map fun p => { p with place := "updates" :: p.place })

theorem read_texts (p : Preferences) {time user : String} (ht : p.updatedAtField = .text time)
    (hu : p.updatedByField = .text user) : read p = .ok ⟨time, user⟩ := by
  simp only [read, ht, hu]
  rfl

end AuditFields

/-- The time and the user of an update. -/
structure AuditStamp where
  time : String
  user : Value

namespace AuditStamp

/-- The stamp for a user at the clock's time; there is none without a user. -/
def of (clock : Clock) (user : Value) : Except Failure (Option AuditStamp) :=
  if !user.truthy then .ok none
  else
    match clock.now?.bind Moment.stamp? with
    | some time => .ok (some ⟨time, user⟩)
    | none => .error (.misuse .outOfRange)

/-- Notes the stamp in the fields of an update. -/
def apply (a : AuditStamp) (names : AuditFields) (f : Fields) : Fields :=
  (f.set names.time (.text a.time)).set names.user a.user

/-- Notes the stamp in an update. -/
def note (a : AuditStamp) (names : AuditFields) (f : FlatUpdate) : FlatUpdate :=
  { f with updates := a.apply names f.updates }

end AuditStamp

namespace Buckets

/-- Merges an operation into the bucket of its record. -/
def add (b : Buckets) (op : Operation) : Buckets :=
  b.update (op.model, op.record) ∅ fun f => f.merge op.updates

/-- Merges operations in order. -/
def ofOperations (ops : List Operation) : Buckets :=
  ops.foldl add ∅

/-- One update for each bucket that holds a field. -/
def flatten (b : Buckets) : List FlatUpdate :=
  (b.entries.filter fun e => !e.2.isEmpty).map fun e => ⟨e.1.1, e.1.2, e.2⟩

end Buckets

/-- A bucket put together by hand: model, record and updates, none of which was looked at. -/
structure LooseBucket where
  model : Value
  record : Value
  updates : Value

namespace LooseBucket

/-- Sets a bucket: an equal model and record keep their place and spelling. -/
def insert (b : LooseBucket) : List LooseBucket → List LooseBucket
  | [] => [b]
  | c :: cs =>
    if c.model.same b.model && c.record.same b.record then { c with updates := b.updates } :: cs
    else c :: insert b cs

/-- Sets buckets one after the other; models and records must be fit to be keys. -/
def index (bs : List LooseBucket) : Except Misuse (List LooseBucket) :=
  bs.foldlM (fun cs b =>
    if b.model.isKey && b.record.isKey then .ok (b.insert cs) else .error .wrongKind) []

/-- Stamps a bucket's update and reads it, the names of the stamp's fields included. -/
def toFlat (p : Preferences) (a? : Option AuditStamp) (b : LooseBucket)
    : Except Failure FlatUpdate := do
  let es ← b.updates.toEntries.mapError Failure.misuse
  let es ← match a? with
    | some a => AuditFields.enter p.updatedAtField p.updatedByField (.text a.time) a.user es
    | none => pure es
  FlatUpdate.ofParts b.model b.record (.mapping es)

/-- One update for each bucket that holds a field. -/
def flatten (p : Preferences) (a? : Option AuditStamp) (bs : List LooseBucket)
    : Except Failure (List FlatUpdate) :=
  (bs.filter fun b => b.updates.truthy).mapM (toFlat p a?)

end LooseBucket

end DocGateway
