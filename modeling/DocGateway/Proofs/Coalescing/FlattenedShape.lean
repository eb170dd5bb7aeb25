import DocGateway.Proofs.OrderedMap.KeyOrder
import DocGateway.Proofs.Transaction.RunOutcome

/-!
The exact shape of flattened operations: which records, in which order, with which fields.

Records and fields stand in the order of their first appearance. The order counts operations that
set nothing, although a record that got no field is left out.
-/

namespace DocGateway

variable {σ : Type} {ops : List Operation} {key : RecordKey}

-----------------------------------------------------------------------------------------
-- What operations come to
-----------------------------------------------------------------------------------------

/-- The records that operations set a field of, in the order in which operations first name them. -/
def changedRecords (ops : List Operation) : List RecordKey :=
  (ops.map Operation.key).eraseDups.filter fun key =>
    ops.any fun op => op.key = key && !op.updates.isEmpty

/-- The fields that operations on a record set, one operation after the other. -/
def submittedFields (ops : List Operation) (key : RecordKey) : List String :=
  (ops.filter fun op => op.key = key).flatMap fun op => op.updates.keys

/-- What the last operation on a record that sets a field sets it to. -/
def lastValue (ops : List Operation) (key : RecordKey) (name : String) : Option Value :=
  (ops.reverse.filter fun op => op.key = key).findSome? fun op => op.updates.get? name

/-- Updates that operations come to, with the same audit fields in each. There is one update for
each record that was changed. Fields that were submitted come first and have their last values,
unless an audit field overrides them.
-/
structure FlattenedFrom (ops : List Operation) (audit : Fields) (flat : List FlatUpdate)
    : Prop where
  once : (flat.map FlatUpdate.key).Nodup
  records : flat.map FlatUpdate.key = changedRecords ops
  fields : ∀ f ∈ flat, f.updates.keys = (submittedFields ops f.key ++ audit.keys).eraseDups
  values
    : ∀ f ∈ flat, ∀ name,
        f.updates.get? name = (audit.get? name).or (lastValue ops f.key name)

-----------------------------------------------------------------------------------------
-- Merging and flattening
-----------------------------------------------------------------------------------------

theorem keys_mergedFor : (mergedFor ops key).keys = (submittedFields ops key).eraseDups := by
  have empty : (∅ : Fields).keys = ([] : List String).eraseDups := rfl
  have merged := OrderedMap.keys_foldl_merge empty
    ((ops.filter fun op => op.key = key).map Operation.updates)
  rw [mergedFor, merged, List.flatMap_map]
  rfl

/-- Buckets stand in the order in which their records are first named. -/
theorem keys_ofOperations (ops : List Operation)
    : (Buckets.ofOperations ops).keys = (ops.map Operation.key).eraseDups := by
  have grows {b : Buckets} {ks : List RecordKey} (keys : b.keys = ks.eraseDups)
      : (ops.foldl Buckets.add b).keys = (ks ++ ops.map Operation.key).eraseDups := by
    induction ops generalizing b ks with
    | nil => simpa using keys
    | cons op ops ih =>
      have added : (b.add op).keys = (ks ++ [op.key]).eraseDups := OrderedMap.keys_set keys ..
      rw [List.foldl_cons, ih added, List.append_assoc]
      rfl
  have empty : (∅ : Buckets).keys = ([] : List RecordKey).eraseDups := rfl
  exact grows empty

theorem keys_flatten_ofOperations (ops : List Operation)
    : (Buckets.ofOperations ops).flatten.map FlatUpdate.key = changedRecords ops := by
  have filled : ∀ e ∈ (Buckets.ofOperations ops).entries,
      (!e.2.isEmpty) = ops.any fun op => op.key = e.1 && !op.updates.isEmpty := by
    rintro ⟨key, f⟩ entry
    have found := OrderedMap.get?_eq_some_iff.2 entry
    rw [Buckets.get?_ofOperations] at found
    obtain ⟨_, same⟩ := Option.ite_none_right_eq_some.1 found
    cases same
    rw [Bool.eq_iff_iff]
    simpa using filled_mergedFor_iff
  have keys : (Buckets.ofOperations ops).flatten.map FlatUpdate.key
      = ((Buckets.ofOperations ops).entries.filter fun e => !e.2.isEmpty).map Prod.fst := by
    simp [Buckets.flatten, Function.comp_def, FlatUpdate.key]
  rw [keys, List.filter_congr filled, changedRecords, ← keys_ofOperations, OrderedMap.keys,
    List.filter_map]
  rfl

/-- Merged updates with the same audit fields in each are what operations come to. -/
theorem flattenedFrom_merge (ops : List Operation) (audit : Fields)
    : FlattenedFrom ops audit
        ((Buckets.ofOperations ops).flatten.map fun f =>
          { f with updates := f.updates.merge audit }) := by
  have keys : ((Buckets.ofOperations ops).flatten.map fun f =>
      { f with updates := f.updates.merge audit }).map FlatUpdate.key = changedRecords ops := by
    rw [List.map_map, ← keys_flatten_ofOperations]
    rfl
  constructor
  case once =>
    rw [keys, ← keys_flatten_ofOperations]
    exact Buckets.nodup_flatten _
  case records => exact keys
  case fields =>
    intro f member
    obtain ⟨g, merged, rfl⟩ := List.mem_map.1 member
    dsimp only
    rw [(mem_flatten_ofOperations.1 merged).1, OrderedMap.keys_merge keys_mergedFor]
    rfl
  case values =>
    intro f member name
    obtain ⟨g, merged, rfl⟩ := List.mem_map.1 member
    dsimp only
    rw [OrderedMap.get?_merge, (mem_flatten_ofOperations.1 merged).1, get?_mergedFor]
    rfl

-----------------------------------------------------------------------------------------
-- Flattening
-----------------------------------------------------------------------------------------

namespace Coalescer

variable {c : Coalescer σ} {user : Value}

theorem flattenedFrom_of_no_user (none : user.truthy = false) (ops : List Operation)
    : FlattenedFrom ops ∅ (c.updatesFor user ops) := by
  have plain : c.updatesFor user ops
      = (Buckets.ofOperations ops).flatten.map fun f =>
          { f with updates := f.updates.merge ∅ } := by
    simp [updatesFor, noted, none]
  rw [plain]
  exact flattenedFrom_merge ops ∅

/-- The audit fields of updates at a time by a user. -/
def auditOf (names : AuditFields) (time : String) (user : Value) : Fields :=
  ((∅ : Fields).set names.time (.text time)).set names.user user

theorem flattenedFrom_of_user (given : user.truthy = true) {time : String} {names : AuditFields}
    (stamp : c.clock.now?.bind Moment.stamp? = some time)
    (named : AuditFields.read c.preferences = .ok names) (ops : List Operation)
    : FlattenedFrom ops (auditOf names time user) (c.updatesFor user ops) := by
  have audited : c.updatesFor user ops
      = (Buckets.ofOperations ops).flatten.map fun f =>
          { f with updates := f.updates.merge (auditOf names time user) } := by
    simp [updatesFor, noted, given, stamp, named, auditOf, OrderedMap.merge_set]
  rw [audited]
  exact flattenedFrom_merge ops _

/-- Flattening gives the updates that operations come to, exactly as they were submitted without a
user, and with a user overridden by one stamp that all of them share. With a user it needs a clock
that can be read in UTC, even if there is nothing to stamp.
-/
theorem flatten_shape (c : Coalescer σ) (user : Value) (ops : List Operation)
    : (user.truthy = false → ∃ flat, c.flatten user ops = .ok flat ∧ FlattenedFrom ops ∅ flat)
      ∧ (∀ timeField userField time,
        user.truthy = true
        → c.preferences.updatedAtField = .text timeField
        → c.preferences.updatedByField = .text userField
        → timeField ≠ userField
        → c.clock.now?.bind Moment.stamp? = some time
        → ∃ flat,
            c.flatten user ops = .ok flat
            ∧ FlattenedFrom ops (auditOf ⟨timeField, userField⟩ time user) flat
            ∧ ∀ f ∈ flat,
                f.updates.get? timeField = some (.text time)
                ∧ f.updates.get? userField = some user)
      ∧ (user.truthy = true
        → c.clock.now?.bind Moment.stamp? = none
        → c.flatten user ops = .error (.misuse .outOfRange)) := by
  refine ⟨fun none => ?_, ?_, fun given unread => ?_⟩
  · exact ⟨_, c.flatten_of_no_user ops none, flattenedFrom_of_no_user none ops⟩
  · intro timeField userField time given timeNamed userNamed distinct stamp
    have named := AuditFields.read_texts c.preferences timeNamed userNamed
    have shape := flattenedFrom_of_user given stamp named ops
    refine ⟨_, c.flatten_of_stamp user ops stamp named, shape, fun f member => ?_⟩
    rw [shape.values f member, shape.values f member]
    simp [auditOf, OrderedMap.get?_set, distinct]
  · simp [flatten, AuditStamp.of, given, unread, bind, Except.bind]

/-- Operations on three records: the first one named is changed last, and one is told a wrong user.
With a user, without one, and by a clock that cannot be read in UTC.
-/
theorem flatten_shape_of_forged_user
    : let at_ (clock : Clock) : Coalescer Unit :=
        ⟨⟨"storage", fun _ _ _ => pure .null, fun _ => pure .null, none⟩, .silent, clock,
          .standard, .info⟩
      let c := at_ (.fixed ⟨⟨2024, 1, 5⟩, 10, 30, 0, 0, some 0⟩)
      let unread := at_ (.fixed ⟨⟨1, 1, 1⟩, 0, 0, 0, 0, some 18000000000⟩)
      let ops : List Operation :=
        [⟨"task", "t2", ∅⟩,
          ⟨"task", "t1", .ofList [("name", .text "Apollo"), ("updatedBy", .text "nobody")]⟩,
          ⟨"project", "t1", .ofList [("status", .text "open")]⟩,
          ⟨"task", "t1", .ofList [("rank", .int 1), ("name", .text "Gemini")]⟩,
          ⟨"task", "t2", .ofList [("title", .text "Launch")]⟩]
      let t1 : RecordKey := ("task", "t1")
      c.clock.now?.bind Moment.stamp? = some "2024-01-05T10:30:00.000Z"
      ∧ changedRecords ops = [("task", "t2"), t1, ("project", "t1")]
      ∧ (∃ flat, c.flatten .null ops = .ok flat ∧ FlattenedFrom ops ∅ flat)
      ∧ (∃ flat,
        c.flatten (.text "ann") ops = .ok flat
        ∧ flat.map FlatUpdate.key = changedRecords ops
        ∧ ∀ f ∈ flat,
            f.updates.get? "updatedAt" = some (.text "2024-01-05T10:30:00.000Z")
            ∧ f.updates.get? "updatedBy" = some (.text "ann")
            ∧ (f.key = t1
              → f.updates.keys = ["name", "updatedBy", "rank", "updatedAt"]
                ∧ f.updates.get? "name" = some (.text "Gemini")))
      ∧ unread.flatten (.text "ann") ops = .error (.misuse .outOfRange) := by
  intro at_ c unread ops t1
  have stamp : c.clock.now?.bind Moment.stamp? = some "2024-01-05T10:30:00.000Z" := by
    decide +kernel
  have records : changedRecords ops = [("task", "t2"), t1, ("project", "t1")] := by decide
  have plain := (c.flatten_shape .null ops).1 rfl
  obtain ⟨flat, flattened, shape, audited⟩ :=
    (c.flatten_shape (.text "ann") ops).2.1 _ _ _ rfl rfl rfl (by decide) stamp
  refine ⟨stamp, records, plain, ⟨flat, flattened, shape.records, fun f member => ?_⟩,
    (unread.flatten_shape (.text "ann") ops).2.2 rfl (by decide +kernel)⟩
  refine ⟨(audited f member).1, (audited f member).2, fun same => ?_⟩
  rw [shape.fields f member, shape.values f member, same]
  exact ⟨by decide, rfl⟩

/-- A clock whose time has no day in UTC cannot stamp updates, not even none. -/
theorem flatten_leaves_calendar
    : let c : Coalescer Unit :=
        ⟨⟨"storage", fun _ _ _ => pure .null, fun _ => pure .null, none⟩, .silent,
          .fixed ⟨⟨1, 1, 1⟩, 0, 0, 0, 0, some 18000000000⟩, .standard, .info⟩
      ¬ ∃ flat, c.flatten (.text "ann") [] = .ok flat := by
  rintro c ⟨flat, flattened⟩
  have refused : c.flatten (.text "ann") [] = .error (.misuse .outOfRange) := rfl
  rw [refused] at flattened
  cases flattened

end Coalescer

end DocGateway
