import DocGateway.Action
import DocGateway.Operation
import DocGateway.SortOrder

/-!
Storage drivers: what the gateway asks of storage.

A driver answers a write with a value that counts as true if the write went well, or fails.
-/

namespace DocGateway

/-- A search for records of a model. -/
structure Search where
  model : Value
  query : Value
  sort : List (String × Direction)
  projection : Value
  skip : Value
  limit : Value

/-- Storage over a state. -/
structure StorageDriver (σ : Type) where
  /-- The name of the driver, as it stands in messages. -/
  name : String
  /-- Sets fields of the one record of a model that a selector selects. -/
  updateOne : (model : String) → (selector : Value) → (updates : Fields) → Action σ Value
  /-- Sets fields of any number of records of any models. -/
  updateBulk : List FlatUpdate → Action σ Value
  /-- Finds records; a driver may be unable to. -/
  find? : Option (Search → Action σ Value)

end DocGateway
