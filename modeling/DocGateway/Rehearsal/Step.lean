import DocGateway.Gateway
import DocGateway.Rehearsal.Arguments
import DocGateway.Transaction.Coalescing

/-!
Steps of a session: what a session can be asked, and what it answers.
-/

namespace DocGateway

/-- Steps on the registry of models. -/
inductive RegistryStep where
  | register (model fields : Value) (withCommon : Bool)
  | unregister (model : Value)
  | models
  | contains (model : Value)
  | accepted (model : Value)
  | isDynamic (model : Value)
  | sanitize (payload model : Value)

/-- Steps on a transaction. -/
inductive TransactionStep where
  /-- Made by the gateway. -/
  | start (id user mode : Value)
  /-- Made by itself, with first operations. -/
  | startLoose (ops id user mode : Value) (isBound : Bool)
  /-- Operations, each of which is read when it is added, or just before. -/
  | add (ops : List Value) (readFirst : Bool)
  | process
  | run
  | inspect

/-- Steps on the gateway. -/
inductive GatewayStep where
  | group (ops : List Value)
  | flatten (buckets : List LooseBucket) (user : Value)
  | dispatch (flat : List Value)
  | update (model record payload user : Value)
  | bulkUpdate (ops user : Value) (readFirst : Bool)
  | search (r : SearchRequest)
  | compileFilter (filter : Filter.Source) (caller : Option Identity)
  | compileSort (spec : Value)

/-- Steps on the connection that storage is. -/
inductive ConnectionStep where
  | updateOne (a : Arguments)
  | updateBulk (a : Arguments) (readFirst : Bool)
  | find (a : Arguments)
  | countDocuments (a : Arguments)
  | ping (a : Arguments)
  | close (a : Arguments)
  | selectDatabase
  | makeClient
  | configuration

/-- What is asked of a session. -/
inductive Step where
  | registry (s : RegistryStep)
  | transaction (name : String) (s : TransactionStep)
  | gateway (s : GatewayStep)
  | connection (s : ConnectionStep)

/-- The transaction that a step is about. -/
def Step.transaction? : Step → Option String
  | transaction name _ => some name
  | _ => none

/-- What a step answers. -/
inductive Answer where
  | value (v : Value)
  | flat (fs : List FlatUpdate)
  | result (r : TransactionResult)
  | transaction (tx : Transaction)
  | buckets (b : Buckets)

end DocGateway
