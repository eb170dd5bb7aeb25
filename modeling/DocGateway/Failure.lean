import DocGateway.Report
import DocGateway.Validation.Problem

/-!
Failures: everything that can end an operation early.

Besides the gateway's own reports there are problems in data, errors of the database client, errors
that other collaborators raise, and misuse of values.
-/

namespace DocGateway

/-- An error of the database client. -/
structure ClientError where
  name : String
  message : String
deriving DecidableEq, Inhabited

/-- The client errors that mean that the server cannot be reached. -/
def ClientError.connectionNames : List String :=
  ["ConnectionFailure", "AutoReconnect", "NetworkTimeout", "NotPrimaryError",
   "ServerSelectionTimeoutError", "WaitQueueTimeoutError"]

/-- Whether the error means that the server cannot be reached. -/
def ClientError.isConnection (e : ClientError) : Bool :=
  connectionNames.contains e.name

/-- The names of all client errors. -/
def ClientError.names : List String :=
  connectionNames ++
  ["PyMongoError", "BulkWriteError", "ClientBulkWriteException", "CollectionInvalid",
   "ConfigurationError", "CursorNotFound", "DocumentTooLarge", "DuplicateKeyError",
   "EncryptedCollectionError", "EncryptionError", "ExecutionTimeout", "InvalidName",
   "InvalidOperation", "InvalidURI", "OperationFailure", "ProtocolError", "WTimeoutError",
   "WriteConcernError", "WriteError"]

inductive Failure where
  /-- An error of the gateway. -/
  | report (r : Report)
  /-- Problems in data that was to be read. -/
  | invalid (ps : List Problem)
  /-- An error of the database client. -/
  | client (e : ClientError)
  /-- An error of another collaborator, by the name of its class. -/
  | foreign (name message : String)
  /-- A use of a value that its kind or content does not allow. -/
  | misuse (m : Misuse)
  /-- A value that is no filter in any form. -/
  | notFilter (kindName : String)
  /-- A value that has no calendar day. -/
  | noDay (v : Value)
  /-- A setting whose text in the environment cannot be read at all. -/
  | unreadableSetting (name : String)
  /-- A transaction that was never made. -/
  | unknownTransaction (name : String)
deriving Inhabited

namespace Failure

/-- The text of a failure, if its kind has one. -/
def text? : Failure → Option String
  | report r => some r.text
  | invalid ps => some (Problem.listText ps)
  | client e => some e.message
  | foreign _ message => some message
  | misuse _ => none
  | unreadableSetting _ => none
  | unknownTransaction _ => none
  | notFilter kindName =>
    some ("where parameter must be a Q object, filter node or dict, got " ++ kindName)
  | noDay v => some ("Cannot read a date from " ++ v.quoted)

def text (f : Failure) : String := f.text?.getD ""

/-- A failure raised by a collaborator under a class name: the gateway's own classes are looked up
first, then those of the database client. -/
def raised (name : String) (message : Value) (details : List (String × Value)) : Failure :=
  match ReportClass.ofName? name with
  | some c => report ⟨c, message, details.map fun d => (d.1, .value d.2)⟩
  | none =>
    if ClientError.names.contains name then client ⟨name, message.plain⟩
    else if name == "KeyError" then foreign name message.quoted
    else foreign name message.plain

end Failure

end DocGateway
