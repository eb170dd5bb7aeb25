/-!
The names under which the parts of the gateway write to the log.
-/

namespace DocGateway.LogSource

def registry : String := "ModelRegistry"

def sanitizer : String := "FieldSanitizer"

def gateway : String := "RecordEngine"

def coalescer : String := "TransactionCoalescer"

def hooks : String := "LoggingTransactionHooks"

def connection : String := "MongoStorageDriver"

def sortOrder : String := "recordlayer.querydsl.compilers.sort"

end DocGateway.LogSource
