import DocGateway.Calendar.MomentText
import DocGateway.Log.Setup
import DocGateway.Rehearsal.Session
import DocGateway.Value.Grouping
import DocGateway.Proofs.Except
import DocGateway.Proofs.Coalescing.MergedUpdates
import DocGateway.Proofs.Transaction.RunOutcome
import DocGateway.Proofs.Coalescing.StoreEffect
import DocGateway.Proofs.Transaction.Observation
import DocGateway.Proofs.Transaction.Endings
import DocGateway.Proofs.Transaction.Lifecycle
import DocGateway.Proofs.Registry.History
import DocGateway.Proofs.Registry.Sanitizing
import DocGateway.Proofs.Gateway.Writes
import DocGateway.Proofs.Gateway.Whitelisting
import DocGateway.Proofs.Filter.Compilation
import DocGateway.Proofs.Query.Positions
import DocGateway.Proofs.Filter.Meaning
import DocGateway.Proofs.Filter.DayMacros
import DocGateway.Proofs.Filter.Faults
import DocGateway.Proofs.Filter.FieldKeys
import DocGateway.Proofs.Calendar.DayNumbers
import DocGateway.Proofs.Calendar.Digits
import DocGateway.Proofs.Calendar.Instants
import DocGateway.Proofs.Calendar.DayTexts
import DocGateway.Proofs.Query.DayRanges
import DocGateway.Proofs.Gateway.DayAgreement
import DocGateway.Proofs.Filter.StampDays
import DocGateway.Proofs.Filter.Callers
import DocGateway.Proofs.Gateway.Refusals
import DocGateway.Proofs.Storage.ClientCalls
import DocGateway.Proofs.Storage.SingleUpdates
import DocGateway.Proofs.Filter.ClockReads
import DocGateway.Proofs.Filter.Expressions
import DocGateway.Proofs.Storage.OnDemand
import DocGateway.Proofs.Storage.LazyConnections
import DocGateway.Proofs.OrderedMap.KeyOrder
import DocGateway.Proofs.Coalescing.FlattenedShape
import DocGateway.Proofs.Storage.BulkUpdates
import DocGateway.Proofs.Filter.OperandKinds
import DocGateway.Proofs.Query.FieldTests
import DocGateway.Proofs.Filter.Opposites
import DocGateway.Proofs.Filter.Literals
import DocGateway.Proofs.Text.LiteralPatterns
import DocGateway.Proofs.Filter.FaultOrder
import DocGateway.Proofs.Filter.Grammar
import DocGateway.Proofs.SortOrder.Entries
import DocGateway.Proofs.SortOrder.Precedence
import DocGateway.Proofs.Gateway.SingleWrites
import DocGateway.Proofs.Registry.DynamicIds
import DocGateway.Proofs.Transaction.ErrorTexts
import DocGateway.Proofs.Calendar.StampTexts
import DocGateway.Proofs.Filter.KeywordPaths
import DocGateway.Proofs.Number.WholeNumbers
import DocGateway.Proofs.Value.SameValues
import DocGateway.Proofs.Identity.EffectiveIds
import DocGateway.Proofs.Number.Numerals
import DocGateway.Proofs.Filter.RelativeDays
import DocGateway.Proofs.Storage.ShownRecords
import DocGateway.Proofs.Storage.ToldFailures
