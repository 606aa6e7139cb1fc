import UssdKernel.PaymentEngine.Races
import UssdKernel.PaymentEngine.Charges
import UssdKernel.PaymentEngine.CallbackRuns
import UssdKernel.PaymentEngine.TenantIsolation
import UssdKernel.Orchestrator.SagaStatus
import UssdKernel.SessionReconstructor.ChainAgreement
import UssdKernel.Reconciliation.Resolution
import UssdKernel.Audit.DayProofs
import UssdKernel.Audit.BatchSignatures
import UssdKernel.Audit.TransactionChain
import UssdKernel.Orchestrator.StreamVersions
import UssdKernel.Orchestrator.SessionAppends
import UssdKernel.Orchestrator.KeyClaims
import UssdKernel.Orchestrator.TxAlone
import UssdKernel.Orchestrator.SagaPanics
import UssdKernel.PaymentEngine.CallbackAuthenticity
import UssdKernel.Gateway.Api
import UssdKernel.Gateway.SessionTracker
import UssdKernel.Orchestrator.TenantRegistry
import UssdKernel.Edge.Delivery
import UssdKernel.Reconciliation.Report
import UssdKernel.Ledger.BatchHashes
import UssdKernel.Ledger.DoubleEntry
import UssdKernel.Ledger.Reversals
import UssdKernel.Ledger.ChainIntegrity
import UssdKernel.Ledger.KeyInserts
import UssdKernel.Settlement.Instructions
import UssdKernel.Ledger.EntitySequences
import UssdKernel.PendingTransactions.Lifecycle
import UssdKernel.PendingTransactions.PinAttempts
import UssdKernel.Idempotency.ApiKeys
import UssdKernel.Idempotency.CoreKeys
import UssdKernel.Ledger.SubmitTransaction
import UssdKernel.Ledger.AuditTampering
import UssdKernel.Orchestrator.RouterCalls
import UssdKernel.Orchestrator.Webhooks
import UssdKernel.SessionReconstructor.Port
import UssdKernel.Accounts.Ownership
import UssdKernel.Accounts.LiquidityPositions
