import UssdKernel.Core.Data

/-!
# Reconciliation runs and items

The domain types of the reconciliation engine.  An amount is the value of a
`Decimal`, a rational number; the sums and differences that `rust_decimal`
computes are parameters, since it rounds them.  `Utc::now()` and
`Uuid::new_v4()` are arguments of the functions that read them.
-/

namespace UssdKernel.Reconciliation

/-- `+` and `-` of `rust_decimal` on the values of two amounts.  A result that
needs more than 28 decimals or 96 bits is rounded.  One that is too large
panics: nothing is said of such a call, which does not return. -/
class DecimalArithmetic where
  plus : ℚ → ℚ → ℚ
  minus : ℚ → ℚ → ℚ
  minus_self : ∀ amount, minus amount amount = 0

export DecimalArithmetic (plus minus)

namespace Exact

/-- Where every result is a `Decimal`. -/
scoped instance arithmetic : DecimalArithmetic :=
  ⟨(· + ·), (· - ·), sub_self⟩

end Exact

/-- Nanoseconds since the Unix epoch. -/
abbrev DateTime := ℤ

structure InternalTransaction where
  transactionId : String
  reference : String
  amount : ℚ
  currency : String
  status : String
  timestamp : DateTime
  deriving DecidableEq

structure ExternalTransaction where
  externalId : String
  reference : String
  amount : ℚ
  currency : String
  status : String
  timestamp : DateTime
  deriving DecidableEq

inductive DiscrepancyType
  | missingInternal
  | missingExternal
  | amountMismatch
  | statusMismatch
  | duplicateInternal
  | duplicateExternal
  | feeMismatch
  | timestampMismatch
  | currencyMismatch
  deriving DecidableEq

inductive ResolutionAction
  | correctInternal
  | correctExternal
  | createAdjustment
  | ignore
  | escalate
  | approve
  deriving DecidableEq

def ResolutionAction.asStr : ResolutionAction → String
  | correctInternal => "correct_internal"
  | correctExternal => "correct_external"
  | createAdjustment => "create_adjustment"
  | ignore => "ignore"
  | escalate => "escalate"
  | approve => "approve"

inductive ReconciliationStatus
  | pending
  | running
  | completed
  | failed
  | partiallyResolved
  | approved
  deriving DecidableEq

structure ReconciliationItem where
  itemId : Uuid
  runId : Uuid
  transactionId : String
  discrepancyType : DiscrepancyType
  internalStatus : String
  externalStatus : String
  internalAmount : ℚ
  externalAmount : ℚ
  difference : ℚ
  resolved : Bool
  resolutionAction : Option ResolutionAction
  resolvedBy : Option String
  resolvedAt : Option DateTime
  notes : Option String
  deriving DecidableEq

structure ReconciliationRun where
  runId : Uuid
  tenantId : Uuid
  providerName : String
  status : ReconciliationStatus
  periodStart : DateTime
  periodEnd : DateTime
  totalRecords : Int32
  matchedCount : Int32
  discrepancyCount : Int32
  resolvedCount : Int32
  internalTotal : ℚ
  externalTotal : ℚ
  discrepancyAmount : ℚ
  startedAt : Option DateTime
  completedAt : Option DateTime
  initiatedBy : String
  approvedBy : Option String
  approvedAt : Option DateTime
  deriving DecidableEq

/-- `ReconciliationRun::new`. -/
def ReconciliationRun.new (runId tenantId : Uuid) (providerName : String)
    (periodStart periodEnd : DateTime) (initiatedBy : String) :
    ReconciliationRun where
  runId := runId
  tenantId := tenantId
  providerName := providerName
  status := .pending
  periodStart := periodStart
  periodEnd := periodEnd
  totalRecords := 0
  matchedCount := 0
  discrepancyCount := 0
  resolvedCount := 0
  internalTotal := 0
  externalTotal := 0
  discrepancyAmount := 0
  startedAt := none
  completedAt := none
  initiatedBy := initiatedBy
  approvedBy := none
  approvedAt := none

inductive ReconciliationError
  | invalidArgument (message : String)
  | notFound (message : String)
  | databaseError (message : String)
  | providerError (message : String)
  | alreadyRunning
  | invalidStatusTransition ( source target : String)
  | storeError (message : String)
  deriving DecidableEq

end UssdKernel.Reconciliation
