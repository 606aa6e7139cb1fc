import UssdKernel.Core.KeyedTables
import UssdKernel.Core.Text
import UssdKernel.Reconciliation.Matching

/-!
# Stored runs and items

`PostgresReconStore` keeps runs in `reconciliation.reports` and items in
`reconciliation.mismatches`, with other status and type vocabularies.  The
columns that a `CHECK` restricts to a list of words are enumerations here, and
the decoders' default branches are therefore unreachable.  Amounts are bound
as text, and their columns are read as text and parsed.

A statement that fails has no effect; `set_tenant` and the statement after it
are one call, since either failure has the same outcome.
-/

namespace UssdKernel.Reconciliation

open UssdKernel.KeyedTables

/-- What `rust_decimal` and sqlx make of amounts: `Decimal::to_string`,
`str::parse::<Decimal>`, and `try_get::<String>` on a `NUMERIC` column with the
value of a text. -/
class AmountText extends DecimalArithmetic where
  toText : ℚ → String
  parse : String → Option ℚ
  parse_zero : parse "0" = some 0
  tryGet : String → Option String

/-- `try_get(..).unwrap_or_else(|_| "0")` and then
`parse().unwrap_or(Decimal::ZERO)`. -/
def readAmount [AmountText] (column : String) : ℚ :=
  (AmountText.parse ((AmountText.tryGet column).getD "0")).getD 0

theorem readAmount_of_none [AmountText] {column : String}
    (hrefused : AmountText.tryGet column = none) : readAmount column = 0 := by
  rw [readAmount, hrefused, Option.getD_none, AmountText.parse_zero]
  rfl

/-! ## The tables -/

/-- The `CHECK` of `reports.status`. -/
inductive ReportStatus
  | pending
  | processing
  | completed
  | failed
  deriving DecidableEq

/-- The `CHECK` of `mismatches.mismatch_type`. -/
inductive MismatchType
  | kernelOnly
  | providerOnly
  | amountDiff
  | statusDiff
  | feeDiff
  | duplicate
  | dateMismatch
  deriving DecidableEq

/-- The `CHECK` of `mismatches.resolution_status`. -/
inductive ResolutionStatus
  | isOpen
  | investigating
  | resolved
  | disputed
  deriving DecidableEq

def day : DateTime := 24 * 60 * 60 * 1000000000

/-- `date_naive`: days since the epoch. -/
def dateNaive (instant : DateTime) : ℤ :=
  instant / day

structure ReportRow where
  reportId : Uuid
  reportReference : String
  applicationId : Option Uuid
  providerId : String
  periodStart : ℤ
  periodEnd : ℤ
  status : ReportStatus
  kernelTransactionCount : Int32
  providerTransactionCount : Int32
  matchedCount : Int32
  unmatchedKernelCount : Int32
  unmatchedProviderCount : Int32
  kernelTotalAmount : String
  providerTotalAmount : String
  startedAt : Option DateTime
  completedAt : Option DateTime
  createdBy : Option String
  deriving DecidableEq

structure MismatchRow where
  mismatchId : Uuid
  reportId : Uuid
  mismatchType : MismatchType
  kernelReference : String
  kernelAmount : String
  providerReference : String
  providerAmount : String
  amountDifference : String
  discrepancyReason : String
  resolutionStatus : ResolutionStatus
  resolutionNotes : Option String
  resolvedBy : Option Uuid
  resolvedAt : Option DateTime
  createdAt : DateTime
  deriving DecidableEq

structure Store where
  reports : Table ReportRow.reportId
  mismatches : Table MismatchRow.mismatchId
  /-- `core.account_registry`: account numbers and identifiers. -/
  accounts : List (String × Uuid)

/-! ## Runs -/

/-- The status that `save_run` binds. -/
def ReconciliationStatus.stored : ReconciliationStatus → ReportStatus
  | pending => .pending
  | running => .processing
  | completed => .completed
  | failed => .failed
  | partiallyResolved => .completed
  | approved => .completed

/-- The status that `map_run_row` returns. -/
def ReportStatus.read : ReportStatus → ReconciliationStatus
  | pending => .pending
  | processing => .running
  | completed => .completed
  | failed => .failed

variable [AmountText]

section Runs

/-- The row that `save_run` inserts.  `application_id` is not among its
columns. -/
def ReconciliationRun.row (run : ReconciliationRun) : ReportRow where
  reportId := run.runId
  reportReference := "RUN-" ++ Text.uuid run.runId
  applicationId := none
  providerId := run.providerName
  periodStart := dateNaive run.periodStart
  periodEnd := dateNaive run.periodEnd
  status := run.status.stored
  kernelTransactionCount := run.totalRecords
  providerTransactionCount := 0
  matchedCount := run.matchedCount
  unmatchedKernelCount := run.discrepancyCount
  unmatchedProviderCount := 0
  kernelTotalAmount := AmountText.toText run.internalTotal
  providerTotalAmount := AmountText.toText run.externalTotal
  startedAt := run.startedAt
  completedAt := run.completedAt
  createdBy := none

omit [AmountText] in
/-- `ON CONFLICT (report_id) DO UPDATE`: a stored row takes these columns of
the new one. -/
def ReportRow.refresh (excluded old : ReportRow) : ReportRow :=
  { old with
    status := excluded.status
    kernelTransactionCount := excluded.kernelTransactionCount
    providerTransactionCount := excluded.providerTransactionCount
    matchedCount := excluded.matchedCount
    unmatchedKernelCount := excluded.unmatchedKernelCount
    unmatchedProviderCount := excluded.unmatchedProviderCount
    kernelTotalAmount := excluded.kernelTotalAmount
    providerTotalAmount := excluded.providerTotalAmount
    startedAt := excluded.startedAt
    completedAt := excluded.completedAt }

def saveRun (store : Store) (run : ReconciliationRun)
    (failure : Option String) : Except ReconciliationError Unit × Store :=
  match failure with
  | some message => (.error (.databaseError message), store)
  | none =>
      (.ok (), { store with
        reports := store.reports.upsert run.row run.row.refresh
          (fun _ => rfl) })

def mapRunRow (row : ReportRow) (tenantId : Uuid) : ReconciliationRun where
  runId := row.reportId
  tenantId := tenantId
  providerName := row.providerId
  status := row.status.read
  periodStart := row.periodStart * day
  periodEnd := row.periodEnd * day
  totalRecords := row.kernelTransactionCount + row.providerTransactionCount
  matchedCount := row.matchedCount
  discrepancyCount := row.unmatchedKernelCount + row.unmatchedProviderCount
  resolvedCount := 0
  internalTotal := readAmount row.kernelTotalAmount
  externalTotal := readAmount row.providerTotalAmount
  discrepancyAmount := |minus (readAmount row.kernelTotalAmount)
    (readAmount row.providerTotalAmount)|
  startedAt := row.startedAt
  completedAt := row.completedAt
  initiatedBy := row.createdBy.getD ""
  approvedBy := none
  approvedAt := none

def getRun (store : Store) (runId tenantId : Uuid) (failure : Option String) :
    Except ReconciliationError ReconciliationRun :=
  match failure with
  | some message => .error (.databaseError message)
  | none =>
      match store.reports.lookup runId with
      | none => .error (.notFound ("Run " ++ Text.uuid runId ++ " not found"))
      | some row => .ok (mapRunRow row tenantId)

end Runs

/-! ## Items -/

def mapDiscrepancyToMismatch : DiscrepancyType → MismatchType
  | .missingInternal => .kernelOnly
  | .missingExternal => .providerOnly
  | .amountMismatch => .amountDiff
  | .statusMismatch => .statusDiff
  | .duplicateInternal => .duplicate
  | .duplicateExternal => .duplicate
  | .feeMismatch => .feeDiff
  | .timestampMismatch => .dateMismatch
  | .currencyMismatch => .amountDiff

/-- The discrepancy type that `map_item_row` returns. -/
def MismatchType.read : MismatchType → DiscrepancyType
  | kernelOnly => .missingInternal
  | providerOnly => .missingExternal
  | amountDiff => .amountMismatch
  | statusDiff => .statusMismatch
  | duplicate => .duplicateInternal
  | feeDiff => .feeMismatch
  | dateMismatch => .timestampMismatch

/-- The action that `map_item_row` returns. -/
def ResolutionStatus.action : ResolutionStatus → Option ResolutionAction
  | resolved => some .approve
  | disputed => some .escalate
  | investigating => some .ignore
  | isOpen => none

/-- The text before the first closing bracket, without opening ones. -/
def actionTag (notes : String) : String :=
  String.ofList ((notes.toList.takeWhile (· ≠ ']')).dropWhile (· = '['))

section ItemRows

/-- The row that `save_item` inserts; `created_at` is the column's default. -/
def ReconciliationItem.row (item : ReconciliationItem)
    (createdAt : DateTime) : MismatchRow where
  mismatchId := item.itemId
  reportId := item.runId
  mismatchType := mapDiscrepancyToMismatch item.discrepancyType
  kernelReference := item.transactionId
  kernelAmount := AmountText.toText item.internalAmount
  providerReference := item.transactionId
  providerAmount := AmountText.toText item.externalAmount
  amountDifference := AmountText.toText item.difference
  discrepancyReason := item.notes.getD ""
  resolutionStatus := if item.resolved then .resolved else .isOpen
  resolutionNotes := some (item.notes.getD "")
  resolvedBy := none
  resolvedAt := item.resolvedAt
  createdAt := createdAt

omit [AmountText] in
/-- `ON CONFLICT (mismatch_id) DO UPDATE`. -/
def MismatchRow.refresh (excluded old : MismatchRow) : MismatchRow :=
  { old with
    mismatchType := excluded.mismatchType
    kernelReference := excluded.kernelReference
    kernelAmount := excluded.kernelAmount
    providerReference := excluded.providerReference
    providerAmount := excluded.providerAmount
    amountDifference := excluded.amountDifference
    discrepancyReason := excluded.discrepancyReason
    resolutionStatus := excluded.resolutionStatus
    resolutionNotes := excluded.resolutionNotes
    resolvedAt := excluded.resolvedAt }

def saveItem (store : Store) (item : ReconciliationItem)
    (createdAt : DateTime) (failure : Option String) :
    Except ReconciliationError Unit × Store :=
  match failure with
  | some message => (.error (.databaseError message), store)
  | none =>
      (.ok (), { store with
        mismatches := store.mismatches.upsert (item.row createdAt)
          (item.row createdAt).refresh (fun _ => rfl) })

def mapItemRow (row : MismatchRow) : ReconciliationItem where
  itemId := row.mismatchId
  runId := row.reportId
  transactionId := row.kernelReference
  discrepancyType := row.mismatchType.read
  internalStatus := ""
  externalStatus := ""
  internalAmount := readAmount row.kernelAmount
  externalAmount := readAmount row.providerAmount
  difference := readAmount row.amountDifference
  resolved := row.resolutionStatus = .resolved
  resolutionAction := row.resolutionStatus.action
  resolvedBy := row.resolutionNotes.map actionTag
  resolvedAt := row.resolvedAt
  notes := row.resolutionNotes

/-- `ORDER BY created_at DESC`. -/
def getItems (store : Store) (runId _tenantId : Uuid)
    (discrepancyTypes : List DiscrepancyType) (unresolvedOnly : Bool)
    (failure : Option String) :
    Except ReconciliationError (List ReconciliationItem) :=
  match failure with
  | some message => .error (.databaseError message)
  | none =>
      let types := discrepancyTypes.map mapDiscrepancyToMismatch
      let selected := store.mismatches.rows.filter fun row =>
        row.reportId = runId ∧ (types = [] ∨ row.mismatchType ∈ types) ∧
          (unresolvedOnly = false ∨ row.resolutionStatus ≠ .resolved)
      .ok ((selected.insertionSort fun first second =>
        second.createdAt ≤ first.createdAt).map mapItemRow)

end ItemRows

/-! ## Starting a reconciliation -/

/-- The arguments of `start_reconciliation`. -/
structure RunRequest where
  tenantId : Uuid
  providerName : String
  periodStart : DateTime
  periodEnd : DateTime
  initiatedBy : String
  tolerance : ℚ

/-- What the surroundings answer during one run.  Store calls are counted from
zero. -/
structure RunEnv where
  runId : Uuid
  newIds : ℕ → Uuid
  startedAt : DateTime
  completedAt : DateTime
  internalTransactions : Except ReconciliationError (List InternalTransaction)
  externalTransactions : Except ReconciliationError (List ExternalTransaction)
  storeFailure : ℕ → Option String
  insertedAt : ℕ → DateTime

section Start

/-- The run as it is first saved. -/
def runningRun (env : RunEnv) (request : RunRequest) : ReconciliationRun :=
  { ReconciliationRun.new env.runId request.tenantId request.providerName
      request.periodStart request.periodEnd request.initiatedBy with
    status := .running
    startedAt := some env.startedAt }

/-- The totals and counts of a run; `as i32` keeps the low 32 bits. -/
def tallied (run : ReconciliationRun) (internal : List InternalTransaction)
    (external : List ExternalTransaction) (items : List ReconciliationItem) :
    ReconciliationRun :=
  { run with
    internalTotal := internalTotal internal
    externalTotal := externalTotal external
    totalRecords := Int32.ofNat (internal.length + external.length)
    matchedCount :=
      Int32.ofNat (items.filter fun item => item.resolved).length
    discrepancyCount :=
      Int32.ofNat (items.filter fun item => !item.resolved).length
    discrepancyAmount := discrepancyAmount items }

def finished (run : ReconciliationRun) (completedAt : DateTime) :
    ReconciliationRun :=
  { run with
    status := if 0 < run.discrepancyCount then .partiallyResolved
      else .completed
    completedAt := some completedAt }

/-- The loop that saves the items, from a given store call on. -/
def saveItems (env : RunEnv) :
    ℕ → List ReconciliationItem → Store →
      Except ReconciliationError Unit × Store
  | _, [], store => (.ok (), store)
  | call, item :: items, store =>
      match saveItem store item (env.insertedAt call)
          (env.storeFailure call) with
      | (.error error, after) => (.error error, after)
      | (.ok _, after) => saveItems env (call + 1) items after

/-- The branch in which a source has failed. -/
def saveFailed (env : RunEnv) (run : ReconciliationRun)
    (error : ReconciliationError) (store : Store) :
    Except ReconciliationError ReconciliationRun × Store :=
  match saveRun store
      { run with status := .failed, completedAt := some env.completedAt }
      (env.storeFailure 1) with
  | (.error saveError, after) => (.error saveError, after)
  | (.ok _, after) => (.error error, after)

/-- The branch in which both sources have answered. -/
def saveResults (env : RunEnv) (run : ReconciliationRun)
    (items : List ReconciliationItem) (store : Store) :
    Except ReconciliationError ReconciliationRun × Store :=
  match saveItems env 1 items store with
  | (.error error, after) => (.error error, after)
  | (.ok _, saved) =>
      match saveRun saved (finished run env.completedAt)
          (env.storeFailure (items.length + 1)) with
      | (.error error, after) => (.error error, after)
      | (.ok _, after) => (.ok (finished run env.completedAt), after)

def startReconciliation (env : RunEnv) (request : RunRequest)
    (store : Store) : Except ReconciliationError ReconciliationRun × Store :=
  let run := runningRun env request
  match saveRun store run (env.storeFailure 0) with
  | (.error error, after) => (.error error, after)
  | (.ok _, started) =>
      match env.internalTransactions, env.externalTransactions with
      | .ok internal, .ok external =>
          let items := matchTransactions env.newIds env.runId external
            request.tolerance internal
          saveResults env (tallied run internal external items) items started
      | .error error, _ => saveFailed env run error started
      | .ok _, .error error => saveFailed env run error started

end Start

end UssdKernel.Reconciliation
