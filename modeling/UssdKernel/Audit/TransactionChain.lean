import UssdKernel.Audit.Handler

/-!
# Verification of a transaction's chain

`verify_transaction_chain` reads a transaction and its predecessors with a
recursive query, newest first, and compares each row with the one before it in
that list.  The walk to the predecessors is defined here on its own, as what
the report should speak of; the query returns exactly the rows of the walk.
-/

namespace UssdKernel.TransactionChain

open UssdKernel.AuditHandler (AuditError)
open UssdKernel.Batches (Timestamp)
open UssdKernel.KeyedTables
open UssdKernel.Merkle

/-- The columns of `core.transaction_log` that the query selects. -/
structure TransactionRecord where
  transactionId : ℤ
  transactionUuid : Uuid
  recordHash : Bytes
  previousHash : Option Bytes
  committedAt : Timestamp
  deriving DecidableEq

/-- A log in which no record hash occurs twice. -/
abbrev TransactionLog := Table TransactionRecord.recordHash

structure ChainReportResult where
  startTransactionId : String
  isValid : Bool
  chainLength : Int32
  brokenAtTransactionId : Option Uuid
  expectedHash : Option Bytes
  actualHash : Option Bytes
  deriving DecidableEq

section Model

variable (log : TransactionLog)

/-- The recursive part of the query: the rows whose record hash is the
previous hash of a row of the level before.  `NULL` equals no hash. -/
def nextLevel (level : List TransactionRecord) : List TransactionRecord :=
  level.flatMap fun current =>
    log.rows.filter fun row => some row.recordHash = current.previousHash

/-- A level and the given number of levels after it. -/
def chainLevels : ℕ → List TransactionRecord → List TransactionRecord
  | 0, level => level
  | depth + 1, level => level ++ chainLevels depth (nextLevel log level)

/-- The rows of `chain`, ordered by depth.  The first level has depth 1, and a
level is extended as long as its depth is below `max_depth`. -/
def fetchTransactionsForChain (transactionUuid : Uuid) (maxDepth : ℤ) :
    List TransactionRecord :=
  chainLevels log (maxDepth - 1).toNat
    (log.rows.filter fun row => row.transactionUuid = transactionUuid)

/-- The row at which the loop breaks, and the row before it. -/
def checkLoop : List TransactionRecord →
    Option (TransactionRecord × TransactionRecord)
  | prev :: record :: rest =>
      if record.previousHash ≠ some prev.recordHash then some (prev, record)
      else checkLoop (record :: rest)
  | _ => none

/-- The report on the rows that the query has returned. -/
def chainReport (transactionId : String) (records : List TransactionRecord) :
    ChainReportResult :=
  let broken := checkLoop records
  { startTransactionId := transactionId
    isValid := broken.isNone
    chainLength := Int32.ofNat records.length
    brokenAtTransactionId := broken.map (·.2.transactionUuid)
    expectedHash := broken.map (·.1.recordHash)
    actualHash := broken.bind (·.2.previousHash) }

/-- `failure` is an error of the database. -/
def verifyTransactionChain (parseUuid : String → Except String Uuid)
    (failure : Option String) (transactionId : String) (maxDepth : ℤ) :
    Except AuditError ChainReportResult :=
  match parseUuid transactionId, failure with
  | .error message, _ => .error (.internal message)
  | .ok _, some message => .error (.database message)
  | .ok transactionUuid, none =>
      let records := fetchTransactionsForChain log transactionUuid maxDepth
      if records.isEmpty then .error (.eventNotFound transactionId)
      else .ok (chainReport transactionId records)

end Model

/-! ## The walk to the predecessors -/

section Walk

variable (log : TransactionLog)

def predecessor (row : TransactionRecord) : Option TransactionRecord :=
  row.previousHash.bind log.lookup

/-- The rows visited from a row on, at most the given number. -/
def walk : ℕ → TransactionRecord → List TransactionRecord
  | 0, _ => []
  | count + 1, row =>
      row :: (predecessor log row).elim [] (walk count)

/-- The row names a predecessor that is not in the log. -/
def Missing (row : TransactionRecord) : Prop :=
  row.previousHash ≠ none ∧ predecessor log row = none

instance (row : TransactionRecord) : Decidable (Missing log row) :=
  inferInstanceAs (Decidable (_ ∧ _))

/-- The first visited row whose predecessor is missing. -/
def firstMissing (count : ℕ) (row : TransactionRecord) :
    Option TransactionRecord :=
  (walk log count row).find? fun row => Missing log row

variable {log} {row next : TransactionRecord}

theorem nextLevel_singleton (row : TransactionRecord) :
    nextLevel log [row] = (predecessor log row).toList := by
  rw [nextLevel, List.flatMap_cons, List.flatMap_nil, List.append_nil,
    predecessor]
  cases row.previousHash with
  | none =>
      apply List.filter_eq_nil_iff.mpr
      intro other _
      simp
  | some hash =>
      rw [Option.bind_some, ← log.filter_key_eq]
      simp

variable (count : ℕ)

theorem chainLevels_nil : chainLevels log count [] = [] := by
  induction count with
  | zero => rfl
  | succ count ih =>
      rw [chainLevels, List.nil_append]
      exact ih

/-- The query returns the rows of the walk. -/
theorem chainLevels_eq_walk (row : TransactionRecord) :
    chainLevels log count [row] = walk log (count + 1) row := by
  induction count generalizing row with
  | zero =>
      rw [chainLevels, walk]
      cases predecessor log row <;> rfl
  | succ count ih =>
      rw [chainLevels, nextLevel_singleton, walk]
      cases predecessor log row with
      | none => rw [Option.toList_none, chainLevels_nil]; rfl
      | some next => rw [Option.toList_some, ih]; rfl

theorem walk_of_none (hrow : predecessor log row = none) (count : ℕ) :
    walk log (count + 1) row = [row] := by
  rw [walk, hrow]
  rfl

theorem walk_of_some (hrow : predecessor log row = some next) (count : ℕ) :
    walk log (count + 1) row = row :: walk log count next := by
  rw [walk, hrow]
  rfl

theorem predecessor_eq_some_iff :
    predecessor log row = some next ↔
      next ∈ log.rows ∧ row.previousHash = some next.recordHash := by
  rw [predecessor, Option.bind_eq_some_iff]
  constructor
  · rintro ⟨hash, hprevious, hlookup⟩
    obtain ⟨hmem, hkey⟩ := Table.lookup_eq_some_iff.mp hlookup
    exact ⟨hmem, hprevious.trans (congrArg some hkey.symm)⟩
  · rintro ⟨hmem, hprevious⟩
    exact ⟨next.recordHash, hprevious, Table.lookup_key hmem⟩

theorem mem_rows_of_mem_walk {count : ℕ} {visited : TransactionRecord}
    (hrow : row ∈ log.rows) (hvisited : visited ∈ walk log count row) :
    visited ∈ log.rows := by
  induction count generalizing row with
  | zero => cases hvisited
  | succ count ih =>
      cases hnext : predecessor log row with
      | none =>
          rw [walk_of_none hnext] at hvisited
          rwa [List.mem_singleton.mp hvisited]
      | some next =>
          rw [walk_of_some hnext] at hvisited
          rcases List.mem_cons.mp hvisited with rfl | hrest
          · exact hrow
          · exact ih (predecessor_eq_some_iff.mp hnext).1 hrest

/-! ## The loop on a walk -/

theorem checkLoop_cons_cons (prev record : TransactionRecord)
    (rest : List TransactionRecord) :
    checkLoop (prev :: record :: rest) =
      if record.previousHash ≠ some prev.recordHash then some (prev, record)
      else checkLoop (record :: rest) := rfl

theorem mem_of_checkLoop {records : List TransactionRecord}
    {prev record : TransactionRecord}
    (hbroken : checkLoop records = some (prev, record)) :
    record ∈ records := by
  induction records with
  | nil => cases hbroken
  | cons first rest ih =>
      cases rest with
      | nil => cases hbroken
      | cons second rest =>
          rw [checkLoop_cons_cons] at hbroken
          split_ifs at hbroken
          · cases hbroken
            exact List.mem_cons_of_mem _ List.mem_cons_self
          · exact List.mem_cons_of_mem _ (ih hbroken)

/-- Two rows that name each other are walked in both directions alike. -/
theorem checkLoop_of_cycle (hrow : predecessor log row = some next)
    (hnext : predecessor log next = some row) (count : ℕ) :
    checkLoop (walk log count row) = none := by
  induction count generalizing row next with
  | zero => rfl
  | succ count ih =>
      rw [walk_of_some hrow]
      cases count with
      | zero => rfl
      | succ count =>
          have hback := (predecessor_eq_some_iff.mp hnext).2
          have hrest := ih hnext hrow
          rw [walk_of_some hnext] at hrest ⊢
          rw [checkLoop_cons_cons, if_neg (not_not.mpr hback)]
          exact hrest

theorem checkLoop_of_none (hrow : predecessor log row = none) (count : ℕ) :
    checkLoop (walk log (count + 1) row) = none := by
  rw [walk_of_none hrow]
  rfl

/-- The loop breaks at the second row, unless that row names the first one. -/
theorem checkLoop_of_some (hlog : row ∈ log.rows)
    (hrow : predecessor log row = some next) (count : ℕ) :
    checkLoop (walk log (count + 2) row) =
      if next.previousHash = some row.recordHash then none
      else some (row, next) := by
  split_ifs with hback
  · have hnext : predecessor log next = some row :=
      predecessor_eq_some_iff.mpr ⟨hlog, hback⟩
    exact checkLoop_of_cycle hrow hnext _
  · rw [walk_of_some hrow, walk, checkLoop_cons_cons, if_pos hback]

/-! ## The first row without its predecessor -/

theorem firstMissing_succ (row : TransactionRecord) :
    firstMissing log (count + 1) row =
      if Missing log row then some row
      else (predecessor log row).elim none (firstMissing log count) := by
  rw [firstMissing, walk]
  split_ifs with hmissing
  · exact List.find?_cons_of_pos (decide_eq_true hmissing)
  · rw [List.find?_cons_of_neg (by simpa using hmissing)]
    cases predecessor log row <;> rfl

section Linked

variable (hrow : predecessor log row = some next)

include hrow

theorem not_missing_of_some :
    ¬ Missing log row := by
  intro hmissing
  cases hrow.symm.trans hmissing.2

theorem firstMissing_of_some (count : ℕ) :
    firstMissing log (count + 1) row = firstMissing log count next := by
  rw [firstMissing_succ, if_neg (not_missing_of_some hrow), hrow]
  rfl

theorem firstMissing_of_cycle (hnext : predecessor log next = some row)
    (count : ℕ) :
    firstMissing log count row = none := by
  induction count generalizing row next with
  | zero => rfl
  | succ count ih =>
      rw [firstMissing_of_some hrow]
      exact ih hnext hrow

end Linked

theorem missing_of_firstMissing {count : ℕ} {found : TransactionRecord}
    (hfound : firstMissing log count row = some found) :
    Missing log found := by
  have hdecided := List.find?_some hfound
  exact of_decide_eq_true hdecided

/-- Among the rows from one on, that row is the first one exactly if its own
predecessor is missing. -/
theorem firstMissing_eq_self_iff (row : TransactionRecord) :
    firstMissing log (count + 1) row = some row ↔ Missing log row := by
  constructor
  · exact missing_of_firstMissing
  · intro hmissing
    rw [firstMissing_succ, if_pos hmissing]

end Walk

/-! ## Reports -/

section Reports

variable {parseUuid : String → Except String Uuid} {log : TransactionLog}
variable {transactionId : String} {transaction : TransactionRecord}
variable {maxDepth : ℤ} {next : TransactionRecord}

/-- The report is valid exactly if every visited row has its predecessor, and
otherwise it names the first one that has not. -/
def ReportsFirstMissing (parseUuid : String → Except String Uuid)
    (log : TransactionLog) (transactionId : String)
    (transaction : TransactionRecord) (maxDepth : ℤ) : Prop :=
  ∃ report, verifyTransactionChain log parseUuid none transactionId maxDepth =
      .ok report ∧
    (report.isValid = true ↔
      firstMissing log maxDepth.toNat transaction = none) ∧
    ∀ row, firstMissing log maxDepth.toNat transaction = some row →
      report.isValid = false ∧
        report.brokenAtTransactionId = some row.transactionUuid

/-- The transaction names no predecessor; or its predecessor is there, and it
is the only row visited, or its predecessor names it back or names a missing
row. -/
def Recognized (log : TransactionLog) (transaction : TransactionRecord)
    (maxDepth : ℤ) : Prop :=
  transaction.previousHash = none ∨
    ∃ next, predecessor log transaction = some next ∧
      (maxDepth = 1 ∨ next.previousHash = some transaction.recordHash ∨
        Missing log next)

section Walked

variable (huuids : (log.rows.map TransactionRecord.transactionUuid).Nodup)
  (htransaction : transaction ∈ log.rows) (hdepth : 1 ≤ maxDepth)
include huuids htransaction hdepth

theorem fetchTransactionsForChain_eq_walk :
    fetchTransactionsForChain log transaction.transactionUuid maxDepth =
      walk log maxDepth.toNat transaction := by
  have hcount : maxDepth.toNat = (maxDepth - 1).toNat + 1 := by omega
  rw [fetchTransactionsForChain, filter_eq_singleton huuids htransaction,
    chainLevels_eq_walk, hcount]

theorem verifyTransactionChain_eq_report
    (hparse : parseUuid transactionId = .ok transaction.transactionUuid) :
    verifyTransactionChain log parseUuid none transactionId maxDepth =
      .ok (chainReport transactionId
        (walk log maxDepth.toNat transaction)) := by
  have hcount : maxDepth.toNat = (maxDepth - 1).toNat + 1 := by omega
  simp only [verifyTransactionChain, hparse]
  rw [fetchTransactionsForChain_eq_walk huuids htransaction hdepth, if_neg]
  rw [hcount, walk]
  exact Bool.false_ne_true

/-- The report is right if the loop breaks at the first row whose predecessor
is missing. -/
theorem reports_iff
    (hparse : parseUuid transactionId = .ok transaction.transactionUuid) :
    ReportsFirstMissing parseUuid log transactionId transaction maxDepth ↔
      firstMissing log maxDepth.toNat transaction =
        (checkLoop (walk log maxDepth.toNat transaction)).map Prod.snd := by
  rw [ReportsFirstMissing, verifyTransactionChain_eq_report huuids htransaction
    hdepth hparse]
  constructor
  · rintro ⟨report, hreport, hvalid, hbroken⟩
    cases hreport
    cases hfirst : firstMissing log maxDepth.toNat transaction with
    | none =>
        have hnone := Option.isNone_iff_eq_none.mp (hvalid.mpr hfirst)
        rw [hnone]
        rfl
    | some row =>
        obtain ⟨⟨prev, record⟩, hloop, huuid⟩ :=
          Option.map_eq_some_iff.mp (hbroken row hfirst).2
        have hrecord := mem_rows_of_mem_walk htransaction
          (mem_of_checkLoop hloop)
        have hrow := mem_rows_of_mem_walk htransaction
          (List.mem_of_find?_eq_some hfirst)
        rw [hloop, Option.map_some,
          List.inj_on_of_nodup_map huuids hrow hrecord huuid.symm]
  · intro hsame
    refine ⟨_, rfl, ?_⟩
    rw [hsame, chainReport]
    cases checkLoop (walk log maxDepth.toNat transaction) with
    | none =>
        refine ⟨iff_of_true rfl rfl, ?_⟩
        intro row hrow
        cases hrow
    | some broken =>
        refine ⟨iff_of_false Bool.false_ne_true (Option.some_ne_none _), ?_⟩
        intro row hrow
        cases hrow
        exact ⟨rfl, rfl⟩

end Walked

theorem recognized_of_none (hnext : predecessor log transaction = none) :
    Recognized log transaction maxDepth ↔ transaction.previousHash = none := by
  constructor
  · rintro (hnone | ⟨next, hsome, -⟩)
    · exact hnone
    · rw [hnext] at hsome
      cases hsome
  · exact Or.inl

theorem recognized_of_some (hnext : predecessor log transaction = some next) :
    Recognized log transaction maxDepth ↔
      maxDepth = 1 ∨ next.previousHash = some transaction.recordHash ∨
        Missing log next := by
  constructor
  · rintro (hnone | ⟨other, hother, hcases⟩)
    · rw [(predecessor_eq_some_iff.mp hnext).2] at hnone
      cases hnone
    · rw [hnext] at hother
      cases hother
      exact hcases
  · intro hcases
    exact Or.inr ⟨next, hnext, hcases⟩

/-- Without a predecessor the loop finds nothing, which is right only if none
is named. -/
theorem loop_right_of_none (hdepth : 1 ≤ maxDepth)
    (hnext : predecessor log transaction = none) :
    firstMissing log maxDepth.toNat transaction =
        (checkLoop (walk log maxDepth.toNat transaction)).map Prod.snd ↔
      transaction.previousHash = none := by
  have hcount : maxDepth.toNat = (maxDepth - 1).toNat + 1 := by omega
  have hmissing : Missing log transaction ↔
      transaction.previousHash ≠ none := and_iff_left hnext
  rw [hcount, checkLoop_of_none hnext, firstMissing_succ, hnext]
  by_cases hprevious : transaction.previousHash = none
  · rw [if_neg (mt hmissing.mp (not_not.mpr hprevious))]
    exact iff_of_true rfl hprevious
  · rw [if_pos (hmissing.mpr hprevious)]
    exact iff_of_false (Option.some_ne_none _) hprevious

/-- With a predecessor the loop breaks there at once, unless it names the
transaction back. -/
theorem loop_right_of_some (htransaction : transaction ∈ log.rows)
    (hdepth : 1 ≤ maxDepth) (hnext : predecessor log transaction = some next) :
    firstMissing log maxDepth.toNat transaction =
        (checkLoop (walk log maxDepth.toNat transaction)).map Prod.snd ↔
      maxDepth = 1 ∨ next.previousHash = some transaction.recordHash ∨
        Missing log next := by
  by_cases hone : maxDepth = 1
  · subst hone
    have hwalk : walk log 1 transaction = [transaction] := walk_of_some hnext 0
    refine iff_of_true ?_ (Or.inl rfl)
    rw [Int.toNat_one, hwalk, firstMissing_of_some hnext]
    rfl
  · have hcount : maxDepth.toNat = (maxDepth - 2).toNat + 2 := by omega
    rw [or_iff_right hone, hcount, checkLoop_of_some htransaction hnext,
      firstMissing_of_some hnext]
    by_cases hback : next.previousHash = some transaction.recordHash
    · have hcycle : predecessor log next = some transaction :=
        predecessor_eq_some_iff.mpr ⟨htransaction, hback⟩
      rw [if_pos hback, firstMissing_of_cycle hcycle hnext]
      exact iff_of_true rfl (Or.inl hback)
    · rw [if_neg hback, Option.map_some, firstMissing_eq_self_iff,
        or_iff_right hback]

/-- The report is right exactly on the recognized transactions. -/
theorem chain_report_correct_iff
    (huuids : (log.rows.map TransactionRecord.transactionUuid).Nodup)
    (htransaction : transaction ∈ log.rows) (hdepth : 1 ≤ maxDepth)
    (hparse : parseUuid transactionId = .ok transaction.transactionUuid) :
    ReportsFirstMissing parseUuid log transactionId transaction maxDepth ↔
      Recognized log transaction maxDepth := by
  rw [reports_iff huuids htransaction hdepth hparse]
  cases hnext : predecessor log transaction with
  | none => rw [loop_right_of_none hdepth hnext, recognized_of_none hnext]
  | some next =>
      rw [loop_right_of_some htransaction hdepth hnext,
        recognized_of_some hnext]

end Reports

namespace Samples

def firstHash : Bytes := Text.hex Batches.Samples.completedDigest

def secondHash : Bytes := Text.hex Batches.Samples.cancelledDigest

/-- The parser on the text of one id. -/
def parseUuid (text : String) : Except String Uuid :=
  if text = Text.uuid 2 then .ok 2 else .error "invalid length"

def transaction (id : ℕ) (recordHash : Bytes) (previousHash : Option Bytes) :
    TransactionRecord where
  transactionId := id
  transactionUuid := BitVec.ofNat 128 id
  recordHash := recordHash
  previousHash := previousHash
  committedAt := id

def second : TransactionRecord := transaction 2 secondHash (some firstHash)

/-- A first transaction and its successor. -/
def intact : TransactionLog where
  rows := [transaction 1 firstHash none, second]
  keys_nodup := by decide +kernel

/-- The row before the first of the two is not in the log. -/
def truncated : TransactionLog where
  rows := [transaction 1 firstHash (some (Text.hex [1])), second]
  keys_nodup := by decide +kernel

/-- The successor alone. -/
def broken : TransactionLog where
  rows := [second]
  keys_nodup := by decide +kernel

end Samples

theorem chain_report_correct_iff_truncated :
    ReportsFirstMissing Samples.parseUuid Samples.truncated (Text.uuid 2)
      Samples.second 2 := by
  refine (chain_report_correct_iff (by decide +kernel) (by decide +kernel)
    (by decide) (by decide +kernel)).mpr (Or.inr ?_)
  exact ⟨_, (show predecessor Samples.truncated Samples.second =
    some (Samples.transaction 1 Samples.firstHash (some (Text.hex [1]))) by
      decide +kernel), Or.inr (Or.inr (by decide +kernel))⟩

/-- An intact chain of two rows is reported as broken, and a chain whose first
row is missing as valid. -/
theorem intact_chain_reported_broken :
    firstMissing Samples.intact 10 Samples.second = none ∧
      (verifyTransactionChain Samples.intact Samples.parseUuid none
          (Text.uuid 2) 10).map (fun report =>
            (report.isValid, report.brokenAtTransactionId)) =
        .ok (false, some 1) ∧
      firstMissing Samples.broken 10 Samples.second = some Samples.second ∧
      (verifyTransactionChain Samples.broken Samples.parseUuid none
          (Text.uuid 2) 10).map ChainReportResult.isValid = .ok true := by
  exact ⟨by decide +kernel, by decide +kernel, by decide +kernel,
    by decide +kernel⟩

end UssdKernel.TransactionChain
