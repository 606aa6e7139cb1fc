import UssdKernel.Core.Data
import UssdKernel.Core.Results
import UssdKernel.Core.Text

/-!
# Ledger transactions

`create_transaction` appends a row to `core.transaction_log`, or returns the
transaction that has the idempotency key already.  Its hash covers the greatest
hash of the log, the code of the type, the payload and the time.
-/

namespace UssdKernel.Ledger

open Results Text

/-- `BIGINT` in the tables and `UUID` in the functions. -/
abbrev TransactionId := ℕ

/-- The columns of `core.transaction_log` that the functions of the ledger
read.  Times are in microseconds, dates in days, and the payload is its
text. -/
structure TransactionRow where
  transactionId : TransactionId
  transactionHash : Option String
  payload : String
  idempotencyKey : String
  committedAt : ℤ
  partitionDate : ℤ
  deriving DecidableEq

/-- What the functions of the ledger raise, and the constraints that an
`INSERT` can violate. -/
inductive LedgerError
  /-- Invalid or inactive transaction type: % -/
  | invalidType (typeCode : String)
  /-- INVALID_IDEMPOTENCY_KEY: Idempotency key must be at least 8 characters -/
  | invalidKey
  /-- Debit account not found or inactive: % -/
  | debitAccount (accountId : Option Uuid)
  /-- Credit account not found or inactive: % -/
  | creditAccount (accountId : Uuid)
  /-- Amount must be positive: % -/
  | amountNotPositive (amount : ℤ)
  /-- Original movement not found: % -/
  | movementNotFound (legId : Uuid)
  /-- FOREIGN_KEY_VIOLATION: Transaction % with partition date % does not exist
  in transaction_log -/
  | transactionMissing (transactionId : TransactionId) (partitionDate : ℤ)
  /-- CURRENCY_MISMATCH: All legs in a movement must have the same currency.
  Expected: %, Got: % -/
  | currencyMismatch (expected got : String)
  /-- DOUBLE_ENTRY_IMBALANCE: Debits (%) must equal Credits (%) for
  transaction % -/
  | imbalance (debits credits : ℤ) (transactionId : TransactionId)
  /-- A text that is no `INTEGER`. -/
  | invalidInteger
  | uniqueViolation
  | checkViolation
  | numericOverflow
  deriving DecidableEq

/-- What a call of `create_transaction` finds around it: the codes of the
types with `valid_to IS NULL`, the id it draws, `now()` and
`CURRENT_DATE`. -/
structure CreateEnv where
  activeType : String → Bool
  newId : TransactionId
  now : ℤ
  today : ℤ

/-- The length of `trim(idempotency_key)`. -/
def trimmedLength (key : String) : ℕ :=
  ((key.toList.dropWhile (· = ' ')).reverse.dropWhile (· = ' ')).length

/-- `encode(digest, 'hex')` -/
def hexDigits (digest : BitVec 256) : String :=
  String.ofList ((List.range 64).map fun i =>
    Char.ofUInt8 (digit (digest.toNat / 16 ^ (63 - i) % 16)))

/-- `COALESCE(MAX(transaction_hash), '0' || repeat('0', 63))` -/
def previousHash (log : List TransactionRow) : String :=
  (log.filterMap TransactionRow.transactionHash).max?.getD
    (String.ofList (List.replicate 64 '0'))

section Create

variable (sha256 : Bytes → BitVec 256) (timestampText : ℤ → String)

/-- The text that a call hashes on a log. -/
def hashedText (log : List TransactionRow) (typeCode payload : String)
    (now : ℤ) : String :=
  previousHash log ++ typeCode ++ payload ++ timestampText now

def newTransaction (env : CreateEnv) (typeCode payload key : String)
    (log : List TransactionRow) : TransactionRow where
  transactionId := env.newId
  transactionHash :=
    some (hexDigits (sha256 (utf8
      (hashedText timestampText log typeCode payload env.now))))
  payload := payload
  idempotencyKey := key
  committedAt := env.now
  partitionDate := env.today

/-- The `INSERT`, whose trigger checks the length of the key. -/
def insertTransaction (row : TransactionRow) (log : List TransactionRow) :
    Except LedgerError (List TransactionRow) := do
  require (8 ≤ trimmedLength row.idempotencyKey) .invalidKey
  require (∀ other ∈ log, other.transactionId = row.transactionId →
    other.committedAt ≠ row.committedAt) .uniqueViolation
  pure (log ++ [row])

def createTransaction (env : CreateEnv) (typeCode payload key : String)
    (log : List TransactionRow) :
    Except LedgerError (TransactionId × List TransactionRow) := do
  require (env.activeType typeCode) (.invalidType typeCode)
  match log.find? (·.idempotencyKey = key) with
  | some row => pure (row.transactionId, log)
  | none =>
      let after ← insertTransaction
        (newTransaction sha256 timestampText env typeCode payload key log) log
      pure (env.newId, after)

variable {sha256 timestampText} {env : CreateEnv} {typeCode payload key : String}
variable {log after : List TransactionRow} {transactionId : TransactionId}

/-- A call that succeeds adds at most a new row to the log, and returns the
transaction that has the key. -/
theorem createTransaction_eq_ok
    (hok : createTransaction sha256 timestampText env typeCode payload key log =
      .ok (transactionId, after)) :
    (∃ new, after = log ++ new ∧ ∀ row ∈ new,
        row = newTransaction sha256 timestampText env typeCode payload key
          log) ∧
      ∃ row, after.find? (·.idempotencyKey = key) = some row ∧
        row.transactionId = transactionId := by
  rw [createTransaction, require_bind_eq_ok] at hok
  obtain ⟨-, hok⟩ := hok
  cases hfind : log.find? (·.idempotencyKey = key) with
  | some row =>
      rw [hfind] at hok
      obtain ⟨rfl, rfl⟩ := Prod.mk.inj (Except.ok.inj hok)
      exact ⟨⟨[], (List.append_nil log).symm, by simp⟩, row, hfind, rfl⟩
  | none =>
      rw [hfind] at hok
      obtain ⟨inserted, hinserted, hok⟩ := bind_eq_ok.mp hok
      rw [insertTransaction, require_bind_eq_ok, require_bind_eq_ok]
        at hinserted
      obtain ⟨-, -, hinserted⟩ := hinserted
      obtain ⟨rfl, rfl⟩ := Prod.mk.inj (Except.ok.inj hok)
      cases hinserted
      refine ⟨⟨_, rfl, fun row hrow => List.mem_singleton.mp hrow⟩,
        newTransaction sha256 timestampText env typeCode payload key log, ?_,
        rfl⟩
      rw [List.find?_append, hfind]
      simp [newTransaction]

end Create

end UssdKernel.Ledger
