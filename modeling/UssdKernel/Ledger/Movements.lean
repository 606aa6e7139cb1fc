import UssdKernel.Core.KeyedSums
import UssdKernel.Core.SortedOrders
import UssdKernel.Ledger.Transactions

/-!
# Movements and postings

`post_movement` writes a debit leg and a credit leg of one ledger transaction
and a posting for each.  The running balance of a posting is computed by a
trigger, which replaces the value that the function has computed: it takes the
account's posting with the latest `created_at`, in any currency, rounds its
balance to four decimals, and adds or subtracts the amount.
`get_account_balance` reads the account's posting that comes last by accounting
date and id.

Amounts are counted in units of the last decimal of `NUMERIC(20, 8)`.
-/

namespace UssdKernel.Ledger

open KeyedSums Results SortedOrders

inductive Direction
  | debit
  | credit
  deriving DecidableEq

/-- A row of `core.movement_legs`. -/
structure Leg where
  legId : Uuid
  transactionId : TransactionId
  partitionDate : ℤ
  legSequence : ℤ
  accountId : Uuid
  direction : Direction
  amount : ℤ
  currency : String
  coaCode : String
  description : Option String
  deriving DecidableEq

/-- A row of `core.movement_postings`. -/
structure Posting where
  postingId : Uuid
  transactionId : TransactionId
  legId : Uuid
  accountId : Uuid
  direction : Direction
  amount : ℤ
  currency : String
  runningBalance : ℤ
  accountingDate : ℤ
  valueDate : ℤ
  description : String
  createdAt : ℤ
  postedAt : ℤ
  deriving DecidableEq

/-- The tables that the functions of the ledger write. -/
structure Books where
  log : List TransactionRow
  legs : List Leg
  postings : List Posting
  deriving DecidableEq

/-- The values of `NUMERIC(20, 8)`. -/
def NumericFits (value : ℤ) : Prop :=
  |value| < 10 ^ 20

instance (value : ℤ) : Decidable (NumericFits value) :=
  inferInstanceAs (Decidable (_ < _))

/-- `currency ~ '^[A-Z]{3}$'` -/
def CurrencyFormat (currency : String) : Prop :=
  currency.toList.length = 3 ∧ currency.toList.all Char.isUpper

instance (currency : String) : Decidable (CurrencyFormat currency) :=
  inferInstanceAs (Decidable (_ ∧ _))

/-! ## Legs -/

/-- The legs of a ledger transaction. -/
def legsOf (legs : List Leg) (transactionId : TransactionId)
    (partitionDate : ℤ) : List Leg :=
  legs.filter fun leg =>
    leg.transactionId = transactionId ∧ leg.partitionDate = partitionDate

/-- The currency of the first leg, which `validate_movement_legs` compares
with that of a new one. -/
def movementCurrency (legs : List Leg) : Option String :=
  (legs.insertionSort fun first second =>
    first.legSequence ≤ second.legSequence).head?.map Leg.currency

/-- An `INSERT INTO core.movement_legs`, with the triggers that run before
it. -/
def insertLeg (leg : Leg) (books : Books) : Except LedgerError Books := do
  let others := legsOf books.legs leg.transactionId leg.partitionDate
  require (NumericFits leg.amount) .numericOverflow
  require (∃ row ∈ books.log, row.transactionId = leg.transactionId ∧
      row.partitionDate = leg.partitionDate)
    (.transactionMissing leg.transactionId leg.partitionDate)
  require (∀ currency ∈ movementCurrency others, currency = leg.currency)
    (.currencyMismatch ((movementCurrency others).getD "") leg.currency)
  require (0 < leg.amount ∧ CurrencyFormat leg.currency) .checkViolation
  require (∀ other ∈ books.legs, other.legId ≠ leg.legId) .uniqueViolation
  require (∀ other ∈ others, other.legSequence ≠ leg.legSequence)
    .uniqueViolation
  pure { books with legs := books.legs ++ [leg] }

/-! ## Postings -/

/-- A value rounded to four decimals, as it is when assigned to a variable of
type `DECIMAL(19,4)`: half away from zero. -/
def roundTo4 (value : ℤ) : ℤ :=
  value.sign * ((value.natAbs + 5000) / 10000 * 10000 : ℕ)

def postingsOf (postings : List Posting) (accountId : Uuid) : List Posting :=
  postings.filter (·.accountId = accountId)

/-- The row that `ORDER BY created_at DESC LIMIT 1` returns: of the rows with
the latest time the database may take any, here the one that `tie` names. -/
def precedingPosting (tie : ℕ) (postings : List Posting) (accountId : Uuid) :
    Option Posting :=
  let rows := postingsOf postings accountId
  let latest := rows.filter fun row =>
    ∀ other ∈ rows, other.createdAt ≤ row.createdAt
  (latest.rotate tie).head?

def Posting.signed (posting : Posting) : ℤ :=
  match posting.direction with
  | .credit => posting.amount
  | .debit => -posting.amount

/-- The trigger before an `INSERT INTO core.movement_postings`. -/
def calculateRunningBalance (tie : ℕ) (postings : List Posting)
    (posting : Posting) : Posting :=
  let lastBalance :=
    ((precedingPosting tie postings posting.accountId).map fun row =>
      roundTo4 row.runningBalance).getD 0
  { posting with runningBalance := lastBalance + posting.signed }

def insertPosting (tie : ℕ) (posting : Posting) (books : Books) :
    Except LedgerError Books := do
  require (NumericFits posting.amount ∧ NumericFits posting.runningBalance)
    .numericOverflow
  let posting := calculateRunningBalance tie books.postings posting
  require (NumericFits posting.runningBalance) .numericOverflow
  require (posting.accountingDate - 30 ≤ posting.valueDate) .checkViolation
  require (∀ other ∈ books.postings, other.postingId = posting.postingId →
    other.accountingDate ≠ posting.accountingDate) .uniqueViolation
  pure { books with postings := books.postings ++ [posting] }

/-- `COALESCE(MAX(running_balance), 0)` in a variable of type
`DECIMAL(19,4)`. -/
def maxRunning (postings : List Posting) (accountId : Uuid) : ℤ :=
  roundTo4 (((postingsOf postings accountId).map
    Posting.runningBalance).max?.getD 0)

/-! ## Movements -/

/-- What a call of `post_movement` finds around it: the accounts of status
`active`, the ids it draws, `now()`, the accounting date of the postings and the
rows that the trigger takes. -/
structure PostEnv where
  active : Uuid → Bool
  debitLegId : Uuid
  creditLegId : Uuid
  debitPostingId : Uuid
  creditPostingId : Uuid
  now : ℤ
  accountingDate : ℤ
  debitTie : ℕ
  creditTie : ℕ

structure MovementRequest where
  transactionId : TransactionId
  debitAccountId : Uuid
  creditAccountId : Uuid
  amount : ℤ
  currency : String
  description : Option String
  valueDate : ℤ

variable {env : PostEnv} {request : MovementRequest}

section Rows

variable (env request)

def newLeg (direction : Direction) (partitionDate : ℤ) : Leg where
  legId :=
    match direction with
    | .debit => env.debitLegId
    | .credit => env.creditLegId
  transactionId := request.transactionId
  partitionDate := partitionDate
  legSequence :=
    match direction with
    | .debit => 1
    | .credit => 2
  accountId :=
    match direction with
    | .debit => request.debitAccountId
    | .credit => request.creditAccountId
  direction := direction
  amount := request.amount
  currency := request.currency
  coaCode := "0000"
  description := some (request.description.getD
    (match direction with
    | .debit => "Debit posting"
    | .credit => "Credit posting"))

/-- The posting of a leg, with the running balance that the function has
computed. -/
def newPosting (direction : Direction) (running : ℤ) : Posting where
  postingId :=
    match direction with
    | .debit => env.debitPostingId
    | .credit => env.creditPostingId
  transactionId := request.transactionId
  legId := (newLeg env request direction 0).legId
  accountId := (newLeg env request direction 0).accountId
  direction := direction
  amount := request.amount
  currency := request.currency
  runningBalance :=
    match direction with
    | .debit => running - request.amount
    | .credit => running + request.amount
  accountingDate := env.accountingDate
  valueDate := request.valueDate
  description := request.description.getD
    (match direction with
    | .debit => "Debit posting"
    | .credit => "Credit posting")
  createdAt := env.now
  postedAt := env.now

end Rows

/-- The partition date of a leg is that of its ledger transaction. -/
def partitionDateOf (log : List TransactionRow)
    (transactionId : TransactionId) : ℤ :=
  ((log.find? (·.transactionId = transactionId)).map
    TransactionRow.partitionDate).getD 0

/-- The call returns the id of the debit leg. -/
def postMovement (env : PostEnv) (request : MovementRequest)
    (books : Books) : Except LedgerError (Uuid × Books) := do
  let date := partitionDateOf books.log request.transactionId
  require (env.active request.debitAccountId)
    (.debitAccount request.debitAccountId)
  require (env.active request.creditAccountId)
    (.creditAccount request.creditAccountId)
  require (0 < request.amount) (.amountNotPositive request.amount)
  let withDebit ← insertLeg (newLeg env request .debit date) books
  let withLegs ← insertLeg (newLeg env request .credit date) withDebit
  let debitRunning := maxRunning books.postings request.debitAccountId
  let creditRunning := maxRunning books.postings request.creditAccountId
  let withPosting ← insertPosting env.debitTie
    (newPosting env request .debit debitRunning) withLegs
  let posted ← insertPosting env.creditTie
    (newPosting env request .credit creditRunning) withPosting
  pure (env.debitLegId, posted)

/-! ## Balances -/

/-- The order in which `get_account_balance` reads postings, the last one
first. -/
def Posting.readKey (posting : Posting) : (ℤ ×ₗ ℕ)ᵒᵈ :=
  OrderDual.toDual (toLex (posting.accountingDate, posting.postingId.toNat))

structure AccountBalance where
  currency : String
  balance : ℤ
  lastPostingId : Uuid
  lastPostingAt : ℤ
  deriving DecidableEq

def getAccountBalance (postings : List Posting) (accountId : Uuid)
    (currency : Option String) : Option AccountBalance :=
  let rows := (postingsOf postings accountId).filter fun row =>
    ∀ wanted ∈ currency, row.currency = wanted
  (rows.insertionSort fun first second =>
    first.readKey ≤ second.readKey).head?.map fun row =>
      { currency := row.currency
        balance := row.runningBalance
        lastPostingId := row.postingId
        lastPostingAt := row.postedAt }

/-- The sum of an account's credits minus its debits in a currency. -/
def net (postings : List Posting) : Uuid × String → ℤ :=
  sumAt (fun posting => (posting.accountId, posting.currency)) Posting.signed
    postings

/-- The change of the sums by a movement of an amount between two accounts. -/
def transfer (debitAccountId creditAccountId : Uuid) (currency : String)
    (amount : ℤ) : Uuid × String → ℤ :=
  Pi.single (debitAccountId, currency) (-amount) +
    Pi.single (creditAccountId, currency) amount

/-! ## What a call inserts -/

section Inserted

variable {leg : Leg} {posting : Posting} {tie : ℕ}
variable {books after : Books} {movementId : Uuid}

/-- A leg is inserted if its transaction exists, its currency is that of the
others, and neither its id nor its place is taken. -/
structure LegAccepted (leg : Leg) (books : Books) : Prop where
  fits : NumericFits leg.amount
  transaction : ∃ row ∈ books.log, row.transactionId = leg.transactionId ∧
    row.partitionDate = leg.partitionDate
  currency : ∀ currency ∈ movementCurrency
    (legsOf books.legs leg.transactionId leg.partitionDate),
      currency = leg.currency
  positive : 0 < leg.amount
  format : CurrencyFormat leg.currency
  newId : ∀ other ∈ books.legs, other.legId ≠ leg.legId
  newSequence : ∀ other ∈
    legsOf books.legs leg.transactionId leg.partitionDate,
      other.legSequence ≠ leg.legSequence

theorem insertLeg_eq_ok_iff :
    insertLeg leg books = .ok after ↔
      LegAccepted leg books ∧
        after = { books with legs := books.legs ++ [leg] } := by
  simp only [insertLeg, require_bind_eq_ok]
  constructor
  · rintro ⟨hfits, htransaction, hcurrency, ⟨hpositive, hformat⟩, hid,
      hsequence, hafter⟩
    cases hafter
    exact ⟨⟨hfits, htransaction, hcurrency, hpositive, hformat, hid,
      hsequence⟩, rfl⟩
  · rintro ⟨haccepted, rfl⟩
    exact ⟨haccepted.fits, haccepted.transaction, haccepted.currency,
      ⟨haccepted.positive, haccepted.format⟩, haccepted.newId,
      haccepted.newSequence, rfl⟩

theorem insertPosting_eq_ok
    (hok : insertPosting tie posting books = .ok after) :
    after = { books with
      postings := books.postings ++
        [calculateRunningBalance tie books.postings posting] } := by
  simp only [insertPosting, require_bind_eq_ok] at hok
  obtain ⟨-, -, -, -, hafter⟩ := hok
  cases hafter
  rfl

section Legs

variable (env request)

/-- The debit posting as it is stored. -/
def debitPosted (postings : List Posting) : Posting :=
  calculateRunningBalance env.debitTie postings
    (newPosting env request .debit
      (maxRunning postings request.debitAccountId))

/-- The credit posting as it is stored after the debit posting. -/
def creditPosted (postings : List Posting) : Posting :=
  calculateRunningBalance env.creditTie
    (postings ++ [debitPosted env request postings])
    (newPosting env request .credit
      (maxRunning postings request.creditAccountId))

def debitLeg (books : Books) :
    Leg :=
  newLeg env request .debit (partitionDateOf books.log request.transactionId)

def creditLeg (books : Books) :
    Leg :=
  newLeg env request .credit (partitionDateOf books.log request.transactionId)

/-- What a call that succeeds has checked, and what it has written. -/
structure Posted (books after : Books) : Prop where
  debitActive : env.active request.debitAccountId
  creditActive : env.active request.creditAccountId
  positive : 0 < request.amount
  debitAccepted : LegAccepted (debitLeg env request books) books
  creditAccepted : LegAccepted (creditLeg env request books)
    { books with legs := books.legs ++ [debitLeg env request books] }
  books : after =
    { log := books.log
      legs := books.legs ++
        [debitLeg env request books, creditLeg env request books]
      postings := books.postings ++
        [debitPosted env request books.postings,
          creditPosted env request books.postings] }

end Legs

theorem postMovement_eq_ok
    (hok : postMovement env request books = .ok (movementId, after)) :
    movementId = env.debitLegId ∧ Posted env request books after := by
  simp only [postMovement, require_bind_eq_ok] at hok
  obtain ⟨hdebit, hcredit, hpositive, hok⟩ := hok
  obtain ⟨withDebit, hleg, hok⟩ := bind_eq_ok.mp hok
  obtain ⟨withLegs, hlegs, hok⟩ := bind_eq_ok.mp hok
  obtain ⟨withPosting, hposting, hok⟩ := bind_eq_ok.mp hok
  obtain ⟨posted, hpostings, hok⟩ := bind_eq_ok.mp hok
  obtain ⟨haccepted, rfl⟩ := insertLeg_eq_ok_iff.mp hleg
  obtain ⟨hsecond, rfl⟩ := insertLeg_eq_ok_iff.mp hlegs
  obtain rfl := insertPosting_eq_ok hposting
  obtain rfl := insertPosting_eq_ok hpostings
  obtain ⟨rfl, rfl⟩ := Prod.mk.inj (Except.ok.inj hok)
  refine ⟨rfl, hdebit, hcredit, hpositive, haccepted, hsecond, ?_⟩
  simp only [List.append_assoc, List.cons_append, List.nil_append]
  rfl

/-- A movement takes its amount from the one account and gives it to the
other, in its currency. -/
theorem Posted.net_eq (hposted : Posted env request books after) :
    net after.postings = net books.postings +
      transfer request.debitAccountId request.creditAccountId
        request.currency request.amount := by
  rw [hposted.books, net, sumAt_append, ← List.singleton_append, sumAt_append,
    sumAt_singleton, sumAt_singleton]
  rfl

end Inserted

end UssdKernel.Ledger
