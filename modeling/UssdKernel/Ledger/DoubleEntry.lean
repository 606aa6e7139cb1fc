import UssdKernel.Core.Runs
import UssdKernel.Ledger.Movements

/-!
# Double entry

At the end of a database transaction `validate_movement_complete` runs for
every leg that was inserted.  It compares the debits and the credits of the
leg's ledger transaction, unless the payload declares more legs than there are,
and it lets through a difference of one unit of the last decimal.

After every commit the two sums of a ledger transaction differ by at most that
unit, or the transaction has fewer legs than it declares.
-/

namespace UssdKernel.Ledger

open KeyedSums Results Runs

def debits (legs : List Leg) : ℤ :=
  sumAt Leg.direction Leg.amount legs .debit

def credits (legs : List Leg) : ℤ :=
  sumAt Leg.direction Leg.amount legs .credit

structure MovementBalance where
  isBalanced : Bool
  totalDebits : ℤ
  totalCredits : ℤ
  difference : ℤ
  deriving DecidableEq

def verifyMovementBalance (legs : List Leg) (transactionId : TransactionId)
    (partitionDate : ℤ) : MovementBalance :=
  let rows := legsOf legs transactionId partitionDate
  { isBalanced := debits rows - credits rows = 0
    totalDebits := debits rows
    totalCredits := credits rows
    difference := debits rows - credits rows }

/-- The parameters of `insert_movement_leg`. -/
structure LegRequest where
  transactionId : TransactionId
  partitionDate : ℤ
  accountId : Uuid
  direction : Direction
  amount : ℤ
  currency : String
  coaCode : String
  description : Option String

/-- `COALESCE(MAX(leg_sequence), -1) + 1` -/
def nextSequence (legs : List Leg) : ℤ :=
  (legs.map Leg.legSequence).max?.getD (-1) + 1

/-- `legId` is the id that the default of the column draws. -/
def insertMovementLeg (legId : Uuid) (request : LegRequest) (books : Books) :
    Except LedgerError Books :=
  insertLeg
    { legId := legId
      transactionId := request.transactionId
      partitionDate := request.partitionDate
      legSequence := nextSequence
        (legsOf books.legs request.transactionId request.partitionDate)
      accountId := request.accountId
      direction := request.direction
      amount := request.amount
      currency := request.currency
      coaCode := request.coaCode
      description := request.description } books

/-- A statement that inserts a leg. -/
inductive LegStatement
  | insert (leg : Leg)
  | insertMovementLeg (legId : Uuid) (request : LegRequest)

def LegStatement.exec (books : Books) : LegStatement → Except LedgerError Books
  | .insert leg => insertLeg leg books
  | .insertMovementLeg legId request =>
      Ledger.insertMovementLeg legId request books

section Commit

-- `(payload->>'expected_leg_count')::INTEGER`, where a missing member is `NULL`
variable (expectedLegCount : String → Except LedgerError (Option ℤ))

/-- The trigger for an inserted leg, at the end of its database transaction.
If the transaction is not in the log, the expected number is `NULL` and nothing
is compared. -/
def validateMovementComplete (books : Books) (leg : Leg) :
    Except LedgerError Unit := do
  match books.log.find? (·.transactionId = leg.transactionId) with
  | none => pure ()
  | some row =>
      let expected ← expectedLegCount row.payload
      let legs := legsOf books.legs leg.transactionId leg.partitionDate
      if expected.getD 0 = 0 ∨ expected.getD 0 ≤ legs.length then
        require (NumericFits (debits legs) ∧ NumericFits (credits legs))
          .numericOverflow
        require (|debits legs - credits legs| ≤ 1)
          (.imbalance (debits legs) (credits legs) leg.transactionId)
      else pure ()

/-- The statements in order, then the trigger for each leg that they have
inserted. -/
def executeTransaction (statements : List LegStatement) (books : Books) :
    Except LedgerError Books := do
  let after ← statements.foldlM LegStatement.exec books
  (after.legs.drop books.legs.length).forM
    (validateMovementComplete expectedLegCount after)
  pure after

/-- The tables after a database transaction; one that fails is rolled back. -/
def commitTransaction (books : Books) (statements : List LegStatement) :
    Books :=
  match executeTransaction expectedLegCount statements books with
  | .ok after => after
  | .error _ => books

/-- The sums differ by at most one unit, or there are fewer legs than the
payload declares. -/
def Settled (log : List TransactionRow) (transactionId : TransactionId)
    (legs : List Leg) : Prop :=
  |debits legs - credits legs| ≤ 1 ∨
    ∃ row ∈ log, row.transactionId = transactionId ∧
      ∃ expected : ℤ, expectedLegCount row.payload = .ok (some expected) ∧
        legs.length < expected

variable {expectedLegCount} {books after : Books}

/-! ## What a database transaction inserts -/

theorem exec_eq_ok {statement : LegStatement}
    (hok : statement.exec books = .ok after) :
    ∃ leg, LegAccepted leg books ∧
      after = { books with legs := books.legs ++ [leg] } := by
  cases statement with
  | insert leg => exact ⟨leg, insertLeg_eq_ok_iff.mp hok⟩
  | insertMovementLeg legId request => exact ⟨_, insertLeg_eq_ok_iff.mp hok⟩

/-- The statements append legs of transactions that are in the log. -/
theorem foldlM_exec_eq_ok {statements : List LegStatement}
    (hok : statements.foldlM LegStatement.exec books = .ok after) :
    ∃ inserted, after = { books with legs := books.legs ++ inserted } ∧
      ∀ leg ∈ inserted, ∃ row ∈ books.log,
        row.transactionId = leg.transactionId := by
  induction statements generalizing books with
  | nil =>
      cases hok
      exact ⟨[], by simp, by simp⟩
  | cons statement statements ih =>
      obtain ⟨middle, hfirst, hrest⟩ := bind_eq_ok.mp hok
      obtain ⟨leg, haccepted, rfl⟩ := exec_eq_ok hfirst
      obtain ⟨inserted, rfl, hrows⟩ := ih hrest
      refine ⟨leg :: inserted, by simp, ?_⟩
      intro other hother
      rcases List.mem_cons.mp hother with rfl | hlater
      · obtain ⟨row, hrow, hid, -⟩ := haccepted.transaction
        exact ⟨row, hrow, hid⟩
      · exact hrows other hlater

theorem forM_eq_ok {Entry : Type} {check : Entry → Except LedgerError Unit}
    {entries : List Entry} {entry : Entry}
    (hok : entries.forM check = .ok ()) (hentry : entry ∈ entries) :
    check entry = .ok () := by
  induction entries with
  | nil => cases hentry
  | cons first rest ih =>
      obtain ⟨_, hfirst, hrest⟩ := bind_eq_ok.mp hok
      rcases List.mem_cons.mp hentry with rfl | hlater
      · exact hfirst
      · exact ih hrest hlater

/-- The trigger passes only if the ledger transaction of its leg is settled. -/
theorem settled_of_validate {leg : Leg}
    (hok : validateMovementComplete expectedLegCount books leg = .ok ())
    (hrow : ∃ row ∈ books.log, row.transactionId = leg.transactionId) :
    Settled expectedLegCount books.log leg.transactionId
      (legsOf books.legs leg.transactionId leg.partitionDate) := by
  rw [validateMovementComplete] at hok
  cases hfind : books.log.find? (·.transactionId = leg.transactionId) with
  | none =>
      obtain ⟨row, hmem, hid⟩ := hrow
      simpa [hid] using List.find?_eq_none.mp hfind row hmem
  | some row =>
      rw [hfind] at hok
      obtain ⟨expected, hexpected, hok⟩ := bind_eq_ok.mp hok
      by_cases hcomplete : expected.getD 0 = 0 ∨ expected.getD 0 ≤
          ((legsOf books.legs leg.transactionId leg.partitionDate).length : ℤ)
      · rw [if_pos hcomplete, require_bind_eq_ok] at hok
        obtain ⟨-, hok⟩ := hok
        left
        by_contra hdiffer
        rw [require, if_neg hdiffer] at hok
        cases hok
      · right
        cases expected with
        | none => exact absurd (Or.inl rfl) hcomplete
        | some expected =>
            refine ⟨row, List.mem_of_find?_eq_some hfind,
              by simpa using List.find?_some hfind, expected, hexpected, ?_⟩
            rw [Option.getD_some] at hcomplete
            omega

/-! ## Runs of database transactions -/

theorem legsOf_append (first second : List Leg)
    (transactionId : TransactionId) (partitionDate : ℤ) :
    legsOf (first ++ second) transactionId partitionDate =
      legsOf first transactionId partitionDate ++
        legsOf second transactionId partitionDate :=
  List.filter_append first second

variable (expectedLegCount) in
/-- A database transaction appends legs of transactions that are in the log,
and the trigger has passed for each of them. -/
theorem commitTransaction_cases (books : Books)
    (statements : List LegStatement) :
    ∃ inserted,
      commitTransaction expectedLegCount books statements =
          { books with legs := books.legs ++ inserted } ∧
        ∀ leg ∈ inserted,
          (∃ row ∈ books.log, row.transactionId = leg.transactionId) ∧
            validateMovementComplete expectedLegCount
              { books with legs := books.legs ++ inserted } leg = .ok () := by
  rw [commitTransaction]
  cases hexecute : executeTransaction expectedLegCount statements books with
  | error error => exact ⟨[], by simp, by simp⟩
  | ok after =>
      obtain ⟨executed, hstatements, hcommit⟩ := bind_eq_ok.mp hexecute
      obtain ⟨_, htriggers, hafter⟩ := bind_eq_ok.mp hcommit
      cases hafter
      obtain ⟨inserted, rfl, hrows⟩ := foldlM_exec_eq_ok hstatements
      rw [List.drop_left] at htriggers
      exact ⟨inserted, rfl, fun leg hleg =>
        ⟨hrows leg hleg, forM_eq_ok htriggers hleg⟩⟩

/-- A database transaction keeps every ledger transaction settled: the trigger
has run for those that got a leg, and the others have the legs they had. -/
theorem settled_commitTransaction
    (hbooks : ∀ transactionId partitionDate,
      Settled expectedLegCount books.log transactionId
        (legsOf books.legs transactionId partitionDate))
    (statements : List LegStatement) (transactionId : TransactionId)
    (partitionDate : ℤ) :
    Settled expectedLegCount books.log transactionId
      (legsOf (commitTransaction expectedLegCount books statements).legs
        transactionId partitionDate) := by
  obtain ⟨inserted, hcommit, hinserted⟩ :=
    commitTransaction_cases expectedLegCount books statements
  rw [hcommit]
  dsimp only
  cases htouched : legsOf inserted transactionId partitionDate with
  | nil =>
      rw [legsOf_append, htouched, List.append_nil]
      exact hbooks transactionId partitionDate
  | cons leg rest =>
      have hleg : leg ∈ legsOf inserted transactionId partitionDate := by
        rw [htouched]
        exact List.mem_cons_self
      obtain ⟨hmem, hkeys⟩ := List.mem_filter.mp hleg
      obtain ⟨rfl, rfl⟩ : leg.transactionId = transactionId ∧
          leg.partitionDate = partitionDate := by
        simpa using hkeys
      obtain ⟨hrow, hvalid⟩ := hinserted leg hmem
      have hsettled := settled_of_validate hvalid hrow
      exact hsettled

/-- Every ledger transaction of the log is settled. -/
def AllSettled (expectedLegCount : String → Except LedgerError (Option ℤ))
    (log : List TransactionRow) (books : Books) : Prop :=
  books.log = log ∧ ∀ transactionId partitionDate,
    Settled expectedLegCount log transactionId
      (legsOf books.legs transactionId partitionDate)

theorem allSettled_commitTransaction {log : List TransactionRow}
    (hbooks : AllSettled expectedLegCount log books)
    (statements : List LegStatement) :
    AllSettled expectedLegCount log
      (commitTransaction expectedLegCount books statements) := by
  obtain ⟨rfl, hsettled⟩ := hbooks
  obtain ⟨inserted, hcommit, -⟩ :=
    commitTransaction_cases expectedLegCount books statements
  exact ⟨by rw [hcommit], settled_commitTransaction hsettled statements⟩

theorem allSettled_start (log : List TransactionRow)
    (postings : List Posting) :
    AllSettled expectedLegCount log ⟨log, [], postings⟩ :=
  ⟨rfl, fun _ _ => Or.inl (by simp [legsOf, debits, credits])⟩

end Commit

/-- After every sequence of database transactions the debits and credits of a
ledger transaction differ by at most one unit of the last decimal, or the
payload declares more legs than it has. -/
theorem double_entry_settled
    (expectedLegCount : String → Except LedgerError (Option ℤ))
    (log : List TransactionRow) (postings : List Posting)
    (transactions : List (List LegStatement)) (transactionId : TransactionId)
    (partitionDate : ℤ) :
    Settled expectedLegCount log transactionId
      (legsOf (transactions.foldl (commitTransaction expectedLegCount)
        ⟨log, [], postings⟩).legs transactionId partitionDate) := by
  have hstep : ∀ books statements, AllSettled expectedLegCount log books →
      True → AllSettled expectedLegCount log
        (commitTransaction expectedLegCount books statements) :=
    fun _ statements hbooks _ => allSettled_commitTransaction hbooks statements
  have hrun := foldl_invariant hstep (allSettled_start log postings)
    (throughout_of_forall (fun _ _ => trivial) transactions _)
  exact hrun.2 transactionId partitionDate

namespace DoubleEntrySample

/-- Payloads that declare three legs, or none. -/
def expectedLegCount (payload : String) : Except LedgerError (Option ℤ) :=
  .ok (if payload = "three legs" then some 3 else none)

def transaction (id : TransactionId) (payload : String) : TransactionRow where
  transactionId := id
  transactionHash := none
  payload := payload
  idempotencyKey := "payment-key"
  committedAt := 0
  partitionDate := 20000

def leg (transactionId : TransactionId) (direction : Direction)
    (amount : ℤ) : LegRequest where
  transactionId := transactionId
  partitionDate := 20000
  accountId := 7
  direction := direction
  amount := amount
  currency := "USD"
  coaCode := "1000"
  description := none

/-- One debit of a transaction that declares three legs; a debit and a credit
that differ by one unit. -/
def transactions : List (List LegStatement) :=
  [[.insertMovementLeg 1 (leg 1 .debit 500000000)],
    [.insertMovementLeg 2 (leg 2 .debit 500000001),
      .insertMovementLeg 3 (leg 2 .credit 500000000)]]

def legs : List Leg :=
  (transactions.foldl (commitTransaction expectedLegCount)
    ⟨[transaction 1 "three legs", transaction 2 ""], [], []⟩).legs

theorem committed_imbalance :
    verifyMovementBalance legs 1 20000 = ⟨false, 500000000, 0, 500000000⟩ ∧
      verifyMovementBalance legs 2 20000 =
        ⟨false, 500000001, 500000000, 1⟩ := by
  decide +kernel

end DoubleEntrySample

end UssdKernel.Ledger
