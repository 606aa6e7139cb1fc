import UssdKernel.Core.LockedRows
import UssdKernel.Core.OpenTransactions

/-!
# Pending USSD transactions

The calls on one row of `ussd.pending_ussd_transactions` and its liquidity
reservation, statement by statement.  Every call runs in a transaction; a
session may make several calls before it commits.  A `SELECT` reads the row
without a lock, and the `UPDATE` that follows from what it read may find another
row.
-/

namespace UssdKernel.PendingTransactions

open LockedRows OpenTransactions

/-- `ussd.pending_tx_status` -/
inductive Status
  | pending
  | confirmed
  | processing
  | completed
  | failed
  | cancelled
  | expired
  | rejected
  deriving DecidableEq

def Status.text : Status → String
  | .pending => "PENDING"
  | .confirmed => "CONFIRMED"
  | .processing => "PROCESSING"
  | .completed => "COMPLETED"
  | .failed => "FAILED"
  | .cancelled => "CANCELLED"
  | .expired => "EXPIRED"
  | .rejected => "REJECTED"

/-- The columns that the calls read.  `none` is `NULL`. -/
structure PendingTransaction where
  status : Status
  requiresOtp : Option Bool
  pinVerified : Option Bool
  otpVerified : Option Bool
  expiresAt : ℤ
  pinAttempts : Option ℤ
  maxPinAttempts : Option ℤ
  deriving DecidableEq

inductive ReservationStatus
  | active
  | released
  | consumed
  | expired
  deriving DecidableEq

structure Reservation where
  status : ReservationStatus
  expiresAt : ℤ
  deriving DecidableEq

structure VerifyAnswer where
  success : Bool
  attemptsRemaining : Option ℤ
  locked : Option Bool
  errorMessage : Option String
  deriving DecidableEq

structure ConfirmAnswer where
  success : Bool
  transactionId : Option String
  coreReference : Option String
  errorMessage : Option String
  deriving DecidableEq

inductive Call
  | verify (pin : Option String)
  /-- The identifier is drawn, and the reference made from it. -/
  | confirm (transactionId coreReference : String)
  | cancel
  | cleanup
  deriving DecidableEq

inductive Result
  /-- Whether the supplied PIN was evaluated, and the returned row. -/
  | verify (evaluated : Bool) (answer : VerifyAnswer)
  | confirm (answer : ConfirmAnswer)
  | cancel (cancelled : Bool)
  /-- How many of the rows that were marked are this one. -/
  | cleanup (count : ℕ)
  deriving DecidableEq

/-- What is left of a call. -/
inductive Phase
  /-- Between two calls. -/
  | idle
  /-- The first statement is next; `now` is the start of the transaction. -/
  | begun (call : Call) (now : ℤ)
  | expire (result : Result)
  | evaluate (pin : Option String) (row : PendingTransaction)
  | attempt (valid : Bool) (newAttempts : Option ℤ) (answer : VerifyAnswer)
  | process (answer : ConfirmAnswer)
  | consume (answer : ConfirmAnswer)
  | complete (answer : ConfirmAnswer)
  | cancel
  | release
  | releaseStale (count : ℕ) (now : ℤ)
  | returned (result : Result)
  deriving DecidableEq

/-! ## The functions between their statements -/

namespace VerifyAnswer

def notFound : VerifyAnswer where
  success := false
  attemptsRemaining := some 0
  locked := some true
  errorMessage := some "Transaction not found"

def accountLocked : VerifyAnswer where
  success := false
  attemptsRemaining := some 0
  locked := some true
  errorMessage := some "Account locked. Please contact support."

def transactionExpired : VerifyAnswer where
  success := false
  attemptsRemaining := some 0
  locked := some false
  errorMessage := some "Transaction expired"

def accepted (maxAttempts newAttempts : Option ℤ) : VerifyAnswer where
  success := true
  attemptsRemaining := do return (← maxAttempts) - (← newAttempts)
  locked := some false
  errorMessage := none

/-- `GREATEST` passes over `NULL`. -/
def invalidPin (maxAttempts newAttempts : Option ℤ) : VerifyAnswer :=
  let remaining : Option ℤ := do return (← maxAttempts) - (← newAttempts)
  let attemptsRemaining := max 0 (remaining.getD 0)
  { success := false
    attemptsRemaining := some attemptsRemaining
    locked := do return decide ((← maxAttempts) ≤ (← newAttempts))
    errorMessage :=
      some ("Invalid PIN. " ++ toString attemptsRemaining ++
        " attempts remaining.") }

end VerifyAnswer

def ConfirmAnswer.refused (errorMessage : String) : ConfirmAnswer where
  success := false
  transactionId := none
  coreReference := none
  errorMessage := some errorMessage

def ConfirmAnswer.executed (transactionId coreReference : String) :
    ConfirmAnswer where
  success := true
  transactionId := some transactionId
  coreReference := some coreReference
  errorMessage := none

/-- `pin_attempts >= max_pin_attempts` is true. -/
def PendingTransaction.Locked (row : PendingTransaction) : Prop :=
  ∃ attempts ∈ row.pinAttempts, ∃ max ∈ row.maxPinAttempts, max ≤ attempts

instance (row : PendingTransaction) : Decidable row.Locked :=
  inferInstanceAs (Decidable (∃ attempts ∈ row.pinAttempts,
    ∃ max ∈ row.maxPinAttempts, max ≤ attempts))

/-- `p_pin_attempt IS NOT NULL AND length(p_pin_attempt) = 4` -/
def pinValid : Option String → Bool
  | none => false
  | some pin => pin.length = 4

/-- `verify_transaction_pin` after its `SELECT`. -/
def verifySelected (pin : Option String) (now : ℤ) :
    Option PendingTransaction → Phase
  | none => .returned (.verify false .notFound)
  | some row =>
      if row.Locked then .returned (.verify false .accountLocked)
      else if row.expiresAt < now then
        .expire (.verify false .transactionExpired)
      else .evaluate pin row

/-- The PIN is evaluated, and the answer is made from the row that was read. -/
def evaluated (pin : Option String) (row : PendingTransaction) : Phase :=
  let newAttempts := row.pinAttempts.map (· + 1)
  .attempt (pinValid pin) newAttempts
    (if pinValid pin then .accepted row.maxPinAttempts newAttempts
      else .invalidPin row.maxPinAttempts newAttempts)

/-- `confirm_pending_transaction` after its `SELECT`.  `NOT pin_verified` is
not true of `NULL`. -/
def confirmSelected (transactionId coreReference : String) (now : ℤ) :
    Option PendingTransaction → Phase
  | none => .returned (.confirm (.refused "Transaction not found"))
  | some row =>
      if row.status ≠ .pending then
        .returned (.confirm (.refused
          ("Transaction not in pending state: " ++ row.status.text)))
      else if row.pinVerified = some false then
        .returned (.confirm (.refused "PIN verification required"))
      else if row.expiresAt < now then
        .expire (.confirm (.refused "Transaction expired"))
      else .process (.executed transactionId coreReference)

/-- `status IN ('PENDING', 'CONFIRMED')` -/
def PendingTransaction.Cancellable (row : PendingTransaction) : Prop :=
  row.status = .pending ∨ row.status = .confirmed

instance (row : PendingTransaction) : Decidable row.Cancellable :=
  inferInstanceAs (Decidable (_ ∨ _))

def cancelSelected : Option PendingTransaction → Phase
  | none => .returned (.cancel false)
  | some row =>
      if row.Cancellable then .cancel else .returned (.cancel false)

/-! ## Statements -/

/-- An `UPDATE` of one row: its `WHERE` clause, its `SET` clause, and what
follows on whether the row was changed. -/
structure UpdateOf (Row : Type*) where
  condition : Row → Bool
  change : Row → Row
  next : Bool → Phase

inductive Statement
  | select (next : Option PendingTransaction → Phase)
  /-- The comparison of the PIN, which is no SQL statement. -/
  | evaluate (next : Phase)
  | updateRow (update : UpdateOf PendingTransaction)
  | updateReservation (update : UpdateOf Reservation)
  | finish (result : Result)

/-- An `UPDATE … SET status` with no condition beyond `pending_id`. -/
def setStatus (status : Status) (next : Phase) :
    UpdateOf PendingTransaction where
  condition := fun _ => true
  change := fun row => { row with status }
  next := fun _ => next

def setReservation (status : ReservationStatus) (next : Phase) :
    UpdateOf Reservation where
  condition := fun _ => true
  change := fun reservation => { reservation with status }
  next := fun _ => next

def Phase.statement : Phase → Option Statement
  | .idle => none
  | .begun (.verify pin) now => some (.select (verifySelected pin now))
  | .begun (.confirm transactionId coreReference) now =>
      some (.select (confirmSelected transactionId coreReference now))
  | .begun .cancel _ => some (.select cancelSelected)
  | .begun .cleanup now =>
      some (.updateRow
        { condition := fun row => row.status = .pending ∧ row.expiresAt < now
          change := fun row => { row with status := .expired }
          next := fun changed => .releaseStale changed.toNat now })
  | .expire result => some (.updateRow (setStatus .expired (.returned result)))
  | .evaluate pin row => some (.evaluate (evaluated pin row))
  | .attempt valid newAttempts answer =>
      some (.updateRow
        { condition := fun _ => true
          change := fun row =>
            { row with
              pinVerified := if valid then some true else row.pinVerified
              pinAttempts := newAttempts }
          next := fun _ => .returned (.verify true answer) })
  | .process answer => some (.updateRow (setStatus .processing (.consume answer)))
  | .consume answer =>
      some (.updateReservation (setReservation .consumed (.complete answer)))
  | .complete answer =>
      some (.updateRow (setStatus .completed (.returned (.confirm answer))))
  | .cancel =>
      some (.updateRow
        { condition := fun row => row.Cancellable
          change := fun row => { row with status := .cancelled }
          next := fun changed =>
            if changed then .release else .returned (.cancel false) })
  | .release =>
      some (.updateReservation
        (setReservation .released (.returned (.cancel true))))
  | .releaseStale count now =>
      some (.updateReservation
        { condition := fun reservation =>
            reservation.status = .active ∧ reservation.expiresAt < now
          change := fun reservation => { reservation with status := .released }
          next := fun _ => .returned (.cleanup count) })
  | .returned result => some (.finish result)

/-! ## Runs -/

structure State (Session : Type*) where
  row : LockedRow Session PendingTransaction
  reservation : LockedRow Session Reservation
  /-- The results of the calls. -/
  results : Rows Session Result
  phase : Session → Phase
  /-- How many PINs have been evaluated. -/
  evaluations : ℕ

inductive Turn (Session : Type*)
  | call (session : Session) (call : Call) (now : ℤ)
  /-- The next statement of the call. -/
  | advance (session : Session)
  | commit (session : Session)
  | abort (session : Session)

namespace State

variable {Session : Type*}

def initial (row : PendingTransaction) (reservation : Reservation) :
    State Session where
  row := .unlocked row
  reservation := .unlocked reservation
  results := .empty
  phase := fun _ => .idle
  evaluations := 0

variable [DecidableEq Session]

section Moves

variable (state : State Session)

def enter (session : Session) (phase : Phase) :
    State Session :=
  { state with phase := Function.update state.phase session phase }

/-- A statement of the session.  An `UPDATE` that waits leaves the state as it
is. -/
def perform (session : Session) :
    Statement → State Session
  | .select next =>
      state.enter session (next (some (state.row.visible session)))
  | .evaluate next =>
      { state with evaluations := state.evaluations + 1 }.enter session next
  | .updateRow update =>
      match state.row.update session (fun row => update.condition row = true)
          update.change with
      | none => state
      | some (row, changed) =>
          { state with row }.enter session (update.next changed)
  | .updateReservation update =>
      match state.reservation.update session
          (fun reservation => update.condition reservation = true)
          update.change with
      | none => state
      | some (reservation, changed) =>
          { state with reservation }.enter session (update.next changed)
  | .finish result =>
      { state with results := state.results.insert session result }.enter
        session .idle

def commit (session : Session) : State Session :=
  { state with
    row := state.row.commit session
    reservation := state.reservation.commit session
    results := state.results.commit session }

def step : Turn Session → State Session
  | .call session call now =>
      if state.phase session = .idle then
        state.enter session (.begun call now)
      else state
  | .advance session =>
      match (state.phase session).statement with
      | none => state
      | some statement => state.perform session statement
  | .commit session =>
      if state.phase session = .idle then state.commit session else state
  | .abort session =>
      { state with
        row := state.row.abort session
        reservation := state.reservation.abort session
        results := state.results.abort session
        phase := Function.update state.phase session .idle }

end Moves

/-! ### What a statement does -/

def writeRow (state : State Session) (session : Session)
    (row : PendingTransaction) (phase : Phase) : State Session :=
  { state with row := state.row.write session row }.enter session phase

def writeReservation (state : State Session) (session : Session)
    (reservation : Reservation) (phase : Phase) : State Session :=
  { state with
    reservation := state.reservation.write session reservation }.enter
    session phase

variable {state : State Session} {session : Session}
  {motive : State Session → Prop}

section Motive

variable (hstate : motive state)

include hstate

/-- A session calls while it is idle, and commits while it is idle. -/
theorem step_call {call : Call} {now : ℤ}
    (hidle : state.phase session = .idle →
      motive (state.enter session (.begun call now))) :
    motive (state.step (.call session call now)) := by
  rw [step]
  split_ifs with hphase
  · exact hidle hphase
  · exact hstate

theorem step_commit
    (hidle : state.phase session = .idle → motive (state.commit session)) :
    motive (state.step (.commit session)) := by
  rw [step]
  split_ifs with hphase
  · exact hidle hphase
  · exact hstate

theorem perform_updateRow {update : UpdateOf PendingTransaction}
    (hskip : update.condition (state.row.visible session) = false →
      motive (state.enter session (update.next false)))
    (hwrite : update.condition (state.row.visible session) = true →
      state.row.Available session →
      motive (state.writeRow session (update.change (state.row.visible session))
        (update.next true))) :
    motive (state.perform session (.updateRow update)) := by
  rw [perform]
  refine state.row.update_elim session
    (fun row => update.condition row = true) update.change hstate
    (fun hcondition => ?_) hwrite
  exact hskip (Bool.eq_false_of_not_eq_true hcondition)

theorem perform_updateReservation {update : UpdateOf Reservation}
    (hskip : update.condition (state.reservation.visible session) = false →
      motive (state.enter session (update.next false)))
    (hwrite : update.condition (state.reservation.visible session) = true →
      state.reservation.Available session →
      motive (state.writeReservation session
        (update.change (state.reservation.visible session))
        (update.next true))) :
    motive (state.perform session (.updateReservation update)) := by
  rw [perform]
  refine state.reservation.update_elim session
    (fun reservation => update.condition reservation = true) update.change hstate
    (fun hcondition => ?_) hwrite
  exact hskip (Bool.eq_false_of_not_eq_true hcondition)

end Motive

/-- Only a commit changes the committed row. -/
theorem committed_perform (state : State Session) (session : Session)
    (statement : Statement) :
    (state.perform session statement).row.committed = state.row.committed := by
  cases statement with
  | select next => rfl
  | evaluate next => rfl
  | updateRow update =>
      apply perform_updateRow
        (motive := fun after => after.row.committed = state.row.committed)
      · rfl
      · exact fun _ => rfl
      · exact fun _ _ => rfl
  | updateReservation update =>
      apply perform_updateReservation
        (motive := fun after => after.row.committed = state.row.committed)
      · rfl
      · exact fun _ => rfl
      · exact fun _ _ => rfl
  | finish result => rfl

@[simp]
theorem phase_enter (phase : Phase) :
    (state.enter session phase).phase session = phase :=
  Function.update_self _ _ _

@[simp]
theorem phase_writeRow (row : PendingTransaction) (phase : Phase) :
    (state.writeRow session row phase).phase session = phase :=
  Function.update_self _ _ _

@[simp]
theorem phase_writeReservation (reservation : Reservation) (phase : Phase) :
    (state.writeReservation session reservation phase).phase session = phase :=
  Function.update_self _ _ _

@[simp]
theorem phase_finish (result : Result) :
    (state.perform session (.finish result)).phase session = .idle :=
  Function.update_self _ _ _

@[simp]
theorem pending_finish (result : Result) :
    (state.perform session (.finish result)).results.pending session =
      state.results.pending session ++ [result] :=
  Rows.pending_insert_self _ _

@[simp]
theorem phase_abort : (state.step (.abort session)).phase session = .idle :=
  Function.update_self _ _ _

@[simp]
theorem row_abort :
    (state.step (.abort session)).row.visible session = state.row.committed :=
  LockedRow.visible_abort_self

@[simp]
theorem pending_abort :
    (state.step (.abort session)).results.pending session = [] :=
  Rows.pending_abort_self _

end State

/-! ### What the other sessions keep -/

/-- Nothing is committed, and no other session sees a change. -/
structure OthersKeep {Session : Type*} [DecidableEq Session]
    (session : Session) (before after : State Session) : Prop where
  committedRow : after.row.committed = before.row.committed
  committedReservation :
    after.reservation.committed = before.reservation.committed
  committedResults : after.results.committed = before.results.committed
  row : ∀ other, other ≠ session →
    after.row.visible other = before.row.visible other
  reservation : ∀ other, other ≠ session →
    after.reservation.visible other = before.reservation.visible other
  results : ∀ other, other ≠ session →
    after.results.pending other = before.results.pending other
  phase : ∀ other, other ≠ session → after.phase other = before.phase other
  holder : ∀ other, other ≠ session →
    (after.row.holder = some other ↔ before.row.holder = some other)

section OthersKeep

variable {Session : Type*} [DecidableEq Session] {state : State Session}
variable {session : Session}

theorem othersKeep_enter (phase : Phase) :
    OthersKeep session state (state.enter session phase) where
  committedRow := rfl
  committedReservation := rfl
  committedResults := rfl
  row := fun _ _ => rfl
  reservation := fun _ _ => rfl
  results := fun _ _ => rfl
  phase := fun _ hother => Function.update_of_ne hother _ _
  holder := fun _ _ => Iff.rfl

theorem othersKeep_evaluate (phase : Phase) :
    OthersKeep session state (state.perform session (.evaluate phase)) :=
  { othersKeep_enter phase with }

theorem othersKeep_writeRow (havailable : state.row.Available session)
    (row : PendingTransaction) (phase : Phase) :
    OthersKeep session state (state.writeRow session row phase) :=
  { othersKeep_enter phase with
    row := fun _ hother => havailable.visible_write_of_ne hother row
    holder := fun _ hother =>
      iff_of_false (fun hsame => hother (Option.some.inj hsame).symm)
        (havailable.holder_ne hother) }

theorem othersKeep_writeReservation
    (havailable : state.reservation.Available session)
    (reservation : Reservation) (phase : Phase) :
    OthersKeep session state
      (state.writeReservation session reservation phase) :=
  { othersKeep_enter phase with
    reservation := fun _ hother =>
      havailable.visible_write_of_ne hother reservation }

theorem othersKeep_finish (result : Result) :
    OthersKeep session state (state.perform session (.finish result)) :=
  { othersKeep_enter .idle with
    results := fun _ hother => Rows.pending_insert_of_ne _ _ hother }

theorem othersKeep_abort :
    OthersKeep session state (state.step (.abort session)) where
  committedRow := LockedRow.committed_abort
  committedReservation := LockedRow.committed_abort
  committedResults := rfl
  row := fun _ hother => LockedRow.visible_abort_of_ne hother
  reservation := fun _ hother => LockedRow.visible_abort_of_ne hother
  results := fun _ hother => Rows.pending_abort_of_ne _ hother
  phase := fun _ hother => Function.update_of_ne hother _ _
  holder := fun _ hother => LockedRow.holder_abort_of_ne hother

end OthersKeep

namespace Sample

def transfer : PendingTransaction where
  status := .pending
  requiresOtp := some false
  pinVerified := some false
  otpVerified := some false
  expiresAt := 300
  pinAttempts := some 0
  maxPinAttempts := some 3

def funds : Reservation where
  status := .active
  expiresAt := 300

end Sample

end UssdKernel.PendingTransactions
