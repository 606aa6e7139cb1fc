import UssdKernel.Core.Runs
import UssdKernel.PendingTransactions.Calls

/-!
# Attempts at a PIN

`verify_transaction_pin` reads `pin_attempts` without a lock and writes the
value that it read plus one.  Calls that overlap read the same value, and only
one of their attempts is counted.  The bound holds in every run in which a call
that goes on to evaluate its PIN has read the attempts of all calls before it.
-/

namespace UssdKernel.PendingTransactions

open LockedRows OpenTransactions Runs

/-- The call evaluated the supplied PIN. -/
def Result.evaluated : Result → Bool
  | .verify evaluated _ => evaluated
  | .confirm _ => false
  | .cancel _ => false
  | .cleanup _ => false

/-- The checks have let the call pass, and it has not returned. -/
def Phase.guessing : Phase → Bool
  | .evaluate _ _ => true
  | .attempt _ _ _ => true
  | .returned result => result.evaluated
  | _ => false

/-- The time of a verification that has not read the row. -/
def Phase.verifying : Phase → Option ℤ
  | .begun (.verify _) now => some now
  | _ => none

/-- The checks of `verify_transaction_pin` let the row pass. -/
def PendingTransaction.Verifiable (row : PendingTransaction) (now : ℤ) : Prop :=
  ¬ row.Locked ∧ now ≤ row.expiresAt

instance (row : PendingTransaction) (now : ℤ) :
    Decidable (row.Verifiable now) :=
  inferInstanceAs (Decidable (_ ∧ _))

section Condition

variable {Session : Type*}

/-- The session has evaluated a PIN, or is about to, in a transaction that is
not committed. -/
def OpenGuess (state : State Session) (session : Session) : Prop :=
  (state.phase session).guessing = true ∨
    ∃ result ∈ state.results.pending session, result.evaluated = true

instance (state : State Session) (session : Session) :
    Decidable (OpenGuess state session) :=
  inferInstanceAs (Decidable (_ ∨ _))

theorem openGuess_of_phase {state : State Session} {session : Session}
    {phase : Phase} (hphase : state.phase session = phase)
    (hguessing : phase.guessing = true) : OpenGuess state session :=
  .inl (hphase ▸ hguessing)

variable [DecidableEq Session]

/-- A call that goes on to evaluate its PIN reads the row when no other session
has an open guess, and no transaction with a guess is rolled back. -/
def Alone (state : State Session) : Turn Session → Prop
  | .advance session =>
      ∀ now ∈ (state.phase session).verifying,
        (state.row.visible session).Verifiable now →
          ∀ other, other ≠ session → ¬ OpenGuess state other
  | .abort session => ¬ OpenGuess state session
  | .call _ _ _ => True
  | .commit _ => True

instance [Fintype Session] (state : State Session) :
    (turn : Turn Session) → Decidable (Alone state turn)
  | .advance session =>
      inferInstanceAs (Decidable (∀ now ∈ (state.phase session).verifying,
        (state.row.visible session).Verifiable now →
          ∀ other, other ≠ session → ¬ OpenGuess state other))
  | .abort session => inferInstanceAs (Decidable (¬ OpenGuess state session))
  | .call _ _ _ => isTrue trivial
  | .commit _ => isTrue trivial

end Condition

/-! ## Calls that evaluate nothing -/

/-- A call that has evaluated no PIN says that the row is locked, expired or
not there. -/
def Result.Answered : Result → Prop
  | .verify false answer => answer = .accountLocked ∨
      answer = .transactionExpired ∨ answer = .notFound
  | _ => True

/-- The result that the call is bound to return. -/
def Phase.bound : Phase → List Result
  | .expire result => [result]
  | .returned result => [result]
  | _ => []

def Phase.Answered (phase : Phase) : Prop :=
  ∀ result ∈ phase.bound, result.Answered

variable {phase : Phase}

theorem answered_of_bound_eq_nil (hphase : phase.bound = []) :
    phase.Answered := by
  rw [Phase.Answered, hphase]
  exact fun _ hresult => absurd hresult List.not_mem_nil

variable {result : Result}

theorem answered_expire (hresult : result.Answered) :
    (Phase.expire result).Answered :=
  fun _ hother => List.mem_singleton.mp hother ▸ hresult

theorem answered_returned (hresult : result.Answered) :
    (Phase.returned result).Answered :=
  fun _ hother => List.mem_singleton.mp hother ▸ hresult

def Statement.Answered : Statement → Prop
  | .select next => ∀ row, (next row).Answered
  | .evaluate next => next.Answered
  | .updateRow update => ∀ changed, (update.next changed).Answered
  | .updateReservation update => ∀ changed, (update.next changed).Answered
  | .finish result => result.Answered

theorem answered_verifySelected (pin : Option String) (now : ℤ)
    (row : Option PendingTransaction) :
    (verifySelected pin now row).Answered := by
  cases row with
  | none => exact answered_returned (.inr (.inr rfl))
  | some row =>
      rw [verifySelected]
      split_ifs
      · exact answered_returned (.inl rfl)
      · exact answered_expire (.inr (.inl rfl))
      · exact answered_of_bound_eq_nil rfl

variable (transactionId coreReference : String)

theorem answered_confirmSelected (now : ℤ) (row : Option PendingTransaction) :
    (confirmSelected transactionId coreReference now row).Answered := by
  cases row with
  | none => exact answered_returned trivial
  | some row =>
      rw [confirmSelected]
      split_ifs
      · exact answered_returned trivial
      · exact answered_returned trivial
      · exact answered_expire trivial
      · exact answered_of_bound_eq_nil rfl

theorem answered_cancelSelected (row : Option PendingTransaction) :
    (cancelSelected row).Answered := by
  cases row with
  | none => exact answered_returned trivial
  | some row =>
      rw [cancelSelected]
      split_ifs
      · exact answered_of_bound_eq_nil rfl
      · exact answered_returned trivial

/-- A statement leads on to such answers. -/
theorem answered_statement (hphase : phase.Answered) {statement : Statement}
    (hstatement : phase.statement = some statement) :
    statement.Answered := by
  cases phase with
  | idle => cases hstatement
  | begun call now =>
      cases call with
      | verify pin =>
          cases hstatement
          exact answered_verifySelected pin now
      | confirm transactionId coreReference =>
          cases hstatement
          exact answered_confirmSelected transactionId coreReference now
      | cancel =>
          cases hstatement
          exact answered_cancelSelected
      | cleanup =>
          cases hstatement
          exact fun _ => answered_of_bound_eq_nil rfl
  | expire result =>
      cases hstatement
      exact fun _ => answered_returned (hphase result List.mem_cons_self)
  | evaluate pin row =>
      cases hstatement
      exact answered_of_bound_eq_nil rfl
  | attempt valid newAttempts answer =>
      cases hstatement
      exact fun _ => answered_returned trivial
  | process answer | consume answer =>
      cases hstatement
      exact fun _ => answered_of_bound_eq_nil rfl
  | complete answer =>
      cases hstatement
      exact fun _ => answered_returned trivial
  | cancel =>
      cases hstatement
      intro changed
      cases changed with
      | true => exact answered_of_bound_eq_nil rfl
      | false => exact answered_returned trivial
  | release | releaseStale count now =>
      cases hstatement
      exact fun _ => answered_returned trivial
  | returned result =>
      cases hstatement
      exact hphase result List.mem_cons_self

section Answers

variable {Session : Type*}

structure AnswerInvariant (state : State Session) : Prop where
  committed : ∀ result ∈ state.results.committed, result.Answered
  pending : ∀ session, ∀ result ∈ state.results.pending session,
    result.Answered
  phase : ∀ session, (state.phase session).Answered

variable [DecidableEq Session] {state after : State Session}
variable {session : Session}

section AnswerSteps

variable (hstate : AnswerInvariant state)
include hstate

theorem AnswerInvariant.enter {next : Phase} (hnext : next.Answered)
    (hresults : after.results = state.results)
    (hphase : after.phase = Function.update state.phase session next) :
    AnswerInvariant after where
  committed := by
    rw [hresults]
    exact hstate.committed
  pending := by
    rw [hresults]
    exact hstate.pending
  phase := by
    rw [hphase, Function.forall_update_iff state.phase
      fun _ phase => phase.Answered]
    exact ⟨hnext, fun other _ => hstate.phase other⟩

theorem AnswerInvariant.finish {result : Result} (hresult : result.Answered) :
    AnswerInvariant (state.perform session (.finish result)) where
  committed := hstate.committed
  pending := by
    intro other
    by_cases hother : other = session
    · subst hother
      intro third hthird
      have hpending : third ∈ state.results.pending other ++ [result] := by
        rwa [← Rows.pending_insert_self]
      rcases List.mem_append.mp hpending with hold | hnew
      · exact hstate.pending other third hold
      · exact List.mem_singleton.mp hnew ▸ hresult
    · have hpending : (state.perform session
          (.finish result)).results.pending other =
            state.results.pending other :=
        Rows.pending_insert_of_ne _ _ hother
      rw [hpending]
      exact hstate.pending other
  phase := (hstate.enter (answered_of_bound_eq_nil rfl) rfl rfl :
    AnswerInvariant (state.enter session .idle)).phase

theorem AnswerInvariant.perform {statement : Statement}
    (hstatement : statement.Answered) :
    AnswerInvariant (state.perform session statement) := by
  cases statement with
  | select next => exact hstate.enter (hstatement _) rfl rfl
  | evaluate next => exact hstate.enter hstatement rfl rfl
  | updateRow update =>
      apply State.perform_updateRow hstate
      · exact fun _ => hstate.enter (hstatement false) rfl rfl
      · exact fun _ _ => hstate.enter (hstatement true) rfl rfl
  | updateReservation update =>
      apply State.perform_updateReservation hstate
      · exact fun _ => hstate.enter (hstatement false) rfl rfl
      · exact fun _ _ => hstate.enter (hstatement true) rfl rfl
  | finish result => exact hstate.finish hstatement

/-- The results of a session that are dropped or become committed. -/
theorem AnswerInvariant.clear
    (hcommitted : ∀ result ∈ after.results.committed, result.Answered)
    (hcleared : Rows.Cleared session state.results after.results)
    (hphase : ∀ other, (after.phase other).Answered) :
    AnswerInvariant after where
  committed := hcommitted
  pending := by
    intro other
    by_cases hother : other = session
    · rw [hother, hcleared.1]
      exact fun _ hresult => absurd hresult List.not_mem_nil
    · rw [hcleared.2 other hother]
      exact hstate.pending other
  phase := hphase

theorem AnswerInvariant.step (turn : Turn Session) :
    AnswerInvariant (state.step turn) := by
  cases turn with
  | call session call now =>
      exact State.step_call hstate fun _ =>
        hstate.enter (answered_of_bound_eq_nil rfl) rfl rfl
  | advance session =>
      cases hstatement : (state.phase session).statement with
      | none =>
          simp only [State.step, hstatement]
          exact hstate
      | some statement =>
          simp only [State.step, hstatement]
          exact hstate.perform
            (answered_statement (hstate.phase session) hstatement)
  | commit session =>
      apply State.step_commit hstate
      intro _
      refine hstate.clear (fun result hresult => ?_) (Rows.cleared_commit _)
        hstate.phase
      rcases List.mem_append.mp hresult with hold | hnew
      · exact hstate.committed result hold
      · exact hstate.pending session result hnew
  | abort session =>
      exact hstate.clear hstate.committed (Rows.cleared_abort _)
        (hstate.enter (answered_of_bound_eq_nil rfl) rfl rfl :
          AnswerInvariant (state.enter session .idle)).phase

end AnswerSteps

end Answers

/-! ## What is counted -/

/-- What a call has read is what its session sees. -/
def Phase.Reads (limit : ℤ) (attempts : Option ℤ) : Phase → Prop
  | .evaluate _ row => row.pinAttempts = attempts ∧
      row.maxPinAttempts = some limit ∧ ¬ row.Locked
  | .attempt _ newAttempts _ => newAttempts = attempts.map (· + 1)
  | .expire result => result.evaluated = false
  | _ => True

/-- Evaluated and not yet written. -/
def Phase.inFlight : Phase → ℤ
  | .attempt _ _ _ => 1
  | _ => 0

/-- The attempt is written and not committed. -/
def Phase.counted : Phase → Bool
  | .returned result => result.evaluated
  | _ => false

/-- A phase of a call that has nothing to do with a guess. -/
structure Phase.Passive (phase : Phase) : Prop where
  guessing : phase.guessing = false
  inFlight : phase.inFlight = 0
  reads : ∀ limit attempts, phase.Reads limit attempts

theorem Phase.Passive.counted (hphase : phase.Passive) :
    phase.counted = false := by
  have hguessing := hphase.guessing
  cases phase with
  | returned result => exact hguessing
  | _ => rfl

theorem inFlight_of_not_guessing (hphase : phase.guessing = false) :
    phase.inFlight = 0 := by
  cases phase with
  | attempt valid newAttempts answer => cases hphase
  | _ => rfl

/-- What a call without a guess has read does not matter. -/
theorem reads_of_not_guessing {limit : ℤ} {first second : Option ℤ}
    (hphase : phase.guessing = false) (hreads : phase.Reads limit first) :
    phase.Reads limit second := by
  cases phase with
  | evaluate pin row => cases hphase
  | attempt valid newAttempts answer => cases hphase
  | expire result => exact hreads
  | _ => trivial

theorem passive_expire (hresult : result.evaluated = false) :
    (Phase.expire result).Passive :=
  ⟨rfl, rfl, fun _ _ => hresult⟩

theorem passive_returned (hresult : result.evaluated = false) :
    (Phase.returned result).Passive :=
  ⟨hresult, rfl, fun _ _ => trivial⟩

/-- A call that is bound to no result and has no guess. -/
theorem passive_of_bound_eq_nil (hbound : phase.bound = [])
    (hguessing : phase.guessing = false) : phase.Passive := by
  cases phase with
  | expire result => cases hbound
  | returned result => cases hbound
  | evaluate pin row => cases hguessing
  | attempt valid newAttempts answer => cases hguessing
  | _ => exact ⟨rfl, rfl, fun _ _ => trivial⟩

theorem verifySelected_cases (pin : Option String) (now : ℤ)
    (row : PendingTransaction) :
    (verifySelected pin now (some row)).Passive ∨
      row.Verifiable now ∧ verifySelected pin now (some row) =
        .evaluate pin row := by
  rw [verifySelected]
  split_ifs with hlocked hexpired
  · exact .inl (passive_returned rfl)
  · exact .inl (passive_expire rfl)
  · exact .inr ⟨⟨hlocked, not_lt.mp hexpired⟩, rfl⟩

theorem passive_confirmSelected (now : ℤ) (row : PendingTransaction) :
    (confirmSelected transactionId coreReference now (some row)).Passive := by
  rw [confirmSelected]
  split_ifs
  · exact passive_returned rfl
  · exact passive_returned rfl
  · exact passive_expire rfl
  · exact passive_of_bound_eq_nil rfl rfl

theorem passive_cancelSelected (row : PendingTransaction) :
    (cancelSelected (some row)).Passive := by
  rw [cancelSelected]
  split_ifs
  · exact passive_of_bound_eq_nil rfl rfl
  · exact passive_returned rfl

section Invariant

variable {Session : Type*} [DecidableEq Session]

structure GuessInvariant (limit : ℤ) (state : State Session) : Prop where
  bound : (state.evaluations : ℤ) ≤ max limit 0
  committed : state.row.committed.maxPinAttempts = some limit
  limited : ∀ session,
    (state.row.visible session).maxPinAttempts = some limit
  exclusive : ∀ session, OpenGuess state session →
    ∀ other, other ≠ session → ¬ OpenGuess state other
  closed : ∀ session, ¬ OpenGuess state session →
    (state.row.visible session).pinAttempts = state.row.committed.pinAttempts
  counted : ∀ session, (∀ other, other ≠ session → ¬ OpenGuess state other) →
    (state.row.visible session).pinAttempts =
      some (state.evaluations - (state.phase session).inFlight)
  reads : ∀ session, (state.phase session).Reads limit
    (state.row.visible session).pinAttempts
  /-- A written attempt is under the lock. -/
  held : ∀ session, (state.phase session).counted = true ∨
      (∃ result ∈ state.results.pending session, result.evaluated = true) →
    state.row.holder = some session

variable {limit : ℤ} {state after : State Session} {session : Session}

variable {row : PendingTransaction}

theorem guessInvariant_initial {reservation : Reservation}
    (hattempts : row.pinAttempts = some 0)
    (hlimit : row.maxPinAttempts = some limit) :
    GuessInvariant limit (State.initial row reservation : State Session) where
  bound := le_max_right _ _
  committed := hlimit
  limited := fun _ => hlimit
  exclusive := by
    rintro session (hphase | ⟨result, hresult, -⟩)
    · cases hphase
    · exact absurd hresult List.not_mem_nil
  closed := fun _ _ => rfl
  counted := fun _ _ => hattempts
  reads := fun _ => trivial
  held := by
    rintro session (hphase | ⟨result, hresult, -⟩)
    · cases hphase
    · exact absurd hresult List.not_mem_nil

theorem OthersKeep.openGuess_iff (hothers : OthersKeep session state after)
    {other : Session} (hother : other ≠ session) :
    OpenGuess after other ↔ OpenGuess state other := by
  rw [OpenGuess, OpenGuess, hothers.phase other hother,
    hothers.results other hother]

section Moves

variable (hstate : GuessInvariant limit state) {pin : Option String}
include hstate

/-- The invariant after a move, from what holds of the session that moved. -/
theorem GuessInvariant.move (hothers : OthersKeep session state after)
    (hbound : (after.evaluations : ℤ) ≤ max limit 0)
    (hlimit : (after.row.visible session).maxPinAttempts = some limit)
    (hopen : OpenGuess after session →
      ∀ other, other ≠ session → ¬ OpenGuess state other)
    (hclosed : ¬ OpenGuess after session → ¬ OpenGuess state session ∧
      after.evaluations = state.evaluations ∧
      (after.row.visible session).pinAttempts =
        state.row.committed.pinAttempts)
    (hcounted : (∀ other, other ≠ session → ¬ OpenGuess state other) →
      (after.row.visible session).pinAttempts =
        some (after.evaluations - (after.phase session).inFlight))
    (hreads : (after.phase session).Reads limit
      (after.row.visible session).pinAttempts)
    (hheld : (after.phase session).counted = true ∨
        (∃ result ∈ after.results.pending session, result.evaluated = true) →
      after.row.holder = some session) :
    GuessInvariant limit after where
  bound := hbound
  committed := by
    rw [hothers.committedRow]
    exact hstate.committed
  limited := by
    intro other
    by_cases hother : other = session
    · exact hother ▸ hlimit
    · rw [hothers.row other hother]
      exact hstate.limited other
  exclusive := by
    intro first hfirst second hne
    by_cases hsession : first = session
    · subst hsession
      rw [hothers.openGuess_iff hne]
      exact hopen hfirst second hne
    · have hbefore := (hothers.openGuess_iff hsession).mp hfirst
      by_cases hsecond : second = session
      · subst hsecond
        intro hafter
        exact hopen hafter first hsession hbefore
      · rw [hothers.openGuess_iff hsecond]
        exact hstate.exclusive first hbefore second hne
  closed := by
    intro other hother
    rw [hothers.committedRow]
    by_cases hsession : other = session
    · subst hsession
      exact (hclosed hother).2.2
    · rw [hothers.row other hsession]
      exact hstate.closed other
        (mt (hothers.openGuess_iff hsession).mpr hother)
  counted := by
    intro other hnone
    by_cases hsession : other = session
    · subst hsession
      apply hcounted
      intro third hthird
      rw [← hothers.openGuess_iff hthird]
      exact hnone third hthird
    · obtain ⟨hbefore, hsame, -⟩ := hclosed (hnone session (Ne.symm hsession))
      rw [hothers.row other hsession, hothers.phase other hsession, hsame]
      apply hstate.counted
      intro third hthird
      by_cases hmoved : third = session
      · exact hmoved ▸ hbefore
      · rw [← hothers.openGuess_iff hmoved]
        exact hnone third hthird
  reads := by
    intro other
    by_cases hother : other = session
    · exact hother ▸ hreads
    · rw [hothers.phase other hother, hothers.row other hother]
      exact hstate.reads other
  held := by
    intro other
    by_cases hother : other = session
    · subst hother
      exact hheld
    · rw [hothers.phase other hother, hothers.results other hother]
      intro hcounted
      exact (hothers.holder other hother).mpr (hstate.held other hcounted)

/-- A move of a call that has nothing to do with a guess. -/
theorem GuessInvariant.passive (hothers : OthersKeep session state after)
    (hevaluations : after.evaluations = state.evaluations)
    (hattempts : (after.row.visible session).pinAttempts =
      (state.row.visible session).pinAttempts)
    (hlimit : (after.row.visible session).maxPinAttempts =
      (state.row.visible session).maxPinAttempts)
    (hresults : after.results.pending session =
      state.results.pending session)
    (hholder : state.row.holder = some session →
      after.row.holder = some session)
    (hbefore : (state.phase session).Passive)
    (hafter : (after.phase session).Passive) :
    GuessInvariant limit after := by
  have hguess : OpenGuess after session ↔ OpenGuess state session := by
    rw [OpenGuess, OpenGuess, hresults, hbefore.guessing, hafter.guessing]
  apply hstate.move hothers
  · rw [hevaluations]
    exact hstate.bound
  · rw [hlimit]
    exact hstate.limited session
  · rw [hguess]
    exact hstate.exclusive session
  · rw [hguess, hattempts]
    exact fun hclosed => ⟨hclosed, hevaluations, hstate.closed session hclosed⟩
  · rw [hattempts, hevaluations, hafter.inFlight, ← hbefore.inFlight]
    exact hstate.counted session
  · exact hafter.reads _ _
  · rw [hafter.counted, hresults, ← hbefore.counted]
    exact fun hcounted => hholder (hstate.held session hcounted)

section Passive

variable (hphase : (state.phase session).Passive)

include hphase

theorem GuessInvariant.enter {next : Phase} (hnext : next.Passive) :
    GuessInvariant limit (state.enter session next) := by
  apply hstate.passive (othersKeep_enter next) rfl rfl rfl rfl id hphase
  rw [State.phase_enter]
  exact hnext

/-- An `UPDATE` that leaves the attempts as they are. -/
theorem GuessInvariant.updateRow {update : UpdateOf PendingTransaction}
    (hchange : ∀ row, (update.change row).pinAttempts = row.pinAttempts ∧
      (update.change row).maxPinAttempts = row.maxPinAttempts)
    (hnext : ∀ changed, (update.next changed).Passive) :
    GuessInvariant limit (state.perform session (.updateRow update)) := by
  apply State.perform_updateRow hstate
  · exact fun _ => hstate.enter hphase (hnext false)
  · intro _ havailable
    have hvisible : (state.writeRow session
        (update.change (state.row.visible session))
        (update.next true)).row.visible session =
          update.change (state.row.visible session) :=
      LockedRow.visible_write_self _
    apply hstate.passive (othersKeep_writeRow havailable _ _) rfl
    · rw [hvisible]
      exact (hchange _).1
    · rw [hvisible]
      exact (hchange _).2
    · rfl
    · exact fun _ => LockedRow.holder_write _
    · exact hphase
    · rw [State.phase_writeRow]
      exact hnext true

theorem GuessInvariant.updateReservation {update : UpdateOf Reservation}
    (hnext : ∀ changed, (update.next changed).Passive) :
    GuessInvariant limit
      (state.perform session (.updateReservation update)) := by
  apply State.perform_updateReservation hstate
  · exact fun _ => hstate.enter hphase (hnext false)
  · intro _ havailable
    apply hstate.passive (othersKeep_writeReservation havailable _ _) rfl rfl
      rfl rfl id hphase
    rw [State.phase_writeReservation]
    exact hnext true

/-! ### A guess -/

/-- The row is read, and the checks let the call pass. -/
theorem GuessInvariant.select {now : ℤ}
    (hverifiable : (state.row.visible session).Verifiable now)
    (halone : ∀ other, other ≠ session → ¬ OpenGuess state other) :
    GuessInvariant limit
      (state.enter session (.evaluate pin (state.row.visible session))) := by
  have hnext : (state.enter session
      (.evaluate pin (state.row.visible session))).phase session =
        .evaluate pin (state.row.visible session) := State.phase_enter _
  apply hstate.move (othersKeep_enter _) hstate.bound (hstate.limited session)
  · exact fun _ => halone
  · exact absurd (openGuess_of_phase hnext rfl)
  · have hcounted := hstate.counted session halone
    rw [hphase.inFlight] at hcounted
    rw [hnext]
    exact fun _ => hcounted
  · rw [hnext]
    exact ⟨rfl, hstate.limited session, hverifiable.1⟩
  · rw [hnext]
    rintro (hcounted | hpending)
    · cases hcounted
    · exact hstate.held session (.inr hpending)

end Passive

/-- The PIN is evaluated: the attempts that were read are all there were. -/
theorem GuessInvariant.evaluate
    (hphase : state.phase session = .evaluate pin row) :
    GuessInvariant limit
      (state.perform session (.evaluate (evaluated pin row))) := by
  have halone := hstate.exclusive session (openGuess_of_phase hphase rfl)
  have hcounted := hstate.counted session halone
  have hreads := hstate.reads session
  rw [hphase] at hcounted hreads
  obtain ⟨hattempts, hlimit, hlocked⟩ := hreads
  have hread : row.pinAttempts = some (state.evaluations : ℤ) := by
    rw [hattempts, hcounted, Phase.inFlight, sub_zero]
    exact fun _ _ _ hsame => Phase.noConfusion hsame
  have hbelow : (state.evaluations : ℤ) < limit := by
    by_contra hreached
    exact hlocked ⟨state.evaluations, hread, limit, hlimit, not_lt.mp hreached⟩
  have hnext : (state.perform session
      (.evaluate (evaluated pin row))).phase session = evaluated pin row :=
    Function.update_self _ _ _
  have hsum : ((state.perform session
      (.evaluate (evaluated pin row))).evaluations : ℤ) =
        state.evaluations + 1 := Nat.cast_succ _
  apply hstate.move (othersKeep_evaluate _)
  · have hmax : limit ≤ max limit 0 := le_max_left _ _
    omega
  · exact hstate.limited session
  · exact fun _ => halone
  · exact absurd (openGuess_of_phase hnext rfl)
  · intro _
    rw [hnext]
    have hflight : (evaluated pin row).inFlight = 1 := rfl
    rw [hflight, hsum, add_sub_cancel_right, ← hread]
    exact hattempts.symm
  · rw [hnext]
    exact congrArg (Option.map (· + 1)) hattempts
  · rw [hnext]
    rintro (hwritten | hpending)
    · cases hwritten
    · exact hstate.held session (.inr hpending)

/-- The attempt is written on top of all attempts before it. -/
theorem GuessInvariant.attempt {valid : Bool} {newAttempts : Option ℤ}
    {answer : VerifyAnswer}
    (hphase : state.phase session = .attempt valid newAttempts answer)
    (havailable : state.row.Available session)
    (hattempts : row.pinAttempts = newAttempts)
    (hlimit : row.maxPinAttempts =
      (state.row.visible session).maxPinAttempts) :
    GuessInvariant limit
      (state.writeRow session row (.returned (.verify true answer))) := by
  have halone := hstate.exclusive session (openGuess_of_phase hphase rfl)
  have hcounted := hstate.counted session halone
  have hreads := hstate.reads session
  rw [hphase] at hcounted hreads
  have hvisible : (state.writeRow session row
      (.returned (.verify true answer))).row.visible session = row :=
    LockedRow.visible_write_self row
  have hnext : (state.writeRow session row
      (.returned (.verify true answer))).phase session =
        .returned (.verify true answer) := State.phase_writeRow _ _
  apply hstate.move (othersKeep_writeRow havailable _ _) hstate.bound
  · rw [hvisible, hlimit]
    exact hstate.limited session
  · exact fun _ => halone
  · exact absurd (openGuess_of_phase hnext rfl)
  · intro _
    have hwritten : newAttempts =
        (state.row.visible session).pinAttempts.map (· + 1) := hreads
    rw [hvisible, hattempts, hwritten, hcounted, hnext]
    simp [Phase.inFlight, State.writeRow, State.enter]
  · rw [hnext]
    trivial
  · exact fun _ => LockedRow.holder_write _

theorem GuessInvariant.finish {result : Result}
    (hphase : state.phase session = .returned result) :
    GuessInvariant limit (state.perform session (.finish result)) := by
  have hwritten : (∃ other ∈ state.results.pending session ++ [result],
      other.evaluated = true) ↔
        result.evaluated = true ∨
          ∃ other ∈ state.results.pending session, other.evaluated = true := by
    simp only [List.mem_append, List.mem_singleton]
    constructor
    · rintro ⟨other, hold | rfl, hevaluated⟩
      · exact .inr ⟨other, hold, hevaluated⟩
      · exact .inl hevaluated
    · rintro (hevaluated | ⟨other, hold, hevaluated⟩)
      · exact ⟨result, .inr rfl, hevaluated⟩
      · exact ⟨other, .inl hold, hevaluated⟩
  have hguess : OpenGuess (state.perform session (.finish result)) session ↔
      OpenGuess state session := by
    rw [OpenGuess, OpenGuess, State.phase_finish, State.pending_finish, hphase,
      hwritten]
    simp [Phase.guessing]
  apply hstate.move (othersKeep_finish result) hstate.bound
    (hstate.limited session)
  · rw [hguess]
    exact hstate.exclusive session
  · rw [hguess]
    exact fun hclosed => ⟨hclosed, rfl, hstate.closed session hclosed⟩
  · have hcounted := hstate.counted session
    rw [hphase] at hcounted
    rw [State.phase_finish]
    exact hcounted
  · rw [State.phase_finish]
    trivial
  · rw [State.phase_finish, State.pending_finish, hwritten]
    rintro (hidle | hcounted)
    · cases hidle
    · have hheld := hstate.held session
      rw [hphase] at hheld
      exact hheld hcounted

/-! ### The end of a transaction -/

theorem GuessInvariant.abort (hclosed : ¬ OpenGuess state session) :
    GuessInvariant limit (state.step (.abort session)) := by
  have hguessing : (state.phase session).guessing = false :=
    Bool.eq_false_of_not_eq_true fun hguessing => hclosed (.inl hguessing)
  have hafter : ¬ OpenGuess (state.step (.abort session)) session := by
    rw [OpenGuess, State.phase_abort, State.pending_abort]
    simp [Phase.guessing]
  apply hstate.move othersKeep_abort hstate.bound
  · rw [State.row_abort]
    exact hstate.committed
  · exact fun hopen => absurd hopen hafter
  · rw [State.row_abort]
    exact fun _ => ⟨hclosed, rfl, rfl⟩
  · intro halone
    have hcounted := hstate.counted session halone
    rw [inFlight_of_not_guessing hguessing,
      hstate.closed session hclosed] at hcounted
    rw [State.row_abort, State.phase_abort]
    exact hcounted
  · rw [State.phase_abort]
    trivial
  · rw [State.phase_abort, State.pending_abort]
    rintro (hidle | ⟨result, hresult, -⟩)
    · cases hidle
    · exact absurd hresult List.not_mem_nil

end Moves

theorem openGuess_commit_of_ne {other : Session} (hother : other ≠ session) :
    OpenGuess (state.commit session) other ↔ OpenGuess state other := by
  rw [OpenGuess, OpenGuess, State.commit, Rows.pending_commit_of_ne _ hother]

theorem not_openGuess_commit (hphase : state.phase session = .idle) :
    ¬ OpenGuess (state.commit session) session := by
  rw [OpenGuess, State.commit, hphase, Rows.pending_commit_self]
  simp [Phase.guessing]

section Steps

variable (hstate : GuessInvariant limit state)
include hstate

/-- The lock and the limit after a commit. -/
theorem GuessInvariant.limited_commit (other : Session) :
    ((state.row.commit session).visible other).maxPinAttempts = some limit := by
  rcases state.row.visible_commit_cases session other with
    ⟨-, hsame⟩ | ⟨-, hsame⟩
  · exact hsame ▸ hstate.limited other
  · exact hsame ▸ hstate.limited session

section Commits

variable (hphase : state.phase session = .idle)

include hphase

theorem GuessInvariant.held_commit (other : Session)
    (hcounted : (state.phase other).counted = true ∨
      ∃ result ∈ (state.results.commit session).pending other,
        result.evaluated = true) :
    (state.row.commit session).holder = some other := by
  by_cases hother : other = session
  · subst hother
    rw [hphase, Rows.pending_commit_self] at hcounted
    rcases hcounted with hidle | ⟨result, hresult, -⟩
    · cases hidle
    · exact absurd hresult List.not_mem_nil
  · rw [Rows.pending_commit_of_ne _ hother] at hcounted
    have hheld := hstate.held other hcounted
    rw [LockedRow.commit_of_held_by_other hheld hother]
    exact hheld

/-- The commit of a session without a guess: the attempts stay. -/
theorem GuessInvariant.commit_of_closed (hclosed : ¬ OpenGuess state session) :
    GuessInvariant limit (state.commit session) := by
  have hguess : ∀ other, OpenGuess (state.commit session) other ↔
      OpenGuess state other := by
    intro other
    by_cases hother : other = session
    · subst hother
      exact iff_of_false (not_openGuess_commit hphase) hclosed
    · exact openGuess_commit_of_ne hother
  have hattempts : ∀ other,
      ((state.row.commit session).visible other).pinAttempts =
        (state.row.visible other).pinAttempts := by
    intro other
    rcases state.row.visible_commit_cases session other with
      ⟨-, hsame⟩ | ⟨rfl | hother, hsame⟩
    · rw [hsame]
    · rw [hsame]
    · rw [hsame, LockedRow.visible_of_holder_ne hother]
      exact hstate.closed session hclosed
  refine ⟨hstate.bound, ?_, hstate.limited_commit, fun other => ?_,
    fun other => ?_, fun other hnone => ?_, fun other => ?_,
    hstate.held_commit hphase⟩
  · rw [State.commit, LockedRow.committed_commit]
    exact hstate.limited session
  · simp only [hguess]
    exact hstate.exclusive other
  · rw [hguess, State.commit, LockedRow.committed_commit, hattempts,
      hstate.closed session hclosed]
    exact hstate.closed other
  · simp only [hguess] at hnone
    exact (hattempts other).trans (hstate.counted other hnone)
  · exact (hattempts other).symm ▸ hstate.reads other

/-- The commit of a guess: every session reads all attempts. -/
theorem GuessInvariant.commit_of_open (hopen : OpenGuess state session) :
    GuessInvariant limit (state.commit session) := by
  have halone := hstate.exclusive session hopen
  have hnone : ∀ other, ¬ OpenGuess (state.commit session) other := by
    intro other
    by_cases hother : other = session
    · subst hother
      exact not_openGuess_commit hphase
    · rw [openGuess_commit_of_ne hother]
      exact halone other hother
  have hguessing : ∀ other, (state.phase other).guessing = false :=
    fun other => Bool.eq_false_of_not_eq_true fun hguessing =>
      hnone other (.inl hguessing)
  have hholder : state.row.holder = some session := by
    apply hstate.held
    rcases hopen with hphase' | hpending
    · rw [hguessing] at hphase'
      cases hphase'
    · exact .inr hpending
  have hvisible : ∀ other,
      (state.row.commit session).visible other = state.row.visible session := by
    intro other
    apply LockedRow.visible_commit
    by_cases hother : other = session
    · exact .inl hother
    · exact .inr (LockedRow.Available.holder_ne (.inr hholder) hother)
  have hcounted := hstate.counted session halone
  rw [hphase] at hcounted
  refine ⟨hstate.bound, ?_, hstate.limited_commit, fun other hother => ?_,
    fun other _ => ?_, fun other _ => ?_, fun other => ?_,
    hstate.held_commit hphase⟩
  · rw [State.commit, LockedRow.committed_commit]
    exact hstate.limited session
  · exact absurd hother (hnone other)
  · rw [State.commit, hvisible, LockedRow.committed_commit]
  · rw [State.commit, hvisible, inFlight_of_not_guessing (hguessing other)]
    exact hcounted
  · exact reads_of_not_guessing (hguessing other) (hstate.reads other)

end Commits

theorem GuessInvariant.advance (halone : Alone state (.advance session)) :
    GuessInvariant limit (state.step (.advance session)) := by
  simp only [State.step]
  cases hphase : state.phase session with
  | idle => exact hstate
  | begun call now =>
      have hpassive : (state.phase session).Passive := by
        rw [hphase]
        exact passive_of_bound_eq_nil rfl rfl
      cases call with
      | verify pin =>
          simp only [Phase.statement, State.perform]
          rcases verifySelected_cases pin now (state.row.visible session) with
            hnext | ⟨hverifiable, hnext⟩
          · exact hstate.enter hpassive hnext
          · rw [hnext]
            apply hstate.select hpassive hverifiable
            apply halone now _ hverifiable
            rw [hphase]
            rfl
      | confirm transactionId coreReference =>
          exact hstate.enter hpassive (passive_confirmSelected _ _ _ _)
      | cancel =>
          exact hstate.enter hpassive (passive_cancelSelected _)
      | cleanup =>
          exact hstate.updateRow hpassive (fun _ => ⟨rfl, rfl⟩)
            fun _ => passive_of_bound_eq_nil rfl rfl
  | expire result =>
      have hresult := hstate.reads session
      rw [hphase] at hresult
      exact hstate.updateRow (hphase ▸ passive_expire hresult)
        (fun _ => ⟨rfl, rfl⟩) fun _ => passive_returned hresult
  | evaluate pin row =>
      exact hstate.evaluate hphase
  | attempt valid newAttempts answer =>
      apply State.perform_updateRow hstate
      · intro hskips
        cases hskips
      · exact fun _ havailable => hstate.attempt hphase havailable rfl rfl
  | process answer =>
      exact hstate.updateRow (hphase ▸ passive_of_bound_eq_nil rfl rfl)
        (fun _ => ⟨rfl, rfl⟩) fun _ => passive_of_bound_eq_nil rfl rfl
  | consume answer =>
      exact hstate.updateReservation (hphase ▸ passive_of_bound_eq_nil rfl rfl)
        fun _ => passive_of_bound_eq_nil rfl rfl
  | complete answer =>
      exact hstate.updateRow (hphase ▸ passive_of_bound_eq_nil rfl rfl)
        (fun _ => ⟨rfl, rfl⟩) fun _ => passive_returned rfl
  | cancel =>
      apply hstate.updateRow (hphase ▸ passive_of_bound_eq_nil rfl rfl)
        (fun _ => ⟨rfl, rfl⟩)
      intro changed
      cases changed with
      | true => exact passive_of_bound_eq_nil rfl rfl
      | false => exact passive_returned rfl
  | release | releaseStale count now =>
      exact hstate.updateReservation (hphase ▸ passive_of_bound_eq_nil rfl rfl)
        fun _ => passive_returned rfl
  | returned result =>
      exact hstate.finish hphase

theorem GuessInvariant.step {turn : Turn Session} (halone : Alone state turn) :
    GuessInvariant limit (state.step turn) := by
  cases turn with
  | call session call now =>
      apply State.step_call hstate
      intro hphase
      exact hstate.enter (hphase ▸ passive_of_bound_eq_nil rfl rfl)
        (passive_of_bound_eq_nil rfl rfl)
  | advance session => exact hstate.advance halone
  | commit session =>
      apply State.step_commit hstate
      intro hphase
      by_cases hopen : OpenGuess state session
      · exact hstate.commit_of_open hphase hopen
      · exact hstate.commit_of_closed hphase hopen
  | abort session => exact hstate.abort halone

end Steps

/-- In a run in which no guess overlaps another, at most `max_pin_attempts`
calls evaluate a PIN, and the others say why they do not. -/
theorem evaluations_le_of_alone (row : PendingTransaction)
    (reservation : Reservation) (limit : ℤ)
    (hattempts : row.pinAttempts = some 0)
    (hlimit : row.maxPinAttempts = some limit)
    (turns : List (Turn Session))
    (halone : Throughout State.step Alone turns
      (State.initial row reservation)) :
    let state := turns.foldl State.step (State.initial row reservation)
    (state.evaluations : ℤ) ≤ max limit 0 ∧
      ∀ session, ∀ result ∈ state.results.visible session,
        result.Answered := by
  intro state
  have hstep : ∀ (state : State Session) (turn : Turn Session),
      GuessInvariant limit state → Alone state turn →
        GuessInvariant limit (state.step turn) :=
    fun _ _ hstate => hstate.step
  have hguess : GuessInvariant limit state :=
    foldl_invariant hstep (guessInvariant_initial hattempts hlimit) halone
  have hinitial : AnswerInvariant
      (State.initial row reservation : State Session) :=
    ⟨fun _ hresult => absurd hresult List.not_mem_nil,
      fun _ _ hresult => absurd hresult List.not_mem_nil,
      fun _ => answered_of_bound_eq_nil rfl⟩
  have hanswers : AnswerInvariant state :=
    List.foldlRecOn turns State.step hinitial
      fun _ hstate turn _ => hstate.step turn
  refine ⟨hguess.bound, fun session result hresult => ?_⟩
  rcases List.mem_append.mp hresult with hcommitted | hpending
  · exact hanswers.committed result hcommitted
  · exact hanswers.pending session result hpending

end Invariant

/-! ## Runs -/

namespace Sample

/-- A guess in a transaction of its own. -/
def guess (session : Fin 4) : List (Turn (Fin 4)) :=
  .call session (.verify (some "12")) 10 ::
    List.replicate 4 (.advance session) ++ [.commit session]

/-- One guess after another: the fourth is not evaluated. -/
theorem evaluations_le_of_alone_in_turn :
    let turns := guess 0 ++ guess 1 ++ guess 2 ++ guess 3
    Throughout State.step Alone turns (State.initial transfer funds) ∧
      ((turns.foldl State.step
        (State.initial transfer funds)).evaluations : ℤ) ≤ max 3 0 := by
  intro turns
  have halone : Throughout State.step Alone turns
      (State.initial transfer funds) := by decide +kernel
  exact ⟨halone,
    (evaluations_le_of_alone transfer funds 3 rfl rfl turns halone).1⟩

/-- Four sessions read the row before any of them writes. -/
def overlappingGuesses : List (Turn (Fin 4)) :=
  (List.finRange 4).flatMap (fun session =>
    [.call session (.verify (some "12")) 10, .advance session]) ++
    (List.finRange 4).flatMap (fun session =>
      List.replicate 3 (.advance session) ++ [.commit session])

theorem evaluations_exceed_limit :
    (overlappingGuesses.foldl State.step
      (State.initial transfer funds)).evaluations = 4 := by
  decide +kernel

end Sample

end UssdKernel.PendingTransactions
