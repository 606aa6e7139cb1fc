import UssdKernel.Core.Runs
import UssdKernel.PendingTransactions.Views

/-!
# The lifecycle of a pending transaction

`cancel_pending_transaction` and `cleanup_expired_transactions` name in their
`UPDATE` the status from which they lead on.  `verify_transaction_pin` and
`confirm_pending_transaction` write the status of the row whatever it has become
since they read it, and no function reads `otp_verified`.  The lifecycle is kept
in every run in which those unguarded writes find the row open, and in which a
confirmation goes ahead only on rows that have what they require.
-/

namespace UssdKernel.PendingTransactions

open LockedRows OpenTransactions Runs

/-- What the next statement asks of the row that it sees. -/
def Phase.Ordered (row : PendingTransaction) (available : Prop) : Phase → Prop
  | .begun (.confirm _ _) now => row.Confirmable now → row.Authorized
  | .expire _ =>
      available → row.status ≠ .completed ∧ row.status ≠ .cancelled
  | .process _ => available → row.status = .pending
  | _ => True

instance (row : PendingTransaction) (available : Prop) [Decidable available] :
    (phase : Phase) → Decidable (phase.Ordered row available)
  | .begun (.confirm _ _) now =>
      inferInstanceAs (Decidable (row.Confirmable now → row.Authorized))
  | .expire _ =>
      inferInstanceAs (Decidable (available →
        row.status ≠ .completed ∧ row.status ≠ .cancelled))
  | .process _ =>
      inferInstanceAs (Decidable (available → row.status = .pending))
  | .idle => isTrue trivial
  | .begun (.verify _) _ => isTrue trivial
  | .begun .cancel _ => isTrue trivial
  | .begun .cleanup _ => isTrue trivial
  | .evaluate _ _ => isTrue trivial
  | .attempt _ _ _ => isTrue trivial
  | .consume _ => isTrue trivial
  | .complete _ => isTrue trivial
  | .cancel => isTrue trivial
  | .release => isTrue trivial
  | .releaseStale _ _ => isTrue trivial
  | .returned _ => isTrue trivial

/-- An unguarded write of the status finds the row open, and a confirmation
that passes its checks has read an authorized row. -/
def Ordered {Session : Type*} [DecidableEq Session] (state : State Session) :
    Turn Session → Prop
  | .advance session =>
      (state.phase session).Ordered (state.row.visible session)
        (state.row.Available session)
  | .call _ _ _ => True
  | .commit _ => True
  | .abort _ => True

instance {Session : Type*} [DecidableEq Session] (state : State Session) :
    (turn : Turn Session) → Decidable (Ordered state turn)
  | .advance session =>
      inferInstanceAs (Decidable ((state.phase session).Ordered
        (state.row.visible session) (state.row.Available session)))
  | .call _ _ _ => isTrue trivial
  | .commit _ => isTrue trivial
  | .abort _ => isTrue trivial

/-! ## The invariant -/

section Invariant

variable {Session : Type*} [DecidableEq Session]

/-- A session without the lock of the row has achieved nothing yet. -/
structure Bystander (state : State Session) (session : Session) : Prop where
  phase : ¬ (state.phase session).Exclusive
  results : ∀ result ∈ state.results.pending session ++
    (state.phase session).due, result.Plain
  reservation : (state.reservation.visible session).status = .consumed ↔
    state.reservation.committed.status = .consumed

structure LifecycleInvariant (state : State Session) : Prop where
  committed : View .idle state.row.committed state.reservation.committed
    state.results.committed
  view : ∀ session, View (state.phase session) (state.row.visible session)
    (state.reservation.visible session)
    (state.results.visible session ++ (state.phase session).due)
  follows : ∀ session,
    Follows state.row.committed (state.row.visible session)
  bystander : ∀ session, state.row.holder ≠ some session →
    Bystander state session

variable {state after : State Session} {session : Session}

theorem lifecycleInvariant_initial {row : PendingTransaction}
    {reservation : Reservation} (hrow : row.status = .pending)
    (hreservation : reservation.status = .active) :
    LifecycleInvariant (State.initial row reservation : State Session) := by
  have hsettled : Settled row reservation := by
    rw [Settled, hrow, hreservation]
    exact iff_of_false (by decide) (by decide)
  have hview : View .idle row reservation [] :=
    ⟨outcomes_of_plain fun _ hresult => absurd hresult List.not_mem_nil,
      hsettled, fun hcompleted => by rw [hrow] at hcompleted; cases hcompleted⟩
  exact
    { committed := hview
      view := fun _ => hview
      follows := fun _ => Follows.refl row
      bystander := fun _ _ => ⟨id, fun _ hresult =>
        absurd hresult List.not_mem_nil, Iff.rfl⟩ }

/-- The invariant after a move, from what holds of the session that moved. -/
theorem LifecycleInvariant.move (hstate : LifecycleInvariant state)
    (hothers : OthersKeep session state after)
    (hview : View (after.phase session) (after.row.visible session)
      (after.reservation.visible session)
      (after.results.visible session ++ (after.phase session).due))
    (hfollows : Follows state.row.committed (after.row.visible session))
    (hbystander : after.row.holder ≠ some session →
      Bystander after session) :
    LifecycleInvariant after where
  committed := by
    rw [hothers.committedRow, hothers.committedReservation,
      hothers.committedResults]
    exact hstate.committed
  view := by
    intro other
    by_cases hother : other = session
    · exact hother ▸ hview
    · rw [hothers.phase other hother, hothers.row other hother,
        hothers.reservation other hother, Rows.visible,
        hothers.committedResults, hothers.results other hother]
      exact hstate.view other
  follows := by
    intro other
    rw [hothers.committedRow]
    by_cases hother : other = session
    · exact hother ▸ hfollows
    · rw [hothers.row other hother]
      exact hstate.follows other
  bystander := by
    intro other hholder
    by_cases hother : other = session
    · subst hother
      exact hbystander hholder
    · have hbefore := hstate.bystander other
        (mt (hothers.holder other hother).mpr hholder)
      refine ⟨?_, ?_, ?_⟩
      · rw [hothers.phase other hother]
        exact hbefore.phase
      · rw [hothers.phase other hother, hothers.results other hother]
        exact hbefore.results
      · rw [hothers.reservation other hother, hothers.committedReservation]
        exact hbefore.reservation

variable {next : Phase} (hstate : LifecycleInvariant state)

section Moves

include hstate

/-- A step that writes nothing. -/
theorem LifecycleInvariant.enter (hdue : (state.phase session).due = [])
    (hfits : next.Fits (state.row.visible session)
      (state.reservation.visible session))
    (hexclusive : ¬ next.Exclusive)
    (hplain : ∀ result ∈ next.due, result.Plain) :
    LifecycleInvariant (state.enter session next) := by
  have hview := hstate.view session
  rw [hdue, List.append_nil] at hview
  apply hstate.move (othersKeep_enter next)
  · rw [State.phase_enter]
    exact ⟨hview.outcomes.append_plain hplain, hfits, hview.authorized⟩
  · exact hstate.follows session
  · intro hholder
    have hbefore := hstate.bystander session hholder
    refine ⟨?_, ?_, hbefore.reservation⟩
    · rw [State.phase_enter]
      exact hexclusive
    · rw [State.phase_enter]
      intro result hresult
      rcases List.mem_append.mp hresult with hpending | hnext
      · exact hbefore.results result (List.mem_append_left _ hpending)
      · exact hplain result hnext

/-- A row is written by the session that may take the lock. -/
theorem LifecycleInvariant.writeRow (havailable : state.row.Available session)
    {row : PendingTransaction}
    (hview : View next row (state.reservation.visible session)
      (state.results.visible session ++ next.due))
    (hfollows : Follows (state.row.visible session) row) :
    LifecycleInvariant (state.writeRow session row next) := by
  have hvisible : (state.writeRow session row next).row.visible session = row :=
    LockedRow.visible_write_self row
  apply hstate.move (othersKeep_writeRow havailable row next)
  · rw [State.phase_writeRow, hvisible]
    exact hview
  · rw [hvisible]
    exact (hstate.follows session).trans hfollows
  · intro hholder
    exact absurd (LockedRow.holder_write row) hholder

theorem LifecycleInvariant.writeReservation
    (havailable : state.reservation.Available session)
    {reservation : Reservation}
    (hview : View next (state.row.visible session) reservation
      (state.results.visible session ++ next.due))
    (hbystander : state.row.holder ≠ some session → ¬ next.Exclusive ∧
      (∀ result ∈ state.results.pending session ++ next.due, result.Plain) ∧
      (reservation.status = .consumed ↔
        state.reservation.committed.status = .consumed)) :
    LifecycleInvariant (state.writeReservation session reservation next) := by
  have hvisible : (state.writeReservation session reservation
      next).reservation.visible session = reservation :=
    LockedRow.visible_write_self reservation
  apply hstate.move (othersKeep_writeReservation havailable reservation next)
  · rw [State.phase_writeReservation, hvisible]
    exact hview
  · exact hstate.follows session
  · intro hholder
    obtain ⟨hexclusive, hresults, hconsumed⟩ := hbystander hholder
    refine ⟨?_, ?_, ?_⟩
    · rw [State.phase_writeReservation]
      exact hexclusive
    · rw [State.phase_writeReservation]
      exact hresults
    · rw [hvisible]
      exact hconsumed

theorem LifecycleInvariant.finish {result : Result}
    (hphase : state.phase session = .returned result) :
    LifecycleInvariant (state.perform session (.finish result)) := by
  have hview := hstate.view session
  rw [hphase] at hview
  apply hstate.move (othersKeep_finish result)
  · rw [State.phase_finish, Rows.visible, State.pending_finish, due_idle,
      List.append_nil, ← List.append_assoc]
    exact ⟨hview.outcomes, hview.fits, hview.authorized⟩
  · exact hstate.follows session
  · intro hholder
    have hbefore := hstate.bystander session hholder
    refine ⟨?_, ?_, hbefore.reservation⟩
    · rw [State.phase_finish]
      exact id
    · have hresults := hbefore.results
      rw [hphase] at hresults
      rw [State.phase_finish, State.pending_finish, due_idle, List.append_nil]
      exact hresults

theorem LifecycleInvariant.abort :
    LifecycleInvariant (state.step (.abort session)) := by
  have hreservation :
      (state.step (.abort session)).reservation.visible session =
        state.reservation.committed := LockedRow.visible_abort_self
  apply hstate.move othersKeep_abort
  · rw [State.phase_abort, State.row_abort, hreservation, Rows.visible,
      State.pending_abort, due_idle, List.append_nil, List.append_nil]
    exact hstate.committed
  · rw [State.row_abort]
    exact Follows.refl _
  · intro _
    refine ⟨?_, ?_, ?_⟩
    · rw [State.phase_abort]
      exact id
    · rw [State.phase_abort, State.pending_abort]
      exact fun _ hresult => absurd hresult List.not_mem_nil
    · rw [hreservation]
      exact iff_of_eq
        (congrArg (Reservation.status · = .consumed)
          LockedRow.committed_abort.symm)

end Moves

/-! ### Commits -/

/-- A session that has not consumed the reservation changes nothing for the
others. -/
theorem Bystander.consumed_commit (hsession : Bystander state session)
    (other : Session) :
    ((state.reservation.commit session).visible other).status = .consumed ↔
      (state.reservation.visible other).status = .consumed := by
  rcases state.reservation.visible_commit_cases session other with
    ⟨-, hsame⟩ | ⟨rfl | hother, hsame⟩
  · rw [hsame]
  · rw [hsame]
  · rw [hsame, LockedRow.visible_of_holder_ne hother]
    exact hsession.reservation

variable {other : Session}

/-- A session that has not consumed the reservation finds it as the committing
session has left it. -/
theorem Bystander.consumed_after_commit (hbystander : Bystander state other) :
    ((state.reservation.commit session).visible other).status = .consumed ↔
      (state.reservation.visible session).status = .consumed := by
  rcases state.reservation.visible_commit_cases session other with
    ⟨hholder, hsame⟩ | ⟨-, hsame⟩
  · rw [hsame, LockedRow.visible_of_holder_ne hholder]
    exact hbystander.reservation
  · rw [hsame]

section Held

include hstate

/-- The view of a session that holds the lock of the row. -/
theorem LifecycleInvariant.view_of_held (hother : other ≠ session)
    (hheld : state.row.holder = some other) :
    View (state.phase other) ((state.row.commit session).visible other)
      ((state.reservation.commit session).visible other)
      ((state.results.commit session).visible other ++
        (state.phase other).due) := by
  have hsession : Bystander state session := hstate.bystander session
    (LockedRow.Available.holder_ne (.inr hheld) hother.symm)
  have hview := hstate.view other
  rw [LockedRow.commit_of_held_by_other hheld hother]
  refine ⟨?_, hview.fits.of_consumed_iff (hsession.consumed_commit other),
    hview.authorized⟩
  rw [Rows.visible, Rows.committed_commit, Rows.visible,
    Rows.pending_commit_of_ne _ hother, List.append_assoc _ _ (Phase.due _)]
  apply Outcomes.insert
  · have houtcomes := hview.outcomes
    rw [Rows.visible, List.append_assoc] at houtcomes
    exact houtcomes
  · intro result hresult
    exact hsession.results result (List.mem_append_left _ hresult)

/-- The view of a session that does not. -/
theorem LifecycleInvariant.view_of_not_held
    (hphase : state.phase session = .idle) (hother : other ≠ session)
    (hheld : state.row.holder ≠ some other) :
    View (state.phase other) ((state.row.commit session).visible other)
      ((state.reservation.commit session).visible other)
      ((state.results.commit session).visible other ++
        (state.phase other).due) := by
  have hbystander : Bystander state other := hstate.bystander other hheld
  have hview := hstate.view session
  rw [hphase, due_idle, List.append_nil] at hview
  have hfits := (hstate.view other).fits
  rw [LockedRow.visible_of_holder_ne hheld] at hfits
  rw [LockedRow.visible_commit (.inr hheld)]
  refine ⟨?_, ?_, hview.authorized⟩
  · rw [Rows.visible, Rows.committed_commit,
      Rows.pending_commit_of_ne _ hother, List.append_assoc]
    exact hview.outcomes.append_plain hbystander.results
  · exact hfits.of_follows hbystander.phase (hstate.follows session)
      (hbystander.consumed_after_commit.trans hview.fits)

theorem LifecycleInvariant.commit (hphase : state.phase session = .idle) :
    LifecycleInvariant
      { state with
        row := state.row.commit session
        reservation := state.reservation.commit session
        results := state.results.commit session } := by
  have hview := hstate.view session
  rw [hphase, due_idle, List.append_nil] at hview
  refine ⟨?_, fun other => ?_, fun other => ?_, fun other hholder => ?_⟩
  · rw [LockedRow.committed_commit, LockedRow.committed_commit,
      Rows.committed_commit]
    exact hview
  · by_cases hother : other = session
    · subst hother
      rw [LockedRow.visible_commit (.inl rfl), LockedRow.visible_commit (.inl rfl),
        Rows.visible_commit _ (.inl rfl)]
      exact hstate.view other
    · by_cases hheld : state.row.holder = some other
      · exact hstate.view_of_held hother hheld
      · exact hstate.view_of_not_held hphase hother hheld
  · rw [LockedRow.committed_commit]
    rcases state.row.visible_commit_cases session other with
      ⟨hholder, hsame⟩ | ⟨-, hsame⟩
    · rw [hsame, LockedRow.visible_of_holder_ne hholder]
      exact hstate.follows other
    · rw [hsame]
      exact Follows.refl _
  · by_cases hother : other = session
    · subst hother
      refine ⟨?_, ?_, ?_⟩
      · rw [hphase]
        exact id
      · rw [hphase, Rows.pending_commit_self]
        exact fun _ hresult => absurd hresult List.not_mem_nil
      · rw [LockedRow.visible_commit (.inl rfl), LockedRow.committed_commit]
    · have hbefore : Bystander state other := by
        apply hstate.bystander
        intro hheld
        rw [LockedRow.commit_of_held_by_other hheld hother] at hholder
        exact hholder hheld
      refine ⟨hbefore.phase, ?_, ?_⟩
      · rw [Rows.pending_commit_of_ne _ hother]
        exact hbefore.results
      · rw [LockedRow.committed_commit]
        exact hbefore.consumed_after_commit

/-! ### The statements of the calls -/

theorem LifecycleInvariant.enter_quiet (hdue : (state.phase session).due = [])
    (hsettled : Settled (state.row.visible session)
      (state.reservation.visible session))
    (hnext : next.Quiet) : LifecycleInvariant (state.enter session next) :=
  hstate.enter hdue (hnext.fits _ _ hsettled) hnext.exclusive hnext.due

section Status

variable (havailable : state.row.Available session) {status : Status}
  (hfits : next.Fits { state.row.visible session with status }
    (state.reservation.visible session))
  (hnext : ∀ result ∈ next.due, result.Plain) (hstatus : status ≠ .completed)

include havailable hfits hnext hstatus

/-- A status is written over one that is neither `COMPLETED` nor `CANCELLED`. -/
theorem LifecycleInvariant.setStatus
    (hcompleted : (state.row.visible session).status ≠ .completed)
    (hcancelled : (state.row.visible session).status ≠ .cancelled)
    (hfollows : Follows (state.row.visible session)
      { state.row.visible session with status }) :
    LifecycleInvariant (state.writeRow session
      { state.row.visible session with status } next) := by
  have hplain := (hstate.view session).outcomes.plain hcompleted hcancelled
  apply hstate.writeRow havailable _ hfollows
  refine ⟨outcomes_of_plain fun result hresult => ?_, hfits,
    fun hdone => absurd hdone hstatus⟩
  rcases List.mem_append.mp hresult with hold | hdue
  · exact hplain result (List.mem_append_left _ hold)
  · exact hnext result hdue

/-- A status is written over one that is not final. -/
theorem LifecycleInvariant.setStatus_of_open
    (hopen : ¬ (state.row.visible session).status.Final) :
    LifecycleInvariant (state.writeRow session
      { state.row.visible session with status } next) :=
  hstate.setStatus havailable hfits hnext hstatus
    (fun hdone => hopen (.inl hdone))
    (fun hcancelled => hopen (.inr (.inl hcancelled)))
    (follows_of_not_final hopen)

end Status

end Held

section Statements

include hstate

theorem LifecycleInvariant.fits {phase : Phase}
    (hphase : state.phase session = phase) :
    phase.Fits (state.row.visible session)
      (state.reservation.visible session) :=
  hphase ▸ (hstate.view session).fits

theorem LifecycleInvariant.outcomes_of_due
    (hdue : (state.phase session).due = []) :
    Outcomes (state.row.visible session) (state.results.visible session) := by
  have houtcomes := (hstate.view session).outcomes
  rwa [hdue, List.append_nil] at houtcomes

theorem LifecycleInvariant.evaluate (hdue : (state.phase session).due = [])
    (hsettled : Settled (state.row.visible session)
      (state.reservation.visible session))
    {next : Phase} (hnext : next.Quiet) :
    LifecycleInvariant (state.perform session (.evaluate next)) := by
  have hmore : LifecycleInvariant
      { state with evaluations := state.evaluations + 1 } :=
    ⟨hstate.committed, hstate.view, hstate.follows, fun session hholder =>
      have hbystander := hstate.bystander session hholder
      ⟨hbystander.phase, hbystander.results, hbystander.reservation⟩⟩
  exact hmore.enter_quiet hdue hsettled hnext

/-- The `UPDATE` of `cleanup_expired_transactions` names `PENDING`. -/
theorem LifecycleInvariant.cleanup {now : ℤ}
    (hphase : state.phase session = .begun .cleanup now) :
    LifecycleInvariant (state.step (.advance session)) := by
  have hsettled : Settled _ _ := hstate.fits hphase
  simp only [State.step, hphase, Phase.statement]
  apply State.perform_updateRow hstate
  · intro _
    exact hstate.enter_quiet (by rw [hphase]; rfl) hsettled
      (quiet_of_due_eq_nil rfl id fun _ _ => id)
  · intro hcondition havailable
    have hpending : (state.row.visible session).status = .pending :=
      (of_decide_eq_true hcondition).1
    have hopen : ¬ (state.row.visible session).status.Final := by
      rw [hpending]
      decide
    refine hstate.setStatus_of_open havailable ?_ ?_ ?_ hopen
    · exact hsettled.setStatus (fun hdone => hopen (.inl hdone)) (by decide)
    · exact fun _ hresult => absurd hresult List.not_mem_nil
    · decide

/-- The unguarded `UPDATE` to `EXPIRED`. -/
theorem LifecycleInvariant.expire {result : Result}
    (hphase : state.phase session = .expire result)
    (hordered : Ordered state (.advance session)) :
    LifecycleInvariant (state.step (.advance session)) := by
  obtain ⟨hplain, hsettled⟩ : result.Plain ∧ Settled _ _ := hstate.fits hphase
  rw [Ordered, hphase] at hordered
  simp only [State.step, hphase, Phase.statement]
  apply State.perform_updateRow hstate
  · intro hcondition
    cases hcondition
  · intro _ havailable
    obtain ⟨hcompleted, hcancelled⟩ := hordered havailable
    refine hstate.setStatus havailable ?_ ?_ ?_ hcompleted hcancelled ?_
    · exact hsettled.setStatus hcompleted (by decide)
    · exact (quiet_returned hplain).due
    · decide
    · refine ⟨fun hfinal => ?_, id⟩
      rcases hfinal with hdone | hdone | hdone
      · exact absurd hdone hcompleted
      · exact absurd hdone hcancelled
      · exact hdone.symm

/-- The `UPDATE` that counts an attempt leaves the status as it is. -/
theorem LifecycleInvariant.attempt {valid : Bool} {newAttempts : Option ℤ}
    {answer : VerifyAnswer}
    (hphase : state.phase session = .attempt valid newAttempts answer) :
    LifecycleInvariant (state.step (.advance session)) := by
  have hfollows := follows_attempt (state.row.visible session) valid newAttempts
  simp only [State.step, hphase, Phase.statement]
  apply State.perform_updateRow hstate
  · intro hcondition
    cases hcondition
  · intro _ havailable
    apply hstate.writeRow havailable _ hfollows
    refine ⟨?_, hstate.fits hphase, fun hdone => hfollows.authorized
      ((hstate.view session).authorized hdone)⟩
    apply Outcomes.append_plain _ (quiet_returned ⟨rfl, rfl⟩).due
    exact (hstate.outcomes_of_due (hphase ▸ rfl)).of_status_eq rfl

variable {answer : ConfirmAnswer}

/-- The unguarded `UPDATE` to `PROCESSING`. -/
theorem LifecycleInvariant.process
    (hphase : state.phase session = .process answer)
    (hordered : Ordered state (.advance session)) :
    LifecycleInvariant (state.step (.advance session)) := by
  obtain ⟨hauthorized, hsettled⟩ :
    (state.row.visible session).Authorized ∧ Settled _ _ := hstate.fits hphase
  rw [Ordered, hphase] at hordered
  simp only [State.step, hphase, Phase.statement]
  apply State.perform_updateRow hstate
  · intro hcondition
    cases hcondition
  · intro _ havailable
    have hopen : ¬ (state.row.visible session).status.Final := by
      rw [hordered havailable]
      decide
    refine hstate.setStatus_of_open havailable ?_ ?_ ?_ hopen
    · exact ⟨hauthorized, rfl, fun hconsumed =>
        hopen (.inl (hsettled.mp hconsumed))⟩
    · exact fun _ hresult => absurd hresult List.not_mem_nil
    · decide

theorem LifecycleInvariant.consume
    (hphase : state.phase session = .consume answer) :
    LifecycleInvariant (state.step (.advance session)) := by
  have hview := hstate.view session
  rw [hphase] at hview
  obtain ⟨hauthorized, hstatus, -⟩ :
    (state.row.visible session).Authorized ∧ _ ∧ _ := hview.fits
  simp only [State.step, hphase, Phase.statement]
  apply State.perform_updateReservation hstate
  · intro hcondition
    cases hcondition
  · intro _ havailable
    apply hstate.writeReservation havailable
    · exact ⟨hview.outcomes, ⟨hauthorized, hstatus, rfl⟩, hview.authorized⟩
    · intro hholder
      have hphase' := (hstate.bystander session hholder).phase
      rw [hphase] at hphase'
      exact absurd trivial hphase'

theorem LifecycleInvariant.complete
    (hphase : state.phase session = .complete answer) :
    LifecycleInvariant (state.step (.advance session)) := by
  have hview := hstate.view session
  rw [hphase] at hview
  obtain ⟨hauthorized, hstatus, hconsumed⟩ :
    (state.row.visible session).Authorized ∧
      (state.row.visible session).status = .processing ∧ _ := hview.fits
  simp only [State.step, hphase, Phase.statement]
  apply State.perform_updateRow hstate
  · intro hcondition
    cases hcondition
  · intro _ havailable
    apply hstate.writeRow havailable
    · refine ⟨outcomes_confirm (fun result hresult => ?_) rfl answer,
        iff_of_true hconsumed rfl, fun _ => hauthorized⟩
      apply hview.outcomes.plain (by rw [hstatus]; decide)
        (by rw [hstatus]; decide)
      exact List.mem_append_left _ hresult
    · apply follows_of_not_final
      rw [hstatus]
      decide

/-- The `UPDATE` of `cancel_pending_transaction` names the two statuses. -/
theorem LifecycleInvariant.cancel (hphase : state.phase session = .cancel) :
    LifecycleInvariant (state.step (.advance session)) := by
  have hsettled : Settled _ _ := hstate.fits hphase
  simp only [State.step, hphase, Phase.statement]
  apply State.perform_updateRow hstate
  · intro _
    exact hstate.enter_quiet (by rw [hphase]; rfl) hsettled
      (quiet_returned ⟨rfl, rfl⟩)
  · intro hcondition havailable
    have hcancellable : (state.row.visible session).Cancellable :=
      of_decide_eq_true hcondition
    have hopen : ¬ (state.row.visible session).status.Final := by
      rcases hcancellable with hstatus | hstatus
      · rw [hstatus]
        decide
      · rw [hstatus]
        decide
    refine hstate.setStatus_of_open havailable ?_ ?_ ?_ hopen
    · exact ⟨rfl, fun hconsumed => hopen (.inl (hsettled.mp hconsumed))⟩
    · exact fun _ hresult => absurd hresult List.not_mem_nil
    · decide

theorem LifecycleInvariant.release (hphase : state.phase session = .release) :
    LifecycleInvariant (state.step (.advance session)) := by
  obtain ⟨hstatus, -⟩ :
    (state.row.visible session).status = .cancelled ∧ _ := hstate.fits hphase
  simp only [State.step, hphase, Phase.statement]
  apply State.perform_updateReservation hstate
  · intro hcondition
    cases hcondition
  · intro _ havailable
    apply hstate.writeReservation havailable
    · refine ⟨?_, ?_, (hstate.view session).authorized⟩
      · exact (hstate.outcomes_of_due (hphase ▸ rfl)).cancel hstatus
      · refine iff_of_false (fun hsame => ReservationStatus.noConfusion hsame) ?_
        rw [hstatus]
        decide
    · intro hholder
      have hphase' := (hstate.bystander session hholder).phase
      rw [hphase] at hphase'
      exact absurd trivial hphase'

/-- The `UPDATE` of the reservation in `cleanup_expired_transactions`. -/
theorem LifecycleInvariant.releaseStale {count : ℕ} {now : ℤ}
    (hphase : state.phase session = .releaseStale count now) :
    LifecycleInvariant (state.step (.advance session)) := by
  have hsettled : Settled _ _ := hstate.fits hphase
  have hquiet : (Phase.returned (.cleanup count)).Quiet :=
    quiet_returned ⟨rfl, rfl⟩
  simp only [State.step, hphase, Phase.statement]
  apply State.perform_updateReservation hstate
  · intro _
    exact hstate.enter_quiet (by rw [hphase]; rfl) hsettled hquiet
  · intro hcondition havailable
    have hactive : (state.reservation.visible session).status = .active :=
      (of_decide_eq_true hcondition).1
    have hnot : (state.reservation.visible session).status ≠ .consumed := by
      rw [hactive]
      decide
    apply hstate.writeReservation havailable
    · refine ⟨?_, ?_, (hstate.view session).authorized⟩
      · exact (hstate.outcomes_of_due (hphase ▸ rfl)).append_plain hquiet.due
      · exact iff_of_false (fun hsame => ReservationStatus.noConfusion hsame)
          (hnot ∘ hsettled.mpr)
    · intro hholder
      have hbystander := hstate.bystander session hholder
      refine ⟨id, fun result hresult => ?_, ?_⟩
      · rcases List.mem_append.mp hresult with hold | hdue
        · exact hbystander.results result (List.mem_append_left _ hold)
        · exact hquiet.due result hdue
      · exact iff_of_false (fun hsame => ReservationStatus.noConfusion hsame)
          (hnot ∘ hbystander.reservation.mpr)

theorem LifecycleInvariant.advance
    (hordered : Ordered state (.advance session)) :
    LifecycleInvariant (state.step (.advance session)) := by
  cases hphase : state.phase session with
  | idle =>
      simp only [State.step, hphase, Phase.statement]
      exact hstate
  | begun call now =>
      have hsettled : Settled _ _ := hstate.fits hphase
      have hdue : (state.phase session).due = [] := by
        rw [hphase]
        rfl
      cases call with
      | verify pin =>
          simp only [State.step, hphase, Phase.statement, State.perform]
          exact hstate.enter_quiet hdue hsettled (quiet_verifySelected _ _ _)
      | confirm transactionId coreReference =>
          simp only [State.step, hphase, Phase.statement, State.perform]
          rcases confirmSelected_cases transactionId coreReference now
              (state.row.visible session) with
            hquiet | ⟨hconfirmable, hprocess⟩
          · exact hstate.enter_quiet hdue hsettled hquiet
          · rw [Ordered, hphase] at hordered
            rw [hprocess]
            exact hstate.enter hdue ⟨hordered hconfirmable, hsettled⟩ id
              fun _ hresult => absurd hresult List.not_mem_nil
      | cancel =>
          simp only [State.step, hphase, Phase.statement, State.perform]
          exact hstate.enter_quiet hdue hsettled (quiet_cancelSelected _)
      | cleanup => exact hstate.cleanup hphase
  | expire result => exact hstate.expire hphase hordered
  | evaluate pin row =>
      simp only [State.step, hphase, Phase.statement]
      exact hstate.evaluate (by rw [hphase]; rfl) (hstate.fits hphase)
        (quiet_of_due_eq_nil rfl id fun _ _ => id)
  | attempt valid newAttempts answer => exact hstate.attempt hphase
  | process answer => exact hstate.process hphase hordered
  | consume answer => exact hstate.consume hphase
  | complete answer => exact hstate.complete hphase
  | cancel => exact hstate.cancel hphase
  | release => exact hstate.release hphase
  | releaseStale count now => exact hstate.releaseStale hphase
  | returned result =>
      simp only [State.step, hphase, Phase.statement]
      exact hstate.finish hphase

theorem LifecycleInvariant.step {turn : Turn Session}
    (hordered : Ordered state turn) :
    LifecycleInvariant (state.step turn) := by
  cases turn with
  | call session call now =>
      apply State.step_call hstate
      intro hphase
      exact hstate.enter_quiet (by rw [hphase]; rfl) (hstate.fits hphase)
        (quiet_of_due_eq_nil rfl id fun _ _ => id)
  | advance session => exact hstate.advance hordered
  | commit session =>
      exact State.step_commit hstate fun hphase => hstate.commit hphase
  | abort session => exact hstate.abort

/-- A step leads the committed row on. -/
theorem LifecycleInvariant.follows_step (turn : Turn Session) :
    Follows state.row.committed (state.step turn).row.committed := by
  cases turn with
  | call session call now =>
      exact State.step_call
        (motive := fun after => Follows state.row.committed after.row.committed)
        (Follows.refl _) fun _ => Follows.refl _
  | advance session =>
      rw [State.step]
      cases hstatement : (state.phase session).statement with
      | none => exact Follows.refl _
      | some statement =>
          have hcommitted := state.committed_perform session statement
          simp only [hcommitted]
          exact Follows.refl _
  | commit session =>
      apply State.step_commit
        (motive := fun after => Follows state.row.committed after.row.committed)
      · exact Follows.refl _
      · intro _
        rw [State.commit, LockedRow.committed_commit]
        exact hstate.follows session
  | abort session =>
      rw [State.step, LockedRow.committed_abort]
      exact Follows.refl _

end Statements

/-- In a run in which the unguarded writes find the row open, final statuses
stay, at most one call confirms and then none cancels, the reservation is
consumed exactly with the completion, and only authorized rows are completed. -/
theorem lifecycle_of_ordered (row : PendingTransaction)
    (reservation : Reservation) (hrow : row.status = .pending)
    (hreservation : reservation.status = .active)
    (earlier later : List (Turn Session))
    (hordered : Throughout State.step Ordered (earlier ++ later)
      (State.initial row reservation)) :
    let before := earlier.foldl State.step (State.initial row reservation)
    let after := later.foldl State.step before
    (before.row.committed.status.Final →
        after.row.committed.status = before.row.committed.status) ∧
      after.results.committed.countP Result.confirms ≤ 1 ∧
      (∀ first ∈ after.results.committed, ∀ second ∈ after.results.committed,
        first.confirms = true → second.cancels = false) ∧
      (after.reservation.committed.status = .consumed ↔
        after.row.committed.status = .completed) ∧
      (after.row.committed.status = .completed →
        after.row.committed.Authorized) := by
  intro before after
  obtain ⟨hearlier, hlater⟩ := throughout_append.mp hordered
  have hstep : ∀ (state : State Session) (turn : Turn Session),
      LifecycleInvariant state → Ordered state turn →
        LifecycleInvariant (state.step turn) :=
    fun _ _ hstate => hstate.step
  have hbefore : LifecycleInvariant before :=
    foldl_invariant hstep (lifecycleInvariant_initial hrow hreservation)
      hearlier
  have hfollows : ∀ (state : State Session) (turn : Turn Session),
      LifecycleInvariant state ∧
          Follows before.row.committed state.row.committed →
        Ordered state turn → LifecycleInvariant (state.step turn) ∧
          Follows before.row.committed (state.step turn).row.committed :=
    fun _ turn hstate hturn => ⟨hstate.1.step hturn,
      hstate.2.trans (hstate.1.follows_step turn)⟩
  have hafter : LifecycleInvariant after ∧
      Follows before.row.committed after.row.committed :=
    foldl_invariant hfollows ⟨hbefore, Follows.refl _⟩ hlater
  have hview := hafter.1.committed
  refine ⟨hafter.2.final, hview.outcomes.once, ?_, hview.fits,
    hview.authorized⟩
  intro first hfirst second hsecond hconfirms
  apply Bool.eq_false_of_not_eq_true
  intro hcancels
  have hcompleted := hview.outcomes.confirmed first hfirst hconfirms
  rw [hview.outcomes.cancelled second hsecond hcancels] at hcompleted
  cases hcompleted

end Invariant

/-! ## Runs -/

namespace Sample

/-- A call in a transaction of its own. -/
def alone (session : Fin 2) (call : Call) (now : ℤ) : List (Turn (Fin 2)) :=
  .call session call now :: List.replicate 5 (.advance session) ++
    [.commit session]

/-- The PIN is verified and the transaction confirmed. -/
def completion : List (Turn (Fin 2)) :=
  alone 0 (.verify (some "1234")) 10 ++ alone 1 (.confirm "id" "TXN") 20

def run (row : PendingTransaction) (turns : List (Turn (Fin 2))) :
    State (Fin 2) :=
  turns.foldl State.step (State.initial row funds)

/-- After the completion the row can be neither cancelled nor cleaned up. -/
theorem lifecycle_of_ordered_completion :
    let turns := completion ++ (alone 0 .cancel 30 ++ alone 1 .cleanup 400)
    Throughout State.step Ordered turns (State.initial transfer funds) ∧
      (run transfer completion).row.committed.status = .completed ∧
      (run transfer turns).row.committed.status = .completed := by
  intro turns
  have hordered : Throughout State.step Ordered turns
      (State.initial transfer funds) := by decide +kernel
  have hcompleted :
      (run transfer completion).row.committed.status = .completed := by
    decide +kernel
  have hkept := (lifecycle_of_ordered transfer funds rfl rfl completion
    (alone 0 .cancel 30 ++ alone 1 .cleanup 400) hordered).1
    (.inl hcompleted)
  rw [← List.foldl_append] at hkept
  exact ⟨hordered, hcompleted, hkept.trans hcompleted⟩

/-- Both sessions read the row before either of them writes. -/
def overlapping (first second : Call) : List (Turn (Fin 2)) :=
  alone 0 (.verify (some "1234")) 10 ++
    [.call 0 first 20, .call 1 second 20, .advance 0, .advance 1] ++
    List.replicate 4 (.advance 0) ++ [.commit 0] ++
    List.replicate 4 (.advance 1) ++ [.commit 1]

/-- A completed row becomes expired; a transaction is executed twice; it is
executed after it was cancelled; and it is executed without its OTP. -/
theorem lifecycle_broken :
    ((run transfer completion).row.committed.status = .completed ∧
      (run transfer (completion ++
        alone 0 (.verify (some "1234")) 400)).row.committed.status =
          .expired) ∧
    (run transfer (overlapping (.confirm "id" "TXN")
      (.confirm "other" "TXN"))).results.committed.countP Result.confirms = 2 ∧
    ((run transfer (overlapping .cancel
        (.confirm "id" "TXN"))).results.committed.any Result.cancels ∧
      (run transfer (overlapping .cancel
        (.confirm "id" "TXN"))).results.committed.any Result.confirms) ∧
    (run { transfer with requiresOtp := some true }
        completion).row.committed.status = .completed ∧
      ¬ (run { transfer with requiresOtp := some true }
        completion).row.committed.Authorized := by
  decide +kernel

end Sample

end UssdKernel.PendingTransactions
