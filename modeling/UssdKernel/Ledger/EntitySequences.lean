import UssdKernel.Core.LockedRows
import UssdKernel.Core.OpenTransactions
import UssdKernel.Core.Results

/-!
# Gap-free sequences

`next_sequence_value` reads the row of a sequence `FOR UPDATE`, checks the next
value and writes it back.  The lock covers all three and is held until the
transaction ends, so that a value is handed out only on top of values whose
transactions have committed or belong to the same transaction.
-/

namespace UssdKernel.Ledger

open LockedRows OpenTransactions

/-- The columns of `core.entity_sequences` that the function reads or writes. -/
structure EntitySequence where
  lastValue : ℤ
  incrementBy : Option ℤ
  minValue : Option ℤ
  maxValue : Option ℤ
  cycle : Option Bool
  usageCount : Option ℤ
  lastUsedAt : Option ℤ
  /-- `CHECK (increment_by > 0)` -/
  increment_pos : ∀ increment ∈ incrementBy, 0 < increment
  /-- `chk_max_gt_min` -/
  max_gt_min : ∀ max ∈ maxValue, ∀ min ∈ minValue, min < max

inductive SequenceError
  | sequenceNotFound
  | sequenceExhausted
  /-- `bigint out of range` -/
  | outOfRange
  /-- `last_value` is `NOT NULL`. -/
  | nullLastValue
  deriving DecidableEq

/-- The text of the error; the last two are the server's own. -/
def SequenceError.message (sequenceName applicationId : String) :
    SequenceError → String
  | .sequenceNotFound =>
      "SEQUENCE_NOT_FOUND: Sequence " ++ sequenceName ++
        " not found for application " ++ applicationId
  | .sequenceExhausted =>
      "SEQUENCE_EXHAUSTED: Sequence " ++ sequenceName ++
        " has reached maximum value"
  | .outOfRange => "bigint out of range"
  | .nullLastValue =>
      "null value in column \"last_value\" of relation \"entity_sequences\" " ++
        "violates not-null constraint"

def bigintMax : ℤ := 2 ^ 63 - 1

/-- A sum of `BIGINT` values. -/
def bigint (value : ℤ) : Except SequenceError ℤ :=
  if value ≤ bigintMax then .ok value else .error .outOfRange

namespace EntitySequence

def checkMaximum (row : EntitySequence) (next : ℤ) :
    Except SequenceError (Option ℤ) :=
  if ∃ max ∈ row.maxValue, max < next then
    if row.cycle = some true then .ok row.minValue
    else .error .sequenceExhausted
  else .ok (some next)

/-- `v_next_value` after the `SELECT` and the check of the maximum. -/
def nextValue (row : EntitySequence) : Except SequenceError (Option ℤ) :=
  match row.incrementBy with
  | none => .error .sequenceNotFound
  | some increment => do
      let next ← bigint (row.lastValue + increment)
      row.checkMaximum next

/-- The row after the `UPDATE`, and the value that is returned. -/
def advance (row : EntitySequence) (next : Option ℤ) (now : ℤ) :
    Except SequenceError (ℤ × EntitySequence) :=
  match next with
  | none => .error .nullLastValue
  | some next => do
      let usageCount ← row.usageCount.mapM (fun count => bigint (count + 1))
      .ok (next,
        { row with lastValue := next, usageCount, lastUsedAt := some now })

end EntitySequence

/-- Where the session is in its transaction. -/
inductive SequencePhase
  /-- No call is open. -/
  | idle
  /-- The row is locked, and the value checked. -/
  | selected (next : Option ℤ)
  /-- A call has raised; the transaction can only be rolled back. -/
  | failed (error : SequenceError)

structure SequenceState (Session : Type*) where
  row : LockedRow Session EntitySequence
  /-- The values that the calls have returned. -/
  handed : Rows Session ℤ
  phase : Session → SequencePhase

inductive SequenceTurn (Session : Type*)
  /-- `SELECT … FOR UPDATE` and the checks. -/
  | select (session : Session)
  /-- The `UPDATE` and the `RETURN`. -/
  | update (session : Session) (now : ℤ)
  | commit (session : Session)
  | abort (session : Session)

namespace SequenceState

variable {Session : Type*}

def initial (row : EntitySequence) : SequenceState Session where
  row := .unlocked row
  handed := .empty
  phase := fun _ => .idle

variable [DecidableEq Session]

section Moves

variable (state : SequenceState Session)

def enter (session : Session) (phase : SequencePhase) : SequenceState Session :=
  { state with phase := Function.update state.phase session phase }

def rollback (session : Session) :
    SequenceState Session where
  row := state.row.abort session
  handed := state.handed.abort session
  phase := Function.update state.phase session .idle

def select (session : Session) :
    SequencePhase → SequenceState Session
  | .idle =>
      if state.row.Available session then
        let locked := { state with row := state.row.acquire session }
        match (state.row.visible session).nextValue with
        | .ok next => locked.enter session (.selected next)
        | .error error => locked.enter session (.failed error)
      else state
  | .selected _ => state
  | .failed _ => state

def update (session : Session) (now : ℤ) :
    SequencePhase → SequenceState Session
  | .selected next =>
      match (state.row.visible session).advance next now with
      | .ok (value, row) =>
          { row := state.row.write session row
            handed := state.handed.insert session value
            phase := Function.update state.phase session .idle }
      | .error error => state.enter session (.failed error)
  | .idle => state
  | .failed _ => state

def commit (session : Session) :
    SequencePhase → SequenceState Session
  | .idle =>
      { state with
        row := state.row.commit session
        handed := state.handed.commit session }
  -- the end of a failed transaction is a rollback
  | .failed _ => state.rollback session
  | .selected _ => state

def step :
    SequenceTurn Session → SequenceState Session
  | .select session => state.select session (state.phase session)
  | .update session now => state.update session now (state.phase session)
  | .commit session => state.commit session (state.phase session)
  | .abort session => state.rollback session

end Moves

end SequenceState

/-! ## Values on top of values -/

namespace EntitySequence

/-- `start + (index + 1) * increment_by` -/
def term (start : EntitySequence) (index : ℕ) : Option ℤ :=
  start.incrementBy.map fun increment =>
    start.lastValue + (index + 1) * increment

end EntitySequence

/-- The row after the values have been handed out one after another. -/
structure Advanced (start row : EntitySequence) (values : List ℤ) : Prop where
  incrementBy : row.incrementBy = start.incrementBy
  maxValue : row.maxValue = start.maxValue
  cycle : row.cycle = start.cycle
  lastValue : row.lastValue =
    start.lastValue + values.length * start.incrementBy.getD 0
  terms : values.map some = (List.range values.length).map start.term
  bounded : ∀ value ∈ values, ∀ max ∈ start.maxValue, value ≤ max

section Advanced

variable {start row after : EntitySequence} {values : List ℤ} {value : ℤ}

theorem advanced_nil : Advanced start start [] where
  incrementBy := rfl
  maxValue := rfl
  cycle := rfl
  lastValue := by rw [List.length_nil, Nat.cast_zero, zero_mul, add_zero]
  terms := rfl
  bounded := fun _ hvalue => absurd hvalue List.not_mem_nil

theorem bigint_eq_ok {sum : ℤ} (hsum : bigint sum = .ok value) :
    value = sum := by
  by_cases hrange : sum ≤ bigintMax
  · rw [bigint, if_pos hrange] at hsum
    exact (Except.ok.inj hsum).symm
  · rw [bigint, if_neg hrange] at hsum
    cases hsum

variable {next : Option ℤ}

/-- Without `cycle` the value is returned as it is, and within the maximum. -/
theorem checkMaximum_eq_ok (hcycle : row.cycle ≠ some true)
    (hnext : row.checkMaximum value = .ok next) :
    next = some value ∧ ∀ max ∈ row.maxValue, value ≤ max := by
  by_cases hmax : ∃ max ∈ row.maxValue, max < value
  · rw [EntitySequence.checkMaximum, if_pos hmax, if_neg hcycle] at hnext
    cases hnext
  · rw [EntitySequence.checkMaximum, if_neg hmax] at hnext
    refine ⟨(Except.ok.inj hnext).symm, fun max hmem => ?_⟩
    exact not_lt.mp fun hlt => hmax ⟨max, hmem, hlt⟩

theorem nextValue_eq_ok (hcycle : row.cycle ≠ some true)
    (hnext : row.nextValue = .ok next) :
    ∃ increment, row.incrementBy = some increment ∧
      next = some (row.lastValue + increment) ∧
      ∀ max ∈ row.maxValue, row.lastValue + increment ≤ max := by
  cases hincrement : row.incrementBy with
  | none =>
      simp only [EntitySequence.nextValue, hincrement] at hnext
      cases hnext
  | some increment =>
      simp only [EntitySequence.nextValue, hincrement] at hnext
      obtain ⟨sum, hsum, hchecked⟩ := Results.bind_eq_ok.mp hnext
      rw [bigint_eq_ok hsum] at hchecked
      exact ⟨increment, rfl, checkMaximum_eq_ok hcycle hchecked⟩

theorem advance_eq_ok {now : ℤ}
    (hadvance : row.advance next now = .ok (value, after)) :
    next = some value ∧ ∃ usageCount,
      after = { row with
        lastValue := value, usageCount, lastUsedAt := some now } := by
  cases next with
  | none => cases hadvance
  | some next =>
      obtain ⟨usageCount, -, hafter⟩ := Results.bind_eq_ok.mp hadvance
      cases hafter
      exact ⟨rfl, usageCount, rfl⟩

/-- One more value. -/
theorem Advanced.concat (hrow : Advanced start row values)
    (hcycle : start.cycle ≠ some true) {now : ℤ}
    (hnext : row.nextValue = .ok next)
    (hadvance : row.advance next now = .ok (value, after)) :
    Advanced start after (values ++ [value]) := by
  obtain ⟨increment, hincrement, hsum, hmax⟩ :=
    nextValue_eq_ok (hrow.cycle ▸ hcycle) hnext
  obtain ⟨hvalue, usageCount, rfl⟩ := advance_eq_ok hadvance
  have hvalue : value = row.lastValue + increment :=
    Option.some.inj (hvalue.symm.trans hsum)
  have hstart : start.incrementBy = some increment :=
    hrow.incrementBy.symm.trans hincrement
  have hlast : value = start.lastValue + (values.length + 1) * increment := by
    rw [hvalue, hrow.lastValue, hstart, Option.getD_some]
    ring
  exact
    { incrementBy := hrow.incrementBy
      maxValue := hrow.maxValue
      cycle := hrow.cycle
      lastValue := by
        rw [List.length_append, List.length_singleton, Nat.cast_add,
          Nat.cast_one, hstart, Option.getD_some]
        exact hlast
      terms := by
        rw [List.length_append, List.length_singleton, List.range_succ,
          List.map_append, List.map_append, hrow.terms, List.map_singleton,
          List.map_singleton, EntitySequence.term, hstart, Option.map_some,
          hlast]
      bounded := by
        intro other hother max hmem
        rcases List.mem_append.mp hother with hold | hnew
        · exact hrow.bounded other hold max hmem
        · rw [List.mem_singleton.mp hnew, hvalue]
          exact hmax max (hrow.maxValue ▸ hmem) }

/-- The terms of a sequence are distinct. -/
theorem Advanced.nodup (hrow : Advanced start row values) : values.Nodup := by
  cases hincrement : start.incrementBy with
  | none =>
      have hterms := hrow.terms
      cases values with
      | nil => exact List.nodup_nil
      | cons value values =>
          have hterm : some value = start.term 0 := by
            rw [List.length_cons, List.range_succ_eq_map] at hterms
            exact (List.cons.inj hterms).1
          rw [EntitySequence.term, hincrement] at hterm
          cases hterm
  | some increment =>
      have hpos : 0 < increment := start.increment_pos increment hincrement
      apply List.Nodup.of_map some
      rw [hrow.terms]
      apply List.Nodup.map _ List.nodup_range
      intro first second hsame
      rw [EntitySequence.term, EntitySequence.term, hincrement] at hsame
      have hsum := add_left_cancel (Option.some.inj hsame)
      have hindex := mul_right_cancel₀ hpos.ne' hsum
      omega

end Advanced

/-! ## Every interleaving -/

section Interleaving

variable {Session : Type*} [DecidableEq Session] {start : EntitySequence}
variable {state : SequenceState Session} {session : Session}

structure SequenceInvariant (start : EntitySequence)
    (state : SequenceState Session) : Prop where
  committed : Advanced start state.row.committed state.handed.committed
  /-- Every session sees a row that fits the values that it sees. -/
  view : ∀ session, Advanced start (state.row.visible session)
    (state.handed.visible session)
  /-- Values are handed out under the lock. -/
  held : ∀ session, state.handed.pending session ≠ [] →
    state.row.holder = some session
  /-- A checked value is still the next one. -/
  selected : ∀ session next, state.phase session = .selected next →
    state.row.holder = some session ∧
      (state.row.visible session).nextValue = .ok next

theorem sequenceInvariant_initial :
    SequenceInvariant start
      (SequenceState.initial start : SequenceState Session) where
  committed := advanced_nil
  view := fun _ => advanced_nil
  held := fun _ hpending => absurd rfl hpending
  selected := by
    intro session next hphase
    cases hphase

variable {phase : SequencePhase}

theorem selected_of_update {phases : Session → SequencePhase} {other : Session}
    {next : Option ℤ}
    (hphase : Function.update phases session phase other = .selected next) :
    other = session ∧ phase = .selected next ∨
      other ≠ session ∧ phases other = .selected next := by
  by_cases hother : other = session
  · subst hother
    exact .inl ⟨rfl, (Function.update_self _ _ _).symm.trans hphase⟩
  · exact .inr ⟨hother, (Function.update_of_ne hother _ _).symm.trans hphase⟩

section Steps

variable (hstate : SequenceInvariant start state)
include hstate

/-- A call that raises, or a call that returns, leaves no value selected. -/
theorem SequenceInvariant.enter (hphase : ∀ next, phase ≠ .selected next) :
    SequenceInvariant start (state.enter session phase) where
  committed := hstate.committed
  view := hstate.view
  held := hstate.held
  selected := by
    intro other next hnext
    rcases selected_of_update hnext with ⟨-, hsame⟩ | ⟨-, hother⟩
    · exact absurd hsame (hphase next)
    · exact hstate.selected other next hother

/-- The `SELECT` takes the lock and changes nothing. -/
theorem SequenceInvariant.lock (havailable : state.row.Available session)
    (hphase : ∀ next, phase = .selected next →
      (state.row.visible session).nextValue = .ok next) :
    SequenceInvariant start
      (SequenceState.enter { state with row := state.row.acquire session }
        session phase) where
  committed := hstate.committed
  view := by
    intro other
    have hview := hstate.view other
    rwa [← havailable.visible_acquire other] at hview
  held := by
    intro other hpending
    by_cases hother : other = session
    · rw [hother]
      exact LockedRow.holder_acquire
    · exact absurd (hstate.held other hpending) (havailable.holder_ne hother)
  selected := by
    intro other next hnext
    rcases selected_of_update hnext with ⟨rfl, hsame⟩ | ⟨hother, hold⟩
    · have hvalue := hphase next hsame
      rw [← havailable.visible_acquire other] at hvalue
      exact ⟨LockedRow.holder_acquire, hvalue⟩
    · exact absurd (hstate.selected other next hold).1
        (havailable.holder_ne hother)

/-- The `UPDATE` hands out the checked value. -/
theorem SequenceInvariant.hand (hcycle : start.cycle ≠ some true)
    {next : Option ℤ} (hphase : state.phase session = .selected next)
    {now value : ℤ} {row : EntitySequence}
    (hadvance : (state.row.visible session).advance next now =
      .ok (value, row)) :
    SequenceInvariant start
      { row := state.row.write session row
        handed := state.handed.insert session value
        phase := Function.update state.phase session .idle } := by
  obtain ⟨hholder, hnext⟩ := hstate.selected session next hphase
  have havailable : state.row.Available session := .inr hholder
  refine ⟨hstate.committed, fun other => ?_, fun other hpending => ?_,
    fun other next hnext => ?_⟩
  · by_cases hother : other = session
    · subst hother
      rw [LockedRow.visible_write_self, Rows.visible_insert_self]
      exact (hstate.view other).concat hcycle hnext hadvance
    · rw [havailable.visible_write_of_ne hother,
        Rows.visible_insert_of_ne _ _ hother]
      exact hstate.view other
  · by_cases hother : other = session
    · rw [hother]
      exact LockedRow.holder_write _
    · rw [Rows.pending_insert_of_ne _ _ hother] at hpending
      exact absurd (hstate.held other hpending) (havailable.holder_ne hother)
  · rcases selected_of_update hnext with ⟨-, hidle⟩ | ⟨hother, hold⟩
    · cases hidle
    · exact absurd (hstate.selected other _ hold).1
        (havailable.holder_ne hother)

/-- A session without the lock has handed out nothing. -/
theorem SequenceInvariant.pending_eq_nil
    (hholder : state.row.holder ≠ some session) :
    state.handed.pending session = [] := by
  by_contra hpending
  exact hholder (hstate.held session hpending)

theorem SequenceInvariant.commit (hphase : state.phase session = .idle) :
    SequenceInvariant start
      { state with
        row := state.row.commit session
        handed := state.handed.commit session } where
  committed := by
    rw [LockedRow.committed_commit, Rows.committed_commit]
    exact hstate.view session
  view := by
    intro other
    rcases state.row.visible_commit_cases session other with
      ⟨hholder, hsame⟩ | ⟨hother, hsame⟩
    · -- the committing session has neither the lock nor values
      rw [hsame, Rows.visible_commit_of_pending_eq_nil _
        (hstate.pending_eq_nil hholder)]
      exact hstate.view other
    · rw [hsame, Rows.visible_commit _
        (hother.imp_right hstate.pending_eq_nil)]
      exact hstate.view session
  held := by
    intro other hpending
    have hother : other ≠ session := by
      rintro rfl
      exact hpending (Rows.pending_commit_self _)
    rw [Rows.pending_commit_of_ne _ hother] at hpending
    have hheld := hstate.held other hpending
    rw [LockedRow.commit_of_held_by_other hheld hother]
    exact hheld
  selected := by
    intro other next hnext
    have hother : other ≠ session := by
      rintro rfl
      rw [hphase] at hnext
      cases hnext
    have hselected := hstate.selected other next hnext
    rw [LockedRow.commit_of_held_by_other hselected.1 hother]
    exact hselected

theorem SequenceInvariant.rollback :
    SequenceInvariant start (state.rollback session) where
  committed := by
    have hcommitted := hstate.committed
    rwa [← LockedRow.committed_abort] at hcommitted
  view := by
    intro other
    by_cases hother : other = session
    · subst hother
      have hcommitted := hstate.committed
      rwa [← LockedRow.visible_abort_self, ← Rows.visible_abort_self]
        at hcommitted
    · have hview := hstate.view other
      rwa [← LockedRow.visible_abort_of_ne hother,
        ← Rows.visible_abort_of_ne _ hother] at hview
  held := by
    intro other hpending
    have hother : other ≠ session := by
      rintro rfl
      exact hpending (Rows.pending_abort_self _)
    have hheld := hstate.held other
      (Rows.pending_abort_of_ne state.handed hother ▸ hpending)
    have hrow : (state.rollback session).row = state.row :=
      LockedRow.abort_of_held_by_other hheld hother
    rw [hrow]
    exact hheld
  selected := by
    intro other next hnext
    rcases selected_of_update hnext with ⟨-, hidle⟩ | ⟨hother, hold⟩
    · cases hidle
    · have hselected := hstate.selected other next hold
      have hrow : (state.rollback session).row = state.row :=
        LockedRow.abort_of_held_by_other hselected.1 hother
      rw [hrow]
      exact hselected

end Steps

theorem SequenceInvariant.step (hcycle : start.cycle ≠ some true)
    (hstate : SequenceInvariant start state) (turn : SequenceTurn Session) :
    SequenceInvariant start (state.step turn) := by
  cases turn with
  | select session =>
      rw [SequenceState.step]
      cases hphase : state.phase session with
      | idle =>
          rw [SequenceState.select]
          by_cases havailable : state.row.Available session
          · rw [if_pos havailable]
            cases hnext : (state.row.visible session).nextValue with
            | ok next =>
                apply hstate.lock havailable
                intro other hother
                cases hother
                exact hnext
            | error error =>
                apply hstate.lock havailable
                intro other hother
                cases hother
          · rw [if_neg havailable]
            exact hstate
      | selected next => exact hstate
      | failed error => exact hstate
  | update session now =>
      rw [SequenceState.step]
      cases hphase : state.phase session with
      | idle => exact hstate
      | selected next =>
          rw [SequenceState.update]
          cases hadvance : (state.row.visible session).advance next now with
          | ok returned => exact hstate.hand hcycle hphase hadvance
          | error error =>
              apply hstate.enter
              intro next hnext
              cases hnext
      | failed error => exact hstate
  | commit session =>
      rw [SequenceState.step]
      cases hphase : state.phase session with
      | idle => exact hstate.commit hphase
      | selected next => exact hstate
      | failed error => exact hstate.rollback
  | abort session => exact hstate.rollback

/-- The values of the committed transactions are the terms of the sequence, in
the order of the commits. -/
theorem committed_values_eq_terms (start : EntitySequence)
    (hcycle : start.cycle ≠ some true)
    (turns : List (SequenceTurn Session)) :
    let state := turns.foldl SequenceState.step (SequenceState.initial start)
    let values := state.handed.committed
    values.map some = (List.range values.length).map start.term ∧
      values.Nodup ∧
      (∀ value ∈ values, ∀ max ∈ start.maxValue, value ≤ max) ∧
      ∀ session, (state.step (.abort session)).row.committed =
          state.row.committed ∧
        (state.step (.abort session)).row.visible session =
          state.row.committed := by
  intro state values
  have hstate : SequenceInvariant start state :=
    List.foldlRecOn turns SequenceState.step sequenceInvariant_initial
      fun _ hstate turn _ => hstate.step hcycle turn
  refine ⟨hstate.committed.terms, hstate.committed.nodup,
    hstate.committed.bounded, fun session => ⟨?_, ?_⟩⟩
  · exact LockedRow.committed_abort
  · exact LockedRow.visible_abort_self

end Interleaving

namespace Sample

def receiptNumbers : EntitySequence where
  lastValue := 100
  incrementBy := some 5
  minValue := some 1
  maxValue := some 110
  cycle := some false
  usageCount := some 0
  lastUsedAt := none
  increment_pos := by simp
  max_gt_min := by simp

/-- The second session waits for the first, draws a value and aborts; then the
first draws the same value, and a third one finds the sequence exhausted. -/
def receiptTurns : List (SequenceTurn (Fin 3)) :=
  [.select 0, .select 1, .update 0 7, .commit 0,
   .select 1, .update 1 8, .abort 1,
   .select 0, .update 0 9, .commit 0, .select 2, .commit 2]

theorem committed_values_eq_terms_receipts :
    (receiptTurns.foldl SequenceState.step
      (SequenceState.initial receiptNumbers)).handed.committed = [105, 110] ∧
    [105, 110].map some = (List.range 2).map receiptNumbers.term :=
  have hrun : (receiptTurns.foldl SequenceState.step
      (SequenceState.initial receiptNumbers)).handed.committed = [105, 110] := by
    decide
  ⟨hrun, hrun ▸ (committed_values_eq_terms receiptNumbers (by decide)
    receiptTurns).1⟩

end Sample

end UssdKernel.Ledger
