import UssdKernel.Core.OpenTransactions

/-!
# Inserts that read their table under a lock

A session requests an insert, takes a lock, computes the row from the rows that
it sees, and inserts the row as it releases the lock.  Where no row can be
computed its transaction fails.  The row stays invisible to the others until its
session commits.  The lock alone therefore does not
order the reads: a property of the table is kept if in addition every read finds
no uncommitted rows of other sessions.
-/

namespace UssdKernel.LockedInserts

open OpenTransactions

/-- Where a session is in its insert. -/
inductive Phase (Request Row : Type*)
  | idle
  | waiting (request : Request)
  | holding (request : Request)
  /-- The row is computed, and the lock still held. -/
  | computed (row : Row)
  deriving DecidableEq

structure State (Session Request Row : Type*) where
  rows : Rows Session Row
  lock : Option Session
  phase : Session → Phase Request Row

namespace State

variable {Session Request Row : Type*}

def initial : State Session Request Row where
  rows := Rows.empty
  lock := none
  phase := fun _ => .idle

variable [DecidableEq Session] (produce : List Row → Request → Option Row)

section Moves

variable (state : State Session Request Row) (session : Session)

def enter (phase : Phase Request Row) : State Session Request Row :=
  { state with phase := Function.update state.phase session phase }

def commit :
    State Session Request Row :=
  { state with rows := state.rows.commit session }

/-- The transaction is rolled back, in the middle of an insert too; a lock that
the session holds is released. -/
def abort :
    State Session Request Row :=
  { state.enter session .idle with
    rows := state.rows.abort session
    lock := if state.lock = some session then none else state.lock }

/-- One step of the insert, from the phase of its session.  The lock is released
and the row inserted in one step, so a row counts as uncommitted from the
release on, although the trigger that releases it runs before its row is
written. -/
def advance :
    Phase Request Row → State Session Request Row
  | .idle => state
  | .waiting request =>
      if state.lock = none then
        { state.enter session (.holding request) with lock := some session }
      else state
  | .holding request =>
      match produce (state.rows.visible session) request with
      | some row => state.enter session (.computed row)
      | none => state.abort session
  | .computed row =>
      { state.enter session .idle with
        rows := state.rows.insert session row
        lock := none }

end Moves

end State

section Invariant

variable {Session Request Row : Type*}

/-- A read under the lock finds no uncommitted rows of others, and rows that the
request fits. -/
def Phase.ReadsAlone (fits : List Row → Request → Prop)
    (rows : Rows Session Row) (session : Session) :
    Phase Request Row → Prop
  | .holding request =>
      rows.Alone session ∧ fits (rows.visible session) request
  | _ => True

instance [Fintype Session] [DecidableEq Session]
    {fits : List Row → Request → Prop}
    [∀ rows request, Decidable (fits rows request)]
    (rows : Rows Session Row) (session : Session) :
    (phase : Phase Request Row) → Decidable (phase.ReadsAlone fits rows session)
  | .idle => isTrue trivial
  | .waiting _ => isTrue trivial
  | .holding request =>
      inferInstanceAs (Decidable
        ((∀ other, other ≠ session → rows.pending other = []) ∧
          fits (rows.visible session) request))
  | .computed _ => isTrue trivial

/-- The computed row of a session keeps the property, and no other session has
uncommitted rows. -/
structure Ready (property : List Row → Prop) (rows : Rows Session Row)
    (session : Session) (row : Row) : Prop where
  alone : rows.Alone session
  extended : property (rows.visible session ++ [row])

/-- What a phase of a session says about the rows and the lock. -/
def Phase.Holds (property : List Row → Prop) (rows : Rows Session Row)
    (lock : Option Session) (session : Session) : Phase Request Row → Prop
  | .holding _ => lock = some session
  | .computed row => lock = some session ∧ Ready property rows session row
  | _ => True

structure Invariant (property : List Row → Prop)
    (state : State Session Request Row) : Prop where
  rows : state.rows.SoleWriter property
  phases : ∀ session,
    (state.phase session).Holds property state.rows state.lock session

variable {property : List Row → Prop} {state : State Session Request Row}
variable {session other : Session} {phase : Phase Request Row}
variable {rows : Rows Session Row} {lock : Option Session} {row : Row}

theorem invariant_initial (hempty : property []) :
    Invariant property (State.initial : State Session Request Row) where
  rows := Rows.soleWriter_empty hempty
  phases := fun _ => trivial

/-- A session that is past taking the lock holds it. -/
theorem Phase.Holds.of_lock_ne (hphase : phase.Holds property rows lock session)
    (hlock : lock ≠ some session) (rows' : Rows Session Row)
    (lock' : Option Session) : phase.Holds property rows' lock' session := by
  cases phase with
  | idle | waiting request => trivial
  | holding request => exact absurd hphase hlock
  | computed row => exact absurd hphase.1 hlock

/-- The lock may change hands only if the session does not hold it, and the
rows as long as a computed row stays ready. -/
theorem Phase.Holds.mono (hphase : phase.Holds property rows lock session)
    {rows' : Rows Session Row} {lock' : Option Session}
    (hlock : lock = some session → lock' = some session)
    (hready : ∀ row, Ready property rows session row →
      Ready property rows' session row) :
    phase.Holds property rows' lock' session := by
  cases phase with
  | idle | waiting request => trivial
  | holding request => exact hlock hphase
  | computed row => exact ⟨hlock hphase.1, hready row hphase.2⟩

variable [DecidableEq Session]

theorem Ready.commit (hother : other ≠ session)
    (hready : Ready property rows other row) :
    Ready property (rows.commit session) other row where
  alone := rows.cleared_commit.alone hready.alone
  extended := by
    rw [Rows.visible_commit_of_pending_eq_nil rows
      (hready.alone session (Ne.symm hother))]
    exact hready.extended

theorem Ready.abort (hother : other ≠ session)
    (hready : Ready property rows other row) :
    Ready property (rows.abort session) other row where
  alone := rows.cleared_abort.alone hready.alone
  extended := by
    rw [Rows.visible_abort_of_ne rows hother]
    exact hready.extended

/-- A session enters a phase, and the rows and the lock may change with it. -/
theorem Invariant.enter {after : State Session Request Row}
    (hphase : after.phase = Function.update state.phase session phase)
    (hrows : after.rows.SoleWriter property)
    (hself : phase.Holds property after.rows after.lock session)
    (hothers : ∀ other, other ≠ session →
      (state.phase other).Holds property after.rows after.lock other) :
    Invariant property after where
  rows := hrows
  phases := by
    rw [hphase, Function.forall_update_iff state.phase fun other phase =>
      phase.Holds property after.rows after.lock other]
    exact ⟨hself, hothers⟩

variable (hstate : Invariant property state)

include hstate

theorem Invariant.request (request : Request) :
    Invariant property (state.enter session (.waiting request)) :=
  Invariant.enter rfl hstate.rows trivial fun other _ => hstate.phases other

theorem Invariant.abort :
    Invariant property (state.abort session) := by
  refine Invariant.enter rfl hstate.rows.abort trivial fun other hother => ?_
  refine (hstate.phases other).mono ?_ fun row => Ready.abort hother
  intro hlock
  have hne : state.lock ≠ some session := fun hsame =>
    hother (Option.some.inj (hlock.symm.trans hsame))
  rw [State.abort, if_neg hne]
  exact hlock

theorem Invariant.commit (hidle : state.phase session = .idle) :
    Invariant property (state.commit session) where
  rows := hstate.rows.commit
  phases := by
    intro other
    by_cases hother : other = session
    · subst hother
      have hphase : (state.commit other).phase other = .idle := hidle
      rw [hphase]
      trivial
    · exact (hstate.phases other).mono id fun row => Ready.commit hother

variable {produce : List Row → Request → Option Row}

/-- While the lock is free no session is past taking it. -/
theorem Invariant.take (request : Request) :
    Invariant property (state.advance produce session (.waiting request)) := by
  rw [State.advance]
  by_cases hfree : state.lock = none
  · rw [if_pos hfree]
    refine Invariant.enter rfl hstate.rows rfl fun other _ => ?_
    have hheld : state.lock ≠ some other := by
      rw [hfree]
      exact (Option.some_ne_none other).symm
    exact (hstate.phases other).of_lock_ne hheld _ _
  · rw [if_neg hfree]
    exact hstate

/-- The session that has read holds the lock, so no other is past taking it. -/
theorem Invariant.release
    (hphase : state.phase session = .computed row) :
    Invariant property (state.advance produce session (.computed row)) := by
  have hcomputed := hstate.phases session
  rw [hphase] at hcomputed
  obtain ⟨hlock, hready⟩ := hcomputed
  refine Invariant.enter rfl (hstate.rows.insert hready.alone hready.extended)
    trivial fun other hother => ?_
  have hheld : state.lock ≠ some other := fun hsame =>
    hother (Option.some.inj (hsame.symm.trans hlock))
  exact (hstate.phases other).of_lock_ne hheld _ _

/-- A step of an insert keeps the invariant if its read is alone, and if the
rows computed for requests that fit keep the property. -/
theorem Invariant.advance {fits : List Row → Request → Prop}
    (hproduce : ∀ rows request row, produce rows request = some row →
      property rows → fits rows request → property (rows ++ [row]))
    (halone : (state.phase session).ReadsAlone fits state.rows session) :
    Invariant property
      (state.advance produce session (state.phase session)) := by
  have hself := hstate.phases session
  cases hphase : state.phase session with
  | idle => exact hstate
  | waiting request => exact hstate.take request
  | computed row => exact hstate.release hphase
  | holding request =>
      rw [hphase] at halone hself
      cases hrow : produce (state.rows.visible session) request with
      | none =>
          simp only [State.advance, hrow]
          exact hstate.abort
      | some row =>
          simp only [State.advance, hrow]
          exact Invariant.enter rfl hstate.rows
            ⟨hself, halone.1, hproduce _ request row hrow
              (hstate.rows.visible session) halone.2⟩
            fun other _ => hstate.phases other

end Invariant

end UssdKernel.LockedInserts
