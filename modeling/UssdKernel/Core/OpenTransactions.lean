import Mathlib

/-!
# Rows of open transactions

Sessions insert rows into a shared table.  A row is visible to its own session
at once and to the others when its session commits; an abort drops it.  As long
as at most one session has uncommitted rows, a property of the rows that an
insert keeps holds of what every session sees.
-/

namespace UssdKernel.OpenTransactions

/-- The committed rows, and for each session the rows that it has inserted and
not committed. -/
structure Rows (Session Row : Type*) where
  committed : List Row
  pending : Session → List Row

namespace Rows

variable {Session Row : Type*} {session other : Session}

def empty : Rows Session Row :=
  ⟨[], fun _ => []⟩

/-- The rows that a statement of the session sees. -/
def visible (rows : Rows Session Row) (session : Session) : List Row :=
  rows.committed ++ rows.pending session

variable [DecidableEq Session]

section Moves

variable (rows : Rows Session Row) (session : Session)

def insert (row : Row) :
    Rows Session Row where
  committed := rows.committed
  pending := Function.update rows.pending session
    (rows.pending session ++ [row])

def commit :
    Rows Session Row where
  committed := rows.committed ++ rows.pending session
  pending := Function.update rows.pending session []

def abort :
    Rows Session Row where
  committed := rows.committed
  pending := Function.update rows.pending session []

end Moves

variable (rows : Rows Session Row) (row : Row)

@[simp]
theorem committed_insert :
    (rows.insert session row).committed = rows.committed := rfl

@[simp]
theorem pending_insert_self :
    (rows.insert session row).pending session =
      rows.pending session ++ [row] :=
  Function.update_self _ _ _

theorem pending_insert_of_ne (hother : other ≠ session) :
    (rows.insert session row).pending other = rows.pending other :=
  Function.update_of_ne hother _ _

theorem visible_insert_self :
    (rows.insert session row).visible session =
      rows.visible session ++ [row] := by
  rw [visible, visible, pending_insert_self, committed_insert,
    List.append_assoc]

theorem visible_insert_of_ne (hother : other ≠ session) :
    (rows.insert session row).visible other = rows.visible other := by
  rw [visible, visible, pending_insert_of_ne rows row hother,
    committed_insert]

@[simp]
theorem committed_commit :
    (rows.commit session).committed = rows.visible session := rfl

@[simp]
theorem pending_commit_self : (rows.commit session).pending session = [] :=
  Function.update_self _ _ _

theorem pending_commit_of_ne (hother : other ≠ session) :
    (rows.commit session).pending other = rows.pending other :=
  Function.update_of_ne hother _ _

/-- A commit shows the rows of its session to the sessions that have none of
their own. -/
theorem visible_commit (hother : other = session ∨ rows.pending other = []) :
    (rows.commit session).visible other = rows.visible session := by
  have hpending : (rows.commit session).pending other = [] := by
    by_cases hsame : other = session
    · rw [hsame]
      exact rows.pending_commit_self
    · rw [rows.pending_commit_of_ne hsame]
      exact hother.resolve_left hsame
  rw [visible, hpending, List.append_nil, committed_commit]

/-- The commit of a session that has inserted nothing. -/
theorem visible_commit_of_pending_eq_nil (hnone : rows.pending session = []) :
    (rows.commit session).visible other = rows.visible other := by
  have hpending : (rows.commit session).pending other = rows.pending other := by
    by_cases hsame : other = session
    · rw [hsame, rows.pending_commit_self, hnone]
    · exact rows.pending_commit_of_ne hsame
  rw [visible, hpending, committed_commit, visible, hnone, List.append_nil,
    visible]

@[simp]
theorem pending_abort_self : (rows.abort session).pending session = [] :=
  Function.update_self _ _ _

theorem pending_abort_of_ne (hother : other ≠ session) :
    (rows.abort session).pending other = rows.pending other :=
  Function.update_of_ne hother _ _

theorem visible_abort_self :
    (rows.abort session).visible session = rows.committed := by
  rw [visible, rows.pending_abort_self, List.append_nil]
  rfl

theorem visible_abort_of_ne (hother : other ≠ session) :
    (rows.abort session).visible other = rows.visible other := by
  rw [visible, rows.pending_abort_of_ne hother]
  rfl

/-- The session has no uncommitted rows any more, and the others keep theirs. -/
def Cleared (session : Session) (before after : Rows Session Row) : Prop :=
  after.pending session = [] ∧
    ∀ other, other ≠ session → after.pending other = before.pending other

theorem cleared_commit : Cleared session rows (rows.commit session) :=
  ⟨rows.pending_commit_self, fun _ => rows.pending_commit_of_ne⟩

theorem cleared_abort : Cleared session rows (rows.abort session) :=
  ⟨rows.pending_abort_self, fun _ => rows.pending_abort_of_ne⟩

variable {rows} {after : Rows Session Row}

section Cleared

variable (hcleared : Cleared session rows after)

include hcleared

omit [DecidableEq Session] in
/-- A session that had no uncommitted rows has none. -/
theorem Cleared.pending_eq_nil (hother : rows.pending other = []) :
    after.pending other = [] := by
  by_cases hsame : other = session
  · subst hsame
    exact hcleared.1
  · rw [hcleared.2 other hsame]
    exact hother

omit [DecidableEq Session] in
theorem Cleared.of_pending_ne_nil (hother : after.pending other ≠ []) :
    rows.pending other ≠ [] := by
  by_cases hsame : other = session
  · subst hsame
    exact absurd hcleared.1 hother
  · rw [hcleared.2 other hsame] at hother
    exact hother

/-! ## One session with uncommitted rows -/

/-- No other session has uncommitted rows. -/
def Alone (rows : Rows Session Row) (session : Session) : Prop :=
  ∀ other, other ≠ session → rows.pending other = []

omit [DecidableEq Session] in
theorem Cleared.alone (halone : rows.Alone other) :
    after.Alone other :=
  fun third hthird => hcleared.pending_eq_nil (halone third hthird)

end Cleared

/-- At most one session has uncommitted rows, and every session sees rows with
the property. -/
structure SoleWriter (property : List Row → Prop) (rows : Rows Session Row) :
    Prop where
  committed : property rows.committed
  visible : ∀ session, property (rows.visible session)
  single : ∀ session other, session ≠ other → rows.pending session ≠ [] →
    rows.pending other = []

variable {property : List Row → Prop} {row : Row}

omit [DecidableEq Session] in
theorem soleWriter_empty (hempty : property []) :
    SoleWriter property (empty : Rows Session Row) where
  committed := hempty
  visible := fun _ => hempty
  single := fun _ _ _ hne => absurd rfl hne

section SoleWriter

variable (hrows : rows.SoleWriter property)

include hrows

theorem SoleWriter.insert (halone : rows.Alone session)
    (hrow : property (rows.visible session ++ [row])) :
    (rows.insert session row).SoleWriter property where
  committed := hrows.committed
  visible := by
    intro other
    by_cases hother : other = session
    · subst hother
      rw [visible_insert_self]
      exact hrow
    · rw [visible_insert_of_ne rows row hother]
      exact hrows.visible other
  single := by
    intro first second hne hpending
    by_cases hfirst : first = session
    · subst hfirst
      rw [pending_insert_of_ne rows row hne.symm]
      exact halone second hne.symm
    · rw [pending_insert_of_ne rows row hfirst] at hpending
      exact absurd (halone first hfirst) hpending

omit [DecidableEq Session] in
theorem SoleWriter.single_of_cleared (hcleared : Cleared session rows after)
    (first second : Session) (hne : first ≠ second)
    (hpending : after.pending first ≠ []) :
    after.pending second = [] :=
  hcleared.pending_eq_nil
    (hrows.single first second hne (hcleared.of_pending_ne_nil hpending))

/-- A commit leaves what another session sees if it has nothing to commit or
the other has no rows of its own. -/
theorem SoleWriter.commit :
    (rows.commit session).SoleWriter property where
  committed := hrows.visible session
  visible := by
    intro other
    by_cases hpending : rows.pending session = []
    · rw [visible_commit_of_pending_eq_nil rows hpending]
      exact hrows.visible other
    · have hother : other = session ∨ rows.pending other = [] :=
        or_iff_not_imp_left.mpr fun hne =>
          hrows.single session other (Ne.symm hne) hpending
      rw [visible_commit rows hother]
      exact hrows.visible session
  single := hrows.single_of_cleared rows.cleared_commit

theorem SoleWriter.abort :
    (rows.abort session).SoleWriter property where
  committed := hrows.committed
  visible := by
    intro other
    by_cases hother : other = session
    · subst hother
      rw [visible_abort_self]
      exact hrows.committed
    · rw [visible_abort_of_ne rows hother]
      exact hrows.visible other
  single := hrows.single_of_cleared rows.cleared_abort

end SoleWriter

end Rows

end UssdKernel.OpenTransactions
