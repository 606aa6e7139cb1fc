import Mathlib

/-!
# A row under a row lock

The first change of a row in a transaction takes the row's lock.  The session
holds it until its transaction ends.  Until then the changed version is visible
to that session only; a commit makes it the committed row, an abort drops it.
-/

namespace UssdKernel.LockedRows

/-- The committed row, and the session that has the lock with its version. -/
structure LockedRow (Session Row : Type*) where
  committed : Row
  lock : Option (Session × Row)

namespace LockedRow

variable {Session Row : Type*} {row : LockedRow Session Row}
variable {session other : Session}

def unlocked (committed : Row) : LockedRow Session Row :=
  ⟨committed, none⟩

def holder (row : LockedRow Session Row) : Option Session :=
  row.lock.map Prod.fst

/-- A statement of the session need not wait for the lock. -/
def Available (row : LockedRow Session Row) (session : Session) : Prop :=
  row.holder = none ∨ row.holder = some session

instance [DecidableEq Session] (row : LockedRow Session Row)
    (session : Session) : Decidable (row.Available session) :=
  inferInstanceAs (Decidable (_ ∨ _))

def write (row : LockedRow Session Row) (session : Session) (version : Row) :
    LockedRow Session Row :=
  ⟨row.committed, some (session, version)⟩

@[simp]
theorem holder_write (version : Row) :
    (row.write session version).holder = some session := rfl

theorem Available.holder_ne (havailable : row.Available session)
    (hother : other ≠ session) : row.holder ≠ some other := by
  intro hholder
  rcases havailable with hfree | hheld
  · rw [hfree] at hholder
    cases hholder
  · rw [hheld] at hholder
    exact hother (Option.some.inj hholder).symm

variable [DecidableEq Session]

section Moves

variable (row : LockedRow Session Row) (session : Session)

/-- The row that a statement of the session sees. -/
def visible : Row :=
  match row.lock with
  | none => row.committed
  | some (holder, version) =>
      if holder = session then version else row.committed

def commit :
    LockedRow Session Row :=
  if row.holder = some session then ⟨row.visible session, none⟩ else row

def abort :
    LockedRow Session Row :=
  if row.holder = some session then ⟨row.committed, none⟩ else row

end Moves

theorem visible_of_holder_ne (hholder : row.holder ≠ some session) :
    row.visible session = row.committed := by
  rw [visible]
  cases hlock : row.lock with
  | none => rfl
  | some held =>
      have hne : held.1 ≠ session := by
        intro hsame
        exact hholder (by rw [holder, hlock, Option.map_some, hsame])
      exact if_neg hne

@[simp]
theorem visible_write_self (version : Row) :
    (row.write session version).visible session = version :=
  if_pos rfl

theorem Available.visible_write_of_ne (havailable : row.Available session)
    (hother : other ≠ session) (version : Row) :
    (row.write session version).visible other = row.visible other := by
  rw [visible_of_holder_ne (havailable.holder_ne hother)]
  exact if_neg hother.symm

/-- The row is read `FOR UPDATE`. -/
def acquire (row : LockedRow Session Row) (session : Session) :
    LockedRow Session Row :=
  row.write session (row.visible session)

@[simp]
theorem holder_acquire : (row.acquire session).holder = some session := rfl

/-- Taking the lock changes nothing that a session sees. -/
theorem Available.visible_acquire (havailable : row.Available session)
    (other : Session) :
    (row.acquire session).visible other = row.visible other := by
  by_cases hother : other = session
  · subst hother
    exact visible_write_self _
  · exact havailable.visible_write_of_ne hother _

section Update

variable (row : LockedRow Session Row) (session : Session)
  (condition : Row → Prop) [DecidablePred condition] (change : Row → Row)

/-- An `UPDATE` of the row with a `WHERE` clause, and whether it changed the
row; `none` if it waits for the lock. -/
def update :
    Option (LockedRow Session Row × Bool) :=
  if condition (row.visible session) then
    if row.Available session then
      some (row.write session (change (row.visible session)), true)
    else none
  else some (row, false)

/-- An `UPDATE` waits, finds no row to change, or writes under the lock. -/
@[elab_as_elim]
theorem update_elim {motive : Option (LockedRow Session Row × Bool) → Prop}
    (hwaits : motive none)
    (hskips : ¬ condition (row.visible session) → motive (some (row, false)))
    (hwrites : condition (row.visible session) → row.Available session →
      motive (some (row.write session (change (row.visible session)), true))) :
    motive (row.update session condition change) := by
  rw [update]
  split_ifs with hcondition havailable
  · exact hwrites hcondition havailable
  · exact hwaits
  · exact hskips hcondition

end Update

/-! ### The end of a transaction -/

theorem commit_of_holder_ne (hholder : row.holder ≠ some session) :
    row.commit session = row :=
  if_neg hholder

theorem abort_of_holder_ne (hholder : row.holder ≠ some session) :
    row.abort session = row :=
  if_neg hholder

theorem committed_commit :
    (row.commit session).committed = row.visible session := by
  by_cases hholder : row.holder = some session
  · rw [commit, if_pos hholder]
  · rw [commit_of_holder_ne hholder, visible_of_holder_ne hholder]

theorem committed_abort :
    (row.abort session).committed = row.committed := by
  by_cases hholder : row.holder = some session
  · rw [abort, if_pos hholder]
  · rw [abort_of_holder_ne hholder]

theorem holder_commit_self : (row.commit session).holder ≠ some session := by
  by_cases hholder : row.holder = some session
  · rw [commit, if_pos hholder]
    exact Option.some_ne_none session |>.symm
  · rw [commit_of_holder_ne hholder]
    exact hholder

theorem holder_abort_self : (row.abort session).holder ≠ some session := by
  by_cases hholder : row.holder = some session
  · rw [abort, if_pos hholder]
    exact Option.some_ne_none session |>.symm
  · rw [abort_of_holder_ne hholder]
    exact hholder

/-- The holder of the lock keeps it when another session commits. -/
theorem commit_of_held_by_other (hheld : row.holder = some other)
    (hother : other ≠ session) : row.commit session = row :=
  commit_of_holder_ne (Available.holder_ne (.inr hheld) hother.symm)

theorem abort_of_held_by_other (hheld : row.holder = some other)
    (hother : other ≠ session) : row.abort session = row :=
  abort_of_holder_ne (Available.holder_ne (.inr hheld) hother.symm)

/-- A commit shows the version of its session to every other session that does
not hold the lock. -/
theorem visible_commit (hother : other = session ∨ row.holder ≠ some other) :
    (row.commit session).visible other = row.visible session := by
  by_cases hsame : other = session
  · rw [hsame, visible_of_holder_ne holder_commit_self, committed_commit]
  · have hother := hother.resolve_left hsame
    by_cases hholder : row.holder = some session
    · rw [commit, if_pos hholder]
      rfl
    · rw [commit_of_holder_ne hholder, visible_of_holder_ne hother,
        visible_of_holder_ne hholder]

/-- After a commit a session sees what it saw, if it holds the lock, or the
version of the committing session. -/
theorem visible_commit_cases (row : LockedRow Session Row)
    (session other : Session) :
    row.holder ≠ some session ∧
        (row.commit session).visible other = row.visible other ∨
      (other = session ∨ row.holder ≠ some other) ∧
        (row.commit session).visible other = row.visible session := by
  by_cases hheld : other ≠ session ∧ row.holder = some other
  · have hholder : row.holder ≠ some session :=
      Available.holder_ne (.inr hheld.2) hheld.1.symm
    exact .inl ⟨hholder, by rw [commit_of_holder_ne hholder]⟩
  · have hother : other = session ∨ row.holder ≠ some other := by tauto
    exact .inr ⟨hother, visible_commit hother⟩

theorem holder_abort_of_ne (hother : other ≠ session) :
    (row.abort session).holder = some other ↔ row.holder = some other := by
  by_cases hholder : row.holder = some session
  · rw [abort, if_pos hholder]
    exact iff_of_false (Option.some_ne_none other).symm
      (Available.holder_ne (.inr hholder) hother)
  · rw [abort_of_holder_ne hholder]

theorem visible_abort_self :
    (row.abort session).visible session = row.committed := by
  rw [visible_of_holder_ne holder_abort_self, committed_abort]

theorem visible_abort_of_ne (hother : other ≠ session) :
    (row.abort session).visible other = row.visible other := by
  by_cases hholder : row.holder = some session
  · have hvisible : row.visible other = row.committed :=
      visible_of_holder_ne (Available.holder_ne (.inr hholder) hother)
    rw [abort, if_pos hholder, hvisible]
    rfl
  · rw [abort_of_holder_ne hholder]

end LockedRow

end UssdKernel.LockedRows
