import UssdKernel.Core.OpenTransactions
import UssdKernel.Core.Runs
import UssdKernel.Ledger.Transactions

/-!
# Concurrent inserts with one idempotency key

The trigger `check_idempotency` looks for the key among the rows that its
transaction sees, which are not the uncommitted rows of others.  Behind it
stands a unique index on the key together with `committed_at`.  Two open
transactions can therefore both insert a key, and both commit, unless they also
insert some key at the same `committed_at`.
-/

namespace UssdKernel.Ledger

open OpenTransactions Runs

/-- The columns of the unique index. -/
structure KeyRow where
  idempotencyKey : Option String
  committedAt : ℤ
  deriving DecidableEq

/-- `idempotency_key IS NULL OR length(trim(idempotency_key)) < 8` does not
hold. -/
def ValidKey : Option String → Prop
  | none => False
  | some key => 8 ≤ trimmedLength key

instance : (key : Option String) → Decidable (ValidKey key)
  | none => isFalse id
  | some key => inferInstanceAs (Decidable (8 ≤ trimmedLength key))

/-- The trigger lets the row pass on the rows that it sees. -/
def CheckIdempotency (visible : List KeyRow) (row : KeyRow) : Prop :=
  ValidKey row.idempotencyKey ∧
    ∀ other ∈ visible, other.idempotencyKey ≠ row.idempotencyKey

instance (visible : List KeyRow) (row : KeyRow) :
    Decidable (CheckIdempotency visible row) :=
  inferInstanceAs (Decidable (_ ∧ _))

/-- What is left of a transaction. -/
inductive KeyStatus
  | running (rest : List KeyRow)
  | committed
  | aborted
  deriving DecidableEq

structure KeyState (Session : Type*) where
  rows : Rows Session KeyRow
  status : Session → KeyStatus

inductive KeyTurn (Session : Type*)
  /-- The next `INSERT` of the transaction, or its `COMMIT`. -/
  | advance (session : Session)
  | abort (session : Session)

section Step

variable {Session : Type*}

def KeyState.initial (programs : Session → List KeyRow) : KeyState Session where
  rows := Rows.empty
  status := fun session => .running (programs session)

/-- Another open transaction has the row's entry in the unique index. -/
def PendingElsewhere (rows : Rows Session KeyRow) (session : Session)
    (row : KeyRow) : Prop :=
  ∃ other, other ≠ session ∧ row ∈ rows.pending other

instance [Fintype Session] [DecidableEq Session] (rows : Rows Session KeyRow)
    (session : Session) (row : KeyRow) :
    Decidable (PendingElsewhere rows session row) :=
  inferInstanceAs
    (Decidable (∃ other, other ≠ session ∧ row ∈ rows.pending other))

variable [DecidableEq Session]

section Moves

variable (state : KeyState Session) (session : Session)

def KeyState.fail :
    KeyState Session where
  rows := state.rows.abort session
  status := Function.update state.status session .aborted

/-- The row is inserted, and the rest of the transaction is left. -/
def KeyState.insert (row : KeyRow) (rest : List KeyRow) : KeyState Session where
  rows := state.rows.insert session row
  status := Function.update state.status session (.running rest)

def KeyState.commit :
    KeyState Session where
  rows := state.rows.commit session
  status := Function.update state.status session .committed

end Moves

variable [∀ (rows : Rows Session KeyRow) (session : Session) (row : KeyRow),
  Decidable (PendingElsewhere rows session row)]

/-- A statement of the session, from what is left of its transaction. -/
def KeyState.advance (state : KeyState Session) (session : Session) :
    KeyStatus → KeyState Session
  | .running (row :: rest) =>
      if CheckIdempotency (state.rows.visible session) row then
        -- the index waits for the end of the other transaction
        if PendingElsewhere state.rows session row then state
        else state.insert session row rest
      else state.fail session
  | .running [] => state.commit session
  | .committed => state
  | .aborted => state

def KeyState.abort (state : KeyState Session) (session : Session) :
    KeyStatus → KeyState Session
  | .running _ => state.fail session
  | .committed => state
  | .aborted => state

def keyStep (state : KeyState Session) : KeyTurn Session → KeyState Session
  | .advance session => state.advance session (state.status session)
  | .abort session => state.abort session (state.status session)

end Step

/-- Alone, the transaction passes every check. -/
def Committable (program : List KeyRow) : Prop :=
  (program.map KeyRow.idempotencyKey).Nodup ∧
    ∀ row ∈ program, ValidKey row.idempotencyKey

instance (program : List KeyRow) : Decidable (Committable program) :=
  inferInstanceAs (Decidable (_ ∧ _))

theorem committable_nil : Committable [] :=
  ⟨List.nodup_nil, fun _ hrow => absurd hrow List.not_mem_nil⟩

theorem Committable.concat {program : List KeyRow} {row : KeyRow}
    (hprogram : Committable program) (hrow : CheckIdempotency program row) :
    Committable (program ++ [row]) := by
  constructor
  · rw [List.map_append, List.map_singleton, ← List.concat_eq_append,
      List.nodup_concat]
    refine ⟨fun hmem => ?_, hprogram.1⟩
    obtain ⟨other, hother, hsame⟩ := List.mem_map.mp hmem
    exact hrow.2 other hother hsame
  · intro other hother
    rcases List.mem_append.mp hother with hold | hnew
    · exact hprogram.2 other hold
    · exact List.mem_singleton.mp hnew ▸ hrow.1

/-! ## What holds in every interleaving -/

/-- The rows that the transaction holds, committed or not. -/
def KeyStatus.live (program pending : List KeyRow) : KeyStatus → List KeyRow
  | .running _ => pending
  | .committed => program
  | .aborted => []

section Invariant

variable {Session : Type*} {programs : Session → List KeyRow}
variable {state : KeyState Session} {session : Session}

def KeyState.live (programs : Session → List KeyRow)
    (state : KeyState Session) (session : Session) : List KeyRow :=
  (state.status session).live (programs session) (state.rows.pending session)

structure KeyInvariant (programs : Session → List KeyRow)
    (state : KeyState Session) : Prop where
  split : ∀ session rest, state.status session = .running rest →
    programs session = state.rows.pending session ++ rest
  accepted : ∀ session, Committable (state.live programs session)
  /-- The unique index. -/
  disjoint : ∀ session other, session ≠ other →
    (state.live programs session).Disjoint (state.live programs other)
  /-- The committed rows are those of the committed transactions. -/
  committed : ∃ order : List Session, order.Nodup ∧
    (∀ session, session ∈ order ↔ state.status session = .committed) ∧
    state.rows.committed = order.flatMap programs

variable {rest : List KeyRow}

theorem live_of_running (hstatus : state.status session = .running rest) :
    state.live programs session = state.rows.pending session := by
  rw [KeyState.live, hstatus, KeyStatus.live]

theorem live_of_committed (hstatus : state.status session = .committed) :
    state.live programs session = programs session := by
  rw [KeyState.live, hstatus, KeyStatus.live]

theorem live_of_aborted (hstatus : state.status session = .aborted) :
    state.live programs session = [] := by
  rw [KeyState.live, hstatus, KeyStatus.live]

theorem keyInvariant_initial :
    KeyInvariant programs (KeyState.initial programs) where
  split := by
    intro session rest hstatus
    cases hstatus
    rfl
  accepted := fun _ => committable_nil
  disjoint := fun _ _ _ => List.disjoint_nil_left _
  committed := ⟨[], List.nodup_nil, fun _ =>
    ⟨fun hmem => absurd hmem List.not_mem_nil, fun h => KeyStatus.noConfusion h⟩,
    rfl⟩

variable {row : KeyRow} {other : Session}

/-- Every row of a committed transaction is in the table. -/
theorem KeyInvariant.mem_committed (hstate : KeyInvariant programs state)
    (hstatus : state.status session = .committed)
    (hrow : row ∈ programs session) : row ∈ state.rows.committed := by
  obtain ⟨order, -, horder, hrows⟩ := hstate.committed
  rw [hrows]
  exact List.mem_flatMap.mpr ⟨session, (horder session).mpr hstatus, hrow⟩

/-- An accepted row is in no other transaction that is not aborted: the index
keeps it out of the open ones, and the trigger out of the committed ones. -/
theorem KeyInvariant.row_not_mem_live (hstate : KeyInvariant programs state)
    (hcheck : CheckIdempotency (state.rows.visible session) row)
    (hindex : ¬ PendingElsewhere state.rows session row)
    (hother : other ≠ session) : row ∉ state.live programs other := by
  intro hrow
  cases hstatus : state.status other with
  | running rest =>
      rw [live_of_running hstatus] at hrow
      exact hindex ⟨other, hother, hrow⟩
  | committed =>
      rw [live_of_committed hstatus] at hrow
      exact hcheck.2 row
        (List.mem_append_left _ (hstate.mem_committed hstatus hrow)) rfl
  | aborted =>
      rw [live_of_aborted hstatus] at hrow
      exact absurd hrow List.not_mem_nil

/-! ### One session moves -/

variable {after : KeyState Session}

def OthersKeep (session : Session) (before after : KeyState Session) : Prop :=
  ∀ other, other ≠ session →
    after.rows.pending other = before.rows.pending other ∧
      after.status other = before.status other

theorem OthersKeep.live (hothers : OthersKeep session state after)
    (hother : other ≠ session) :
    after.live programs other = state.live programs other := by
  rw [KeyState.live, (hothers other hother).1, (hothers other hother).2,
    KeyState.live]

section Others

variable (hstate : KeyInvariant programs state)
  (hothers : OthersKeep session state after)

include hstate hothers

/-- The invariant after a move, from what holds of the session that moved. -/
theorem KeyInvariant.move
    (hsplit : ∀ rest, after.status session = .running rest →
      programs session = after.rows.pending session ++ rest)
    (haccepted : Committable (after.live programs session))
    (hdisjoint : ∀ other, other ≠ session →
      (after.live programs session).Disjoint (state.live programs other))
    (hcommitted : ∃ order : List Session, order.Nodup ∧
      (∀ other, other ∈ order ↔ after.status other = .committed) ∧
      after.rows.committed = order.flatMap programs) :
    KeyInvariant programs after where
  split := by
    intro other rest hrunning
    by_cases hother : other = session
    · subst hother
      exact hsplit rest hrunning
    · rw [(hothers other hother).2] at hrunning
      rw [(hothers other hother).1]
      exact hstate.split other rest hrunning
  accepted := by
    intro other
    by_cases hother : other = session
    · subst hother
      exact haccepted
    · rw [hothers.live hother]
      exact hstate.accepted other
  disjoint := by
    intro first second hne
    by_cases hfirst : first = session
    · subst hfirst
      rw [hothers.live hne.symm]
      exact hdisjoint second hne.symm
    · rw [hothers.live hfirst]
      by_cases hsecond : second = session
      · subst hsecond
        exact (hdisjoint first hne).symm
      · rw [hothers.live hsecond]
        exact hstate.disjoint first second hne
  committed := hcommitted

/-- A move that commits nothing. -/
theorem KeyInvariant.committed_of_open
    (hrows : after.rows.committed = state.rows.committed)
    (hbefore : state.status session ≠ .committed)
    (hafter : after.status session ≠ .committed) :
    ∃ order : List Session, order.Nodup ∧
      (∀ other, other ∈ order ↔ after.status other = .committed) ∧
      after.rows.committed = order.flatMap programs := by
  obtain ⟨order, hnodup, horder, hcommitted⟩ := hstate.committed
  refine ⟨order, hnodup, fun other => ?_, hrows.trans hcommitted⟩
  by_cases hother : other = session
  · subst hother
    rw [horder]
    exact iff_of_false hbefore hafter
  · rw [(hothers other hother).2]
    exact horder other

end Others

variable [DecidableEq Session]

theorem othersKeep_fail : OthersKeep session state (state.fail session) :=
  fun _ hother => ⟨Rows.pending_abort_of_ne state.rows hother,
    Function.update_of_ne hother _ _⟩

theorem othersKeep_insert (row : KeyRow) (rest : List KeyRow) :
    OthersKeep session state (state.insert session row rest) :=
  fun _ hother => ⟨Rows.pending_insert_of_ne state.rows row hother,
    Function.update_of_ne hother _ _⟩

theorem othersKeep_commit : OthersKeep session state (state.commit session) :=
  fun _ hother => ⟨Rows.pending_commit_of_ne state.rows hother,
    Function.update_of_ne hother _ _⟩

theorem status_fail : (state.fail session).status session = .aborted :=
  Function.update_self _ _ _

theorem status_insert (row : KeyRow) (rest : List KeyRow) :
    (state.insert session row rest).status session = .running rest :=
  Function.update_self _ _ _

theorem status_commit : (state.commit session).status session = .committed :=
  Function.update_self _ _ _

theorem pending_insert (row : KeyRow) (rest : List KeyRow) :
    (state.insert session row rest).rows.pending session =
      state.rows.pending session ++ [row] :=
  Rows.pending_insert_self state.rows row

section Steps

variable (hstate : KeyInvariant programs state)

include hstate

theorem KeyInvariant.fail (hstatus : state.status session = .running rest) :
    KeyInvariant programs (state.fail session) := by
  have hlive : (state.fail session).live programs session = [] :=
    live_of_aborted status_fail
  refine hstate.move othersKeep_fail ?_ ?_ ?_ ?_
  · intro rest hrunning
    exact KeyStatus.noConfusion (status_fail.symm.trans hrunning)
  · rw [hlive]
    exact committable_nil
  · intro other _
    rw [hlive]
    exact List.disjoint_nil_left _
  · refine hstate.committed_of_open othersKeep_fail rfl ?_ ?_
    · rw [hstatus]
      exact fun h => KeyStatus.noConfusion h
    · rw [status_fail]
      exact fun h => KeyStatus.noConfusion h

theorem KeyInvariant.insert
    (hstatus : state.status session = .running (row :: rest))
    (hcheck : CheckIdempotency (state.rows.visible session) row)
    (hindex : ¬ PendingElsewhere state.rows session row) :
    KeyInvariant programs (state.insert session row rest) := by
  have hlive : (state.insert session row rest).live programs session =
      state.live programs session ++ [row] := by
    rw [live_of_running (status_insert row rest), pending_insert,
      live_of_running hstatus]
  refine hstate.move (othersKeep_insert row rest) ?_ ?_ ?_ ?_
  · intro left hrunning
    rw [status_insert] at hrunning
    cases hrunning
    rw [pending_insert, List.append_assoc]
    exact hstate.split session (row :: rest) hstatus
  · rw [hlive]
    refine (hstate.accepted session).concat ⟨hcheck.1, fun held hheld => ?_⟩
    rw [live_of_running hstatus] at hheld
    exact hcheck.2 held (List.mem_append_right _ hheld)
  · intro other hother
    rw [hlive, List.disjoint_append_left, List.singleton_disjoint]
    exact ⟨hstate.disjoint session other hother.symm,
      hstate.row_not_mem_live hcheck hindex hother⟩
  · refine hstate.committed_of_open (othersKeep_insert row rest) rfl ?_ ?_
    · rw [hstatus]
      exact fun h => KeyStatus.noConfusion h
    · rw [status_insert]
      exact fun h => KeyStatus.noConfusion h

/-- A commit leaves what the transaction holds. -/
theorem KeyInvariant.commit (hstatus : state.status session = .running []) :
    KeyInvariant programs (state.commit session) := by
  have hprogram : programs session = state.rows.pending session := by
    rw [hstate.split session [] hstatus, List.append_nil]
  have hlive : (state.commit session).live programs session =
      state.live programs session := by
    rw [live_of_committed status_commit, live_of_running hstatus, hprogram]
  refine hstate.move othersKeep_commit ?_ ?_ ?_ ?_
  · intro rest hrunning
    exact KeyStatus.noConfusion (status_commit.symm.trans hrunning)
  · rw [hlive]
    exact hstate.accepted session
  · intro other hother
    rw [hlive]
    exact hstate.disjoint session other hother.symm
  · obtain ⟨order, hnodup, horder, hrows⟩ := hstate.committed
    have hnew : session ∉ order := by
      rw [horder, hstatus]
      exact fun h => KeyStatus.noConfusion h
    refine ⟨order ++ [session], ?_, fun other => ?_, ?_⟩
    · rw [← List.concat_eq_append, List.nodup_concat]
      exact ⟨hnew, hnodup⟩
    · rw [List.mem_append, List.mem_singleton]
      by_cases hother : other = session
      · subst hother
        exact iff_of_true (Or.inr rfl) status_commit
      · rw [(othersKeep_commit other hother).2, horder]
        exact or_iff_left hother
    · rw [List.flatMap_append, List.flatMap_singleton, hprogram, ← hrows]
      rfl

end Steps

variable [∀ (rows : Rows Session KeyRow) (session : Session) (row : KeyRow),
  Decidable (PendingElsewhere rows session row)]

theorem keyInvariant_step (state : KeyState Session) (turn : KeyTurn Session)
    (hstate : KeyInvariant programs state) (_ : True) :
    KeyInvariant programs (keyStep state turn) := by
  cases turn with
  | abort session =>
      rw [keyStep]
      cases hstatus : state.status session with
      | running rest => exact hstate.fail hstatus
      | committed => exact hstate
      | aborted => exact hstate
  | advance session =>
      rw [keyStep]
      cases hstatus : state.status session with
      | running rest =>
          cases rest with
          | nil => exact hstate.commit hstatus
          | cons row rest =>
              rw [KeyState.advance]
              by_cases hcheck : CheckIdempotency
                  (state.rows.visible session) row
              · rw [if_pos hcheck]
                by_cases hindex : PendingElsewhere state.rows session row
                · rw [if_pos hindex]
                  exact hstate
                · rw [if_neg hindex]
                  exact hstate.insert hstatus hcheck hindex
              · rw [if_neg hcheck]
                exact hstate.fail hstatus
      | committed => exact hstate
      | aborted => exact hstate

theorem keyInvariant_run (programs : Session → List KeyRow)
    (turns : List (KeyTurn Session)) :
    KeyInvariant programs
      (turns.foldl keyStep (KeyState.initial programs)) :=
  foldl_invariant keyInvariant_step keyInvariant_initial
    (throughout_of_forall (fun _ _ => trivial) turns _)

end Invariant

/-! ## Transactions that commit with one key -/

section Together

variable {Session : Type*} {programs : Session → List KeyRow}

/-- Transactions that share a key share a key at one `committed_at`. -/
def SharedKeysMeet (first second : List KeyRow) : Prop :=
  (∃ row ∈ first, ∃ other ∈ second,
    row.idempotencyKey = other.idempotencyKey) → ∃ row ∈ first, row ∈ second

variable {state : KeyState Session}

theorem KeyInvariant.nodup_keys (hstate : KeyInvariant programs state)
    (hmeet : ∀ session other, session ≠ other →
      Committable (programs session) → Committable (programs other) →
        SharedKeysMeet (programs session) (programs other)) :
    (state.rows.committed.map KeyRow.idempotencyKey).Nodup := by
  obtain ⟨order, hnodup, horder, hrows⟩ := hstate.committed
  have hlive : ∀ session ∈ order,
      state.live programs session = programs session :=
    fun session hsession => live_of_committed ((horder session).mp hsession)
  have haccepted : ∀ session ∈ order, Committable (programs session) :=
    fun session hsession => hlive session hsession ▸ hstate.accepted session
  rw [hrows, List.map_flatMap, List.nodup_flatMap]
  refine ⟨fun session hsession => (haccepted session hsession).1,
    hnodup.pairwise_of_forall_ne fun first hfirst second hsecond hne => ?_⟩
  intro key hkey hkey'
  obtain ⟨row, hrow, rfl⟩ := List.mem_map.mp hkey
  obtain ⟨other, hother, hsame⟩ := List.mem_map.mp hkey'
  obtain ⟨shared, hshared, hshared'⟩ := hmeet first second hne
    (haccepted first hfirst) (haccepted second hsecond)
    ⟨row, hrow, other, hother, hsame.symm⟩
  have hdisjoint := hstate.disjoint first second hne
  rw [hlive first hfirst, hlive second hsecond] at hdisjoint
  exact hdisjoint hshared hshared'

variable [DecidableEq Session]
variable [∀ (rows : Rows Session KeyRow) (session : Session) (row : KeyRow),
  Decidable (PendingElsewhere rows session row)] {session : Session}

/-- The session has made its inserts and the others have not moved. -/
structure InsertedBy (session : Session) (rows : List KeyRow)
    (before after : KeyState Session) : Prop where
  committed : after.rows.committed = before.rows.committed
  pending : after.rows.pending session = before.rows.pending session ++ rows
  status : after.status session = .running []
  others : OthersKeep session before after

/-- A transaction that meets no row of its own on the way makes all its
inserts. -/
theorem insertedBy_advances {rest : List KeyRow}
    (hstatus : state.status session = .running rest)
    (hcommitted : state.rows.committed = [])
    (hprogram : Committable (state.rows.pending session ++ rest))
    (hindex : ∀ row ∈ rest, ¬ PendingElsewhere state.rows session row) :
    InsertedBy session rest state
      ((List.replicate rest.length (KeyTurn.advance session)).foldl keyStep
        state) := by
  induction rest generalizing state with
  | nil =>
      exact ⟨rfl, (List.append_nil _).symm, hstatus, fun _ _ => ⟨rfl, rfl⟩⟩
  | cons row rest ih =>
      have hcheck : CheckIdempotency (state.rows.visible session) row := by
        refine ⟨hprogram.2 row (by simp), fun other hother => ?_⟩
        rw [Rows.visible, hcommitted, List.nil_append] at hother
        have hkeys := hprogram.1
        rw [List.map_append, List.map_cons] at hkeys
        exact (List.nodup_append.mp hkeys).2.2 _
          (List.mem_map_of_mem hother) _ List.mem_cons_self
      have hstep : keyStep state (.advance session) =
          state.insert session row rest := by
        simp only [keyStep, hstatus, KeyState.advance]
        rw [if_pos hcheck, if_neg (hindex row List.mem_cons_self)]
      have hprogram' : Committable
          ((state.insert session row rest).rows.pending session ++ rest) := by
        rw [pending_insert, List.append_assoc]
        exact hprogram
      have hindex' : ∀ later ∈ rest, ¬ PendingElsewhere
          (state.insert session row rest).rows session later := by
        rintro later hlater ⟨other, hother, hmem⟩
        rw [(othersKeep_insert row rest other hother).1] at hmem
        exact hindex later (List.mem_cons_of_mem _ hlater)
          ⟨other, hother, hmem⟩
      have hrest := ih (status_insert row rest) hcommitted hprogram' hindex'
      rw [List.length_cons, List.replicate_succ, List.foldl_cons, hstep]
      refine ⟨hrest.committed, ?_, hrest.status, fun other hother => ?_⟩
      · rw [hrest.pending, pending_insert, List.append_assoc]
        rfl
      · obtain ⟨hrows, hstill⟩ := hrest.others other hother
        obtain ⟨hrows', hstill'⟩ := othersKeep_insert row rest other hother
        exact ⟨hrows.trans hrows', hstill.trans hstill'⟩

/-- Both transactions make their inserts, then both commit. -/
def together (programs : Session → List KeyRow) (first second : Session) :
    List (KeyTurn Session) :=
  List.replicate (programs first).length (.advance first) ++
    List.replicate (programs second).length (.advance second) ++
    [.advance first, .advance second]

theorem keyStep_commit (hstatus : state.status session = .running []) :
    keyStep state (.advance session) = state.commit session := by
  simp only [keyStep, hstatus, KeyState.advance]

theorem committed_together {first second : Session} (hne : first ≠ second)
    (hfirst : Committable (programs first))
    (hsecond : Committable (programs second))
    (hdisjoint : ∀ row ∈ programs first, row ∉ programs second) :
    ((together programs first second).foldl keyStep
      (KeyState.initial programs)).rows.committed =
      programs first ++ programs second := by
  have hnone : ∀ row ∈ programs first,
      ¬ PendingElsewhere (KeyState.initial programs).rows first row := by
    rintro row - ⟨other, -, hmem⟩
    exact absurd hmem List.not_mem_nil
  set middle := (List.replicate (programs first).length
    (KeyTurn.advance first)).foldl keyStep (KeyState.initial programs)
  have hstart : InsertedBy first (programs first) (KeyState.initial programs)
      middle :=
    insertedBy_advances rfl rfl hfirst hnone
  have hmiddle : ∀ row ∈ programs second,
      ¬ PendingElsewhere middle.rows second row := by
    rintro row hrow ⟨other, hother, hmem⟩
    by_cases hsame : other = first
    · subst hsame
      rw [hstart.pending] at hmem
      exact hdisjoint row hmem hrow
    · rw [(hstart.others other hsame).1] at hmem
      exact absurd hmem List.not_mem_nil
  obtain ⟨hpending, hstatus⟩ := hstart.others second hne.symm
  have hprogram : Committable
      (middle.rows.pending second ++ programs second) := by
    rw [hpending]
    exact hsecond
  have hboth := insertedBy_advances hstatus hstart.committed hprogram hmiddle
  set last := (List.replicate (programs second).length
    (KeyTurn.advance second)).foldl keyStep middle
  have hlastFirst : last.status first = .running [] :=
    (hboth.others first hne).2.trans hstart.status
  have hlastSecond : (last.commit first).status second = .running [] :=
    (othersKeep_commit second hne.symm).2.trans hboth.status
  have hrun : (together programs first second).foldl keyStep
      (KeyState.initial programs) = (last.commit first).commit second := by
    rw [together, List.foldl_append, List.foldl_append, List.foldl_cons,
      List.foldl_cons, List.foldl_nil, keyStep_commit hlastFirst,
      keyStep_commit hlastSecond]
  have hfirstRows : last.rows.pending first = programs first := by
    rw [(hboth.others first hne).1, hstart.pending]
    rfl
  have hsecondRows : (last.commit first).rows.pending second =
      programs second := by
    rw [(othersKeep_commit second hne.symm).1, hboth.pending, hpending]
    rfl
  have hcommitted : (last.commit first).rows.committed = programs first := by
    change last.rows.committed ++ last.rows.pending first = _
    rw [hfirstRows, hboth.committed, hstart.committed]
    rfl
  rw [hrun]
  change (last.commit first).rows.committed ++
    (last.commit first).rows.pending second = _
  rw [hcommitted, hsecondRows]

/-- No interleaving of the transactions commits two rows with one key exactly if
any two of them that could commit alone and share a key insert some key at
the same `committed_at`. -/
theorem keys_unique_iff (programs : Session → List KeyRow) :
    (∀ turns : List (KeyTurn Session),
      ((turns.foldl keyStep
        (KeyState.initial programs)).rows.committed.map
          KeyRow.idempotencyKey).Nodup) ↔
      ∀ session other, session ≠ other → Committable (programs session) →
        Committable (programs other) →
          SharedKeysMeet (programs session) (programs other) := by
  constructor
  · rintro hunique first second hne hfirst hsecond
      ⟨row, hrow, other, hother, hsame⟩
    by_contra hmeet
    push Not at hmeet
    have hkeys := hunique (together programs first second)
    rw [committed_together hne hfirst hsecond hmeet, List.map_append] at hkeys
    exact (List.nodup_append.mp hkeys).2.2 _ (List.mem_map_of_mem hrow) _
      (List.mem_map_of_mem hother) hsame
  · intro hmeet turns
    exact (keyInvariant_run programs turns).nodup_keys hmeet

end Together

namespace KeySample

/-- Two transactions insert one key, a microsecond apart. -/
def programs (session : Bool) : List KeyRow :=
  [⟨"payment-1", if session then 101 else 100⟩]

def turns : List (KeyTurn Bool) :=
  [.advance false, .advance true, .advance false, .advance true]

theorem key_committed_twice :
    (turns.foldl keyStep (KeyState.initial programs)).rows.committed =
        [⟨"payment-1", 100⟩, ⟨"payment-1", 101⟩] ∧
      ¬ ((turns.foldl keyStep
        (KeyState.initial programs)).rows.committed.map
          KeyRow.idempotencyKey).Nodup := by
  decide +kernel

end KeySample

end UssdKernel.Ledger
