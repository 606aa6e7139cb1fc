import UssdKernel.Core.Data

/-!
# Liquidity positions

An active position is released by `release_liquidity_position`, and after its
expiry by `auto_expire_positions`.  Both set `released_at` to the present, while
`chk_release_dates` wants it to be no later than `expires_at`: a position can be
released only until it expires, and expired only at that very moment.
-/

namespace UssdKernel.Accounts.LiquidityPositions

inductive PositionStatus
  | active
  | released
  | expired
  | confiscated
  | pending
  deriving DecidableEq

/-- The columns of `core.liquidity_positions` that the functions read. -/
structure Position where
  positionId : Uuid
  status : PositionStatus
  expiresAt : Option ℤ
  releasedAt : Option ℤ
  autoRelease : Option Bool
  deriving DecidableEq

inductive PositionError
  | releaseDates
  | duplicateKey
  /-- A constraint on the columns that are left out. -/
  | invalidRow
  deriving DecidableEq

/-- The constraint `chk_release_dates`. -/
def Position.ReleaseDates (row : Position) : Prop :=
  ∀ released ∈ row.releasedAt, ∀ expires ∈ row.expiresAt, released ≤ expires

instance : DecidablePred Position.ReleaseDates := fun row =>
  inferInstanceAs (Decidable (∀ released ∈ row.releasedAt, _))

/-- The position is active and is to be released by now. -/
def Position.Due (now : ℤ) (row : Position) : Prop :=
  row.status = .active ∧ row.autoRelease = some true ∧
    ∃ expires ∈ row.expiresAt, expires ≤ now

instance (now : ℤ) : DecidablePred (Position.Due now) := fun _ =>
  inferInstanceAs (Decidable (_ ∧ _))

/-- The rows of the table; `position_id` is its primary key. -/
structure Positions where
  rows : List Position
  unique : (rows.map Position.positionId).Nodup

section Functions

variable (table : Positions) (now : ℤ) (positionId : Uuid)

/-- An `UPDATE` of columns other than the key.  It counts its rows, and fails if
one of them breaks the constraint. -/
def Positions.update (selects : Position → Prop) [DecidablePred selects]
    (change : Position → Position)
    (hchange : ∀ row, (change row).positionId = row.positionId) :
    Except PositionError (ℕ × Positions) :=
  if ∀ row ∈ table.rows, selects row → (change row).ReleaseDates then
    .ok (table.rows.countP (selects ·),
      { rows := table.rows.map fun row => if selects row then change row else row
        unique := by
          have hkeys : Position.positionId ∘ (fun row =>
              if selects row then change row else row) = Position.positionId := by
            funext row
            rw [Function.comp_apply, apply_ite Position.positionId, hchange,
              ite_self]
          rw [List.map_map, hkeys]
          exact table.unique })
  else .error .releaseDates

def createLiquidityPosition (expiresAt : Option ℤ) (autoRelease : Option Bool)
    (valid : Bool) : Except PositionError (Uuid × Positions) :=
  if valid = false then .error .invalidRow
  else if hused : positionId ∈ table.rows.map Position.positionId then
    .error .duplicateKey
  else
    .ok (positionId,
      ⟨⟨positionId, .active, expiresAt, none, autoRelease⟩ :: table.rows,
        table.unique.cons hused⟩)

/-- `p_reference` is taken to fit `release_reference`, a `VARCHAR(100)`. -/
def releaseLiquidityPosition : Except PositionError (Bool × Positions) :=
  if ∃ row ∈ table.rows, row.positionId = positionId ∧ row.status = .active then
    (table.update (·.positionId = positionId) (fun row =>
      { row with status := .released, releasedAt := some now })
        fun _ => rfl).map fun updated => (true, updated.2)
  else .ok (false, table)

def extendLiquidityPosition (newExpiresAt : Option ℤ) :
    Except PositionError (Bool × Positions) :=
  (table.update (fun row => row.positionId = positionId ∧
    row.status = .active ∧
      ∀ expires ∈ row.expiresAt, ∃ new ∈ newExpiresAt, expires < new)
    (fun row => { row with expiresAt := newExpiresAt }) fun _ => rfl).map
      fun updated => (decide (0 < updated.1), updated.2)

def autoExpirePositions : Except PositionError (ℕ × Positions) :=
  table.update (Position.Due now) (fun row =>
    { row with status := .expired, releasedAt := some now }) fun _ => rfl

end Functions

/-- A call, with the drawn identifier of a new position and the answer of the
constraints on its other columns. -/
inductive Call
  | create (positionId : Uuid) (expiresAt : Option ℤ)
      (autoRelease : Option Bool) (valid : Bool)
  | release (positionId : Uuid)
  | extend (positionId : Uuid) (newExpiresAt : Option ℤ)
  | autoExpire

def Call.perform (table : Positions) (now : ℤ) :
    Call → Except PositionError Positions
  | .create positionId expiresAt autoRelease valid =>
      (createLiquidityPosition table positionId expiresAt autoRelease valid).map
        Prod.snd
  | .release positionId =>
      (releaseLiquidityPosition table now positionId).map Prod.snd
  | .extend positionId newExpiresAt =>
      (extendLiquidityPosition table positionId newExpiresAt).map Prod.snd
  | .autoExpire => (autoExpirePositions table now).map Prod.snd

/-- A call at its time.  One that fails has no effect. -/
def step (table : Positions) (call : ℤ × Call) : Positions :=
  (call.2.perform table call.1).toOption.getD table

def run (calls : List (ℤ × Call)) : Positions :=
  calls.foldl step ⟨[], List.nodup_nil⟩

/-! ## When the two functions succeed -/

section Success

variable {table : Positions} {now : ℤ} {row : Position}

theorem autoExpirePositions_iff :
    (∃ count after, autoExpirePositions table now = .ok (count, after) ∧
        ∀ row ∈ after.rows, ¬ row.Due now) ↔
      ∀ row ∈ table.rows, row.Due now → row.expiresAt = some now := by
  rw [autoExpirePositions, Positions.update]
  constructor
  · rintro ⟨count, after, hok, -⟩ row hrow hdue
    split_ifs at hok with hdates
    obtain ⟨expires, hexpires, hpast⟩ := hdue.2.2
    have hfuture : now ≤ expires := hdates row hrow hdue now rfl expires hexpires
    rw [Option.mem_def.mp hexpires, le_antisymm hpast hfuture]
  · intro hpunctual
    rw [if_pos]
    · refine ⟨_, _, rfl, ?_⟩
      intro row hrow hdue
      obtain ⟨before, -, rfl⟩ := List.mem_map.mp hrow
      split_ifs at hdue with hbefore
      · cases hdue.1
      · exact hbefore hdue
    · intro row hrow hdue released hreleased expires hexpires
      cases hreleased
      have hnow : some now = some expires :=
        (hpunctual row hrow hdue).symm.trans hexpires
      exact (Option.some.inj hnow).le

theorem releaseLiquidityPosition_iff (hrow : row ∈ table.rows)
    (hactive : row.status = .active) :
    (∃ after, releaseLiquidityPosition table now row.positionId =
        .ok (true, after)) ↔
      ∀ expires ∈ row.expiresAt, now ≤ expires := by
  rw [releaseLiquidityPosition, if_pos ⟨row, hrow, rfl, hactive⟩,
    Positions.update]
  constructor
  · rintro ⟨after, hok⟩ expires hexpires
    split_ifs at hok with hdates
    · exact hdates row hrow rfl now rfl expires hexpires
    · cases hok
  · intro hopen
    rw [if_pos]
    · exact ⟨_, rfl⟩
    · intro other hother hsame released hreleased
      cases hreleased
      rwa [List.inj_on_of_nodup_map table.unique hother hrow hsame]

/-- At any time after any calls, `auto_expire_positions` does its work exactly
if every position that is due expires at this moment, and an active position is
released exactly if it has not expired before. -/
theorem positions_expire_and_release_iff (calls : List (ℤ × Call)) (now : ℤ) :
    ((∃ count after, autoExpirePositions (run calls) now = .ok (count, after) ∧
        ∀ row ∈ after.rows, ¬ row.Due now) ↔
      ∀ row ∈ (run calls).rows, row.Due now → row.expiresAt = some now) ∧
      ∀ row ∈ (run calls).rows, row.status = .active →
        ((∃ after, releaseLiquidityPosition (run calls) now row.positionId =
            .ok (true, after)) ↔
          ∀ expires ∈ row.expiresAt, now ≤ expires) :=
  ⟨autoExpirePositions_iff,
    fun _ hrow hactive => releaseLiquidityPosition_iff hrow hactive⟩

end Success

/-- A position created at second 0 that expires at second 10 can neither be
expired nor released at second 20. -/
theorem expired_position_stays_active :
    let table := run [(0, .create 1 (some 10) (some true) true)]
    table.rows = [⟨1, .active, some 10, none, some true⟩] ∧
      (autoExpirePositions table 20).toOption.isSome = false ∧
        (releaseLiquidityPosition table 20 1).toOption.isSome = false := by
  decide +kernel

end UssdKernel.Accounts.LiquidityPositions
