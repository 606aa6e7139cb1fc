import UssdKernel.Core.Interleaving
import UssdKernel.Orchestrator.EventStore

/-!
# Concurrent appends to one stream

`AppendEventHandler.Handle` reads the idempotency table and the latest version
from the connection pool and only then begins its serializable transaction,
which stores the version it read plus one.  Each of the three is one operation
of a program; a transaction is atomic, and the environment may make any
operation fail.
-/

namespace UssdKernel.EventStore

open UssdKernel.Programs UssdKernel.Interleaving

structure AppendEventCommand where
  eventType : String
  aggregateType : String
  aggregateId : Uuid
  expectedVersion : ℤ
  payload : Payload
  idempotencyKey : String
  tenantId : Uuid
  sessionId : Uuid
  correlationId : String
  causationId : String
  deriving DecidableEq

/-- The handler copies the record of the event field by field. -/
abbrev AppendEventResult := StoredEventRecord

inductive AppendError
  | duplicateEvent
  | concurrencyConflict
  | other (message : String)
  deriving DecidableEq

inductive Op
  | checkIdempotency (key : String)
  | getLatestVersion (aggregateId : Uuid)
  | transaction (command : AppendEventCommand) (latestVersion : ℤ)

abbrev Op.Res : Op → Type
  | checkIdempotency _ => Except String Bool
  | getLatestVersion _ => Except String ℤ
  | transaction _ _ => Except AppendError AppendEventResult

/-- What the surroundings add to one operation: a database error, the clock,
and the ids of the transaction. -/
structure Choice where
  failure : Option String
  occurredAt : Time
  env : TxEnv

/-- The versions stored for an aggregate, in commit order. -/
def versions (db : Database) (aggregateId : Uuid) : List ℤ :=
  (db.events.filter (·.streamId = aggregateId)).map EventRow.sequenceNumber

/-- `SELECT MAX(version)`, where no row counts as 0. -/
def latestVersion (db : Database) (aggregateId : Uuid) : ℤ :=
  (versions db aggregateId).max?.getD 0

section Handle

variable (sha256 : Bytes → Bytes) (marshal : Payload → Except String Bytes)

/-- `INSERT … ON CONFLICT (idempotency_key) DO NOTHING`; no inserted row means
a duplicate. -/
def storeIdempotency (db : Database) (key : String) (now : Time) :
    Except AppendError Database :=
  if db.idempotencyKeys.any (·.idempotencyKey = key) then
    .error .duplicateEvent
  else
    let row : IdempotencyRow :=
      { idempotencyKey := key
        requestType := "event_append"
        requestHash := Text.hex (sha256 (Text.utf8 key))
        expiresAt := now + 24 * 60 * 60 * 1000000000 }
    .ok { db with idempotencyKeys := db.idempotencyKeys ++ [row] }

/-- The event that `Handle` appends. -/
def AppendEventCommand.event (command : AppendEventCommand)
    (latestVersion : ℤ) (occurredAt : Time) : DomainEvent where
  type := command.eventType
  aggregateType := command.aggregateType
  aggId := command.aggregateId
  eventTime := occurredAt
  payload := command.payload
  version := latestVersion + 1
  tenantId := command.tenantId
  sessionId := command.sessionId
  correlation := command.correlationId
  causation := command.causationId
  idempotency := command.idempotencyKey

/-- The transaction from `BeginTx` to `Commit`. -/
def transact (choice : Choice) (command : AppendEventCommand)
    (latestVersion : ℤ) (db : Database) :
    Except AppendError AppendEventResult × Database :=
  let stored :=
    if command.idempotencyKey = "" then .ok db
    else storeIdempotency sha256 db command.idempotencyKey choice.occurredAt
  match stored with
  | .error error => (.error error, db)
  | .ok stored =>
      match appendTx sha256 marshal choice.env stored
        [.domain (command.event latestVersion choice.occurredAt)] with
      | .error message => (.error (.other message), db)
      | .ok ([], appended) =>
          (.error (.other "no event record returned"), appended)
      | .ok (record :: _, appended) =>
          (.ok record, appended)

def Op.respond (choice : Choice) :
    (op : Op) → Database → op.Res × Database
  | checkIdempotency key, db =>
      match choice.failure with
      | some message => (.error message, db)
      | none => (.ok (db.idempotencyKeys.any (·.idempotencyKey = key)), db)
  | getLatestVersion aggregateId, db =>
      match choice.failure with
      | some message => (.error message, db)
      | none => (.ok (latestVersion db aggregateId), db)
  | transaction command latestVersion, db =>
      match choice.failure with
      | some message => (.error (.other message), db)
      | none => transact sha256 marshal choice command latestVersion db

abbrev Task (A : Type) := Prog Op Op.Res AppendError A

def readLatest (command : AppendEventCommand) : Task ℤ := do
  match ← Prog.call (Op.getLatestVersion command.aggregateId) with
  | .error message => Prog.raise (.other message)
  | .ok latestVersion =>
      if command.expectedVersion ≥ 0 ∧
          latestVersion ≠ command.expectedVersion then
        Prog.raise .concurrencyConflict
      else pure latestVersion

def commit (command : AppendEventCommand) (latestVersion : ℤ) :
    Task AppendEventResult :=
  .perform (.transaction command latestVersion) fun result => .done result

def handle (command : AppendEventCommand) : Task AppendEventResult := do
  if command.idempotencyKey ≠ "" then
    match ← Prog.call (Op.checkIdempotency command.idempotencyKey) with
    | .error message => Prog.raise (.other message)
    | .ok true => Prog.raise .duplicateEvent
    | .ok false => pure ()
  let latestVersion ← readLatest command
  commit command latestVersion

/-! ## What a call reads and commits -/

variable {sha256 marshal} {command : AppendEventCommand} {aggregateId : Uuid}

/-- A call works on the aggregate, and its transaction carries the version it
has read. -/
def appendContract (aggregateId : Uuid) :
    Prog.Contract Op Op.Res (Option ℤ) where
  allowed note
    | .transaction command latestVersion =>
        command.aggregateId = aggregateId ∧ note = some latestVersion
    | .getLatestVersion id => id = aggregateId
    | .checkIdempotency _ => True
  observe note
    | .getLatestVersion _, .ok version => some version
    | _, _ => note

theorem meets_readLatest (hcommand : command.aggregateId = aggregateId)
    (note : Option ℤ) :
    (readLatest command).Meets (appendContract aggregateId)
      (fun later result => ∀ version, result = .ok version →
        later = some version) note := by
  refine ⟨hcommand, fun answer => ?_⟩
  cases answer with
  | error message => exact fun _ hresult => nomatch hresult
  | ok latest =>
      change Prog.Meets _ _ (some latest) (if _ then _ else _)
      split
      · exact fun _ hresult => nomatch hresult
      · intro version hversion
        rw [Except.ok.inj hversion]

theorem meets_handle (hcommand : command.aggregateId = aggregateId) :
    (handle command).Meets (appendContract aggregateId) (fun _ _ => True)
      none := by
  have hrest : (readLatest command >>= commit command).Meets
      (appendContract aggregateId) (fun _ _ => True) none := by
    rw [Prog.meets_bind]
    refine (meets_readLatest hcommand none).mono fun later result hread => ?_
    cases result with
    | error error => trivial
    | ok version => exact ⟨⟨hcommand, hread version rfl⟩, fun _ => trivial⟩
  unfold handle
  split
  · refine ⟨trivial, fun found => ?_⟩
    cases found with
    | error message => trivial
    | ok duplicate =>
        cases duplicate with
        | true => trivial
        | false => exact hrest
  · exact hrest

/-- The `INSERT` of a key adds one row. -/
theorem storeIdempotency_eq_ok {db stored : Database} {key : String}
    {now : Time} (hstored : storeIdempotency sha256 db key now = .ok stored) :
    stored.events = db.events ∧ ∃ row : IdempotencyRow,
      row.idempotencyKey = key ∧
        stored.idempotencyKeys = db.idempotencyKeys ++ [row] := by
  unfold storeIdempotency at hstored
  split at hstored
  · cases hstored
  · cases hstored
    exact ⟨rfl, _, rfl, rfl⟩

/-- The idempotency key changes no event. -/
theorem events_of_stored {db stored : Database} {key : String} {now : Time}
    (hstored : (if key = "" then .ok db
      else storeIdempotency sha256 db key now) = .ok stored) :
    stored.events = db.events := by
  split at hstored
  · cases hstored
    rfl
  · exact (storeIdempotency_eq_ok hstored).1

/-- A transaction that fails leaves the events, and one that commits appends
the row of its event. -/
theorem transact_cases (choice : Choice) (command : AppendEventCommand)
    (latest : ℤ) {db : Database} (hdb : Unwritten db) :
    let answer := transact sha256 marshal choice command latest db
    (answer.1.isOk = false ∧ answer.2.events = db.events) ∨
      answer.1.isOk = true ∧ ∃ row,
        Unlinked sha256 marshal (command.event latest choice.occurredAt) row ∧
          answer.2.events = db.events ++ [row] := by
  simp only [transact]
  cases hstored : (if command.idempotencyKey = "" then .ok db
      else storeIdempotency sha256 db command.idempotencyKey
        choice.occurredAt) with
  | error error => exact Or.inl ⟨rfl, rfl⟩
  | ok stored =>
      have hevents := events_of_stored hstored
      have hunwritten : Unwritten stored := by
        intro row hrow
        rw [hevents] at hrow
        exact hdb row hrow
      dsimp only
      cases happend : appendTx sha256 marshal choice.env stored
          [.domain (command.event latest choice.occurredAt)] with
      | error message => exact Or.inl ⟨rfl, rfl⟩
      | ok result =>
          obtain ⟨records, appended⟩ := result
          obtain ⟨row, record, hrow, hafter, rfl⟩ :=
            appendTx_singleton_eq_ok hunwritten happend
          refine Or.inr ⟨rfl, row, hrow, ?_⟩
          dsimp only
          rw [hafter, hevents]

end Handle

/-! ## Versions -/

/-- Exactly the numbers from 1 on, each once. -/
def Consecutive (stored : List ℤ) : Prop :=
  stored.Perm ((List.range stored.length).map fun (k : ℕ) => (k : ℤ) + 1)

/-- The largest version, 0 without versions. -/
def top (stored : List ℤ) : ℤ :=
  stored.max?.getD 0

section Versions

variable {stored : List ℤ} {version : ℤ}

theorem le_top (hversion : version ∈ stored) : version ≤ top stored := by
  cases hmax : stored.max? with
  | none =>
      rw [List.max?_eq_none_iff] at hmax
      rw [hmax] at hversion
      cases hversion
  | some largest =>
      rw [top, hmax]
      exact (List.max?_eq_some_iff.mp hmax).2 version hversion

theorem top_mem (hstored : stored ≠ []) : top stored ∈ stored := by
  cases hmax : stored.max? with
  | none => exact absurd (List.max?_eq_none_iff.mp hmax) hstored
  | some largest =>
      rw [top, hmax]
      exact (List.max?_eq_some_iff.mp hmax).1

theorem top_le_top_append (hversion : 1 ≤ version) :
    top stored ≤ top (stored ++ [version]) := by
  by_cases hstored : stored = []
  · subst hstored
    have hlast : version ≤ top ([] ++ [version]) := le_top (by simp)
    exact (show top [] ≤ version by simpa [top] using by omega).trans hlast
  · exact le_top (List.mem_append_left _ (top_mem hstored))

section Numbered

variable (hstored : Consecutive stored)
include hstored

theorem Consecutive.mem_iff :
    version ∈ stored ↔ 1 ≤ version ∧ version ≤ stored.length := by
  rw [List.Perm.mem_iff hstored, List.mem_map]
  constructor
  · rintro ⟨k, hk, rfl⟩
    have hlt := List.mem_range.mp hk
    omega
  · rintro ⟨hlow, hhigh⟩
    refine ⟨(version - 1).toNat, List.mem_range.mpr ?_, ?_⟩ <;> omega

theorem Consecutive.nodup : stored.Nodup := by
  apply hstored.nodup_iff.mpr
  apply List.Nodup.map _ List.nodup_range
  intro j k hjk
  simpa using hjk

theorem Consecutive.top_eq :
    top stored = stored.length := by
  by_cases hempty : stored = []
  · rw [hempty]
    rfl
  · have hlast := hstored.mem_iff.mp (top_mem hempty)
    have hlength := List.length_pos_iff.mpr hempty
    have hmem : (stored.length : ℤ) ∈ stored := by
      apply hstored.mem_iff.mpr
      omega
    exact le_antisymm hlast.2 (le_top hmem)

theorem Consecutive.append :
    Consecutive (stored ++ [top stored + 1]) := by
  rw [Consecutive, List.length_append, List.length_singleton, List.range_succ,
    List.map_append, hstored.top_eq]
  exact hstored.append_right _

/-- The next version is the only one in reach that is not stored yet. -/
theorem Consecutive.eq_of_nodup (hlow : 1 ≤ version)
    (hhigh : version ≤ top stored + 1) (hnodup : (stored ++ [version]).Nodup) :
    version = top stored + 1 := by
  by_contra hne
  have hmem : version ∈ stored := by
    apply hstored.mem_iff.mpr
    rw [← hstored.top_eq]
    omega
  exact List.disjoint_of_nodup_append hnodup hmem List.mem_cons_self

end Numbered

end Versions

/-! ## Calls in parallel -/

section Pool

variable {ι : Type} {sha256 : Bytes → Bytes}
  {marshal : Payload → Except String Bytes} {aggregateId : Uuid}

abbrev AppendPool (ι : Type) :=
  Pool ι Op Op.Res AppendError AppendEventResult Database (Option ℤ)

/-- Calls of `Handle` with the given commands. -/
def appendPool (commands : ι → AppendEventCommand) (db : Database) :
    AppendPool ι where
  state := db
  notes _ := none
  threads i := handle (commands i)

/-- The transaction of this turn commits. -/
def Commits (sha256 : Bytes → Bytes) (marshal : Payload → Except String Bytes)
    (pool : AppendPool ι) (turn : ι × Choice) (command : AppendEventCommand)
    (latest : ℤ) : Prop :=
  (pool.threads turn.1).operation = some (.transaction command latest) ∧
    (Op.respond sha256 marshal turn.2 (.transaction command latest)
      pool.state).1.isOk = true

/-- A transaction that commits in this turn has read the version that is still
the latest. -/
def ReadsLatest (sha256 : Bytes → Bytes)
    (marshal : Payload → Except String Bytes) (aggregateId : Uuid)
    (pool : AppendPool ι) (turn : ι × Choice) : Prop :=
  ∀ command latest, Commits sha256 marshal pool turn command latest →
    latest = latestVersion pool.state aggregateId

/-- Every version that a call has read was the latest at some time. -/
structure Sound (aggregateId : Uuid) (pool : AppendPool ι) : Prop where
  meet : pool.AllMeet (appendContract aggregateId) fun _ _ _ => True
  unwritten : Unwritten pool.state
  nonneg : 0 ≤ latestVersion pool.state aggregateId
  read : ∀ i version, pool.notes i = some version →
    0 ≤ version ∧ version ≤ latestVersion pool.state aggregateId

theorem events_respond_of_read {choice : Choice} {op : Op}
    (hop : ∀ command latest, op ≠ .transaction command latest)
    (db : Database) : (op.respond sha256 marshal choice db).2 = db := by
  cases op with
  | checkIdempotency key | getLatestVersion id =>
      unfold Op.respond
      split <;> rfl
  | transaction command latest => exact absurd rfl (hop command latest)

theorem versions_append {db after : Database} {row : EventRow}
    (hafter : after.events = db.events ++ [row])
    (hstream : row.streamId = aggregateId) :
    versions after aggregateId =
      versions db aggregateId ++ [row.sequenceNumber] := by
  simp [versions, hafter, hstream]

/-- A transaction of the pool fails without a trace or appends its row. -/
theorem respond_transaction_cases (choice : Choice)
    (command : AppendEventCommand) (latest : ℤ) {db : Database}
    (hdb : Unwritten db) :
    let answer := Op.respond sha256 marshal choice
      (.transaction command latest) db
    (answer.1.isOk = false ∧ answer.2.events = db.events) ∨
      answer.1.isOk = true ∧ ∃ row,
        Unlinked sha256 marshal (command.event latest choice.occurredAt) row ∧
          answer.2.events = db.events ++ [row] := by
  intro answer
  cases hfailure : choice.failure with
  | some message =>
      have hanswer : answer = (.error (.other message), db) := by
        simp only [answer, Op.respond, hfailure]
      rw [hanswer]
      exact Or.inl ⟨rfl, rfl⟩
  | none =>
      have hanswer : answer =
          transact sha256 marshal choice command latest db := by
        simp only [answer, Op.respond, hfailure]
      rw [hanswer]
      exact transact_cases choice command latest hdb

variable [DecidableEq ι] {pool : AppendPool ι}

section Turn

variable (hsound : Sound aggregateId pool) (turn : ι × Choice)

include hsound

/-- What a turn does to the events of the store. -/
theorem Sound.step_cases :
    let after := pool.step (Op.respond sha256 marshal)
      (appendContract aggregateId) turn
    (∀ command latest, ¬ Commits sha256 marshal pool turn command latest) ∧
        after.state.events = pool.state.events ∨
      ∃ command latest row, Commits sha256 marshal pool turn command latest ∧
        pool.notes turn.1 = some latest ∧
          after.state.events = pool.state.events ++ [row] ∧
            row.streamId = aggregateId ∧ row.sequenceNumber = latest + 1 ∧
              row.recordHash = none := by
  intro after
  cases hthread : pool.threads turn.1 with
  | done result =>
      refine Or.inl ⟨fun command latest hcommits => ?_, ?_⟩
      · rw [Commits, hthread] at hcommits
        cases hcommits.1
      · simp only [after, Pool.step_of_done hthread]
  | perform op next =>
      have hstate : after.state = _ := Pool.state_step hthread
      have hoperation : (pool.threads turn.1).operation = some op := by
        rw [hthread]
        rfl
      by_cases hop : ∃ command latest, op = .transaction command latest
      · obtain ⟨command, latest, rfl⟩ := hop
        obtain ⟨hcommand, hnote⟩ := hsound.meet.allowed hthread
        rcases respond_transaction_cases turn.2 command latest
          hsound.unwritten with ⟨hfailed, hevents⟩ | ⟨hok, row, hrow, hevents⟩
        · refine Or.inl ⟨fun other version hcommits => ?_, ?_⟩
          · obtain ⟨hsame, hok⟩ := hcommits
            rw [hoperation] at hsame
            cases hsame
            rw [hfailed] at hok
            cases hok
          · rw [hstate, hevents]
        · refine Or.inr ⟨command, latest, row, ⟨hoperation, hok⟩, hnote, ?_,
            hrow.streamId.trans hcommand, hrow.sequenceNumber, hrow.column⟩
          rw [hstate, hevents]
      · have hread : ∀ command latest, op ≠ .transaction command latest :=
          fun command latest hsame => hop ⟨command, latest, hsame⟩
        refine Or.inl ⟨fun command latest hcommits => ?_, ?_⟩
        · rw [Commits, hoperation] at hcommits
          exact hread command latest (Option.some.inj hcommits.1)
        · rw [hstate, events_respond_of_read hread]

/-- A turn leaves the versions, or appends the version after the one that the
mover has read. -/
theorem Sound.versions_step :
    let after := pool.step (Op.respond sha256 marshal)
      (appendContract aggregateId) turn
    (∀ command latest, ¬ Commits sha256 marshal pool turn command latest) ∧
        versions after.state aggregateId = versions pool.state aggregateId ∨
      ∃ command latest, Commits sha256 marshal pool turn command latest ∧
        0 ≤ latest ∧ latest ≤ latestVersion pool.state aggregateId ∧
          versions after.state aggregateId =
            versions pool.state aggregateId ++ [latest + 1] := by
  intro after
  rcases hsound.step_cases turn with ⟨hnone, hevents⟩ |
    ⟨command, latest, row, hcommits, hnote, hevents, hstream, hversion, -⟩
  · exact Or.inl ⟨hnone, by rw [versions, hevents, versions]⟩
  · obtain ⟨hnonneg, hlatest⟩ := hsound.read turn.1 latest hnote
    refine Or.inr ⟨command, latest, hcommits, hnonneg, hlatest, ?_⟩
    rw [versions_append hevents hstream, hversion]

theorem Sound.latestVersion_step :
    latestVersion pool.state aggregateId ≤
      latestVersion (pool.step (Op.respond sha256 marshal)
        (appendContract aggregateId) turn).state aggregateId := by
  rcases hsound.versions_step turn with ⟨-, hversions⟩ |
    ⟨command, latest, -, hnonneg, -, hversions⟩
  · exact (congrArg top hversions).ge
  · have hgrows : top (versions pool.state aggregateId) ≤
        top (versions pool.state aggregateId ++ [latest + 1]) :=
      top_le_top_append (by omega)
    exact hgrows.trans (congrArg top hversions).ge

end Turn

/-- A note after a turn is an old one, or the latest version read by the
mover. -/
theorem notes_step {turn : ι × Choice} {i : ι} {version : ℤ}
    (hmeet : pool.AllMeet (appendContract aggregateId) fun _ _ _ => True)
    (hnote : (pool.step (Op.respond sha256 marshal)
      (appendContract aggregateId) turn).notes i = some version) :
    pool.notes i = some version ∨
      version = latestVersion pool.state aggregateId := by
  cases hthread : pool.threads turn.1 with
  | done result =>
      rw [Pool.step_of_done hthread] at hnote
      exact Or.inl hnote
  | perform op next =>
      by_cases hi : i = turn.1
      · subst hi
        rw [Pool.notes_step_self hthread] at hnote
        cases op with
        | checkIdempotency key => exact Or.inl hnote
        | transaction command latest => exact Or.inl hnote
        | getLatestVersion id =>
            have hid : id = aggregateId := hmeet.allowed hthread
            subst hid
            cases hfailure : turn.2.failure with
            | some message =>
                simp only [Op.respond, hfailure] at hnote
                exact Or.inl hnote
            | none =>
                simp only [Op.respond, hfailure] at hnote
                exact Or.inr (Option.some.inj hnote).symm
      · rw [Pool.notes_step_of_ne hi] at hnote
        exact Or.inl hnote

section SoundSteps

variable (hsound : Sound aggregateId pool)
include hsound

theorem Sound.step (turn : ι × Choice) :
    Sound aggregateId (pool.step (Op.respond sha256 marshal)
      (appendContract aggregateId) turn) where
  meet := hsound.meet.step turn
  unwritten := by
    rcases hsound.step_cases turn with ⟨-, hevents⟩ |
      ⟨_, _, row, -, -, hevents, -, -, hcolumn⟩
    · intro row hrow
      rw [hevents] at hrow
      exact hsound.unwritten row hrow
    · apply hsound.unwritten.append _ hevents
      intro other hother
      rw [List.mem_singleton.mp hother]
      exact hcolumn
  nonneg := hsound.nonneg.trans (hsound.latestVersion_step turn)
  read := by
    intro i version hnote
    have hgrows : latestVersion pool.state aggregateId ≤
        latestVersion (pool.step (Op.respond sha256 marshal)
          (appendContract aggregateId) turn).state aggregateId :=
      hsound.latestVersion_step turn
    rcases notes_step hsound.meet hnote with hbefore | hlatest
    · obtain ⟨hnonneg, hle⟩ := hsound.read i version hbefore
      exact ⟨hnonneg, hle.trans hgrows⟩
    · rw [hlatest]
      exact ⟨hsound.nonneg, hgrows⟩

/-- The stored versions stay stored. -/
theorem Sound.versions_prefix_run (schedule : List (ι × Choice)) :
    versions pool.state aggregateId <+:
      versions (pool.run (Op.respond sha256 marshal)
        (appendContract aggregateId) schedule).state aggregateId := by
  induction schedule generalizing pool with
  | nil => exact List.prefix_rfl
  | cons turn schedule ih =>
      refine List.IsPrefix.trans ?_ (ih (hsound.step turn))
      rcases hsound.versions_step turn with ⟨-, hversions⟩ |
        ⟨_, latest, -, -, -, hversions⟩
      · rw [hversions]
      · rw [hversions]
        exact List.prefix_append _ _

section Versions

variable (hversions : Consecutive (versions pool.state aggregateId))

include hversions

/-- A turn keeps the versions consecutive if a committing call has read the
latest version. -/
theorem Sound.consecutive_step {turn : ι × Choice}
    (hreads : ReadsLatest sha256 marshal aggregateId pool turn) :
    Consecutive (versions (pool.step (Op.respond sha256 marshal)
      (appendContract aggregateId) turn).state aggregateId) := by
  rcases hsound.versions_step turn with ⟨-, hsame⟩ |
    ⟨command, latest, hcommits, -, -, happended⟩
  · rw [hsame]
    exact hversions
  · rw [happended, hreads command latest hcommits]
    exact hversions.append

/-- If no version is stored twice in the end, every committing call has read
the latest version. -/
theorem Sound.readsLatest_of_nodup {turn : ι × Choice}
    (hnodup : (versions (pool.step (Op.respond sha256 marshal)
      (appendContract aggregateId) turn).state aggregateId).Nodup) :
    ReadsLatest sha256 marshal aggregateId pool turn := by
  intro command latest hcommits
  rcases hsound.versions_step turn with ⟨hnone, -⟩ |
    ⟨other, read, hothers, hnonneg, hread, happended⟩
  · exact absurd hcommits (hnone command latest)
  · obtain ⟨-, rfl⟩ : other = command ∧ read = latest := by
      have hsame := hothers.1.symm.trans hcommits.1
      cases hsame
      exact ⟨rfl, rfl⟩
    rw [happended] at hnodup
    have hnext := hversions.eq_of_nodup (by omega)
      (show read + 1 ≤ top (versions pool.state aggregateId) + 1 from
        add_le_add_left hread 1) hnodup
    exact add_right_cancel hnext

theorem Sound.admissible_of_nodup {schedule : List (ι × Choice)}
    (hnodup : (versions (pool.run (Op.respond sha256 marshal)
      (appendContract aggregateId) schedule).state aggregateId).Nodup) :
    Pool.Admissible (Op.respond sha256 marshal) (appendContract aggregateId)
      (ReadsLatest sha256 marshal aggregateId) schedule pool := by
  induction schedule generalizing pool with
  | nil => trivial
  | cons turn schedule ih =>
      have hafter : Sound aggregateId (pool.step (Op.respond sha256 marshal)
          (appendContract aggregateId) turn) := hsound.step turn
      have hstep := (hafter.versions_prefix_run schedule).sublist.nodup hnodup
      have hreads := hsound.readsLatest_of_nodup hversions hstep
      exact ⟨hreads, ih hafter (hsound.consecutive_step hversions hreads)
        hnodup⟩

end Versions

end SoundSteps

/-- For calls of `Handle` on one aggregate without events, interleaved in any
way and with any failures, the committed versions are exactly `1, …, n` if and
only if every call that commits has read the version that is still the latest
when its transaction runs. -/
theorem committed_versions_consecutive_iff
    {commands : ι → AppendEventCommand} {db : Database}
    (hcommands : ∀ i, (commands i).aggregateId = aggregateId)
    (hdb : Unwritten db) (hempty : versions db aggregateId = [])
    (schedule : List (ι × Choice)) :
    Consecutive (versions ((appendPool commands db).run
        (Op.respond sha256 marshal) (appendContract aggregateId)
        schedule).state aggregateId) ↔
      Pool.Admissible (Op.respond sha256 marshal)
        (appendContract aggregateId) (ReadsLatest sha256 marshal aggregateId)
        schedule (appendPool commands db) := by
  have hsound : Sound aggregateId (appendPool commands db) := by
    refine ⟨fun i => meets_handle (hcommands i), hdb, ?_, ?_⟩
    · exact (congrArg top hempty).ge
    · intro i version hnote
      cases hnote
  have hstart : Consecutive
      (versions (appendPool commands db).state aggregateId) := by
    have hnil : versions (appendPool commands db).state aggregateId = [] :=
      hempty
    rw [hnil]
    exact List.Perm.refl _
  constructor
  · intro hfinal
    exact hsound.admissible_of_nodup hstart hfinal.nodup
  · intro hadmissible
    exact (Pool.run_invariant
      (fun pool => Sound aggregateId pool ∧
        Consecutive (versions pool.state aggregateId))
      (fun _ turn hpool hreads => ⟨hpool.1.step turn,
        hpool.1.consecutive_step hpool.2 hreads⟩)
      ⟨hsound, hstart⟩ hadmissible).2

end Pool

namespace Samples

/-- The append of `EndSession` for session 9. -/
def endSession : AppendEventCommand where
  eventType := "SessionEnded"
  aggregateType := ""
  aggregateId := 9
  expectedVersion := 0
  payload := endedPayload
  idempotencyKey := ""
  tenantId := 5
  sessionId := 9
  correlationId := ""
  causationId := ""

def working (now : Time) : Choice where
  failure := none
  occurredAt := midnight + 1000000000
  env := env now

/-- Two calls read the latest version before either of them commits. -/
def readBeforeCommit : List (Bool × Choice) :=
  [(false, working 1), (true, working 2), (false, working 3),
    (true, working 4)]

/-- The store after two calls of `EndSession` under a schedule. -/
def afterCalls (schedule : List (Bool × Choice)) : Database :=
  ((appendPool (fun _ => endSession) empty).run (Op.respond sha256 marshal)
    (appendContract 9) schedule).state

end Samples

theorem committed_versions_consecutive_iff_end_session :
    (∀ _ : Bool, Samples.endSession.aggregateId = 9) ∧
      (Consecutive
          (versions (Samples.afterCalls Samples.readBeforeCommit) 9) ↔
        Pool.Admissible (Op.respond Samples.sha256 Samples.marshal)
          (appendContract 9)
          (ReadsLatest Samples.sha256 Samples.marshal 9)
          Samples.readBeforeCommit
          (appendPool (fun _ => Samples.endSession) Samples.empty)) :=
  ⟨fun _ => rfl, committed_versions_consecutive_iff (fun _ => rfl)
    Samples.unwritten_empty rfl Samples.readBeforeCommit⟩

/-- Two calls that read version 0 both commit version 1. -/
theorem version_committed_twice :
    versions (Samples.afterCalls Samples.readBeforeCommit) 9 = [1, 1] ∧
      ¬ Consecutive
        (versions (Samples.afterCalls Samples.readBeforeCommit) 9) := by
  have hversions :
      versions (Samples.afterCalls Samples.readBeforeCommit) 9 = [1, 1] := by
    decide +kernel
  refine ⟨hversions, fun hconsecutive => ?_⟩
  have hnodup := hconsecutive.nodup
  rw [hversions] at hnodup
  exact absurd hnodup (by decide)

end UssdKernel.EventStore
