import UssdKernel.Orchestrator.AppendOutcome
import UssdKernel.Orchestrator.OutboxRelay

/-!
# The versions of a stream

Two writers share the streams of the event store.  `Handle` stores the latest
version plus one, and `PollOutbox` stores version 1 for every row of the
outbox.  The versions of every aggregate are 1, 2, … in the order of appending
exactly if no relayed row meets an aggregate that has an event already.
-/

namespace UssdKernel.StreamVersions

open EventStore SessionHistory OutboxRelay Runs

/-- The numbers from 1 on, in order. -/
def Numbered (stored : List ℤ) : Prop :=
  stored = (List.range stored.length).map fun (k : ℕ) => (k : ℤ) + 1

def InOrder (db : Database) : Prop :=
  ∀ aggregateId, Numbered (versions db aggregateId)

section Numbers

variable {stored : List ℤ} {version : ℤ}

theorem Numbered.consecutive (hstored : Numbered stored) :
    Consecutive stored := by
  rw [Consecutive, ← hstored]

theorem numbered_append_iff :
    Numbered (stored ++ [version]) ↔
      Numbered stored ∧ version = stored.length + 1 := by
  rw [Numbered, List.length_append, List.length_singleton, List.range_succ,
    List.map_append]
  constructor
  · intro heq
    obtain ⟨hinit, hlast⟩ := List.append_inj' heq rfl
    exact ⟨hinit, List.singleton_inj.mp hlast⟩
  · rintro ⟨hinit, rfl⟩
    rw [← hinit]
    rfl

variable {db after : Database} {row : EventRow}

theorem versions_append_of_ne {aggregateId : Uuid}
    (hafter : after.events = db.events ++ [row])
    (hne : row.streamId ≠ aggregateId) :
    versions after aggregateId = versions db aggregateId := by
  simp [versions, hafter, hne]

/-- A new row keeps the order exactly if it carries the next number of its
stream. -/
theorem inOrder_append_iff (hafter : after.events = db.events ++ [row]) :
    InOrder after ↔ InOrder db ∧
      row.sequenceNumber = (versions db row.streamId).length + 1 := by
  have hown : versions after row.streamId =
      versions db row.streamId ++ [row.sequenceNumber] :=
    versions_append hafter rfl
  constructor
  · intro horder
    have hnumbered := horder row.streamId
    rw [hown, numbered_append_iff] at hnumbered
    refine ⟨fun aggregateId => ?_, hnumbered.2⟩
    by_cases hstream : row.streamId = aggregateId
    · rw [← hstream]
      exact hnumbered.1
    · rw [← versions_append_of_ne hafter hstream]
      exact horder aggregateId
  · rintro ⟨horder, hnext⟩ aggregateId
    by_cases hstream : row.streamId = aggregateId
    · rw [← hstream, hown, numbered_append_iff]
      exact ⟨horder row.streamId, hnext⟩
    · rw [versions_append_of_ne hafter hstream]
      exact horder aggregateId

end Numbers

/-! ## The writers -/

/-- What touches the event store or the outbox, one after the other. -/
inductive Write
  | handle (env : CallEnv) (command : AppendEventCommand)
  /-- One run of `PollOutbox` on the rows its query hands out. -/
  | poll (rows : List Delivery)
  /-- Another service inserts a row into the outbox. -/
  | enqueue (row : OutboxRow)

section Writers

variable (sha256 : Bytes → Bytes) (marshal : Payload → Except String Bytes)

/-- One iteration of `PollOutbox`. -/
def relay (world : World) (delivery : Delivery) : World :=
  pollRow sha256 marshal delivery.2 world delivery.1

def Write.run (world : World) : Write → World
  | handle env command =>
      { world with db := (handleAlone sha256 marshal env command world.db).2 }
  | poll rows => rows.foldl (relay sha256 marshal) world
  | enqueue row => { world with outbox := world.outbox ++ [row] }

theorem world_relayPoll (relaying : Relay) (rows : List Delivery) :
    (relayPoll sha256 marshal relaying rows).world =
      rows.foldl (relay sha256 marshal) relaying.world := by
  induction rows generalizing relaying with
  | nil => rfl
  | cons delivery rows ih =>
      rw [relayPoll, List.foldl_cons, List.foldl_cons, ← relayPoll, ih]
      rfl

/-- The poll of the orchestrator hands out its pending rows. -/
theorem run_pollOutbox_eq (turns : ℕ → RowTurn) (world : World) :
    ((Operation.pollOutbox none turns).run sha256 marshal world).2 =
      Write.run sha256 marshal world
        (.poll (deliveries turns 0 (pending world.outbox))) := by
  rw [run_pollOutbox sha256 marshal turns ⟨world, []⟩, fullPoll,
    world_relayPoll]
  rfl

/-- The row goes to an aggregate without events, unless its append fails. -/
def FirstOfStream (world : World) (delivery : Delivery) : Prop :=
  match append sha256 marshal delivery.2.choice world.db
    [.domain (outboxEvent delivery.1 delivery.2.choice.occurredAt)] with
  | .error _ => True
  | .ok _ => versions world.db delivery.1.aggregateId = []

instance (world : World) (delivery : Delivery) :
    Decidable (FirstOfStream sha256 marshal world delivery) :=
  match happend : append sha256 marshal delivery.2.choice world.db
    [.domain (outboxEvent delivery.1 delivery.2.choice.occurredAt)] with
  | .error _ => isTrue (by simp only [FirstOfStream, happend])
  | .ok _ => decidable_of_iff
      (versions world.db delivery.1.aggregateId = [])
      (by simp only [FirstOfStream, happend])

/-- Every row of a poll that is stored is the first event of its aggregate. -/
def RelaysFirst (world : World) : Write → Prop
  | .handle _ _ => True
  | .poll rows => Throughout (relay sha256 marshal)
      (FirstOfStream sha256 marshal) rows world
  | .enqueue _ => True

variable {sha256 marshal}

/-- `Handle` continues every numbering. -/
theorem inOrder_handleAlone_iff (env : CallEnv) (command : AppendEventCommand)
    (db : Database) :
    InOrder (handleAlone sha256 marshal env command db).2 ↔ InOrder db := by
  rcases AppendOutcome.handleAlone_cases sha256 marshal env command db with
    ⟨error, -, hanswer⟩ | ⟨row, after, hanswer, -, happended⟩
  · rw [hanswer]
  · rw [hanswer, inOrder_append_iff happended.events]
    apply and_iff_left_of_imp
    intro horder
    rw [happended.version, happended.carries.streamId]
    exact congrArg (· + 1) (horder command.aggregateId).consecutive.top_eq

theorem inOrder_relay_iff (world : World) (delivery : Delivery) :
    InOrder (relay sha256 marshal world delivery).db ↔
      InOrder world.db ∧ FirstOfStream sha256 marshal world delivery := by
  cases happend : append sha256 marshal delivery.2.choice world.db
      [.domain (outboxEvent delivery.1 delivery.2.choice.occurredAt)] with
  | error message =>
      simp only [relay, pollRow, FirstOfStream, happend, and_true]
  | ok appended =>
      obtain ⟨row, hstream, hversion, hevents⟩ := events_of_append happend
      have hnext : row.sequenceNumber =
          (versions world.db row.streamId).length + 1 ↔
            versions world.db delivery.1.aggregateId = [] := by
        rw [hversion, hstream, ← List.length_eq_zero_iff]
        change (1 : ℤ) = (versions world.db delivery.1.aggregateId).length + 1 ↔ _
        omega
      simp only [relay, pollRow, FirstOfStream, happend]
      rw [inOrder_append_iff hevents, hnext]

theorem inOrder_run_iff (world : World) (write : Write) :
    InOrder (write.run sha256 marshal world).db ↔
      InOrder world.db ∧ RelaysFirst sha256 marshal world write := by
  cases write with
  | handle env command =>
      exact (inOrder_handleAlone_iff env command world.db).trans
        (and_iff_left trivial).symm
  | poll rows =>
      exact foldl_iff_throughout (fun world : World => InOrder world.db)
        inOrder_relay_iff rows world
  | enqueue row => exact (and_iff_left trivial).symm

/-- After writes that do not overlap, the versions of every aggregate are 1, 2,
… in the order of appending exactly if every relayed row was the first event
of its aggregate. -/
theorem versions_in_order_iff {world : World} (hworld : InOrder world.db)
    (writes : List Write) :
    InOrder (writes.foldl (Write.run sha256 marshal) world).db ↔
      Throughout (Write.run sha256 marshal) (RelaysFirst sha256 marshal) writes
        world :=
  (foldl_iff_throughout (fun world : World => InOrder world.db)
    inOrder_run_iff writes world).trans (and_iff_right hworld)

end Writers

namespace Samples

open SessionHistory.Samples (confirmed marshal calls)
open OutboxRelay.Samples (sha256 appending)

/-- Two events of one payment, put into the outbox one after the other. -/
def start : World where
  db := EventStore.Samples.empty
  outbox := [confirmed, { confirmed with outboxId := 2 }]

/-- The second row is relayed a second after the first. -/
def bothRows : Write :=
  .poll [(confirmed, appending 1 true 0),
    ({ confirmed with outboxId := 2 }, appending 2 true 0)]

def firstRow : Write := .poll [(confirmed, appending 1 true 0)]

/-- `EndSession` on the aggregate of the rows, one second after midnight. -/
def endSession (expectedVersion : ℤ) : Write :=
  .handle (calls (EventStore.Samples.midnight + 1000000000) 3)
    { sessionEnded 9 5 "timeout" with expectedVersion := expectedVersion }

/-- The versions of aggregate 9 after the writes. -/
def versionsAfter (writes : List Write) : List ℤ :=
  versions (writes.foldl (Write.run sha256 marshal) start).db 9

end Samples

theorem inOrder_empty : InOrder EventStore.Samples.empty := fun _ => rfl

/-- The first row of the outbox is relayed, and `Handle` continues after it. -/
theorem versions_in_order_first_row :
    InOrder ([Samples.firstRow, Samples.endSession 1].foldl
        (Write.run OutboxRelay.Samples.sha256 SessionHistory.Samples.marshal)
        Samples.start).db ∧
      Samples.versionsAfter [Samples.firstRow, Samples.endSession 1] =
        [1, 2] := by
  have hfirst : Throughout
      (relay OutboxRelay.Samples.sha256 SessionHistory.Samples.marshal)
      (FirstOfStream OutboxRelay.Samples.sha256 SessionHistory.Samples.marshal)
      [(SessionHistory.Samples.confirmed,
        OutboxRelay.Samples.appending 1 true 0)] Samples.start := by
    decide +kernel
  exact ⟨(versions_in_order_iff inOrder_empty _).mpr ⟨hfirst, trivial, trivial⟩,
    by decide +kernel⟩

/-- Two rows of one payment, and a row relayed after an event of `Handle`, are
stored with the same version. -/
theorem relayed_versions_repeat :
    Samples.versionsAfter [Samples.bothRows] = [1, 1] ∧
      Samples.versionsAfter [Samples.endSession 0, Samples.firstRow] =
        [1, 1] ∧
      ¬ InOrder ([Samples.bothRows].foldl
        (Write.run OutboxRelay.Samples.sha256 SessionHistory.Samples.marshal)
        Samples.start).db := by
  have hboth : Samples.versionsAfter [Samples.bothRows] = [1, 1] := by
    decide +kernel
  refine ⟨hboth, by decide +kernel, fun horder => ?_⟩
  have hnumbered : Numbered (Samples.versionsAfter [Samples.bothRows]) :=
    horder 9
  rw [hboth] at hnumbered
  exact absurd hnumbered (by unfold Numbered; decide)

end UssdKernel.StreamVersions
