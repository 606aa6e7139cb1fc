import UssdKernel.Orchestrator.SessionHistory

/-!
# Relaying the outbox

`PollOutbox` appends the event of a selected row in one transaction and marks
the row in another, whose error it ignores.  A row can therefore be relayed
again, and ten recorded failures take it out of the selection without any
event.

A relay is a world together with the log of the events stored by polls, each
with the outbox row that caused it.
-/

namespace UssdKernel.OutboxRelay

open EventStore SessionHistory Results Runs

/-- `processed_at IS NULL AND retry_count < 10`. -/
def Selectable (row : OutboxRow) : Prop :=
  ¬ row.processed ∧ row.retryCount < 10

instance : DecidablePred Selectable := fun row =>
  inferInstanceAs (Decidable (¬ row.processed = true ∧ row.retryCount < 10))

structure Relay where
  world : World
  log : List (Uuid × EventRow)

/-- A row handed out by `rows.Next()` and what happens around it. -/
abbrev Delivery := OutboxRow × RowTurn

/-- The events that the outbox row with this id has caused. -/
def caused (log : List (Uuid × EventRow)) (outboxId : Uuid) : List EventRow :=
  (log.filter fun entry => entry.1 = outboxId).map Prod.snd

section Relaying

variable (sha256 : Bytes → Bytes) (marshal : Payload → Except String Bytes)

/-- One iteration of `PollOutbox`, with the events it stores logged. -/
def relayRow (relay : Relay) (delivery : Delivery) : Relay :=
  let after := pollRow sha256 marshal delivery.2 relay.world delivery.1
  { world := after
    log := relay.log ++
      (after.db.events.drop relay.world.db.events.length).map fun event =>
        (delivery.1.outboxId, event) }

/-- One call of `PollOutbox` on the rows it is handed. -/
def relayPoll (relay : Relay) (poll : List Delivery) : Relay :=
  poll.foldl (relayRow sha256 marshal) relay

/-- What a query may hand out before it ends or its connection breaks: rows
that are selectable when it starts, each once, in any order. -/
def Delivered (outbox : List OutboxRow) (poll : List Delivery) : Prop :=
  (poll.map Prod.fst).Subperm (outbox.filter fun row => Selectable row)

/-- A successful append is followed by a successful update, and a failed one
is not recorded on a row that has failed nine times. -/
def Recorded (relay : Relay) (delivery : Delivery) : Prop :=
  match append sha256 marshal delivery.2.choice relay.world.db
    [.domain (outboxEvent delivery.1 delivery.2.choice.occurredAt)] with
  | .ok _ => delivery.2.marked = true
  | .error _ => delivery.2.marked = true → ∀ row ∈ relay.world.outbox,
      row.outboxId = delivery.1.outboxId → row.retryCount ≠ 9

instance (relay : Relay) (delivery : Delivery) :
    Decidable (Recorded sha256 marshal relay delivery) :=
  match happend : append sha256 marshal delivery.2.choice relay.world.db
    [.domain (outboxEvent delivery.1 delivery.2.choice.occurredAt)] with
  | .ok _ => decidable_of_iff (delivery.2.marked = true)
      (by simp only [Recorded, happend])
  | .error _ => decidable_of_iff (delivery.2.marked = true →
      ∀ row ∈ relay.world.outbox,
        row.outboxId = delivery.1.outboxId → row.retryCount ≠ 9)
      (by simp only [Recorded, happend])

/-- The poll is one that the outbox admits, and all its rows are recorded. -/
def PollRecorded (relay : Relay) (poll : List Delivery) : Prop :=
  Delivered relay.world.outbox poll ∧
    Throughout (relayRow sha256 marshal) (Recorded sha256 marshal) poll relay

/-! ## The poll of the source -/

/-- The rows of a poll with their turns. -/
def deliveries (turns : ℕ → RowTurn) (index : ℕ) (rows : List OutboxRow) :
    List Delivery :=
  rows.mapIdx fun position row => (row, turns (index + position))

variable (turns : ℕ → RowTurn)

theorem world_relayPoll_deliveries (index : ℕ) (rows : List OutboxRow)
    (relay : Relay) :
    (relayPoll sha256 marshal relay (deliveries turns index rows)).world =
      pollRows sha256 marshal turns index rows relay.world := by
  induction rows generalizing index relay with
  | nil => rfl
  | cons row rows ih =>
      have htail : deliveries turns index (row :: rows) =
          (row, turns index) :: deliveries turns (index + 1) rows := by
        rw [deliveries, List.mapIdx_cons, deliveries]
        simp only [Nat.add_zero, Nat.add_assoc, Nat.add_comm 1]
      rw [htail, relayPoll, List.foldl_cons, ← relayPoll, ih]
      rfl

/-- A poll whose query runs to its end. -/
def fullPoll (turns : ℕ → RowTurn) (relay : Relay) : Relay :=
  relayPoll sha256 marshal relay
    (deliveries turns 0 (pending relay.world.outbox))

theorem run_pollOutbox (relay : Relay) :
    ((Operation.pollOutbox none turns).run sha256 marshal relay.world).2 =
      (fullPoll sha256 marshal turns relay).world :=
  (world_relayPoll_deliveries sha256 marshal turns 0 _ relay).symm

theorem delivered_pending (outbox : List OutboxRow) :
    Delivered outbox (deliveries turns 0 (pending outbox)) := by
  have hrows : (deliveries turns 0 (pending outbox)).map Prod.fst =
      pending outbox := by
    apply List.ext_getElem
    · simp [deliveries]
    · intro position _ _
      simp [deliveries]
  rw [Delivered, hrows]
  exact (List.take_sublist 100 _).subperm.trans
    (List.perm_insertionSort _ _).subperm

/-! ## One row -/

variable {sha256 marshal}

/-- A successful append of one event adds its row. -/
theorem events_of_append {choice : Choice} {db after : Database}
    {event : DomainEvent}
    (happend : append sha256 marshal choice db [.domain event] = .ok after) :
    ∃ row, row.streamId = event.aggId ∧ row.sequenceNumber = event.version ∧
      after.events = db.events ++ [row] := by
  unfold append at happend
  split at happend
  · cases happend
  · split at happend
    · cases happend
    · next records appended hcall =>
      cases happend
      obtain ⟨record, -, hone⟩ := appendTx_domain_eq_ok hcall
      obtain ⟨payload, row, log, -, rfl, -, rfl, -⟩ := appendOne_eq_ok hone
      exact ⟨_, rfl, rfl, rfl⟩

/-- `retry_count = retry_count + 1`. -/
def retried (row : OutboxRow) : OutboxRow :=
  { row with retryCount := row.retryCount + 1 }

/-- `processed_at = NOW()`. -/
def processed (row : OutboxRow) : OutboxRow :=
  { row with processed := true }

theorem outboxId_retried (row : OutboxRow) :
    (retried row).outboxId = row.outboxId := rfl

theorem outboxId_processed (row : OutboxRow) :
    (processed row).outboxId = row.outboxId := rfl

/-- Update the outbox row with this id, if the update goes through. -/
def marking (marked : Bool) (outboxId : Uuid)
    (change : OutboxRow → OutboxRow) (outbox : List OutboxRow) :
    List OutboxRow :=
  if marked then outbox.map fun row =>
    if row.outboxId = outboxId then change row else row
  else outbox

variable (sha256 marshal) in
/-- What relaying one row does. -/
theorem relayRow_cases (relay : Relay) (delivery : Delivery) :
    (∃ message, append sha256 marshal delivery.2.choice relay.world.db
          [.domain (outboxEvent delivery.1 delivery.2.choice.occurredAt)] =
        .error message ∧
      relayRow sha256 marshal relay delivery =
        ⟨⟨relay.world.db, marking delivery.2.marked delivery.1.outboxId
          retried relay.world.outbox⟩, relay.log⟩) ∨
    ∃ appended event, append sha256 marshal delivery.2.choice relay.world.db
          [.domain (outboxEvent delivery.1 delivery.2.choice.occurredAt)] =
        .ok appended ∧
      appended.events = relay.world.db.events ++ [event] ∧
      relayRow sha256 marshal relay delivery =
        ⟨⟨appended, marking delivery.2.marked delivery.1.outboxId
          processed relay.world.outbox⟩,
          relay.log ++ [(delivery.1.outboxId, event)]⟩ := by
  cases happend : append sha256 marshal delivery.2.choice relay.world.db
      [.domain (outboxEvent delivery.1 delivery.2.choice.occurredAt)] with
  | error message =>
      refine Or.inl ⟨message, rfl, ?_⟩
      simp only [relayRow, pollRow, happend, List.drop_length, List.map_nil,
        List.append_nil]
      rfl
  | ok appended =>
      obtain ⟨event, -, -, hevents⟩ := events_of_append happend
      refine Or.inr ⟨appended, event, rfl, hevents, ?_⟩
      simp only [relayRow, pollRow, happend, hevents, List.drop_left',
        List.map_singleton]
      rfl

/-! ## Whole runs -/

/-- Every row of the initial outbox has caused at most one event, and exactly
one if it was selectable and no longer is; the log holds every event stored
since. -/
structure ExactlyOnce (initial : World) (relay : Relay) : Prop where
  events : relay.world.db.events =
    initial.db.events ++ relay.log.map Prod.snd
  atMostOnce : ∀ before ∈ initial.outbox,
    (caused relay.log before.outboxId).length ≤ 1
  onceDone : ∀ before ∈ initial.outbox, Selectable before →
    ∀ row ∈ relay.world.outbox, row.outboxId = before.outboxId →
      ¬ Selectable row → (caused relay.log before.outboxId).length = 1

/-- Exactly-once, and no row that can still be selected has caused an
event. -/
structure Consistent (initial : World) (relay : Relay) : Prop
    extends ExactlyOnce initial relay where
  ids : relay.world.outbox.map OutboxRow.outboxId =
    initial.outbox.map OutboxRow.outboxId
  untouched : ∀ row ∈ relay.world.outbox, Selectable row →
    caused relay.log row.outboxId = []

theorem caused_append (log : List (Uuid × EventRow)) (outboxId : Uuid)
    (event : EventRow) (other : Uuid) :
    caused (log ++ [(outboxId, event)]) other =
      caused log other ++ if outboxId = other then [event] else [] := by
  rw [caused, List.filter_append, List.map_append, caused]
  congr 1
  by_cases hid : outboxId = other <;> simp [hid]

variable {change : OutboxRow → OutboxRow}

theorem ids_marking (marked : Bool) (outboxId : Uuid)
    (hchange : ∀ row, (change row).outboxId = row.outboxId)
    (outbox : List OutboxRow) :
    (marking marked outboxId change outbox).map OutboxRow.outboxId =
      outbox.map OutboxRow.outboxId := by
  unfold marking
  split
  · rw [List.map_map]
    apply List.map_congr_left
    intro row _
    dsimp only [Function.comp]
    split
    · exact hchange row
    · rfl
  · rfl

variable {outboxId : Uuid} {outbox : List OutboxRow}

/-- A row after a marking is a row before it, changed if it has the id and
the update went through. -/
theorem mem_marking {marked : Bool}
    (hchange : ∀ row, (change row).outboxId = row.outboxId) {row : OutboxRow}
    (hrow : row ∈ marking marked outboxId change outbox) :
    ∃ old ∈ outbox, old.outboxId = row.outboxId ∧
      ((old.outboxId ≠ outboxId ∨ marked = false) ∧ row = old ∨
        old.outboxId = outboxId ∧ marked = true ∧ row = change old) := by
  cases marked with
  | false => exact ⟨row, hrow, rfl, Or.inl ⟨Or.inr rfl, rfl⟩⟩
  | true =>
      obtain ⟨old, hold, hnew⟩ := List.mem_map.mp hrow
      by_cases hid : old.outboxId = outboxId
      · rw [if_pos hid] at hnew
        subst hnew
        exact ⟨old, hold, (hchange old).symm, Or.inr ⟨hid, rfl, rfl⟩⟩
      · rw [if_neg hid] at hnew
        subst hnew
        exact ⟨old, hold, rfl, Or.inl ⟨Or.inl hid, rfl⟩⟩

variable {initial : World} {relay : Relay}

/-- Outbox ids are distinct. -/
theorem eq_of_outboxId_eq (hids : (outbox.map OutboxRow.outboxId).Nodup)
    {left right : OutboxRow} (hleft : left ∈ outbox) (hright : right ∈ outbox)
    (hid : left.outboxId = right.outboxId) : left = right :=
  List.inj_on_of_nodup_map hids hleft hright hid

theorem consistent_initial
    (hids : (initial.outbox.map OutboxRow.outboxId).Nodup) :
    Consistent initial ⟨initial, []⟩ where
  events := (List.append_nil _).symm
  atMostOnce := fun _ _ => Nat.zero_le 1
  onceDone := by
    intro before hbefore hselectable row hrow hid hdone
    rw [eq_of_outboxId_eq hids hrow hbefore hid] at hdone
    exact absurd hselectable hdone
  ids := rfl
  untouched := fun _ _ _ => rfl

theorem relayRow_other {delivery : Delivery} {row : OutboxRow}
    (hrow : row ∈ (relayRow sha256 marshal relay delivery).world.outbox)
    (hid : row.outboxId ≠ delivery.1.outboxId) : row ∈ relay.world.outbox := by
  have hmarked : ∃ change : OutboxRow → OutboxRow,
      (∀ row, (change row).outboxId = row.outboxId) ∧
        row ∈ marking delivery.2.marked delivery.1.outboxId change
          relay.world.outbox := by
    rcases relayRow_cases sha256 marshal relay delivery with
      ⟨_, -, hafter⟩ | ⟨_, _, -, -, hafter⟩
    · rw [hafter] at hrow
      exact ⟨retried, outboxId_retried, hrow⟩
    · rw [hafter] at hrow
      exact ⟨processed, outboxId_processed, hrow⟩
  obtain ⟨change, hchange, hmem⟩ := hmarked
  obtain ⟨old, hold, holdId, ⟨-, rfl⟩ | ⟨hmine, -, -⟩⟩ :=
    mem_marking hchange hmem
  · exact hold
  · exact absurd (holdId.symm.trans hmine) hid

section Rounds

variable (hconsistent : Consistent initial relay)
include hconsistent

section Row

variable (hselectable : ∀ row ∈ relay.world.outbox, row.outboxId = outboxId →
  Selectable row)

include hselectable

/-- A recorded failure of a row below nine retries leaves it selectable. -/
theorem Consistent.failed {marked : Bool}
    (hretries : marked = true → ∀ row ∈ relay.world.outbox,
      row.outboxId = outboxId → row.retryCount ≠ 9) :
    Consistent initial
      ⟨⟨relay.world.db, marking marked outboxId retried
        relay.world.outbox⟩, relay.log⟩ where
  events := hconsistent.events
  atMostOnce := hconsistent.atMostOnce
  onceDone := by
    intro before hbefore hbeforeSelectable row hrow hid hdone
    obtain ⟨old, hold, holdId, ⟨-, rfl⟩ | ⟨hmine, hmarked, rfl⟩⟩ :=
      mem_marking outboxId_retried hrow
    · exact hconsistent.onceDone before hbefore hbeforeSelectable row hold hid
        hdone
    · have hold' := hselectable old hold hmine
      have hnine := hretries hmarked old hold hmine
      have hbelow : old.retryCount < 10 := hold'.2
      exact absurd ⟨hold'.1, by dsimp only [retried]; omega⟩ hdone
  ids := (ids_marking marked outboxId outboxId_retried _).trans hconsistent.ids
  untouched := by
    intro row hrow hrowSelectable
    obtain ⟨old, hold, holdId, ⟨-, rfl⟩ | ⟨hmine, -, -⟩⟩ :=
      mem_marking outboxId_retried hrow
    · exact hconsistent.untouched row hold hrowSelectable
    · rw [← holdId]
      exact hconsistent.untouched old hold (hselectable old hold hmine)

/-- A selectable row has caused no event yet. -/
theorem Consistent.caused_eq_nil {before : OutboxRow} (hbefore : before ∈ initial.outbox)
    (hid : before.outboxId = outboxId) : caused relay.log outboxId = [] := by
  have hmem : outboxId ∈ relay.world.outbox.map OutboxRow.outboxId := by
    rw [hconsistent.ids, ← hid]
    exact List.mem_map_of_mem hbefore
  obtain ⟨row, hrow, hrowId⟩ := List.mem_map.mp hmem
  rw [← hrowId]
  exact hconsistent.untouched row hrow (hselectable row hrow hrowId)

/-- An event that is stored and marked is the first and last of its row. -/
theorem Consistent.relayed {appended : Database} {event : EventRow}
    (hevents : appended.events = relay.world.db.events ++ [event]) :
    Consistent initial
      ⟨⟨appended, marking true outboxId processed relay.world.outbox⟩,
        relay.log ++ [(outboxId, event)]⟩ where
  events := by
    rw [hevents, hconsistent.events, List.append_assoc, List.map_append]
    rfl
  atMostOnce := by
    intro before hbefore
    rw [caused_append]
    by_cases hid : outboxId = before.outboxId
    · rw [if_pos hid, ← hid, hconsistent.caused_eq_nil hselectable hbefore
        hid.symm]
      rfl
    · rw [if_neg hid, List.append_nil]
      exact hconsistent.atMostOnce before hbefore
  onceDone := by
    intro before hbefore hbeforeSelectable row hrow hid hdone
    rw [caused_append]
    by_cases hmine : outboxId = before.outboxId
    · rw [if_pos hmine, ← hmine, hconsistent.caused_eq_nil hselectable hbefore
        hmine.symm]
      rfl
    · rw [if_neg hmine, List.append_nil]
      have hmarking : row ∈ marking true outboxId processed
          relay.world.outbox := hrow
      obtain ⟨old, hold, holdId, ⟨-, rfl⟩ | ⟨holdMine, -, -⟩⟩ :=
        mem_marking outboxId_processed hmarking
      · exact hconsistent.onceDone before hbefore hbeforeSelectable row hold
          hid hdone
      · exact absurd (holdMine.symm.trans (holdId.trans hid)) hmine
  ids := (ids_marking true outboxId outboxId_processed _).trans hconsistent.ids
  untouched := by
    intro row hrow hrowSelectable
    have hmarking : row ∈ marking true outboxId processed
        relay.world.outbox := hrow
    obtain ⟨old, hold, -, ⟨hother, rfl⟩ | ⟨-, -, rfl⟩⟩ :=
      mem_marking outboxId_processed hmarking
    · have hne : row.outboxId ≠ outboxId := by simpa using hother
      rw [caused_append, if_neg (Ne.symm hne), List.append_nil]
      exact hconsistent.untouched row hold hrowSelectable
    · exact absurd rfl hrowSelectable.1

end Row

/-- Relaying one selectable row keeps exactly-once, if it is recorded. -/
theorem Consistent.relayRow {delivery : Delivery}
    (hselectable : ∀ row ∈ relay.world.outbox,
      row.outboxId = delivery.1.outboxId → Selectable row)
    (hrecorded : Recorded sha256 marshal relay delivery) :
    Consistent initial (relayRow sha256 marshal relay delivery) := by
  rcases relayRow_cases sha256 marshal relay delivery with
    ⟨message, happend, hafter⟩ | ⟨appended, event, happend, hevents, hafter⟩
  · rw [Recorded, happend] at hrecorded
    rw [hafter]
    exact hconsistent.failed hselectable hrecorded
  · rw [Recorded, happend] at hrecorded
    rw [hafter, show delivery.2.marked = true from hrecorded]
    exact hconsistent.relayed hselectable hevents

theorem Consistent.relayRows {poll : List Delivery}
    (hnodup : (poll.map fun delivery => delivery.1.outboxId).Nodup)
    (hselectable : ∀ delivery ∈ poll, ∀ row ∈ relay.world.outbox,
      row.outboxId = delivery.1.outboxId → Selectable row)
    (hrecorded : Throughout (OutboxRelay.relayRow sha256 marshal)
      (Recorded sha256 marshal) poll relay) :
    Consistent initial (relayPoll sha256 marshal relay poll) := by
  induction poll generalizing relay with
  | nil => exact hconsistent
  | cons delivery poll ih =>
      rw [List.map_cons, List.nodup_cons] at hnodup
      apply ih (hconsistent.relayRow (hselectable delivery List.mem_cons_self)
        hrecorded.1) hnodup.2 _ hrecorded.2
      intro later hlater row hrow hid
      have hne : row.outboxId ≠ delivery.1.outboxId := by
        intro hsame
        apply hnodup.1
        rw [← hsame, hid]
        exact List.mem_map_of_mem hlater
      exact hselectable later (List.mem_cons_of_mem _ hlater) row
        (relayRow_other hrow hne) hid

end Rounds

/-- The rows of a poll are distinct and selectable. -/
theorem selectable_of_delivered (hids : (outbox.map OutboxRow.outboxId).Nodup)
    {poll : List Delivery} (hdelivered : Delivered outbox poll) :
    (poll.map fun delivery => delivery.1.outboxId).Nodup ∧
      ∀ delivery ∈ poll, ∀ row ∈ outbox,
        row.outboxId = delivery.1.outboxId → Selectable row := by
  obtain ⟨rows, hperm, hsublist⟩ := hdelivered
  constructor
  · have hrows : (rows.map OutboxRow.outboxId).Nodup :=
      hids.sublist ((hsublist.trans List.filter_sublist).map _)
    have hpoll := (hperm.map OutboxRow.outboxId).nodup_iff.mp hrows
    rwa [List.map_map] at hpoll
  · intro delivery hdelivery row hrow hid
    have hmem := hsublist.subset
      (hperm.mem_iff.mpr (List.mem_map_of_mem hdelivery))
    obtain ⟨hstored, hselectable⟩ := List.mem_filter.mp hmem
    rw [eq_of_outboxId_eq hids hrow hstored hid]
    exact of_decide_eq_true hselectable

/-- In every run of polls that record what they do, every row of the outbox
causes at most one event, and exactly one once it is no longer selectable. -/
theorem recorded_polls_relay_exactly_once
    (hids : (initial.outbox.map OutboxRow.outboxId).Nodup)
    {polls : List (List Delivery)}
    (hpolls : Throughout (relayPoll sha256 marshal)
      (PollRecorded sha256 marshal) polls ⟨initial, []⟩) :
    ExactlyOnce initial
      (polls.foldl (relayPoll sha256 marshal) ⟨initial, []⟩) := by
  apply Consistent.toExactlyOnce
  refine foldl_invariant ?_ (consistent_initial hids) hpolls
  intro relay poll hconsistent hrecorded
  have hrelayIds : (relay.world.outbox.map OutboxRow.outboxId).Nodup := by
    rw [hconsistent.ids]
    exact hids
  obtain ⟨hnodup, hselectable⟩ :=
    selectable_of_delivered hrelayIds hrecorded.1
  exact hconsistent.relayRows hnodup hselectable hrecorded.2

end Relaying

namespace Samples

open SessionHistory.Samples (confirmed marshal working)

/-- One unprocessed row and an empty event store. -/
def start : Relay where
  world := ⟨EventStore.Samples.empty, [confirmed]⟩
  log := []

/-- The real digests of the texts hashed in the runs. -/
def sha256 : Bytes → Bytes := HashTables.tableHash
  (SessionHistory.Samples.hashes ++
    [(Text.utf8 "\x7b\"reference_id\":\"ref-42\"\x7d1728000002000000000",
      HashTables.digest
        0xdb27b1ad30eae250b82e06d1fd390a34bb5cf091806bd07d815e063c2eb439f0)])

/-- A poll that appends in the given second after midnight. -/
def appending (seconds : ℤ) (marked : Bool) : ℕ → RowTurn := fun _ =>
  { choice := working (EventStore.Samples.midnight + seconds * 1000000000)
      seconds
    marked := marked }

/-- A poll whose append fails and whose update goes through. -/
def failing : ℕ → RowTurn := fun _ =>
  { choice :=
      { working EventStore.Samples.midnight 0 with
        failure := some "pq: could not serialize access" }
    marked := true }

/-- Rows of two sessions. -/
def two : Relay where
  world := ⟨EventStore.Samples.empty,
    [confirmed, { confirmed with outboxId := 2, aggregateId := 10 }]⟩
  log := []

/-- A poll appends the event of the first row and fails for the second. -/
def firstPoll : List Delivery :=
  deliveries
    (fun row => if row = 0 then appending 1 true row else failing row) 0
    (pending two.world.outbox)

def afterFirst : Relay := relayPoll sha256 marshal two firstPoll

/-- The next poll finds the second row and appends its event. -/
def secondPoll : List Delivery :=
  deliveries (appending 2 true) 0 (pending afterFirst.world.outbox)

end Samples

theorem recorded_polls_relay_exactly_once_two_rows :
    ExactlyOnce Samples.two.world
        (relayPoll Samples.sha256 SessionHistory.Samples.marshal
          Samples.afterFirst Samples.secondPoll) ∧
      Samples.afterFirst.world.outbox.map OutboxRow.retryCount = [0, 1] := by
  have hfirst : Throughout
      (relayRow Samples.sha256 SessionHistory.Samples.marshal)
      (Recorded Samples.sha256 SessionHistory.Samples.marshal)
      Samples.firstPoll Samples.two := by
    decide +kernel
  have hsecond : Throughout
      (relayRow Samples.sha256 SessionHistory.Samples.marshal)
      (Recorded Samples.sha256 SessionHistory.Samples.marshal)
      Samples.secondPoll Samples.afterFirst := by
    decide +kernel
  have hpolls : Throughout
      (relayPoll Samples.sha256 SessionHistory.Samples.marshal)
      (PollRecorded Samples.sha256 SessionHistory.Samples.marshal)
      [Samples.firstPoll, Samples.secondPoll] Samples.two :=
    ⟨⟨delivered_pending _ _, hfirst⟩, ⟨delivered_pending _ _, hsecond⟩, trivial⟩
  exact ⟨recorded_polls_relay_exactly_once (by decide) hpolls,
    by decide +kernel⟩

namespace Samples

/-- The event is stored, the row is not marked, and the next poll stores the
event again. -/
def relayedTwice : Relay :=
  fullPoll sha256 SessionHistory.Samples.marshal (appending 2 true)
    (fullPoll sha256 SessionHistory.Samples.marshal (appending 1 false) start)

/-- The append fails ten times, and every failure is recorded. -/
def givenUp : Relay :=
  (fullPoll sha256 SessionHistory.Samples.marshal failing)^[10] start

end Samples

/-- A row can cause two events, and a row can become unselectable without
any. -/
theorem relay_not_exactly_once :
    (caused Samples.relayedTwice.log 1).length = 2 ∧
      caused Samples.givenUp.log 1 = [] ∧
      Samples.givenUp.world.outbox.map (fun row =>
        (row.outboxId, row.retryCount, decide (Selectable row))) =
          [(1, 10, false)] := by
  decide +kernel

end UssdKernel.OutboxRelay
