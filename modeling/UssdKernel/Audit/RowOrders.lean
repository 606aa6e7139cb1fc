import UssdKernel.Audit.BatchBinding
import UssdKernel.Core.SortedOrders
import UssdKernel.Orchestrator.AppendEvent

/-!
# Row orders of a day

`fetch_events_for_range` orders the rows by `sequence_number` alone, which the
event store counts per stream.  The database may therefore return the events
of a day in more than one order, and the root of the day is the root of the
order that was returned.
-/

namespace UssdKernel.Batches

open UssdKernel.HashTables (digest tableHash)
open UssdKernel.Merkle
open UssdKernel.MerkleProofs
open UssdKernel.PairLevels
open UssdKernel.SortedOrders

def rangeRows (eventStore : List StoredEvent) (start stop : Timestamp) :
    List StoredEvent :=
  eventStore.filter fun row => start ≤ row.occurredAt ∧ row.occurredAt < stop

/-- The lists that `ORDER BY sequence_number ASC` may return. -/
def MayReturn (eventStore : List StoredEvent) (start stop : Timestamp)
    (rows : List StoredEvent) : Prop :=
  OrderedBy StoredEvent.sequenceNumber (rangeRows eventStore start stop) rows

instance {eventStore : List StoredEvent} {start stop : Timestamp}
    {rows : List StoredEvent} :
    Decidable (MayReturn eventStore start stop rows) :=
  inferInstanceAs (Decidable (OrderedBy _ _ _))

def dayRows (eventStore : List StoredEvent) (date : ℤ) : List StoredEvent :=
  rangeRows eventStore (date * day) (date * day + day)

/-- An order in which the rows of the day may be returned. -/
abbrev DayOrder (eventStore : List StoredEvent) (date : ℤ)
    (rows : List StoredEvent) : Prop :=
  MayReturn eventStore (date * day) (date * day + day) rows

section Model

variable (sha256 : Bytes → Bytes)

/-- `get_or_compute_batch_hash` on the rows that its query returns. -/
def getOrComputeBatchHashFrom (db : Database) (date : ℤ)
    (rows : List StoredEvent) (batchId : Uuid) (computedAt : Timestamp) :
    BatchHashRecord × Database :=
  getOrComputeOn sha256 db date (rows.map (StoredEvent.record sha256)) batchId
    computedAt

/-- The stable order is one of those that the query may return. -/
theorem getOrComputeBatchHash_eq_from (db : Database) (date : ℤ)
    (batchId : Uuid) (computedAt : Timestamp) :
    ∃ rows, DayOrder db.eventStore date rows ∧
      getOrComputeBatchHash sha256 db date batchId computedAt =
        getOrComputeBatchHashFrom sha256 db date rows batchId computedAt :=
  ⟨_, orderedBy_insertionSort _ _, rfl⟩

omit sha256 in
theorem upsertBatch_of_none {rows : List BatchHashRecord}
    {new : BatchHashRecord}
    (hnone : rows.find? (·.batchDate = new.batchDate) = none) :
    upsertBatch rows new = rows ++ [new] := by
  have hnew : ¬ rows.any (·.batchDate = new.batchDate) := by
    rw [List.any_eq_true, ← List.find?_isSome, hnone]
    exact Bool.false_ne_true
  rw [upsertBatch, if_neg hnew]

/-- The call leaves the database, or appends the row of a new date. -/
theorem getOrComputeBatchHashFrom_cases (db : Database) (date : ℤ)
    (rows : List StoredEvent) (batchId : Uuid) (computedAt : Timestamp) :
    let after :=
      (getOrComputeBatchHashFrom sha256 db date rows batchId computedAt).2
    after = db ∨ db.batchHashes.find? (·.batchDate = date) = none ∧
      after =
        { db with
          batchHashes := db.batchHashes ++
            [batchRecord sha256 date (rows.map (StoredEvent.record sha256))
              (findPreviousBatchHash db.batchHashes date) batchId
              computedAt] } := by
  dsimp only
  rw [getOrComputeBatchHashFrom, getOrComputeOn]
  cases hfound : db.batchHashes.find? (·.batchDate = date) with
  | some existing => exact Or.inl rfl
  | none =>
      have hrows : upsertBatch db.batchHashes (batchRecord sha256 date
            (rows.map (StoredEvent.record sha256))
            (findPreviousBatchHash db.batchHashes date) batchId computedAt) =
          db.batchHashes ++ [_] := upsertBatch_of_none hfound
      dsimp only
      rw [hrows]
      exact Or.inr ⟨rfl, rfl⟩

end Model

/-! ## What the root depends on -/

section Root

variable {sha256 : Bytes → Bytes} {db : Database} {date : ℤ}

/-- Every order that the query may return gives the same hashes. -/
def RootOfEvents (sha256 : Bytes → Bytes) (db : Database) (date : ℤ) : Prop :=
  ∀ rows other, DayOrder db.eventStore date rows →
    DayOrder db.eventStore date other →
      ∀ batchId otherBatchId computedAt otherComputedAt,
        let computed := (getOrComputeBatchHashFrom sha256 db date rows batchId
          computedAt).1
        let recomputed := (getOrComputeBatchHashFrom sha256 db date other
          otherBatchId otherComputedAt).1
        computed.batchHash = recomputed.batchHash ∧
          computed.sourceDataHash = recomputed.sourceDataHash

/-- Rows of the day with one sequence number have one payload. -/
def TiesAgree (eventStore : List StoredEvent) (date : ℤ) : Prop :=
  ∀ first ∈ dayRows eventStore date, ∀ second ∈ dayRows eventStore date,
    first.sequenceNumber = second.sequenceNumber →
      first.payloadText = second.payloadText

instance {eventStore : List StoredEvent} {date : ℤ} :
    Decidable (TiesAgree eventStore date) :=
  inferInstanceAs (Decidable (∀ first ∈ dayRows eventStore date, _))

/-- The strings hashed for the root of a list of rows: the payloads in the
query, the rest by the service. -/
def hashedStrings (sha256 : Bytes → Bytes) (rows : List StoredEvent) :
    List Bytes :=
  rows.map StoredEvent.payloadText ++
    hashInputs sha256 (rows.map (StoredEvent.record sha256))

theorem map_recordHash (rows : List StoredEvent) :
    (rows.map (StoredEvent.record sha256)).map EventRecord.recordHash =
      (rows.map StoredEvent.payloadText).map fun payload =>
        Text.hex (sha256 payload) := by
  rw [List.map_map, List.map_map]
  rfl

theorem leavesOf_eq (events : List EventRecord) :
    leavesOf sha256 events =
      (events.map EventRecord.recordHash).map sha256 := by
  rw [List.map_map]
  rfl

theorem sourceDataHash_eq (events : List EventRecord) :
    sourceDataHash sha256 events =
      Text.hex (sha256 (events.map EventRecord.recordHash).flatten) := by
  cases events with
  | nil => rfl
  | cons event events =>
      rw [sourceDataHash, List.flatMap_def]
      rfl

/-- The hashes of a batch depend on the record hashes in the order read. -/
theorem batchRecord_congr {events other : List EventRecord}
    (hrecords : events.map EventRecord.recordHash =
      other.map EventRecord.recordHash)
    (previous otherPrevious : Option Bytes) (batchId otherBatchId : Uuid)
    (computedAt otherComputedAt : Timestamp) :
    (batchRecord sha256 date events previous batchId computedAt).batchHash =
        (batchRecord sha256 date other otherPrevious otherBatchId
          otherComputedAt).batchHash ∧
      (batchRecord sha256 date events previous batchId
          computedAt).sourceDataHash =
        (batchRecord sha256 date other otherPrevious otherBatchId
          otherComputedAt).sourceDataHash := by
  constructor
  · simp only [batchRecord, leavesOf_eq, hrecords]
  · simp only [batchRecord, sourceDataHash_eq, hrecords]

/-- Without collisions, equally many rows with one root have the same
payloads. -/
theorem payloads_eq_of_root_eq
    (hdigest : ∀ data, (sha256 data).length = digestLength)
    {rows other : List StoredEvent} (hlength : rows.length = other.length)
    (hcollision : ¬ HashCollision sha256
      (hashedStrings sha256 rows ++ hashedStrings sha256 other))
    (hroot : rootOf sha256
        (leavesOf sha256 (rows.map (StoredEvent.record sha256))) =
      rootOf sha256
        (leavesOf sha256 (other.map (StoredEvent.record sha256)))) :
    rows.map StoredEvent.payloadText = other.map StoredEvent.payloadText := by
  rcases sameRecords_of_length_eq hdigest
    (by rw [List.length_map, List.length_map, hlength]) hroot with
    hrecords | hinputs
  · rw [map_recordHash, map_recordHash] at hrecords
    rcases eq_or_exists_ne_of_map_eq hrecords with
      hpayloads | ⟨payload, hpayload, changed, hchanged, hne, hhash⟩
    · exact hpayloads
    · exact absurd ⟨payload, List.mem_append_left _
          (List.mem_append_left _ hpayload), changed,
        List.mem_append_right _ (List.mem_append_left _ hchanged), hne,
        Text.hex_injective hhash⟩ hcollision
  · exact absurd (hashCollision_mono (List.subset_append_right _ _)
      (List.subset_append_right _ _) hinputs) hcollision

theorem getOrComputeBatchHashFrom_of_uncomputed (hdate : Uncomputed db date)
    (rows : List StoredEvent) (batchId : Uuid) (computedAt : Timestamp) :
    (getOrComputeBatchHashFrom sha256 db date rows batchId computedAt).1 =
      batchRecord sha256 date (rows.map (StoredEvent.record sha256))
        (findPreviousBatchHash db.batchHashes date) batchId computedAt := by
  rw [getOrComputeBatchHashFrom, getOrComputeOn, uncomputed_iff.mp hdate]

theorem rootOfEvents_of_stored (hdate : ¬ Uncomputed db date) :
    RootOfEvents sha256 db date := by
  intro rows other _ _ batchId otherBatchId computedAt otherComputedAt
  cases hfound : db.batchHashes.find? (·.batchDate = date) with
  | none => exact absurd (uncomputed_iff.mpr hfound) hdate
  | some existing =>
      simp only [getOrComputeBatchHashFrom, getOrComputeOn, hfound, and_self]

variable (hdigest : ∀ data, (sha256 data).length = digestLength)
  (hcollision : ∀ rows other, DayOrder db.eventStore date rows →
    DayOrder db.eventStore date other → ¬ HashCollision sha256
      (hashedStrings sha256 rows ++ hashedStrings sha256 other))

include hdigest hcollision

theorem rootOfEvents_iff_payloads (hdate : Uncomputed db date) :
    RootOfEvents sha256 db date ↔
      ∀ rows other, DayOrder db.eventStore date rows →
        DayOrder db.eventStore date other →
          rows.map StoredEvent.payloadText =
            other.map StoredEvent.payloadText := by
  constructor
  · intro hroot rows other hrows hother
    have hlength := (hrows.1.trans hother.1.symm).length_eq
    have hhash := (hroot rows other hrows hother 0 0 0 0).1
    rw [getOrComputeBatchHashFrom_of_uncomputed hdate,
      getOrComputeBatchHashFrom_of_uncomputed hdate] at hhash
    exact payloads_eq_of_root_eq hdigest hlength
      (hcollision rows other hrows hother) (Text.hex_injective hhash)
  · intro hpayloads rows other hrows hother batchId otherBatchId computedAt
      otherComputedAt
    rw [getOrComputeBatchHashFrom_of_uncomputed hdate,
      getOrComputeBatchHashFrom_of_uncomputed hdate]
    apply batchRecord_congr
    rw [map_recordHash, map_recordHash, hpayloads rows other hrows hother]

/-- The root of a day is a function of its events exactly if it is already
stored, or rows with one sequence number have one payload. -/
theorem daily_root_of_events_iff :
    RootOfEvents sha256 db date ↔
      ¬ Uncomputed db date ∨ TiesAgree db.eventStore date := by
  by_cases hdate : Uncomputed db date
  · rw [rootOfEvents_iff_payloads hdigest hcollision hdate,
      or_iff_right (not_not.mpr hdate)]
    exact map_eq_iff_ties
  · exact iff_of_true (rootOfEvents_of_stored hdate) (Or.inl hdate)

end Root

theorem daily_root_of_events_iff_closings :
    (∀ rows other, DayOrder Samples.closings 20000 rows →
        DayOrder Samples.closings 20000 other →
          ¬ HashCollision Samples.closingSha256
            (hashedStrings Samples.closingSha256 rows ++
              hashedStrings Samples.closingSha256 other)) ∧
      (RootOfEvents Samples.closingSha256 ⟨Samples.closings, []⟩ 20000 ↔
        ¬ Uncomputed ⟨Samples.closings, []⟩ 20000 ∨
          TiesAgree Samples.closings 20000) := by
  have horder : ∀ rows, DayOrder Samples.closings 20000 rows →
      rows = Samples.closings := by
    intro rows hrows
    have hclosings : DayOrder Samples.closings 20000 Samples.closings := by
      decide +kernel
    exact hrows.eq (by decide +kernel) hclosings
  have hcollision : ∀ rows other, DayOrder Samples.closings 20000 rows →
      DayOrder Samples.closings 20000 other →
        ¬ HashCollision Samples.closingSha256
          (hashedStrings Samples.closingSha256 rows ++
            hashedStrings Samples.closingSha256 other) := by
    intro rows other hrows hother
    rw [horder rows hrows, horder other hother]
    exact Samples.not_hashCollision_tableHash (by decide +kernel)
      (by decide +kernel)
  have hiff : RootOfEvents Samples.closingSha256 ⟨Samples.closings, []⟩
      20000 ↔ ¬ Uncomputed ⟨Samples.closings, []⟩ 20000 ∨
        TiesAgree Samples.closings 20000 :=
    daily_root_of_events_iff Samples.length_closingSha256 hcollision
  exact ⟨hcollision, hiff⟩

/-! ## Events of two streams -/

/-- A row of the event store as the audit service reads it.  The text of a
`jsonb` value is printed by the database. -/
def auditRow (jsonbText : Bytes → Bytes) (row : EventStore.EventRow) :
    StoredEvent where
  eventId := row.eventId
  sequenceNumber := row.sequenceNumber
  payloadText := jsonbText row.payload
  occurredAt := row.occurredAt

namespace Samples

def createdText : Bytes :=
  Text.utf8 "\x7b\"phone_number\": \"+263771234567\"\x7d"

/-- Agrees with `payload::text` on the payload of a created session and on
that of one that timed out. -/
def jsonbText (payload : Bytes) : Bytes :=
  if payload = Text.utf8 "\x7b\"phone_number\":\"+263771234567\"\x7d" then
    createdText
  else if payload = Text.utf8 "\x7b\"reason\":\"timeout\"\x7d" then
    closingPayload "timeout"
  else payload

def createdDigest : Bytes :=
  digest 0x669149cba7ddf71beb3adcf08cf36ddc7c1d7194fffd684a93def843a03fe1fb

def createdLeaf : Bytes :=
  digest 0x83298f2b30add8d9bdf40270a6c7419284962a6c4a88d3a83135c1a9f0486a6b

/-- The real digests for the two sessions, in both orders. -/
def sessionsTable : List (Bytes × Bytes) :=
  EventStore.Samples.hashes ++
    [(createdText, createdDigest),
      (closingPayload "timeout", timeoutDigest),
      (Text.hex createdDigest, createdLeaf),
      (Text.hex timeoutDigest, timeoutLeaf),
      (createdLeaf ++ timeoutLeaf, digest
        0xc0712c97fd4b956f0d43aa5cfa401922b7f5844c9bcf37c4d627dd714277ef62),
      (timeoutLeaf ++ createdLeaf, digest
        0x688767e227ce55d331771065bf3c915140032ac240dd6bcc66fe3b4b0d3d03fa),
      (Text.hex createdDigest ++ Text.hex timeoutDigest, digest
        0x6f715afae13905d392f9d279fa55a065db9c253eeb3d95aa1bb6ec991b5f71f4),
      (Text.hex timeoutDigest ++ Text.hex createdDigest, digest
        0x1c5dfcbcc3f718d5f6f73cd5f596c375307e83b6b644cb9855c9f86f1d19b11a)]

def sessionsSha256 : Bytes → Bytes := tableHash sessionsTable

def createSession : EventStore.AppendEventCommand where
  eventType := "SessionCreated"
  aggregateType := "USR_SESSION"
  aggregateId := 9
  expectedVersion := 0
  payload := EventStore.Samples.createdPayload
  idempotencyKey := ""
  tenantId := 5
  sessionId := 9
  correlationId := ""
  causationId := ""

def endOther : EventStore.AppendEventCommand :=
  { EventStore.Samples.endSession with aggregateId := 8, sessionId := 8 }

def appendAt (occurredAt : Timestamp) (eventId : Uuid) : EventStore.Choice where
  failure := none
  occurredAt := occurredAt
  env :=
    { now := occurredAt
      eventIds _ := eventId
      transactionIds _ := eventId }

/-- One session is created and another one ended, each by a call of its
own. -/
def twoSessions : EventStore.Database :=
  let created := (Programs.Prog.exec (EventStore.Op.respond sessionsSha256
    EventStore.Samples.marshal (appendAt EventStore.Samples.midnight 1))
      (EventStore.handle createSession) EventStore.Samples.empty).2
  (Programs.Prog.exec (EventStore.Op.respond sessionsSha256
    EventStore.Samples.marshal
      (appendAt (EventStore.Samples.midnight + 1000000000) 2))
      (EventStore.handle endOther) created).2

def sessionRows : List StoredEvent :=
  twoSessions.events.map (auditRow jsonbText)

end Samples

/-- The first events of two streams have the same sequence number, and the
two orders of them have different roots. -/
theorem tied_sequence_numbers_two_roots :
    Samples.sessionRows.map StoredEvent.sequenceNumber = [1, 1] ∧
      DayOrder Samples.sessionRows 20000 Samples.sessionRows ∧
      DayOrder Samples.sessionRows 20000 Samples.sessionRows.reverse ∧
      (getOrComputeBatchHashFrom Samples.sessionsSha256
          ⟨Samples.sessionRows, []⟩ 20000 Samples.sessionRows 1 0).1.batchHash =
        Text.hex (digest
          0xc0712c97fd4b956f0d43aa5cfa401922b7f5844c9bcf37c4d627dd714277ef62) ∧
      (getOrComputeBatchHashFrom Samples.sessionsSha256
          ⟨Samples.sessionRows, []⟩ 20000 Samples.sessionRows.reverse 1
          0).1.batchHash =
        Text.hex (digest
          0x688767e227ce55d331771065bf3c915140032ac240dd6bcc66fe3b4b0d3d03fa) ∧
      ¬ RootOfEvents Samples.sessionsSha256 ⟨Samples.sessionRows, []⟩
        20000 := by
  have horder : DayOrder Samples.sessionRows 20000 Samples.sessionRows := by
    decide +kernel
  have hreverse : DayOrder Samples.sessionRows 20000
      Samples.sessionRows.reverse := by
    decide +kernel
  refine ⟨by decide +kernel, horder, hreverse, by decide +kernel,
    by decide +kernel, ?_⟩
  intro hroot
  have hsame := (hroot _ _ horder hreverse 1 1 0 0).2
  revert hsame
  decide +kernel

end UssdKernel.Batches
