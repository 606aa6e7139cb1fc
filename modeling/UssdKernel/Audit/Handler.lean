import UssdKernel.Audit.RowOrders
import UssdKernel.Core.KeyedTables

/-!
# The audit handler

`compute_daily_batch` computes or loads the batch of a day, signs its hash and
writes the signature into the row; `get_merkle_proof` rebuilds the tree of an
event's day from the events stored now.  Both are programs over the statements
they send to the database, each of which commits on its own.  What a call does
when it runs alone is said once, in terms of the pure model of a batch.
-/

namespace UssdKernel.AuditHandler

open UssdKernel.Batches
open UssdKernel.HashTables (digest tableHash)
open UssdKernel.KeyedTables
open UssdKernel.Merkle
open UssdKernel.MerkleProofs
open UssdKernel.Programs
open UssdKernel.SortedOrders

/-- The errors of the two calls, and a panic of the task. -/
inductive AuditError
  | database (message : String)
  | eventNotFound (key : String)
  | internal (message : String)
  | panicked
  deriving DecidableEq

/-- A row of `integrity.batch_hashes` with the columns of its signature. -/
structure BatchRow where
  record : BatchHashRecord
  signature : Option Bytes
  keyId : Option String
  deriving DecidableEq

def BatchRow.batchDate (row : BatchRow) : ℤ :=
  row.record.batchDate

/-- A row as it is inserted. -/
def BatchRow.unsigned (record : BatchHashRecord) : BatchRow where
  record := record
  signature := none
  keyId := none

/-- The columns that `ON CONFLICT (batch_date) DO UPDATE` sets. -/
def BatchRow.replaced (new : BatchHashRecord) (row : BatchRow) : BatchRow :=
  { row with
    record :=
      { row.record with
        batchHash := new.batchHash
        recordCount := new.recordCount
        sourceDataHash := new.sourceDataHash
        computedAt := new.computedAt
        previousBatchHash := new.previousBatchHash } }

theorem BatchRow.batchDate_replaced (new : BatchHashRecord) (row : BatchRow) :
    (row.replaced new).batchDate = row.batchDate := rfl

/-- The columns that `update_batch_signature` sets. -/
def BatchRow.signed (signature : Bytes) (keyId : String) (now : Timestamp)
    (row : BatchRow) : BatchRow where
  record := { row.record with computedAt := now }
  signature := some signature
  keyId := some keyId

theorem BatchRow.batchDate_signed (signature : Bytes) (keyId : String)
    (now : Timestamp) (row : BatchRow) :
    (row.signed signature keyId now).batchDate = row.batchDate := rfl

structure AuditDb where
  eventStore : List StoredEvent
  batches : Table BatchRow.batchDate

/-- `INSERT .. ON CONFLICT (batch_date) DO UPDATE`. -/
def AuditDb.upserted (db : AuditDb) (record : BatchHashRecord) : AuditDb :=
  { db with
    batches := db.batches.upsert (BatchRow.unsigned record)
      (BatchRow.replaced record) (BatchRow.batchDate_replaced record) }

/-- `UPDATE .. WHERE batch_id = ..`, which may meet no row. -/
def AuditDb.signed (db : AuditDb) (batchId : Uuid) (signature : Bytes)
    (keyId : String) (now : Timestamp) : AuditDb :=
  { db with
    batches := db.batches.updateWhere (·.record.batchId = batchId)
      (BatchRow.signed signature keyId now)
      (BatchRow.batchDate_signed signature keyId now) }

/-- A loaded key: its signatures and the fingerprint of its public half. -/
structure SigningBackend where
  sign : Bytes → Except AuditError Bytes
  publicKeyFingerprint : String

structure MerkleProofRequest where
  transactionId : Option String
  eventId : Option String
  sequenceNumber : Option ℤ

structure MerkleProofResult where
  eventId : String
  targetId : String
  sequenceNumber : ℤ
  merkleRoot : Bytes
  proofHashes : List Bytes
  valid : Bool
  computedAt : Timestamp
  signature : String
  signerKeyId : String
  deriving DecidableEq

/-! ## Statements -/

inductive Op
  | selectBatch (date : ℤ)
  | fetchEventsForRange (start stop : Timestamp)
  | selectPrevious (date : ℤ)
  | newUuid
  | now
  | upsertBatch (record : BatchHashRecord)
  | sign (batchHash : Bytes)
  | updateBatchSignature (batchId : Uuid) (signature : Bytes) (keyId : String)
  | selectEventById (eventId : Uuid)
  | selectEventBySequence (sequenceNumber : ℤ)
  | appendEvent (row : StoredEvent)

abbrev Op.Res : Op → Type
  | selectBatch _ => Except String (Option BatchHashRecord)
  | fetchEventsForRange _ _ => Except String (List EventRecord)
  | selectPrevious _ => Except String (Option Bytes)
  | newUuid => Uuid
  | now => Timestamp
  | upsertBatch _ => Except String Unit
  | sign _ => Except AuditError (Bytes × String)
  | updateBatchSignature _ _ _ => Except String Unit
  | selectEventById _ => Except String (Option EventRecord)
  | selectEventBySequence _ => Except String (Option EventRecord)
  | appendEvent _ => Except String Unit

/-- What the surroundings add to one operation: a database error, the rows as
the database would like to return them, a fresh id, and the clock. -/
structure Choice where
  failure : Option String
  rows : List StoredEvent
  uuid : Uuid
  now : Timestamp

/-- The rows of a range in the preferred order, if the query may return it. -/
def returned (choice : Choice) (eventStore : List StoredEvent)
    (start stop : Timestamp) : List StoredEvent :=
  if MayReturn eventStore start stop choice.rows then choice.rows
  else (rangeRows eventStore start stop).insertionSort
    fun first second => first.sequenceNumber ≤ second.sequenceNumber

/-- `LIMIT 1` without an order: any of the matching rows. -/
def anyOf (choice : Choice) (rows : List StoredEvent) : Option StoredEvent :=
  (choice.rows.find? (· ∈ rows)).or rows.head?

def duplicateBatchId : String :=
  "duplicate key value violates unique constraint \"batch_hashes_pkey\""

section Model

variable (sha256 : Bytes → Bytes) (backend : SigningBackend) {A B : Type}

/-- The answer of a statement that fails or reads. -/
def answer {A : Type} (choice : Choice) (value : A) : Except String A :=
  match choice.failure with
  | some message => .error message
  | none => .ok value

/-- The answer of a statement that fails or writes. -/
def write (choice : Choice) (db after : AuditDb) :
    Except String Unit × AuditDb :=
  match choice.failure with
  | some message => (.error message, db)
  | none => (.ok (), after)

def Op.respond (choice : Choice) : (op : Op) → AuditDb → op.Res × AuditDb
  | selectBatch date, db =>
      (answer choice ((db.batches.lookup date).map BatchRow.record), db)
  | fetchEventsForRange start stop, db =>
      (answer choice ((returned choice db.eventStore start stop).map
        (StoredEvent.record sha256)), db)
  | selectPrevious date, db =>
      (answer choice (findPreviousBatchHash
        (db.batches.rows.map BatchRow.record) date), db)
  | newUuid, db => (choice.uuid, db)
  | now, db => (choice.now, db)
  | upsertBatch record, db =>
      -- the id is only inserted, and so only checked, for a new date
      if db.batches.lookup record.batchDate = none ∧
          ∃ row ∈ db.batches.rows, row.record.batchId = record.batchId then
        (.error duplicateBatchId, db)
      else write choice db (db.upserted record)
  | sign batchHash, db =>
      ((backend.sign batchHash).map fun signature =>
        (signature, backend.publicKeyFingerprint), db)
  | updateBatchSignature batchId signature keyId, db =>
      write choice db (db.signed batchId signature keyId choice.now)
  | selectEventById eventId, db =>
      (answer choice ((anyOf choice (db.eventStore.filter
        (·.eventId = eventId))).map (StoredEvent.record sha256)), db)
  | selectEventBySequence sequenceNumber, db =>
      (answer choice ((anyOf choice (db.eventStore.filter
        (·.sequenceNumber = sequenceNumber))).map
          (StoredEvent.record sha256)), db)
  | appendEvent row, db =>
      write choice db { db with eventStore := db.eventStore ++ [row] }

/-! ## Calls -/

abbrev Task (A : Type) := Prog Op Op.Res AuditError A

/-- `?` on the result of a query. -/
def orRaise {A : Type} : Except String A → Task A
  | .error message => Prog.raise (.database message)
  | .ok value => pure value

@[simp]
theorem orRaise_error_bind (message : String) (next : A → Task B) :
    (orRaise (.error message) >>= next) =
      Prog.done (.error (.database message)) := rfl

@[simp]
theorem orRaise_ok_bind (value : A) (next : A → Task B) :
    (orRaise (.ok value) >>= next) = next value := rfl

/-- `get_or_compute_batch_hash` when no row is stored for the date. -/
def computeBatchHash (date : ℤ) : Task BatchHashRecord := do
  let start := date * day
  let events ← orRaise
    (← Prog.call (Op.fetchEventsForRange start (start + day)))
  let previousBatchHash ← orRaise (← Prog.call (Op.selectPrevious date))
  let batchId ← Prog.call Op.newUuid
  let computedAt ← Prog.call Op.now
  let record := Batches.batchRecord sha256 date events previousBatchHash
    batchId computedAt
  orRaise (← Prog.call (Op.upsertBatch record))
  pure record

def getOrComputeBatchHash (date : ℤ) : Task BatchHashRecord := do
  match ← orRaise (← Prog.call (Op.selectBatch date)) with
  | some existing => pure existing
  | none => computeBatchHash sha256 date

def signBatchHash (batchHash : Bytes) : Task (Bytes × String) := do
  match ← Prog.call (Op.sign batchHash) with
  | .error error => Prog.raise error
  | .ok signed => pure signed

/-- The rest of `compute_daily_batch`, once the record is there. -/
def signBatch (record : BatchHashRecord) : Task BatchHashRecord := do
  let (signature, keyId) ← signBatchHash record.batchHash
  orRaise (← Prog.call
    (Op.updateBatchSignature record.batchId signature keyId))
  pure record

def computeDailyBatch (date : ℤ) : Task BatchHashRecord := do
  let record ← getOrComputeBatchHash sha256 date
  signBatch record

def fetchEvent (eventId : Option Uuid) (sequenceNumber : Option ℤ) :
    Task (Option EventRecord) := do
  match eventId, sequenceNumber with
  | some id, _ => orRaise (← Prog.call (Op.selectEventById id))
  | none, some number => orRaise (← Prog.call (Op.selectEventBySequence number))
  | none, none => pure none

variable (parseUuid : String → Except String Uuid)

def MerkleProofRequest.lookupKey (request : MerkleProofRequest) : String :=
  (request.eventId.or (request.sequenceNumber.map toString)).getD ""

def targetEventId (request : MerkleProofRequest) : Task (Option Uuid) :=
  match request.eventId.map parseUuid with
  | some (.error message) => Prog.raise (.internal message)
  | some (.ok id) => pure (some id)
  | none => pure none

/-- The event that a request names. -/
def targetEvent (request : MerkleProofRequest) : Task EventRecord := do
  let targetEventId ← targetEventId parseUuid request
  match ← fetchEvent targetEventId request.sequenceNumber with
  | none => Prog.raise (.eventNotFound request.lookupKey)
  | some event => pure event

/-- Root and proof of one of the day's events.  An index outside the arrays
panics. -/
def dayProof (events : List EventRecord) (leafIndex : ℕ) :
    Option (Bytes × List Bytes) := do
  let leaves := leavesOf sha256 events
  let (root, tree) ← buildMerkleTree sha256 leaves
  let proofHashes ← merkleProof tree leaves.length leafIndex
  return (root, proofHashes)

/-- The UTC date of a time. -/
def dateNaive (time : Timestamp) : ℤ :=
  time / day

/-- The rest of `get_merkle_proof`, once the event is found. -/
def proveEvent (transactionId : Option String) (event : EventRecord) :
    Task MerkleProofResult := do
  let start := dateNaive event.occurredAt * day
  let dayEvents ← orRaise
    (← Prog.call (Op.fetchEventsForRange start (start + day)))
  if dayEvents.isEmpty then
    Prog.raise (.eventNotFound (Text.uuid event.eventId))
  else
    match dayEvents.findIdx? (·.eventId = event.eventId) with
    | none => Prog.raise (.eventNotFound (Text.uuid event.eventId))
    | some leafIndex =>
        match dayProof sha256 dayEvents leafIndex with
        | none => Prog.raise .panicked
        | some (root, proofHashes) =>
            let computedAt ← Prog.call Op.now
            return {
              eventId := Text.uuid event.eventId
              targetId := transactionId.getD (Text.uuid event.eventId)
              sequenceNumber := event.sequenceNumber
              merkleRoot := root
              proofHashes
              valid := verifyMerkleProof sha256 (sha256 event.recordHash)
                leafIndex proofHashes root
              computedAt
              signature := ""
              signerKeyId := "" }

def getMerkleProof (request : MerkleProofRequest) :
    Task MerkleProofResult := do
  let event ← targetEvent parseUuid request
  proveEvent sha256 request.transactionId event

/-- Each operation of a call with its own choice. -/
def respondWith (choices : Op → Choice) (op : Op) (db : AuditDb) :
    op.Res × AuditDb :=
  op.respond sha256 backend (choices op) db

/-! ## Calls that run alone -/

variable {sha256 backend}

/-- The part of the database that the pure model of a batch speaks of. -/
def AuditDb.database (db : AuditDb) : Database where
  eventStore := db.eventStore
  batchHashes := db.batches.rows.map BatchRow.record

variable (choice : Choice) {A : Type}

theorem answer_cases (value : A) :
    (∃ message, answer choice value = .error message) ∨
      answer choice value = .ok value := by
  rw [answer]
  cases choice.failure with
  | none => exact Or.inr rfl
  | some message => exact Or.inl ⟨message, rfl⟩

theorem write_cases (db after : AuditDb) :
    (∃ message, write choice db after = (.error message, db)) ∨
      write choice db after = (.ok (), after) := by
  rw [write]
  cases choice.failure with
  | none => exact Or.inr rfl
  | some message => exact Or.inl ⟨message, rfl⟩

theorem mayReturn_returned (eventStore : List StoredEvent)
    (start stop : Timestamp) :
    MayReturn eventStore start stop
      (returned choice eventStore start stop) := by
  rw [returned]
  split
  · assumption
  · exact orderedBy_insertionSort _ _

theorem find?_database (db : AuditDb) (date : ℤ) :
    db.database.batchHashes.find? (·.batchDate = date) =
      (db.batches.lookup date).map BatchRow.record := by
  rw [AuditDb.database, List.find?_map]
  rfl

variable (sha256 backend) in
theorem respond_upsertBatch (record : BatchHashRecord) (db : AuditDb) :
    (∃ message, (Op.upsertBatch record).respond sha256 backend choice db =
        (.error message, db)) ∨
      (Op.upsertBatch record).respond sha256 backend choice db =
        (.ok (), db.upserted record) := by
  rw [Op.respond]
  split
  · exact Or.inl ⟨_, rfl⟩
  · exact write_cases choice db _

variable (choices : Op → Choice)

theorem exec_upsertBatch (record : BatchHashRecord) (db : AuditDb) :
    (∃ error, Prog.exec (respondWith sha256 backend choices) (do
        orRaise (← Prog.call (Op.upsertBatch record))
        pure record) db = (.error error, db)) ∨
      Prog.exec (respondWith sha256 backend choices) (do
        orRaise (← Prog.call (Op.upsertBatch record))
        pure record) db = (.ok record, db.upserted record) := by
  rw [Prog.exec_call_bind, respondWith]
  rcases respond_upsertBatch sha256 backend (choices (.upsertBatch record))
    record db with ⟨message, hupsert⟩ | hupsert
  · rw [hupsert]
    exact Or.inl ⟨.database message, rfl⟩
  · rw [hupsert]
    exact Or.inr rfl

/-- Computing a batch fails without effect, or upserts the record of the rows
it has read. -/
theorem exec_computeBatchHash (date : ℤ) (db : AuditDb) :
    (∃ error, Prog.exec (respondWith sha256 backend choices)
        (computeBatchHash sha256 date) db = (.error error, db)) ∨
      ∃ rows batchId computedAt record, DayOrder db.eventStore date rows ∧
        record = batchRecord sha256 date
          (rows.map (StoredEvent.record sha256))
          (findPreviousBatchHash db.database.batchHashes date) batchId
          computedAt ∧
        Prog.exec (respondWith sha256 backend choices)
            (computeBatchHash sha256 date) db =
          (.ok record, db.upserted record) := by
  let range := Op.fetchEventsForRange (date * day) (date * day + day)
  let rows := returned (choices range) db.eventStore (date * day)
    (date * day + day)
  let events := rows.map (StoredEvent.record sha256)
  let previous := findPreviousBatchHash
    (db.batches.rows.map BatchRow.record) date
  let record := batchRecord sha256 date events previous (choices .newUuid).uuid
    (choices .now).now
  rw [computeBatchHash]
  dsimp only
  rw [Prog.exec_call_bind, respondWith, Op.respond]
  rcases answer_cases (choices range) events with
    ⟨message, hevents⟩ | hevents
  · rw [hevents]
    exact Or.inl ⟨.database message, rfl⟩
  rw [hevents]
  dsimp only
  rw [orRaise_ok_bind, Prog.exec_call_bind, respondWith, Op.respond]
  rcases answer_cases (choices (.selectPrevious date)) previous with
    ⟨message, hprevious⟩ | hprevious
  · rw [hprevious]
    exact Or.inl ⟨.database message, rfl⟩
  rw [hprevious]
  dsimp only
  rw [orRaise_ok_bind, Prog.exec_call_bind, Prog.exec_call_bind,
    Prog.exec_call_bind]
  rcases exec_upsertBatch choices record db with ⟨error, hupsert⟩ | hupsert
  · exact Or.inl ⟨error, hupsert⟩
  · exact Or.inr ⟨rows, _, _, record, mayReturn_returned _ _ _ _, rfl, hupsert⟩

theorem database_upserted {db : AuditDb} {record : BatchHashRecord}
    (hnone : db.batches.lookup record.batchDate = none) :
    (db.upserted record).database =
      { db.database with
        batchHashes := Batches.upsertBatch db.database.batchHashes record } := by
  have hfound : db.database.batchHashes.find?
      (·.batchDate = record.batchDate) = none := by
    rw [find?_database, hnone]
    rfl
  rw [upsertBatch_of_none hfound, AuditDb.database, AuditDb.upserted,
    Table.rows_upsert_of_none _ _ _ _ hnone, List.map_append]
  rfl

/-- A call that is not disturbed fails without effect, or does what the pure
model does with the rows it has read. -/
theorem exec_getOrComputeBatchHash (date : ℤ) (db : AuditDb) :
    (∃ error, Prog.exec (respondWith sha256 backend choices)
        (getOrComputeBatchHash sha256 date) db = (.error error, db)) ∨
      ∃ rows batchId computedAt record after,
        DayOrder db.eventStore date rows ∧
          Prog.exec (respondWith sha256 backend choices)
              (getOrComputeBatchHash sha256 date) db = (.ok record, after) ∧
            (record, after.database) = getOrComputeBatchHashFrom sha256
              db.database date rows batchId computedAt := by
  rw [getOrComputeBatchHash, Prog.exec_call_bind, respondWith, Op.respond]
  rcases answer_cases (choices (.selectBatch date))
    ((db.batches.lookup date).map BatchRow.record) with
    ⟨message, hselect⟩ | hselect
  · rw [hselect]
    exact Or.inl ⟨.database message, rfl⟩
  rw [hselect]
  dsimp only
  rw [orRaise_ok_bind]
  cases hlookup : db.batches.lookup date with
  | some row =>
      refine Or.inr ⟨_, 0, 0, row.record, db, orderedBy_insertionSort _ _,
        rfl, ?_⟩
      rw [getOrComputeBatchHashFrom, getOrComputeOn, find?_database, hlookup]
      rfl
  | none =>
      rcases exec_computeBatchHash choices date db with
        ⟨error, hcompute⟩ | ⟨rows, batchId, computedAt, record, hrows, hrecord,
          hcompute⟩
      · exact Or.inl ⟨error, hcompute⟩
      · refine Or.inr ⟨rows, batchId, computedAt, record,
          db.upserted record, hrows, hcompute, ?_⟩
        have hnone : db.batches.lookup record.batchDate = none := by
          rw [hrecord]
          exact hlookup
        rw [getOrComputeBatchHashFrom, getOrComputeOn, find?_database, hlookup,
          database_upserted hnone, hrecord]
        rfl

/-- The columns of a batch that are fixed when its row is written. -/
structure Link where
  batchDate : ℤ
  batchHash : Bytes
  previousBatchHash : Option Bytes
  deriving DecidableEq

def linkOf (record : BatchHashRecord) : Link where
  batchDate := record.batchDate
  batchHash := record.batchHash
  previousBatchHash := record.previousBatchHash

def AuditDb.links (db : AuditDb) : List Link :=
  db.database.batchHashes.map linkOf

theorem links_signed (db : AuditDb) (batchId : Uuid) (signature : Bytes)
    (keyId : String) (now : Timestamp) :
    (db.signed batchId signature keyId now).links = db.links := by
  simp only [AuditDb.links, AuditDb.database, AuditDb.signed,
    Table.updateWhere, List.map_map]
  apply List.map_congr_left
  intro row _
  dsimp only [Function.comp]
  split <;> rfl

theorem exec_signBatchHash (batchHash : Bytes) (db : AuditDb) :
    Prog.exec (respondWith sha256 backend choices) (signBatchHash batchHash)
        db =
      ((backend.sign batchHash).map fun signature =>
        (signature, backend.publicKeyFingerprint), db) := by
  rw [signBatchHash, Prog.exec_call_bind, respondWith, Op.respond]
  cases backend.sign batchHash <;> rfl

variable (sha256 backend) in
/-- Signing and storing the signature leave the events and the links. -/
theorem exec_signBatch (record : BatchHashRecord) (db : AuditDb) :
    let after := (Prog.exec (respondWith sha256 backend choices)
      (signBatch record) db).2
    after.eventStore = db.eventStore ∧ after.links = db.links := by
  rw [signBatch, Prog.exec_bind, exec_signBatchHash]
  cases backend.sign record.batchHash with
  | error error => exact ⟨rfl, rfl⟩
  | ok signature =>
      dsimp only [Except.map]
      rw [Prog.exec_call_bind, respondWith, Op.respond]
      rcases write_cases (choices (.updateBatchSignature record.batchId
          signature backend.publicKeyFingerprint)) db
        (db.signed record.batchId signature backend.publicKeyFingerprint
          (choices (.updateBatchSignature record.batchId signature
            backend.publicKeyFingerprint)).now) with
        ⟨message, hwrite⟩ | hwrite
      · rw [hwrite]
        exact ⟨rfl, rfl⟩
      · rw [hwrite]
        exact ⟨rfl, links_signed _ _ _ _ _⟩

variable (sha256 backend) in
/-- A call that is not disturbed keeps the events.  It keeps the links too, or
it adds the link of the rows it has read, for a date without a row. -/
theorem exec_computeDailyBatch (date : ℤ) (db : AuditDb) :
    let after := (Prog.exec (respondWith sha256 backend choices)
      (computeDailyBatch sha256 date) db).2
    after.eventStore = db.eventStore ∧
      (after.links = db.links ∨
        db.batches.lookup date = none ∧
          ∃ rows, DayOrder db.eventStore date rows ∧
            after.links = db.links ++
              [{ batchDate := date
                 batchHash := Text.hex (rootOf sha256 (leavesOf sha256
                   (rows.map (StoredEvent.record sha256))))
                 previousBatchHash := findPreviousBatchHash
                   db.database.batchHashes date }]) := by
  rw [computeDailyBatch]
  rcases exec_getOrComputeBatchHash choices date db with
    ⟨error, hcompute⟩ |
      ⟨rows, batchId, computedAt, record, computed, hrows, hcompute, hpure⟩
  · rw [Prog.exec_bind_of_error hcompute]
    exact ⟨rfl, Or.inl rfl⟩
  · obtain ⟨hevents, hlinks⟩ :=
      exec_signBatch sha256 backend choices record computed
    have hafter := congrArg Prod.snd hpure
    dsimp only at hafter
    rw [Prog.exec_bind_of_ok hcompute]
    dsimp only
    rw [hevents, hlinks]
    rcases getOrComputeBatchHashFrom_cases sha256 db.database date rows batchId
      computedAt with hsame | ⟨hnone, happended⟩
    · rw [hsame] at hafter
      refine ⟨congrArg Database.eventStore hafter, Or.inl ?_⟩
      rw [AuditDb.links, hafter, AuditDb.links]
    · rw [happended] at hafter
      refine ⟨congrArg Database.eventStore hafter, Or.inr ⟨?_, rows, hrows, ?_⟩⟩
      · rwa [find?_database, Option.map_eq_none_iff] at hnone
      · rw [AuditDb.links, hafter, List.map_append]
        rfl

/-! ## Proofs that are returned -/

theorem dayProof_root {events : List EventRecord} {leafIndex : ℕ}
    {root : Bytes} {proofHashes : List Bytes}
    (hproof : dayProof sha256 events leafIndex = some (root, proofHashes)) :
    root = rootOf sha256 (leavesOf sha256 events) := by
  obtain ⟨tree, htree⟩ := buildMerkleTree_rootOf sha256
    (leavesOf sha256 events)
  rw [dayProof, htree] at hproof
  obtain ⟨proof, -, hpair⟩ := Option.bind_eq_some_iff.mp
    ((Option.bind_some _ _).symm.trans hproof)
  exact (Prod.mk.inj (Option.some.inj hpair)).1.symm

theorem exec_orRaise (response : Except String A) (db : AuditDb) :
    (Prog.exec (respondWith sha256 backend choices) (orRaise response) db).2 =
      db := by
  cases response <;> rfl

theorem exec_fetchEvent (eventId : Option Uuid) (sequenceNumber : Option ℤ)
    (db : AuditDb) :
    (Prog.exec (respondWith sha256 backend choices)
      (fetchEvent eventId sequenceNumber) db).2 = db := by
  cases eventId with
  | some id =>
      exact Prog.exec_bind_state rfl fun response =>
        exec_orRaise choices response db
  | none =>
      cases sequenceNumber with
      | some number =>
          exact Prog.exec_bind_state rfl fun response =>
            exec_orRaise choices response db
      | none => rfl

variable {parseUuid : String → Except String Uuid}

theorem exec_targetEvent (request : MerkleProofRequest) (db : AuditDb) :
    (Prog.exec (respondWith sha256 backend choices)
      (targetEvent parseUuid request) db).2 = db := by
  have hid : (Prog.exec (respondWith sha256 backend choices)
      (targetEventId parseUuid request) db).2 = db := by
    rw [targetEventId]
    split <;> rfl
  apply Prog.exec_bind_state hid
  intro id
  apply Prog.exec_bind_state (exec_fetchEvent choices id _ db)
  intro event
  cases event <;> rfl

/-- The call leaves the database, and a root that it returns is the root of
the rows it has read. -/
theorem exec_proveEvent (transactionId : Option String) (event : EventRecord)
    (db : AuditDb) :
    let outcome := Prog.exec (respondWith sha256 backend choices)
      (proveEvent sha256 transactionId event) db
    outcome.2 = db ∧ ∀ result, outcome.1 = .ok result →
      ∃ rows, DayOrder db.eventStore (dateNaive event.occurredAt) rows ∧
        result.merkleRoot = rootOf sha256 (leavesOf sha256
          (rows.map (StoredEvent.record sha256))) := by
  let date := dateNaive event.occurredAt
  let range := Op.fetchEventsForRange (date * day) (date * day + day)
  let rows := returned (choices range) db.eventStore (date * day)
    (date * day + day)
  rw [proveEvent]
  dsimp only
  rw [Prog.exec_call_bind, respondWith, Op.respond]
  rcases answer_cases (choices range)
    (rows.map (StoredEvent.record sha256)) with ⟨message, hrows⟩ | hrows
  · rw [hrows]
    exact ⟨rfl, fun result hresult => by cases hresult⟩
  rw [hrows]
  dsimp only
  rw [orRaise_ok_bind]
  split
  · exact ⟨rfl, fun result hresult => by cases hresult⟩
  cases hindex : (rows.map (StoredEvent.record sha256)).findIdx?
    (·.eventId = event.eventId) with
  | none => exact ⟨rfl, fun result hresult => by cases hresult⟩
  | some leafIndex =>
      dsimp only
      cases hproof : dayProof sha256 (rows.map (StoredEvent.record sha256))
        leafIndex with
      | none => exact ⟨rfl, fun result hresult => by cases hresult⟩
      | some proof =>
          refine ⟨rfl, ?_⟩
          intro result hresult
          cases hresult
          exact ⟨rows, mayReturn_returned _ _ _ _, dayProof_root hproof⟩

/-! ## Runs of calls -/

/-- An event that another service appends, or a call of the handler. -/
inductive Call
  | append (row : StoredEvent) (choice : Choice)
  | compute (date : ℤ) (choices : Op → Choice)
  | prove (request : MerkleProofRequest) (choices : Op → Choice)

variable (sha256 backend parseUuid)

def step (db : AuditDb) : Call → AuditDb
  | .append row choice =>
      ((Op.appendEvent row).respond sha256 backend choice db).2
  | .compute date choices =>
      (Prog.exec (respondWith sha256 backend choices)
        (computeDailyBatch sha256 date) db).2
  | .prove request choices =>
      (Prog.exec (respondWith sha256 backend choices)
        (getMerkleProof sha256 parseUuid request) db).2

def run (calls : List Call) (db : AuditDb) : AuditDb :=
  calls.foldl (step sha256 backend parseUuid) db

variable {sha256 backend parseUuid}

/-- What one call does to the events and the links: nothing, an event more, or
the link of a date that had none. -/
theorem step_cases (db : AuditDb) (call : Call) :
    let after := step sha256 backend parseUuid db call
    (after.eventStore = db.eventStore ∧ after.links = db.links) ∨
      (∃ row choice, call = .append row choice ∧
        after.eventStore = db.eventStore ++ [row] ∧
          after.links = db.links) ∨
      ∃ date choices rows, call = .compute date choices ∧
        db.batches.lookup date = none ∧ DayOrder db.eventStore date rows ∧
          after.eventStore = db.eventStore ∧
            after.links = db.links ++
              [{ batchDate := date
                 batchHash := Text.hex (rootOf sha256 (leavesOf sha256
                   (rows.map (StoredEvent.record sha256))))
                 previousBatchHash := findPreviousBatchHash
                   db.database.batchHashes date }] := by
  cases call with
  | append row choice =>
      rcases write_cases choice db
        { db with eventStore := db.eventStore ++ [row] } with
        ⟨message, hwrite⟩ | hwrite
      · left
        dsimp only [step]
        rw [Op.respond, hwrite]
        exact ⟨rfl, rfl⟩
      · refine Or.inr (Or.inl ⟨row, choice, rfl, ?_⟩)
        dsimp only [step]
        rw [Op.respond, hwrite]
        exact ⟨rfl, rfl⟩
  | compute date choices =>
      obtain ⟨hevents, hsame | ⟨hnone, rows, hrows, hlinks⟩⟩ :=
        exec_computeDailyBatch sha256 backend choices date db
      · exact Or.inl ⟨hevents, hsame⟩
      · exact Or.inr (Or.inr ⟨date, choices, rows, rfl, hnone, hrows, hevents,
          hlinks⟩)
  | prove request choices =>
      have hsame : step sha256 backend parseUuid db (.prove request choices) =
          db :=
        Prog.exec_bind_state (exec_targetEvent choices request db)
          fun event => (exec_proveEvent choices _ event db).1
      left
      rw [hsame]
      exact ⟨rfl, rfl⟩

end Model

namespace Samples

/-- The SHA-256 digest of the empty string. -/
def emptyDigest : Bytes :=
  digest 0xe3b0c44298fc1c149afbf4c8996fb92427ae41e4649b934ca495991b7852b855

/-- Ed25519 signatures of batch hashes under one key. -/
def signatures : List (Bytes × Bytes) :=
  [(Text.hex emptyDigest,
      digest 0xbaccba3ad37b0c95710e9db6bb442b357cf4e3bb54fc96876813cbbcb20158e4
        ++ digest
        0x193ee35206dd584e601afabb9dbd64834ea1ad601224f137055ce40dc48af509),
    (Text.hex Batches.Samples.closingsLeft,
      digest 0xbaccf4dfc04e50cf4f7194b7384437dfa34af36f0cf14dc6c09e789fc9d71134
        ++ digest
        0x59c8afb35c12ee3d2b2ddfa950ce1fc3e46512da1078bf4cce6b0732a6828a06),
    (Text.hex Batches.Samples.closingsRoot,
      digest 0x583a40c218c716157e6965c677ed4cd70aa6dbc5832d5fb671f6a02c670e2cd1
        ++ digest
        0xc102a0a7efe16a824ffa172f0d57f37004131b053dbe56dc37a5eae8d2f2d008)]

/-- Agrees with the software backend on the batch hashes above. -/
def backend : SigningBackend where
  sign message :=
    match signatures.lookup message with
    | some signature => .ok signature
    | none => .error (.internal "unknown batch hash")
  publicKeyFingerprint := "d75a980182b10ab7d54bfed3c964073a"

/-- Agrees with SHA-256 on the events that end sessions, and on the day
without any. -/
def sha256 : Bytes → Bytes :=
  tableHash (([], emptyDigest) :: Batches.Samples.closingsTable)

/-- Every statement succeeds. -/
def working (uuid : Uuid) (now : Timestamp) : Choice where
  failure := none
  rows := []
  uuid := uuid
  now := now

end Samples

end UssdKernel.AuditHandler
