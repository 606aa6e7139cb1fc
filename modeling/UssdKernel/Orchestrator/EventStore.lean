import UssdKernel.Core.HashTables
import UssdKernel.Core.Results
import UssdKernel.Core.Text

/-!
# The event store

`AppendTx` of the orchestrator's Postgres adapter.  It reads the record hash
of the stream's latest event from a column that its own `INSERT` does not
write, hashes it together with the payload and the time, and stores hash and
previous hash in the metadata.  A statement that fails aborts the transaction,
so a failed call leaves no row.

`GetByAggregateID` selects five columns, two of them under names that the
`INSERT` does not use, and scans every row into six variables.
-/

namespace UssdKernel.EventStore

open Results

/-- Nanoseconds since the Unix epoch. -/
abbrev Time := ℤ

/-- A value of a payload map; arrays and objects are kept as their text. -/
inductive Value
  | null
  | bool (value : Bool)
  | number (text : String)
  | string (text : String)
  | nested (text : String)
  deriving DecidableEq

/-- A `map[string]interface{}`; `none` is the nil map. -/
abbrev Payload := Option (List (String × Value))

def field (payload : Payload) (key : String) : Option Value :=
  payload.bind (·.lookup key)

structure DomainEvent where
  type : String
  aggregateType : String
  aggId : Uuid
  eventTime : Time
  payload : Payload
  version : ℤ
  tenantId : Uuid
  sessionId : Uuid
  correlation : String
  causation : String
  idempotency : String
  deriving DecidableEq

/-- The `Event` interface: a `DomainEvent`, or another implementation of its
three methods. -/
inductive Event
  | domain (event : DomainEvent)
  | other (eventType : String) (aggregateId : Uuid) (occurredAt : Time)
  deriving DecidableEq

structure Metadata where
  tenantId : Option Uuid
  sessionId : Option Uuid
  idempotencyKey : Option String
  recordHash : Bytes
  previousHash : Bytes
  deriving DecidableEq

/-- A row of `events.event_store`.  `recordHash`, `aggregateId` and `version` are
what the queries read under these names, `NULL` unless a statement writes
it. -/
structure EventRow where
  eventId : Uuid
  eventType : String
  streamId : Uuid
  streamType : String
  sequenceNumber : ℤ
  payload : Bytes
  metadata : Metadata
  correlationId : Option String
  causationId : Option String
  triggeredBy : String
  occurredAt : Time
  recordedAt : Time
  aggregateVersion : ℤ
  recordHash : Option Bytes
  aggregateId : Option Uuid
  version : Option ℤ
  deriving DecidableEq

/-- A row of `core.transaction_log`. -/
structure TransactionRow where
  transactionUuid : Uuid
  idempotencyKey : String
  transactionTypeId : Uuid
  applicationId : Option Uuid
  initiatorAccountId : Uuid
  payload : Bytes
  amount : Option Value
  currency : String
  status : String
  committedAt : Time
  correlationId : Option String
  causationId : Option String
  recordHash : Bytes
  previousHash : Bytes
  deriving DecidableEq

/-- A row of `core.idempotency_keys`. -/
structure IdempotencyRow where
  idempotencyKey : String
  requestType : String
  requestHash : Bytes
  expiresAt : Time
  deriving DecidableEq

/-- The tables that the event store reads and writes.  `transactionTypes` holds
the codes and ids of the active types. -/
structure Database where
  events : List EventRow
  transactionTypes : List (String × Uuid)
  transactionLog : List TransactionRow
  idempotencyKeys : List IdempotencyRow
  deriving DecidableEq

structure StoredEventRecord where
  eventId : Uuid
  version : ℤ
  recordedAt : Time
  recordHash : Bytes
  previousHash : Bytes
  deriving DecidableEq

/-- What a transaction takes from its surroundings: the time of `NOW()`, and
the fresh ids of its events and log entries. -/
structure TxEnv where
  now : Time
  eventIds : ℕ → Uuid
  transactionIds : ℕ → Uuid

def nullUuid (id : Uuid) : Option Uuid :=
  if id = 0 then none else some id

def nullString (text : String) : Option String :=
  if text = "" then none else some text

def isFinancialEvent (aggregateType : String) : Bool :=
  aggregateType = "PAYMENT" ∨ aggregateType = "Transaction"

/-- `SELECT record_hash … ORDER BY sequence_number DESC LIMIT 1`, scanned into
an empty string whose error is dropped. -/
def selectPrevHash (db : Database) (streamId : Uuid) : Bytes :=
  (((db.events.filter (·.streamId = streamId)).insertionSort
    fun first second => second.sequenceNumber ≤ first.sequenceNumber).head?.bind
      EventRow.recordHash).getD []

section AppendTx

variable (sha256 : Bytes → Bytes) (marshal : Payload → Except String Bytes)

/-- The record hash over the previous hash, the payload and `UnixNano`. -/
def recordHash (prevHash payload : Bytes) (eventTime : Time) : Bytes :=
  Text.hex (sha256 (prevHash ++ payload ++ Text.utf8 (toString eventTime)))

def resolveTransactionType (db : Database) (eventType : String) :
    Except String Uuid :=
  let typeCode := if eventType = "PaymentInitiated" then "PAYMENT" else "SYSTEM"
  match db.transactionTypes.lookup typeCode with
  | some typeId => .ok typeId
  | none =>
      match db.transactionTypes.lookup "SYSTEM" with
      | some typeId => .ok typeId
      | none => .error
          "failed to resolve transaction type: sql: no rows in result set"

def transactionKey (event : DomainEvent) : String :=
  let key :=
    if event.idempotency = "" then
      "fin-" ++ Text.uuid event.aggId ++ "-" ++ toString event.version
    else event.idempotency
  if key.utf8ByteSize < 8 then key ++ "-padding" else key

/-- The id `00000000-0000-0000-0000-000000000001`. -/
def systemAccount : Uuid := 1

def appendTransactionLog (env : TxEnv) (index : ℕ) (db : Database)
    (event : DomainEvent) (payload hash prevHash : Bytes) :
    Except String Database := do
  let typeId ← resolveTransactionType db event.type
  let row : TransactionRow :=
    { transactionUuid := env.transactionIds index
      idempotencyKey := transactionKey event
      transactionTypeId := typeId
      applicationId := nullUuid event.tenantId
      initiatorAccountId := systemAccount
      payload
      amount := field event.payload "amount"
      currency :=
        match field event.payload "currency" with
        | some (.string currency) => currency
        | _ => ""
      status := "posted"
      committedAt := event.eventTime
      correlationId := nullString event.correlation
      causationId := nullString event.causation
      recordHash := hash
      previousHash := prevHash }
  return { db with transactionLog := db.transactionLog ++ [row] }

/-- Financial events also go to `core.transaction_log`. -/
def logFinancial (env : TxEnv) (index : ℕ) (db : Database)
    (event : DomainEvent) (payload hash prevHash : Bytes) :
    Except String Database :=
  if isFinancialEvent event.aggregateType then
    appendTransactionLog env index db event payload hash prevHash
  else .ok db

/-- The row that `AppendTx` inserts for one event. -/
def eventRow (env : TxEnv) (index : ℕ) (event : DomainEvent)
    (payload prevHash : Bytes) : EventRow where
  eventId := env.eventIds index
  eventType := event.type
  streamId := event.aggId
  streamType := event.aggregateType
  sequenceNumber := event.version
  payload := payload
  metadata :=
    { tenantId := nullUuid event.tenantId
      sessionId := nullUuid event.sessionId
      idempotencyKey := nullString event.idempotency
      recordHash := recordHash sha256 prevHash payload event.eventTime
      previousHash := prevHash }
  correlationId := nullString event.correlation
  causationId := nullString event.causation
  triggeredBy := "go-orchestrator"
  occurredAt := event.eventTime
  recordedAt := env.now
  aggregateVersion := event.version
  recordHash := none
  aggregateId := none
  version := none

/-- `UNIQUE (stream_id, sequence_number, recorded_at)`. -/
def violatesUnique (db : Database) (row : EventRow) : Bool :=
  db.events.any fun stored => stored.streamId = row.streamId ∧
    stored.sequenceNumber = row.sequenceNumber ∧
      stored.recordedAt = row.recordedAt

def insertEvent (db : Database) (row : EventRow) : Except String Database :=
  if violatesUnique db row then
    .error "pq: duplicate key value violates unique constraint"
  else .ok { db with events := db.events ++ [row] }

/-- One iteration of the loop of `AppendTx`, on the event with this index. -/
def appendOne (env : TxEnv) (index : ℕ) (db : Database) (event : DomainEvent) :
    Except String (StoredEventRecord × Database) := do
  let prevHash := selectPrevHash db event.aggId
  let payload ← marshal event.payload
  let row := eventRow sha256 env index event payload prevHash
  let inserted ← insertEvent db row
  let logged ← logFinancial env index inserted event payload
    row.metadata.recordHash prevHash
  let record : StoredEventRecord :=
    { eventId := row.eventId
      version := event.version
      recordedAt := event.eventTime
      recordHash := row.metadata.recordHash
      previousHash := prevHash }
  return (record, logged)

/-- The loop of `AppendTx` from the event with this index. -/
def appendFrom (env : TxEnv) :
    ℕ → Database → List Event →
      Except String (List StoredEventRecord × Database)
  | _, db, [] => return ([], db)
  | _, _, .other _ _ _ :: _ => throw "unsupported event type"
  | index, db, .domain event :: events => do
      let (record, appended) ← appendOne sha256 marshal env index db event
      let (records, final) ← appendFrom env (index + 1) appended events
      return (record :: records, final)

def appendTx (env : TxEnv) (db : Database) (events : List Event) :
    Except String (List StoredEventRecord × Database) :=
  appendFrom sha256 marshal env 0 db events

/-! ## What `AppendTx` stores -/

variable {sha256 marshal}

/-- No statement has written the `record_hash` column. -/
def Unwritten (db : Database) : Prop :=
  ∀ row ∈ db.events, row.recordHash = none

variable {db : Database}

theorem selectPrevHash_of_unwritten (hdb : Unwritten db) (streamId : Uuid) :
    selectPrevHash db streamId = [] := by
  unfold selectPrevHash
  cases hlatest : ((db.events.filter (·.streamId = streamId)).insertionSort
      fun first second =>
        second.sequenceNumber ≤ first.sequenceNumber).head? with
  | none => rfl
  | some row =>
      have hsorted := List.mem_of_head? hlatest
      have hmem := List.mem_of_mem_filter ((List.mem_insertionSort _).mp hsorted)
      rw [Option.bind_some, hdb row hmem]
      rfl

/-- The row of an event in a store whose `record_hash` column is `NULL`. -/
structure Unlinked (sha256 : Bytes → Bytes)
    (marshal : Payload → Except String Bytes) (event : DomainEvent)
    (row : EventRow) : Prop where
  eventType : row.eventType = event.type
  streamId : row.streamId = event.aggId
  sequenceNumber : row.sequenceNumber = event.version
  payload : marshal event.payload = .ok row.payload
  occurredAt : row.occurredAt = event.eventTime
  column : row.recordHash = none
  previousHash : row.metadata.previousHash = []
  recordHash : row.metadata.recordHash =
    EventStore.recordHash sha256 [] row.payload row.occurredAt

variable {index : ℕ} {after : Database} {event : DomainEvent} {env : TxEnv}
  {record : StoredEventRecord} {records : List StoredEventRecord}

theorem logFinancial_eq_ok {payload hash prevHash : Bytes}
    (hlogged : logFinancial env index db event payload hash prevHash =
      .ok after) :
    ∃ log, after = { db with transactionLog := db.transactionLog ++ log } := by
  unfold logFinancial at hlogged
  split at hlogged
  · obtain ⟨typeId, -, hrow⟩ := bind_eq_ok.mp hlogged
    cases hrow
    exact ⟨_, rfl⟩
  · cases hlogged
    exact ⟨[], by rw [List.append_nil]⟩

theorem insertEvent_eq_ok {row : EventRow}
    (hinserted : insertEvent db row = .ok after) :
    violatesUnique db row = false ∧
      after = { db with events := db.events ++ [row] } := by
  unfold insertEvent at hinserted
  split at hinserted
  · cases hinserted
  · next hunique =>
    cases hinserted
    exact ⟨Bool.eq_false_iff.mpr hunique, rfl⟩

/-- The hashes that a call returns are those of the row it stored. -/
def Reports (record : StoredEventRecord) (row : EventRow) : Prop :=
  record.version = row.sequenceNumber ∧
    record.recordHash = row.metadata.recordHash ∧
      record.previousHash = row.metadata.previousHash

/-- What a successful iteration stores and returns. -/
theorem appendOne_eq_ok
    (happend : appendOne sha256 marshal env index db event =
      .ok (record, after)) :
    ∃ payload row log, marshal event.payload = .ok payload ∧
      row = eventRow sha256 env index event payload
        (selectPrevHash db event.aggId) ∧
      violatesUnique db row = false ∧
      after = { db with
        events := db.events ++ [row]
        transactionLog := db.transactionLog ++ log } ∧
      Reports record row := by
  obtain ⟨payload, hpayload, happend⟩ := bind_eq_ok.mp happend
  obtain ⟨inserted, hinserted, happend⟩ := bind_eq_ok.mp happend
  obtain ⟨logged, hlogged, happend⟩ := bind_eq_ok.mp happend
  cases happend
  obtain ⟨hunique, rfl⟩ := insertEvent_eq_ok hinserted
  obtain ⟨log, rfl⟩ := logFinancial_eq_ok hlogged
  exact ⟨payload, _, log, hpayload, rfl, hunique, rfl, rfl, rfl, rfl⟩

/-- In an unwritten store it appends a row that names no other. -/
theorem appendOne_of_unwritten (hdb : Unwritten db)
    (happend : appendOne sha256 marshal env index db event =
      .ok (record, after)) :
    ∃ row, Unlinked sha256 marshal event row ∧
      after.events = db.events ++ [row] ∧ Reports record row := by
  obtain ⟨payload, row, log, hpayload, hrow, -, rfl, hreports⟩ :=
    appendOne_eq_ok happend
  rw [selectPrevHash_of_unwritten hdb] at hrow
  subst hrow
  exact ⟨_, ⟨rfl, rfl, rfl, hpayload, rfl, rfl, rfl, rfl⟩, rfl, hreports⟩

theorem Unwritten.append {rows : List EventRow} (hdb : Unwritten db)
    (hrows : ∀ row ∈ rows, row.recordHash = none)
    (hafter : after.events = db.events ++ rows) : Unwritten after := by
  intro row hrow
  rw [hafter] at hrow
  rcases List.mem_append.mp hrow with hbefore | hnew
  · exact hdb row hbefore
  · exact hrows row hnew

/-- A successful call appends one row for every event, in order. -/
theorem appendFrom_eq_ok {events : List Event} (hdb : Unwritten db)
    (happend : appendFrom sha256 marshal env index db events =
      .ok (records, after)) :
    ∃ batch rows, events = batch.map Event.domain ∧
      List.Forall₂ (Unlinked sha256 marshal) batch rows ∧
        after.events = db.events ++ rows ∧
          List.Forall₂ Reports records rows ∧ Unwritten after := by
  induction events generalizing index db records with
  | nil =>
      cases happend
      exact ⟨[], [], rfl, .nil, (List.append_nil _).symm, .nil, hdb⟩
  | cons event events ih =>
      cases event with
      | other eventType aggregateId occurredAt => cases happend
      | domain event =>
          obtain ⟨⟨record, appended⟩, hone, happend⟩ := bind_eq_ok.mp happend
          obtain ⟨⟨rest, final⟩, hrest, happend⟩ := bind_eq_ok.mp happend
          cases happend
          obtain ⟨row, hrow, hevents, hreports⟩ :=
            appendOne_of_unwritten hdb hone
          have happended : Unwritten appended := by
            refine hdb.append ?_ hevents
            intro other hother
            rw [List.mem_singleton.mp hother]
            exact hrow.column
          obtain ⟨batch, rows, rfl, hrows, hafter, hrecords, hfinal⟩ :=
            ih happended hrest
          refine ⟨event :: batch, row :: rows, rfl, .cons hrow hrows, ?_,
            .cons hreports hrecords, hfinal⟩
          rw [hafter, hevents, List.append_assoc]
          rfl

/-- A call with one event is one iteration. -/
theorem appendTx_domain_eq_ok
    (happend : appendTx sha256 marshal env db [.domain event] =
      .ok (records, after)) :
    ∃ record, records = [record] ∧
      appendOne sha256 marshal env 0 db event = .ok (record, after) := by
  obtain ⟨⟨record, appended⟩, hone, happend⟩ := bind_eq_ok.mp happend
  cases happend
  exact ⟨record, rfl, hone⟩

/-- A successful call with one event appends its row and returns its
record. -/
theorem appendTx_singleton_eq_ok (hdb : Unwritten db)
    (happend : appendTx sha256 marshal env db [.domain event] =
      .ok (records, after)) :
    ∃ row record, Unlinked sha256 marshal event row ∧
      after.events = db.events ++ [row] ∧ records = [record] := by
  obtain ⟨record, rfl, hone⟩ := appendTx_domain_eq_ok happend
  obtain ⟨row, hrow, hevents, -⟩ := appendOne_of_unwritten hdb hone
  exact ⟨row, record, hrow, hevents, rfl⟩

/-! ## Chains of record hashes -/

variable (sha256 marshal)

/-- Successive calls of `AppendTx`, each in a transaction of its own. -/
def appendBatches :
    List (TxEnv × List Event) → Database → Except String Database
  | [], db => return db
  | (env, events) :: calls, db => do
      let (_, appended) ← appendTx sha256 marshal env db events
      appendBatches calls appended

/-- The rows of a stream, in sequence order. -/
def streamRows (db : Database) (streamId : Uuid) : List EventRow :=
  (db.events.filter (·.streamId = streamId)).insertionSort
    fun first second => first.sequenceNumber ≤ second.sequenceNumber

/-- Every row names the record hash of the row before it, and its own record
hash covers that hash, its payload and its time. -/
def Chained : Bytes → List EventRow → Prop
  | _, [] => True
  | prevHash, row :: rows =>
      row.metadata.previousHash = prevHash ∧
        row.metadata.recordHash =
            recordHash sha256 prevHash row.payload row.occurredAt ∧
          Chained row.metadata.recordHash rows

variable {sha256 marshal} {rows : List EventRow}

theorem appendBatches_eq_ok {calls : List (TxEnv × List Event)}
    {db after : Database} (hdb : Unwritten db)
    (hcalls : appendBatches sha256 marshal calls db = .ok after) :
    ∃ batch rows, calls.flatMap Prod.snd = batch.map Event.domain ∧
      List.Forall₂ (Unlinked sha256 marshal) batch rows ∧
        after.events = db.events ++ rows := by
  induction calls generalizing db with
  | nil =>
      cases hcalls
      exact ⟨[], [], rfl, .nil, (List.append_nil _).symm⟩
  | cons call calls ih =>
      obtain ⟨⟨records, appended⟩, hcall, hrest⟩ := bind_eq_ok.mp hcalls
      obtain ⟨batch, rows, hbatch, hrows, hevents, -, happended⟩ :=
        appendFrom_eq_ok hdb hcall
      obtain ⟨later, laterRows, hlater, hlaterRows, hafter⟩ :=
        ih happended hrest
      refine ⟨batch ++ later, rows ++ laterRows, ?_,
        List.rel_append hrows hlaterRows, ?_⟩
      · rw [List.flatMap_cons, hbatch, hlater, List.map_append]
      · rw [hafter, hevents, List.append_assoc]

theorem recordHash_ne_nil
    (hdigest : ∀ data, (sha256 data).length = 32) (prevHash payload : Bytes)
    (eventTime : Time) : recordHash sha256 prevHash payload eventTime ≠ [] := by
  apply List.ne_nil_of_length_pos
  rw [recordHash, Text.length_hex, hdigest]
  norm_num

/-- Rows that name no previous hash form a chain exactly if there is at most
one of them. -/
theorem chained_iff_of_unlinked (hdigest : ∀ data, (sha256 data).length = 32)
    (hrows : ∀ row ∈ rows, ∃ event, Unlinked sha256 marshal event row) :
    Chained sha256 [] rows ↔ rows.length ≤ 1 := by
  match rows with
  | [] => exact iff_of_true trivial (by simp)
  | [row] =>
      obtain ⟨event, hrow⟩ := hrows row List.mem_cons_self
      exact iff_of_true ⟨hrow.previousHash, hrow.recordHash, trivial⟩ (by simp)
  | first :: second :: rest =>
      obtain ⟨event, hfirst⟩ := hrows first List.mem_cons_self
      obtain ⟨later, hsecond⟩ := hrows second (by simp)
      refine iff_of_false ?_ (by simp)
      rintro ⟨-, -, hlinked, -⟩
      rw [hsecond.previousHash, hfirst.recordHash] at hlinked
      exact recordHash_ne_nil hdigest _ _ _ hlinked.symm

theorem length_streamRows (db : Database) (streamId : Uuid) :
    (streamRows db streamId).length =
      (db.events.map EventRow.streamId).count streamId := by
  rw [streamRows, List.length_insertionSort, List.count_eq_countP,
    List.countP_map, List.countP_eq_length_filter]
  congr 2

theorem exists_unlinked {batch : List DomainEvent}
    (hrows : List.Forall₂ (Unlinked sha256 marshal) batch rows) {row : EventRow}
    (hrow : row ∈ rows) :
    ∃ event, Unlinked sha256 marshal event row := by
  induction hrows with
  | nil => cases hrow
  | @cons event first _ _ hfirst _ ih =>
      rcases List.mem_cons.mp hrow with rfl | hrest
      · exact ⟨event, hfirst⟩
      · exact ih hrest

/-- The stream of an event. -/
def Event.streamId : Event → Uuid
  | .domain event => event.aggId
  | .other _ aggregateId _ => aggregateId

/-- After successful calls of `AppendTx` on an empty store, every stream is a
chain exactly if no stream has received two events. -/
theorem streams_chained_iff (hdigest : ∀ data, (sha256 data).length = 32)
    {calls : List (TxEnv × List Event)} {db after : Database}
    (hempty : db.events = [])
    (hcalls : appendBatches sha256 marshal calls db = .ok after) :
    (∀ streamId, Chained sha256 [] (streamRows after streamId)) ↔
      ((calls.flatMap Prod.snd).map Event.streamId).Nodup := by
  have hdb : Unwritten db := by
    intro row hrow
    rw [hempty] at hrow
    cases hrow
  obtain ⟨batch, rows, hbatch, hrows, hevents⟩ := appendBatches_eq_ok hdb hcalls
  rw [hempty, List.nil_append] at hevents
  have hstreams : (calls.flatMap Prod.snd).map Event.streamId =
      after.events.map EventRow.streamId := by
    rw [hbatch, List.map_map, hevents]
    clear hbatch hevents
    induction hrows with
    | nil => rfl
    | cons hrow _ ih =>
        rw [List.map_cons, List.map_cons, ih, hrow.streamId]
        rfl
  rw [hstreams, List.nodup_iff_count_le_one]
  refine forall_congr' fun streamId => ?_
  have hunlinked : ∀ row ∈ streamRows after streamId,
      ∃ event, Unlinked sha256 marshal event row := by
    intro row hrow
    have hmem := List.mem_of_mem_filter ((List.mem_insertionSort _).mp hrow)
    rw [hevents] at hmem
    exact exists_unlinked hrows hmem
  rw [← length_streamRows]
  exact chained_iff_of_unlinked hdigest hunlinked

end AppendTx

/-! ## Reading the events of an aggregate -/

/-- The columns that the `INSERT` of `AppendTx` names. -/
def insertColumns : List String :=
  ["event_id", "event_type", "event_version", "stream_id", "stream_type",
    "sequence_number", "payload", "metadata", "correlation_id", "causation_id",
    "triggered_by", "occurred_at", "recorded_at", "aggregate_version",
    "partition_date"]

def selectColumns : List String :=
  ["event_type", "aggregate_id", "version", "payload", "occurred_at"]

/-- The variables that `rows.Scan` is given. -/
def scanTargets : List String :=
  ["eventType", "aggID", "version", "payloadBytes", "metadataBytes",
    "occurredAt"]

section Read

variable (unmarshal : Bytes → Payload) (db : Database) (aggregateId : Uuid)
  (fromVersion : ℤ)

/-- `WHERE aggregate_id = $1 AND version >= $2 ORDER BY version ASC`. -/
def selectedRows : List EventRow :=
  (db.events.filter fun row => row.aggregateId = some aggregateId ∧
    ∃ version ∈ row.version, fromVersion ≤ version).insertionSort
      fun first second => first.version.getD 0 ≤ second.version.getD 0

/-- `Scan` into the variables, and the event that is built from them. -/
def scan (row : EventRow) : Except String DomainEvent :=
  if selectColumns.length = scanTargets.length then
    .ok
      { type := row.eventType
        aggregateType := ""
        aggId := row.aggregateId.getD 0
        eventTime := row.occurredAt
        payload := unmarshal row.payload
        version := row.version.getD 0
        tenantId := 0
        sessionId := 0
        correlation := ""
        causation := ""
        idempotency := "" }
  else .error "sql: expected 5 destination arguments in Scan, not 6"

/-- The table has the columns that the `INSERT` names. -/
def getByAggregateId : Except String (List DomainEvent) :=
  match selectColumns.find? (· ∉ insertColumns) with
  | some column => .error ("pq: column \"" ++ column ++ "\" does not exist")
  | none => (selectedRows db aggregateId fromVersion).mapM (scan unmarshal)

/-- The events that calls append to an aggregate from a version on, in the order
of their versions. -/
def appendedEvents (calls : List (TxEnv × List Event)) : List DomainEvent :=
  ((calls.flatMap Prod.snd).filterMap fun event =>
    match event with
    | .domain event =>
        if event.aggId = aggregateId ∧ fromVersion ≤ event.version then
          some event
        else none
    | .other _ _ _ => none).insertionSort
      fun first second => first.version ≤ second.version

/-- What is read of an appended event. -/
structure SameEvent (appended read : DomainEvent) : Prop where
  type : read.type = appended.type
  payload : read.payload = appended.payload
  eventTime : read.eventTime = appended.eventTime
  version : read.version = appended.version

/-- Appended events are never read back, from a store with any content. -/
theorem getByAggregateId_never (calls : List (TxEnv × List Event)) :
    ¬ ∃ events,
      getByAggregateId unmarshal db aggregateId fromVersion = .ok events ∧
        List.Forall₂ SameEvent (appendedEvents aggregateId fromVersion calls)
          events := by
  rintro ⟨events, hread, -⟩
  have hmissing : selectColumns.find? (· ∉ insertColumns) =
      some "aggregate_id" := by decide
  rw [getByAggregateId, hmissing] at hread
  cases hread

end Read

namespace Samples

def createdPayload : Payload :=
  some [("phone_number", .string "+263771234567")]

def endedPayload : Payload := some [("reason", .string "timeout")]

/-- Agrees with `json.Marshal` on the two payloads. -/
def marshal (payload : Payload) : Except String Bytes :=
  if payload = createdPayload then
    .ok (Text.utf8 "\x7b\"phone_number\":\"+263771234567\"\x7d")
  else if payload = endedPayload then
    .ok (Text.utf8 "\x7b\"reason\":\"timeout\"\x7d")
  else .error "json: unsupported value"

/-- 4 October 2024, midnight. -/
def midnight : Time := 1728000000000000000

/-- The real digests of the two record hash inputs. -/
def hashes : List (Bytes × Bytes) :=
  [(Text.utf8
      "\x7b\"phone_number\":\"+263771234567\"\x7d1728000000000000000",
    HashTables.digest
      0xf52743e7cff4e5b5c734ab8e4901921a6687660b476bb734569059d2bc6c7847),
    (Text.utf8 "\x7b\"reason\":\"timeout\"\x7d1728000001000000000",
    HashTables.digest
      0x2745da6c41a7827003d4fc39e6d8a5545ad5d3286abbb154b4beb3d47eb6a84a)]

def sha256 : Bytes → Bytes := HashTables.tableHash hashes

theorem length_sha256 (data : Bytes) : (sha256 data).length = 32 :=
  HashTables.length_tableHash (by decide +kernel) data

def created (streamId : Uuid) : DomainEvent where
  type := "SessionCreated"
  aggregateType := "USR_SESSION"
  aggId := streamId
  eventTime := midnight
  payload := createdPayload
  version := 1
  tenantId := 5
  sessionId := streamId
  correlation := ""
  causation := ""
  idempotency := ""

def ended (streamId : Uuid) (version : ℤ) : DomainEvent where
  type := "SessionEnded"
  aggregateType := ""
  aggId := streamId
  eventTime := midnight + 1000000000
  payload := endedPayload
  version := version
  tenantId := 5
  sessionId := streamId
  correlation := ""
  causation := ""
  idempotency := ""

def env (now : Time) : TxEnv where
  now := now
  eventIds index := BitVec.ofNat 128 (index + 1)
  transactionIds index := BitVec.ofNat 128 (index + 1)

def empty : Database where
  events := []
  transactionTypes := []
  transactionLog := []
  idempotencyKeys := []

theorem unwritten_empty : Unwritten empty := by
  intro row hrow
  cases hrow

/-- A session is created and ended by two calls. -/
def oneStream : List (TxEnv × List Event) :=
  [(env 1, [.domain (created 9)]), (env 2, [.domain (ended 9 2)])]

/-- Two sessions with one event each, in one batch. -/
def twoStreams : List (TxEnv × List Event) :=
  [(env 1, [.domain (created 9), .domain (ended 8 1)])]

/-- The store after the calls, empty if one of them fails. -/
def storeAfter (calls : List (TxEnv × List Event)) : Database :=
  match appendBatches sha256 marshal calls empty with
  | .ok after => after
  | .error _ => empty

end Samples

theorem streams_chained_iff_two_streams :
    (∀ streamId, Chained Samples.sha256 []
        (streamRows (Samples.storeAfter Samples.twoStreams) streamId)) ↔
      ((Samples.twoStreams.flatMap Prod.snd).map Event.streamId).Nodup := by
  have hcalls : appendBatches Samples.sha256 Samples.marshal Samples.twoStreams
      Samples.empty = .ok (Samples.storeAfter Samples.twoStreams) := by
    decide +kernel
  exact streams_chained_iff Samples.length_sha256 rfl hcalls

/-- The second event of a session does not name the record hash of the
first. -/
theorem second_event_unchained :
    (appendBatches Samples.sha256 Samples.marshal Samples.oneStream
        Samples.empty).isOk = true ∧
      ¬ ∀ streamId, Chained Samples.sha256 []
        (streamRows (Samples.storeAfter Samples.oneStream) streamId) := by
  refine ⟨by decide +kernel, fun hchained => ?_⟩
  have hlinked := (hchained 9).2.2.1
  revert hlinked
  decide +kernel

/-- The events of a session that was created and ended are not read: the table
has no column `aggregate_id`, and no row can be scanned. -/
theorem appended_events_unreadable :
    let db := Samples.storeAfter Samples.oneStream
    appendedEvents 9 0 Samples.oneStream =
        [Samples.created 9, Samples.ended 9 2] ∧
      db.events.map EventRow.streamId = [9, 9] ∧
      getByAggregateId (fun _ => none) db 9 0 =
        .error "pq: column \"aggregate_id\" does not exist" ∧
      ∀ row ∈ db.events, scan (fun _ => none) row =
        .error "sql: expected 5 destination arguments in Scan, not 6" := by
  decide +kernel

end UssdKernel.EventStore
