import UssdKernel.Orchestrator.AppendEvent
import UssdKernel.SessionReconstructor.Sessions

/-!
# The history of a session

The operations of the orchestrator that append to a session's stream, run one
after the other: `CreateSession`, `ForwardUSSD`, `EndSession` and the polls of
the outbox.  The handlers leave `ExpectedVersion` at 0 and the poller writes
version 1, so every event of a stream has version 1, and the fold of the
session reconstructor accepts at most one of them.
-/

namespace UssdKernel.SessionHistory

open Programs EventStore
open SessionReconstructor (DbEvent)

/-- What the surroundings add to the three operations of one call of
`Handle`. -/
structure CallEnv where
  check : Choice
  read : Choice
  commit : Choice

def CallEnv.choice (env : CallEnv) : Op → Choice
  | .checkIdempotency _ => env.check
  | .getLatestVersion _ => env.read
  | .transaction _ _ => env.commit

/-- The database fails for one of the operations. -/
def CallEnv.Fails (env : CallEnv) : Prop :=
  env.check.failure ≠ none ∨ env.read.failure ≠ none ∨
    env.commit.failure ≠ none

/-- A row of `events.cdc_outbox`. -/
structure OutboxRow where
  outboxId : Uuid
  aggregateType : String
  aggregateId : Uuid
  eventType : String
  payload : Payload
  tenantId : Uuid
  createdAt : Time
  processed : Bool
  retryCount : ℕ

structure World where
  db : Database
  outbox : List OutboxRow

/-- The fields of a `ForwardUSSDRequest`; `sessionUuid` and `tenantUuid` are
what `uuid.Parse` returns for the ids, beside an error that is dropped: for a
malformed id of the right length the bytes read before the error, otherwise
`Nil`. -/
structure ForwardRequest where
  sessionId : String
  sessionUuid : Uuid
  tenantUuid : Uuid
  phoneNumber : String
  serviceCode : String
  userInput : String
  currentMenu : String

/-- The fields of the router's response that reach the ledger. -/
structure RouteResponse where
  nextMenu : String
  endSession : Bool
  paymentInitiated : Bool
  paymentId : String
  providerReference : String
  paymentStatus : String

/-- What happens around one row of a poll: the append, and whether the update
of the outbox row goes through. -/
structure RowTurn where
  choice : Choice
  marked : Bool

inductive Operation
  | createSession (sessionId : Uuid) (choice : Choice)
  | forwardUSSD (request : ForwardRequest)
      (route : Except String RouteResponse) (traceId : String) (unixTime : ℤ)
      (processed payment : CallEnv)
  | endSession (sessionId tenantId : Uuid) (reason : String) (env : CallEnv)
  | pollOutbox (failure : Option String) (turns : ℕ → RowTurn)
  /-- Another service inserts a row into the outbox. -/
  | enqueue (row : OutboxRow)

/-! ## The appended events -/

section Payloads

variable (request : ForwardRequest) (route : RouteResponse) (traceId : String)

def sessionProcessed (unixTime : ℤ) : AppendEventCommand where
  eventType := "SessionProcessed"
  aggregateType := "USR_SESSION"
  aggregateId := request.sessionUuid
  expectedVersion := 0
  payload := some
    [("session_id", .string request.sessionId),
      ("phone_number", .string request.phoneNumber),
      ("service_code", .string request.serviceCode),
      ("user_input", .string request.userInput),
      ("current_menu", .string request.currentMenu),
      ("next_menu", .string route.nextMenu),
      ("end_session", .bool route.endSession)]
  idempotencyKey := "sess-" ++ request.sessionId ++ "-" ++ toString unixTime
  tenantId := request.tenantUuid
  sessionId := request.sessionUuid
  correlationId := traceId
  causationId := ""

def paymentInitiated : AppendEventCommand where
  eventType := "PaymentInitiated"
  aggregateType := "PAYMENT"
  aggregateId := request.sessionUuid
  expectedVersion := 0
  payload := some
    [("session_id", .string request.sessionId),
      ("payment_id", .string route.paymentId),
      ("provider_reference", .string route.providerReference),
      ("payment_status", .string route.paymentStatus)]
  idempotencyKey := "pay-" ++ request.sessionId ++ "-" ++ route.paymentId
  tenantId := request.tenantUuid
  sessionId := request.sessionUuid
  correlationId := traceId
  causationId := ""

end Payloads

def sessionEnded (sessionId tenantId : Uuid) (reason : String) :
    AppendEventCommand where
  eventType := "SessionEnded"
  aggregateType := ""
  aggregateId := sessionId
  expectedVersion := 0
  payload := some [("reason", .string reason)]
  idempotencyKey := ""
  tenantId := tenantId
  sessionId := sessionId
  correlationId := ""
  causationId := ""

def outboxEvent (row : OutboxRow) (occurredAt : Time) : DomainEvent where
  type := row.eventType
  aggregateType := row.aggregateType
  aggId := row.aggregateId
  eventTime := occurredAt
  payload := row.payload
  version := 1
  tenantId := row.tenantId
  sessionId := 0
  correlation := ""
  causation := ""
  idempotency := ""

/-- The rows a poll selects. -/
def pending (outbox : List OutboxRow) : List OutboxRow :=
  ((outbox.filter fun row => ¬ row.processed ∧ row.retryCount < 10).insertionSort
    fun first second => first.createdAt ≤ second.createdAt).take 100

section Operations

variable (sha256 : Bytes → Bytes) (marshal : Payload → Except String Bytes)

def CallEnv.respond (env : CallEnv) (op : Op) (db : Database) :
    op.Res × Database :=
  op.respond sha256 marshal (env.choice op) db

/-- One call of `Handle`, undisturbed by other calls. -/
def handleAlone (env : CallEnv) (command : AppendEventCommand)
    (db : Database) : Except AppendError AppendEventResult × Database :=
  Prog.exec (env.respond sha256 marshal) (handle command) db

/-- `Append`: `AppendTx` in a transaction of its own. -/
def append (choice : Choice) (db : Database) (events : List Event) :
    Except String Database :=
  match choice.failure with
  | some message => .error message
  | none =>
      match appendTx sha256 marshal choice.env db events with
      | .error message => .error message
      | .ok (_, appended) => .ok appended

/-- One iteration of `PollOutbox`. -/
def pollRow (turn : RowTurn) (world : World) (row : OutboxRow) : World :=
  let update (change : OutboxRow → OutboxRow) : List OutboxRow :=
    if turn.marked then world.outbox.map fun stored =>
      if stored.outboxId = row.outboxId then change stored else stored
    else world.outbox
  match append sha256 marshal turn.choice world.db
    [.domain (outboxEvent row turn.choice.occurredAt)] with
  | .error _ =>
      { world with
        outbox := update fun stored =>
          { stored with retryCount := stored.retryCount + 1 } }
  | .ok appended =>
      { db := appended
        outbox := update fun stored => { stored with processed := true } }

def pollRows (turns : ℕ → RowTurn) : ℕ → List OutboxRow → World → World
  | _, [], world => world
  | index, row :: rows, world =>
      pollRows turns (index + 1) rows
        (pollRow sha256 marshal (turns index) world row)

/-- The appends of `ForwardUSSD` after a successful route; their errors are
only logged. -/
def forward (request : ForwardRequest) (route : RouteResponse)
    (traceId : String) (unixTime : ℤ) (processed payment : CallEnv)
    (db : Database) : Database :=
  if request.sessionUuid = 0 then db
  else
    let appended := (handleAlone sha256 marshal processed
      (sessionProcessed request route traceId unixTime) db).2
    if route.paymentInitiated then
      (handleAlone sha256 marshal payment
        (paymentInitiated request route traceId) appended).2
    else appended

/-- Whether the operation returns success, and the world after it. -/
def Operation.run : Operation → World → Bool × World
  | createSession sessionId choice, world =>
      match append sha256 marshal choice world.db
        [.other "SessionCreated" sessionId choice.occurredAt] with
      | .error _ => (false, world)
      | .ok appended => (true, { world with db := appended })
  | forwardUSSD request route traceId unixTime processed payment, world =>
      match route with
      | .error _ => (false, world)
      | .ok route =>
          (true, { world with
            db := forward sha256 marshal request route traceId unixTime
              processed payment world.db })
  | endSession sessionId tenantId reason env, world =>
      let answer := handleAlone sha256 marshal env
        (sessionEnded sessionId tenantId reason) world.db
      (answer.1.isOk, { world with db := answer.2 })
  | pollOutbox failure turns, world =>
      match failure with
      | some _ => (true, world)
      | none => (true, pollRows sha256 marshal turns 0 (pending world.outbox)
          world)
  | enqueue row, world =>
      (true, { world with outbox := world.outbox ++ [row] })

/-- The world after operations that all return success. -/
def runAll : List Operation → World → Option World
  | [], world => some world
  | operation :: operations, world =>
      match operation.run sha256 marshal world with
      | (true, after) => runAll operations after
      | (false, _) => none

end Operations

/-- The events of a session's stream in version order, as the session
reconstructor reads them. -/
def sessionEvents (db : Database) (session : Uuid) : List (DbEvent Bytes) :=
  (streamRows db session).map fun row =>
    { eventType := row.eventType
      version := row.sequenceNumber
      payload := row.payload
      sessionId := row.streamId
      recordHash := row.metadata.recordHash
      previousHash := some row.metadata.previousHash
      occurredAt := row.occurredAt }

def sessionRows (db : Database) (session : Uuid) : List EventRow :=
  db.events.filter (·.streamId = session)

end UssdKernel.SessionHistory

/-! ## One call of `Handle` -/

namespace UssdKernel.AppendOutcome

open Programs EventStore SessionHistory

/-- The answer of `CheckIdempotency`. -/
def keyStored (db : Database) (key : String) : Bool :=
  db.idempotencyKeys.any (·.idempotencyKey = key)

section Verdict

variable (env : CallEnv) (command : AppendEventCommand) (db : Database)

def checkVerdict : Except AppendError Unit :=
  if command.idempotencyKey = "" then .ok ()
  else
    match env.check.failure with
    | some message => .error (.other message)
    | none =>
        if keyStored db command.idempotencyKey then .error .duplicateEvent
        else .ok ()

def readVerdict : Except AppendError ℤ :=
  match env.read.failure with
  | some message => .error (.other message)
  | none =>
      if command.expectedVersion ≥ 0 ∧
          latestVersion db command.aggregateId ≠ command.expectedVersion then
        .error .concurrencyConflict
      else .ok (latestVersion db command.aggregateId)

variable {sha256 : Bytes → Bytes} {marshal : Payload → Except String Bytes}

/-- The check of the key, then the rest of the call. -/
theorem handleAlone_eq :
    handleAlone sha256 marshal env command db =
      match checkVerdict env command db with
      | .error error => (.error error, db)
      | .ok () => Prog.exec (env.respond sha256 marshal)
          (readLatest command >>= commit command) db := by
  rw [handleAlone, handle, checkVerdict]
  by_cases hkey : command.idempotencyKey = ""
  · rw [if_neg (not_not.mpr hkey), if_pos hkey]
  · rw [if_pos hkey, if_neg hkey, Prog.exec_call_bind]
    simp only [CallEnv.respond, Op.respond, CallEnv.choice, keyStored]
    cases env.check.failure with
    | some message => rfl
    | none =>
        by_cases hstored : db.idempotencyKeys.any
            (·.idempotencyKey = command.idempotencyKey)
        · simp [hstored, Prog.raise]
        · simp [hstored]

theorem exec_readLatest_bind :
    Prog.exec (env.respond sha256 marshal)
        (readLatest command >>= commit command) db =
      match readVerdict env command db with
      | .error error => (.error error, db)
      | .ok latest => Op.respond sha256 marshal env.commit
          (.transaction command latest) db := by
  rw [readVerdict, readLatest, Prog.exec_bind, Prog.exec_call_bind]
  simp only [CallEnv.respond, Op.respond, CallEnv.choice]
  cases env.read.failure with
  | some message => rfl
  | none =>
      dsimp only
      split_ifs <;> rfl

variable {env command db}

/-- The check of a call with a key finds it free. -/
theorem checkVerdict_eq_ok (hcheck : checkVerdict env command db = .ok ())
    (hkey : command.idempotencyKey ≠ "") :
    env.check.failure = none ∧
      keyStored db command.idempotencyKey = false := by
  rw [checkVerdict, if_neg hkey] at hcheck
  cases hfailure : env.check.failure with
  | some message =>
      rw [hfailure] at hcheck
      cases hcheck
  | none =>
      rw [hfailure] at hcheck
      dsimp only at hcheck
      split at hcheck
      · cases hcheck
      · next hstored => exact ⟨rfl, Bool.eq_false_iff.mpr hstored⟩

end Verdict

end UssdKernel.AppendOutcome

namespace UssdKernel.SessionHistory

open Programs EventStore AppendOutcome
open SessionReconstructor (DbEvent Folds knownTypes folds_iff_of_version_eq_one)

/-! ## What one append does -/

section Appends

variable {sha256 : Bytes → Bytes} {marshal : Payload → Except String Bytes}

/-- An event of this type is appended to the stream with version 1. -/
def Inserts (streamId : Uuid) (eventType : String) (before after : Database) :
    Prop :=
  ∃ row : EventRow, row.streamId = streamId ∧ row.eventType = eventType ∧
    row.sequenceNumber = 1 ∧ row.recordHash = none ∧
      after.events = before.events ++ [row]

variable {env : CallEnv} {command : AppendEventCommand} {db : Database}

/-- The transaction leaves the events or appends the command's event. -/
theorem respond_commit {latest : ℤ} (hdb : Unwritten db) :
    let after := (Op.respond sha256 marshal env.commit
      (.transaction command latest) db).2
    after.events = db.events ∨ env.commit.failure = none ∧ ∃ row,
      Unlinked sha256 marshal (command.event latest env.commit.occurredAt) row ∧
        after.events = db.events ++ [row] := by
  intro after
  cases hfailure : env.commit.failure with
  | some message =>
      left
      simp only [after, Op.respond, hfailure]
  | none =>
      rcases respond_transaction_cases env.commit command latest hdb with
        ⟨-, hevents⟩ | ⟨-, row, hrow, hevents⟩
      · exact Or.inl hevents
      · exact Or.inr ⟨rfl, row, hrow, hevents⟩

/-- Reading and committing leave the events, or read version 0 and append the
command's event with version 1. -/
theorem exec_readLatest_commit (hdb : Unwritten db)
    (hexpected : command.expectedVersion = 0) :
    let after := (Prog.exec (env.respond sha256 marshal)
      (readLatest command >>= commit command) db).2
    after.events = db.events ∨
      (env.read.failure = none ∧ env.commit.failure = none) ∧
        latestVersion db command.aggregateId = 0 ∧
          Inserts command.aggregateId command.eventType db after := by
  intro after
  simp only [after, exec_readLatest_bind, readVerdict, hexpected]
  cases hfailure : env.read.failure with
  | some message => exact Or.inl rfl
  | none =>
      by_cases hlatest : latestVersion db command.aggregateId = 0
      · rw [if_neg fun hconflict => hconflict.2 hlatest, hlatest]
        rcases respond_commit hdb with hevents | ⟨hcommit, row, hrow, hevents⟩
        · exact Or.inl hevents
        · exact Or.inr ⟨⟨rfl, hcommit⟩, rfl, row, hrow.streamId, hrow.eventType,
            hrow.sequenceNumber, hrow.column, hevents⟩
      · rw [if_pos ⟨le_rfl, hlatest⟩]
        exact Or.inl rfl

/-- A call leaves the events, or reads version 0 and appends its event with
version 1. -/
theorem handleAlone_cases (hdb : Unwritten db)
    (hexpected : command.expectedVersion = 0) :
    let after := (handleAlone sha256 marshal env command db).2
    after.events = db.events ∨
      (command.idempotencyKey ≠ "" → ¬ env.Fails) ∧
        latestVersion db command.aggregateId = 0 ∧
          Inserts command.aggregateId command.eventType db after := by
  intro after
  simp only [after, handleAlone_eq]
  cases hcheck : checkVerdict env command db with
  | error error => exact Or.inl rfl
  | ok _ =>
      rcases exec_readLatest_commit hdb hexpected with
        hevents | ⟨⟨hread, hcommit⟩, hlatest, hinserts⟩
      · exact Or.inl hevents
      · refine Or.inr ⟨fun hkey hfails => ?_, hlatest, hinserts⟩
        rcases hfails with hfails | hfails | hfails
        · exact hfails (checkVerdict_eq_ok hcheck hkey).1
        · exact hfails hread
        · exact hfails hcommit

theorem append_domain_cases {choice : Choice} {after : Database}
    {event : DomainEvent} (hdb : Unwritten db) (hversion : event.version = 1)
    (happend : append sha256 marshal choice db [.domain event] = .ok after) :
    Inserts event.aggId event.type db after := by
  unfold append at happend
  split at happend
  · cases happend
  · split at happend
    · cases happend
    · next records appended hcall =>
      cases happend
      obtain ⟨row, record, hrow, hevents, -⟩ :=
        appendTx_singleton_eq_ok hdb hcall
      exact ⟨row, hrow.streamId, hrow.eventType,
        hrow.sequenceNumber.trans hversion, hrow.column, hevents⟩

/-! ## Histories -/

/-- All events of the session have version 1, and there is at most one, of a
type that the fold knows. -/
structure Sound (session : Uuid) (db : Database) : Prop where
  unwritten : Unwritten db
  version : ∀ row ∈ sessionRows db session, row.sequenceNumber = 1
  single : (sessionRows db session).length ≤ 1
  known : ∀ row ∈ sessionRows db session, row.eventType ∈ knownTypes

variable {session : Uuid} {db after : Database} {eventType : String}
  {streamId : Uuid}

theorem Sound.of_sessionRows_eq (hsound : Sound session db)
    (hunwritten : Unwritten after)
    (hrows : sessionRows after session = sessionRows db session) :
    Sound session after where
  unwritten := hunwritten
  version := hrows ▸ hsound.version
  single := hrows ▸ hsound.single
  known := hrows ▸ hsound.known

theorem Sound.of_events_eq (hsound : Sound session db)
    (hevents : after.events = db.events) : Sound session after := by
  apply hsound.of_sessionRows_eq
  · intro row hrow
    rw [hevents] at hrow
    exact hsound.unwritten row hrow
  · rw [sessionRows, hevents, sessionRows]

theorem Inserts.sessionRows_of_ne
    (hinserts : Inserts streamId eventType db after) (hne : streamId ≠ session)
    :
    sessionRows after session = sessionRows db session := by
  obtain ⟨row, rfl, -, -, -, hevents⟩ := hinserts
  rw [sessionRows, hevents, List.filter_append, sessionRows,
    List.filter_cons_of_neg (by simpa using hne), List.filter_nil,
    List.append_nil]

/-- An event of another stream changes nothing for the session, and a first
event of a known type may be appended. -/
theorem Sound.insert (hsound : Sound session db)
    (hinserts : Inserts streamId eventType db after)
    (hfirst : streamId = session →
      sessionRows db session = [] ∧ eventType ∈ knownTypes) :
    Sound session after := by
  have hunwritten : Unwritten after := by
    obtain ⟨row, -, -, -, hcolumn, hevents⟩ := hinserts
    refine hsound.unwritten.append ?_ hevents
    intro other hother
    rw [List.mem_singleton.mp hother]
    exact hcolumn
  by_cases hstream : streamId = session
  · obtain ⟨hempty, hknown⟩ := hfirst hstream
    obtain ⟨row, hrow, htype, hversion, -, hevents⟩ := hinserts
    have hrows : sessionRows after session = [row] := by
      rw [sessionRows, hevents, List.filter_append]
      change sessionRows db session ++ _ = [row]
      rw [hempty, List.nil_append,
        List.filter_cons_of_pos (by simpa using hrow.trans hstream),
        List.filter_nil]
    refine ⟨hunwritten, ?_, ?_, ?_⟩
    · rw [hrows]
      intro other hother
      rw [List.mem_singleton.mp hother, hversion]
    · rw [hrows]
      exact le_rfl
    · rw [hrows]
      intro other hother
      rw [List.mem_singleton.mp hother, htype]
      exact hknown
  · exact hsound.of_sessionRows_eq hunwritten
      (hinserts.sessionRows_of_ne hstream)

/-- A call that reads version 0 finds no event of the session. -/
theorem Sound.sessionRows_eq_nil (hsound : Sound session db)
    (hlatest : latestVersion db session = 0) : sessionRows db session = [] := by
  by_contra hsome
  obtain ⟨row, hrow⟩ := List.exists_mem_of_ne_nil _ hsome
  have hone : row.sequenceNumber ≤ latestVersion db session :=
    le_top (List.mem_map_of_mem hrow)
  rw [hsound.version row hrow, hlatest] at hone
  exact absurd hone (by norm_num)

/-- A call keeps the history if its type is known, if it is about another
session, if the session has events, or if the database fails. -/
theorem Sound.handleAlone (hsound : Sound session db) {env : CallEnv}
    {command : AppendEventCommand} (hexpected : command.expectedVersion = 0)
    (hcommand : command.aggregateId = session →
      command.eventType ∈ knownTypes ∨ sessionRows db session ≠ [] ∨
        command.idempotencyKey ≠ "" ∧ env.Fails) :
    Sound session (handleAlone sha256 marshal env command db).2 := by
  rcases handleAlone_cases hsound.unwritten hexpected with hevents |
    ⟨hworks, hlatest, hinserts⟩
  · exact hsound.of_events_eq hevents
  · apply hsound.insert hinserts
    intro hstream
    rw [hstream] at hlatest
    have hempty := hsound.sessionRows_eq_nil hlatest
    rcases hcommand hstream with hknown | hsome | ⟨hkey, hfails⟩
    · exact ⟨hempty, hknown⟩
    · exact absurd hempty hsome
    · exact absurd hfails (hworks hkey)

/-- Among the rows of a poll at most one belongs to the session; it is its
first event, of a known type. -/
def PollFits (session : Uuid) (rows : List OutboxRow) (db : Database) : Prop :=
  (rows.filter (·.aggregateId = session)).length ≤ 1 ∧
    ∀ row ∈ rows, row.aggregateId = session →
      row.eventType ∈ knownTypes ∧ sessionRows db session = []

/-- `ForwardUSSD` is called without a valid session id, for a session that has
an event, or while the database fails, and a poll fits. -/
def Operation.Fits (session : Uuid) (world : World) : Operation → Prop
  | forwardUSSD request _ _ _ processed _ =>
      request.sessionUuid = session →
        session = 0 ∨ sessionRows world.db session ≠ [] ∨ processed.Fails
  | pollOutbox _ _ => PollFits session (pending world.outbox) world.db
  | _ => True

variable {session : Uuid} {world : World} {db : Database}

theorem sessionProcessed_key_ne_empty (request : ForwardRequest)
    (route : RouteResponse) (traceId : String) (unixTime : ℤ) :
    (sessionProcessed request route traceId unixTime).idempotencyKey ≠ "" := by
  intro hempty
  have hlength := congrArg String.length hempty
  simp [sessionProcessed, String.length_append] at hlength

theorem Sound.forward (hsound : Sound session db) {request : ForwardRequest}
    {route : RouteResponse} {traceId : String} {unixTime : ℤ}
    {processed payment : CallEnv}
    (hfits : request.sessionUuid = session →
      session = 0 ∨ sessionRows db session ≠ [] ∨ processed.Fails) :
    Sound session (forward sha256 marshal request route traceId unixTime
      processed payment db) := by
  unfold SessionHistory.forward
  split
  · exact hsound
  · next hvalid =>
    have happended : Sound session (SessionHistory.handleAlone sha256 marshal
        processed (sessionProcessed request route traceId unixTime) db).2 := by
      apply hsound.handleAlone rfl
      intro hsession
      rcases hfits hsession with hnil | hsome | hfails
      · exact absurd (hsession.trans hnil) hvalid
      · exact Or.inr (Or.inl hsome)
      · exact Or.inr (Or.inr
          ⟨sessionProcessed_key_ne_empty request route traceId unixTime, hfails⟩)
    dsimp only
    split
    · apply happended.handleAlone rfl
      intro hsession
      exact Or.inl (show "PaymentInitiated" ∈ knownTypes by decide)
    · exact happended

theorem pollRow_cases (hdb : Unwritten world.db) (turn : RowTurn)
    (row : OutboxRow) :
    (pollRow sha256 marshal turn world row).db = world.db ∨
      Inserts row.aggregateId row.eventType world.db
        (pollRow sha256 marshal turn world row).db := by
  unfold pollRow
  dsimp only
  split
  · exact Or.inl rfl
  · next appended happend =>
    have hinserts := append_domain_cases hdb rfl happend
    exact Or.inr hinserts

/-- A poll keeps the history: the session's row, if there is one, finds no
event, and the other rows go to other streams. -/
theorem Sound.pollRows {turns : ℕ → RowTurn} {rows : List OutboxRow} {index : ℕ}
    (hsound : Sound session world.db) (hfits : PollFits session rows world.db) :
    Sound session (pollRows sha256 marshal turns index rows world).db := by
  induction rows generalizing index world with
  | nil => exact hsound
  | cons row rows ih =>
      obtain ⟨hsingle, hknown⟩ := hfits
      have hlater : ∀ other ∈ rows, other.aggregateId = session →
          row.aggregateId ≠ session := by
        intro other hother hsession hrow
        rw [List.filter_cons_of_pos (by simpa using hrow),
          List.length_cons] at hsingle
        have hnone := List.eq_nil_of_length_eq_zero
          (Nat.le_zero.mp (Nat.le_of_succ_le_succ hsingle))
        have hmem : other ∈ rows.filter (·.aggregateId = session) :=
          List.mem_filter.mpr ⟨hother, by simpa using hsession⟩
        rw [hnone] at hmem
        cases hmem
      have hrest : (rows.filter (·.aggregateId = session)).length ≤ 1 := by
        refine le_trans (List.Sublist.length_le ?_) hsingle
        exact (List.sublist_cons_self row rows).filter _
      apply ih
      · rcases pollRow_cases hsound.unwritten (turns index) row with
          hdb | hinserts
        · exact hsound.of_events_eq (congrArg Database.events hdb)
        · apply hsound.insert hinserts
          intro hsession
          exact (hknown row List.mem_cons_self hsession).symm
      · refine ⟨hrest, fun other hother hsession => ?_⟩
        obtain ⟨htype, hempty⟩ :=
          hknown other (List.mem_cons_of_mem row hother) hsession
        refine ⟨htype, ?_⟩
        rcases pollRow_cases hsound.unwritten (turns index) row with
          hdb | hinserts
        · rw [hdb, hempty]
        · rw [hinserts.sessionRows_of_ne (hlater other hother hsession), hempty]

/-- `CreateSession` never succeeds: its event is not a `DomainEvent`. -/
theorem run_createSession (sessionId : Uuid) (choice : Choice) (world : World) :
    (Operation.createSession sessionId choice).run sha256 marshal world =
      (false, world) := by
  cases hfailure : choice.failure with
  | some message => simp only [Operation.run, append, hfailure]
  | none =>
      simp only [Operation.run, append, hfailure]
      rfl

/-- One operation keeps the history. -/
theorem Sound.run (hsound : Sound session world.db) {operation : Operation}
    (hfits : operation.Fits session world) :
    Sound session (operation.run sha256 marshal world).2.db := by
  cases operation with
  | createSession sessionId choice =>
      rw [run_createSession]
      exact hsound
  | forwardUSSD request route traceId unixTime processed payment =>
      cases route with
      | error message => exact hsound
      | ok route => exact hsound.forward hfits
  | endSession sessionId tenantId reason env =>
      apply hsound.handleAlone rfl
      intro hsession
      exact Or.inl (show "SessionEnded" ∈ knownTypes by decide)
  | pollOutbox failure turns =>
      cases failure with
      | some message => exact hsound
      | none => exact hsound.pollRows hfits
  | enqueue row => exact hsound

/-- Every operation of the run fits the world before it. -/
def AllFit (sha256 : Bytes → Bytes) (marshal : Payload → Except String Bytes)
    (session : Uuid) : List Operation → World → Prop
  | [], _ => True
  | operation :: operations, world =>
      operation.Fits session world ∧
        AllFit sha256 marshal session operations
          (operation.run sha256 marshal world).2

theorem Sound.runAll {operations : List Operation} {before after : World}
    (hsound : Sound session before.db)
    (hfits : AllFit sha256 marshal session operations before)
    (hrun : runAll sha256 marshal operations before = some after) :
    Sound session after.db := by
  induction operations generalizing before with
  | nil =>
      cases hrun
      exact hsound
  | cons operation operations ih =>
      have hstep : Sound session (operation.run sha256 marshal before).2.db :=
        hsound.run hfits.1
      rw [SessionHistory.runAll] at hrun
      split at hrun
      · next world hoperation =>
        have hlater := hfits.2
        rw [hoperation] at hstep hlater
        exact ih hstep hlater hrun
      · cases hrun

theorem sessionEvents_folds (hsound : Sound session db)
    (textField : Bytes → String → Option String) :
    Folds textField (sessionEvents db session) := by
  have hmem : ∀ row ∈ streamRows db session, row ∈ sessionRows db session :=
    fun row hrow => (List.mem_insertionSort _).mp hrow
  rw [folds_iff_of_version_eq_one]
  · constructor
    · rw [sessionEvents, List.length_map, streamRows, List.length_insertionSort]
      exact hsound.single
    · intro event hevent
      obtain ⟨row, hrow, rfl⟩ := List.mem_map.mp hevent
      exact hsound.known row (hmem row hrow)
  · intro event hevent
    obtain ⟨row, hrow, rfl⟩ := List.mem_map.mp hevent
    exact hsound.version row (hmem row hrow)

/-- After every run of successful operations that fit, starting before the
session's first event, the fold of the session's events reports neither a gap
nor an unknown type. -/
theorem session_history_folds {operations : List Operation}
    {before after : World} (hdb : Unwritten before.db)
    (hempty : sessionRows before.db session = [])
    (hfits : AllFit sha256 marshal session operations before)
    (hrun : runAll sha256 marshal operations before = some after)
    (textField : Bytes → String → Option String) :
    Folds textField (sessionEvents after.db session) := by
  have hsound : Sound session before.db := by
    refine ⟨hdb, ?_, ?_, ?_⟩
    · rw [hempty]
      exact fun _ hrow => nomatch hrow
    · rw [hempty]
      exact Nat.zero_le 1
    · rw [hempty]
      exact fun _ hrow => nomatch hrow
  exact sessionEvents_folds (hsound.runAll hfits hrun) textField

end Appends

namespace Samples

def request : ForwardRequest where
  sessionId := "00000000-0000-0000-0000-000000000009"
  sessionUuid := 9
  tenantUuid := 5
  phoneNumber := "+263771234567"
  serviceCode := "*123#"
  userInput := "1"
  currentMenu := "main"

def balance : RouteResponse where
  nextMenu := "balance"
  endSession := false
  paymentInitiated := false
  paymentId := ""
  providerReference := ""
  paymentStatus := ""

def confirmedPayload : Payload := some [("reference_id", .string "ref-42")]

/-- A confirmed payment, put into the outbox for the session's aggregate. -/
def confirmed : OutboxRow where
  outboxId := 1
  aggregateType := "payment"
  aggregateId := 9
  eventType := "PaymentConfirmed"
  payload := confirmedPayload
  tenantId := 5
  createdAt := EventStore.Samples.midnight
  processed := false
  retryCount := 0

def processedText : String :=
  "\x7b\"current_menu\":\"main\",\"end_session\":false," ++
    "\"next_menu\":\"balance\",\"phone_number\":\"+263771234567\"," ++
    "\"service_code\":\"*123#\"," ++
    "\"session_id\":\"00000000-0000-0000-0000-000000000009\"," ++
    "\"user_input\":\"1\"\x7d"

/-- Agrees with `json.Marshal` on the payloads of the runs. -/
def marshal (payload : Payload) : Except String Bytes :=
  if payload = (sessionProcessed request balance "" 1728000000).payload then
    .ok (Text.utf8 processedText)
  else if payload = confirmedPayload then
    .ok (Text.utf8 "\x7b\"reference_id\":\"ref-42\"\x7d")
  else EventStore.Samples.marshal payload

/-- The real digests of the texts hashed in the runs. -/
def hashes : List (Bytes × Bytes) :=
  EventStore.Samples.hashes ++
    [(Text.utf8 (processedText ++ "1728000000000000000"),
      HashTables.digest
        0x901771d17e4cd282db681d5031a6d0afe4824f6f8239f624b2c0b773b887c8de),
      (Text.utf8 "sess-00000000-0000-0000-0000-000000000009-1728000000",
      HashTables.digest
        0x9a54dce4e6142dfb8b1891e9c770508f18d6df78b44fd30139d9dcebad2f8796),
      (Text.utf8 "\x7b\"reference_id\":\"ref-42\"\x7d1728000001000000000",
      HashTables.digest
        0x3a7c2ba6b91101b2ed5eda031f062e05231cd869d395854ae9c7a2919a079064)]

def sha256 : Bytes → Bytes := HashTables.tableHash hashes

/-- The string fields of the payload of `SessionEnded`. -/
def textField (payload : Bytes) (key : String) : Option String :=
  if payload = Text.utf8 "\x7b\"reason\":\"timeout\"\x7d" ∧ key = "reason" then
    some "timeout"
  else none

def working (occurredAt now : Time) : Choice where
  failure := none
  occurredAt := occurredAt
  env := EventStore.Samples.env now

def calls (occurredAt now : Time) : CallEnv where
  check := working occurredAt now
  read := working occurredAt now
  commit := working occurredAt now

def forwarded (now : Time) : Operation :=
  .forwardUSSD request (.ok balance) "" 1728000000
    (calls EventStore.Samples.midnight now)
    (calls EventStore.Samples.midnight now)

def ended : Operation :=
  .endSession 9 5 "timeout" (calls (EventStore.Samples.midnight + 1000000000) 1)

def poll : Operation :=
  .pollOutbox none fun _ =>
    { choice := working (EventStore.Samples.midnight + 1000000000) 2
      marked := true }

def initial : World where
  db := EventStore.Samples.empty
  outbox := []

/-- The world after the operations, the initial one if one of them fails. -/
def worldAfter (operations : List Operation) : World :=
  (runAll sha256 marshal operations initial).getD initial

/-- What the session reconstructor makes of session 9 after the operations. -/
def folded (operations : List Operation) :
    Option (Except SessionReconstructor.DomainError
      SessionReconstructor.SessionState) :=
  (runAll sha256 marshal operations initial).map fun world =>
    SessionReconstructor.foldSessionState textField (sessionEvents world.db 9)

end Samples

/-- A session is ended and receives one more request. -/
theorem session_history_folds_ended :
    Folds Samples.textField (sessionEvents
        (Samples.worldAfter [Samples.ended, Samples.forwarded 2]).db 9) ∧
      Samples.folded [Samples.ended, Samples.forwarded 2] =
        some (.ok [("end_reason", "timeout"), ("status", "ended")]) := by
  have hfits : AllFit Samples.sha256 Samples.marshal 9
      [Samples.ended, Samples.forwarded 2] Samples.initial := by
    refine ⟨trivial, fun _ => Or.inr (Or.inl ?_), trivial⟩
    decide +kernel
  have hrun : runAll Samples.sha256 Samples.marshal
      [Samples.ended, Samples.forwarded 2] Samples.initial =
        some (Samples.worldAfter [Samples.ended, Samples.forwarded 2]) := by
    have hsome : (runAll Samples.sha256 Samples.marshal
        [Samples.ended, Samples.forwarded 2] Samples.initial).isSome := by
      decide +kernel
    obtain ⟨world, hworld⟩ := Option.isSome_iff_exists.mp hsome
    rw [Samples.worldAfter, hworld]
    rfl
  exact ⟨session_history_folds EventStore.Samples.unwritten_empty rfl hfits hrun
    Samples.textField, by decide +kernel⟩

/-- A forwarded request leaves a type that the fold does not know, and a poll
after the end of the session a second event of version 1. -/
theorem session_history_not_folded :
    Samples.folded [Samples.forwarded 1] =
        some (.error (.invalidEventType "SessionProcessed")) ∧
      Samples.folded [Samples.ended, .enqueue Samples.confirmed, Samples.poll] =
        some (.error (.eventSequenceGap 2 1)) := by
  decide +kernel

end UssdKernel.SessionHistory
