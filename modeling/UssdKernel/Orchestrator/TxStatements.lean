import UssdKernel.Orchestrator.AppendOutcome

/-!
# The statements of an append

`Handle` statement by statement.  A transaction reads the snapshot it began
on and keeps its rows to itself until it commits.  A key that another
transaction has committed is a duplicate for the `INSERT`, and of two open
transactions with the same key at most one commits.
-/

namespace UssdKernel.KeyClaims

open Programs Interleaving EventStore SessionHistory AppendOutcome Results

/-- An open transaction: the snapshot it reads, and the snapshot with its own
rows. -/
structure Tx where
  base : Database
  work : Database

def Tx.newEvents (tx : Tx) : List EventRow :=
  tx.work.events.drop tx.base.events.length

def Tx.newKeys (tx : Tx) : List IdempotencyRow :=
  tx.work.idempotencyKeys.drop tx.base.idempotencyKeys.length

def Tx.newLog (tx : Tx) : List TransactionRow :=
  tx.work.transactionLog.drop tx.base.transactionLog.length

/-- The committed tables, the open transaction of every call, and the log of
the events that calls have committed. -/
structure Server (ι : Type) where
  db : Database
  transactions : ι → Option Tx
  log : List (ι × EventRow)

/-- The statements of a call; the transaction is that of the call. -/
inductive Statement (ι : Type)
  | checkIdempotency (key : String)
  | getLatestVersion (aggregateId : Uuid)
  | beginTx (call : ι)
  | storeIdempotency (call : ι) (key : String)
  | appendTx (call : ι) (command : AppendEventCommand) (latestVersion : ℤ)
  | commit (call : ι)
  | rollback (call : ι)

abbrev Statement.Res {ι : Type} : Statement ι → Type
  | checkIdempotency _ => Except String Bool
  | getLatestVersion _ => Except String ℤ
  | beginTx _ => Except String Unit
  | storeIdempotency _ _ => Except AppendError Unit
  | appendTx _ _ _ => Except String (List StoredEventRecord)
  | commit _ => Except String Unit
  | rollback _ => Unit

/-- What the surroundings add to one statement.  A failed commit may have been
applied all the same, its answer lost. -/
structure Turn where
  failure : Option String
  applied : Bool
  occurredAt : Time
  env : TxEnv

def txDone : String :=
  "sql: transaction has already been committed or rolled back"

/-- The rows of the transaction join the committed ones. -/
def merge (db : Database) (tx : Tx) : Database :=
  { db with
    events := db.events ++ tx.newEvents
    transactionLog := db.transactionLog ++ tx.newLog
    idempotencyKeys := db.idempotencyKeys ++ tx.newKeys }

/-- A committed row has the key or the version of a row of the transaction. -/
def conflicts (db : Database) (tx : Tx) : Bool :=
  (tx.newKeys.any fun row => keyStored db row.idempotencyKey) ||
    tx.newEvents.any (violatesUnique db)

section Respond

variable {ι : Type} [DecidableEq ι] (sha256 : Bytes → Bytes)
  (marshal : Payload → Except String Bytes)

section ServerMoves

variable (server : Server ι) (call : ι)

def Server.set (tx : Option Tx) : Server ι :=
  { server with transactions := Function.update server.transactions call tx }

/-- `StoreIdempotency` in an open transaction. -/
def Server.store (tx : Tx) (key : String) (now : Time) :
    Except AppendError Unit × Server ι :=
  if keyStored server.db key then (.error .duplicateEvent, server)
  else
    match storeIdempotency sha256 tx.work key now with
    | .error error => (.error error, server)
    | .ok stored => (.ok (), server.set call (some { tx with work := stored }))

/-- `AppendTx` in an open transaction. -/
def Server.append (tx : Tx) (env : TxEnv) (event : DomainEvent) :
    Except String (List StoredEventRecord) × Server ι :=
  match EventStore.appendTx sha256 marshal env tx.work [.domain event] with
  | .error message => (.error message, server)
  | .ok (records, appended) =>
      (.ok records, server.set call (some { tx with work := appended }))

/-- `Commit` of an open transaction. -/
def Server.commit (tx : Tx) (turn : Turn) :
    Except String Unit × Server ι :=
  let closed := server.set call none
  let answer : Except String Unit :=
    match turn.failure with
    | some message => .error message
    | none => .ok ()
  if turn.failure.isSome ∧ ¬ turn.applied then (answer, closed)
  else if conflicts server.db tx then
    (.error "pq: could not serialize access due to concurrent update", closed)
  else
    (answer,
      { closed with
        db := merge server.db tx
        log := server.log ++ tx.newEvents.map fun row => (call, row) })

end ServerMoves

def Statement.respond (turn : Turn) :
    (statement : Statement ι) → Server ι → statement.Res × Server ι
  | checkIdempotency key, server =>
      match turn.failure with
      | some message => (.error message, server)
      | none => (.ok (keyStored server.db key), server)
  | getLatestVersion aggregateId, server =>
      match turn.failure with
      | some message => (.error message, server)
      | none => (.ok (latestVersion server.db aggregateId), server)
  | beginTx call, server =>
      match turn.failure with
      | some message => (.error message, server)
      | none => (.ok (), server.set call (some ⟨server.db, server.db⟩))
  | storeIdempotency call key, server =>
      match turn.failure, server.transactions call with
      | some message, _ => (.error (.other message), server)
      | none, none => (.error (.other txDone), server)
      | none, some tx => server.store sha256 call tx key turn.occurredAt
  | appendTx call command latestVersion, server =>
      match turn.failure, server.transactions call with
      | some message, _ => (.error message, server)
      | none, none => (.error txDone, server)
      | none, some tx => server.append sha256 marshal call tx turn.env
          (command.event latestVersion turn.occurredAt)
  | commit call, server =>
      match server.transactions call with
      | none => (.error txDone, server)
      | some tx => server.commit call tx turn
  | rollback call, server => ((), server.set call none)

end Respond

abbrev Task (ι A : Type) := Prog (Statement ι) Statement.Res AppendError A

section Handle

variable {ι : Type}

def readLatest (command : AppendEventCommand) : Task ι ℤ := do
  match ← Prog.call (Statement.getLatestVersion command.aggregateId) with
  | .error message => Prog.raise (.other message)
  | .ok latestVersion =>
      if command.expectedVersion ≥ 0 ∧
          latestVersion ≠ command.expectedVersion then
        Prog.raise .concurrencyConflict
      else pure latestVersion

section Call

variable (call : ι) (command : AppendEventCommand)

def claim : Task ι Unit := do
  if command.idempotencyKey ≠ "" then
    match ← Prog.call
      (Statement.storeIdempotency call command.idempotencyKey) with
    | .error error => Prog.raise error
    | .ok () => pure ()

/-- From the claim of the key to the commit. -/
def transaction (latestVersion : ℤ) : Task ι AppendEventResult := do
  claim call command
  match ← Prog.call (Statement.appendTx call command latestVersion) with
  | .error message => Prog.raise (.other message)
  | .ok records =>
      match ← Prog.call (Statement.commit call) with
      | .error message => Prog.raise (.other message)
      | .ok () =>
          match records with
          | [] => Prog.raise (.other "no event record returned")
          | record :: _ => pure record

/-- The transaction with its deferred rollback. -/
def inTransaction (latestVersion : ℤ) : Task ι AppendEventResult := do
  match ← Prog.call (Statement.beginTx call) with
  | .error message => Prog.raise (.other message)
  | .ok () =>
      let result ← (transaction call command latestVersion).attempt
      let _ ← Prog.call (Statement.rollback call)
      .done result

def handle :
    Task ι AppendEventResult := do
  if command.idempotencyKey ≠ "" then
    match ← Prog.call
      (Statement.checkIdempotency command.idempotencyKey) with
    | .error message => Prog.raise (.other message)
    | .ok true => Prog.raise .duplicateEvent
    | .ok false => pure ()
  let latestVersion ← readLatest command
  inTransaction call command latestVersion

end Call

end Handle

/-! ## What a call does, in order -/

/-- How far a call has come; `finished` says whether its commit was
reported as successful. -/
inductive Stage
  | reading
  | begun
  | claimed
  | appended
  | finished (reported : Bool)

section Contract

variable {ι : Type} (commands : ι → AppendEventCommand)

/-- A call works in its own transaction: it claims its own key first, appends
its own event next and commits last. -/
def callContract : Prog.Contract (Statement ι) Statement.Res (ι × Stage) where
  allowed note
    | .checkIdempotency _ => True
    | .getLatestVersion _ => True
    | .beginTx call => call = note.1 ∧ note.2 = .reading
    | .storeIdempotency call key =>
        call = note.1 ∧ note.2 = .begun ∧
          key = (commands call).idempotencyKey ∧ key ≠ ""
    | .appendTx call command _ =>
        call = note.1 ∧ command = commands call ∧ (note.2 = .claimed ∨
          note.2 = .begun ∧ command.idempotencyKey = "")
    | .commit call => call = note.1 ∧ note.2 = .appended
    | .rollback call => call = note.1
  observe note
    | .beginTx _, .ok () => (note.1, .begun)
    | .storeIdempotency _ _, .ok () => (note.1, .claimed)
    | .appendTx _ _ _, .ok _ => (note.1, .appended)
    | .commit _, .ok () => (note.1, .finished true)
    | .commit _, .error _ => (note.1, .finished false)
    | .rollback _, () =>
        (note.1, match note.2 with
          | .finished reported => .finished reported
          | _ => .finished false)
    | _, _ => note

/-- A call that succeeds has been told that its commit succeeded. -/
def Told (note : ι × Stage) (result : Except AppendError AppendEventResult) :
    Prop :=
  ∀ value, result = .ok value → note.2 = .finished true

variable {commands} {call : ι}

theorem told_error (note : ι × Stage) (error : AppendError) :
    Told note (.error error) := by
  intro value hvalue
  cases hvalue

theorem meets_readLatest (command : AppendEventCommand) (note : ι × Stage) :
    (readLatest command).Meets (callContract commands)
      (fun later _ => later = note) note := by
  refine ⟨trivial, fun answer => ?_⟩
  cases answer with
  | error message => rfl
  | ok latest =>
      change Prog.Meets _ _ note (if _ then _ else _)
      split <;> rfl

theorem meets_claim :
    (claim call (commands call)).Meets (callContract commands)
      (fun later result => later.1 = call ∧ (result = .ok () →
        later.2 = .claimed ∨
          later.2 = .begun ∧ (commands call).idempotencyKey = ""))
      (call, .begun) := by
  unfold claim
  split
  · next hkey =>
    refine ⟨⟨rfl, rfl, rfl, hkey⟩, fun answer => ?_⟩
    cases answer with
    | error error => exact ⟨rfl, fun h => by cases h⟩
    | ok _ => exact ⟨rfl, fun _ => Or.inl rfl⟩
  · next hkey => exact ⟨rfl, fun _ => Or.inr ⟨rfl, not_not.mp hkey⟩⟩

theorem meets_transaction (latestVersion : ℤ) :
    (transaction call (commands call) latestVersion).Meets
      (callContract commands)
      (fun later result => later.1 = call ∧ Told later result)
      (call, .begun) := by
  unfold transaction
  rw [Prog.meets_bind]
  refine meets_claim.mono fun later result hclaim => ?_
  obtain ⟨id, stage⟩ := later
  obtain ⟨rfl, hstage⟩ := hclaim
  cases result with
  | error error => exact ⟨rfl, told_error _ _⟩
  | ok _ =>
      refine ⟨⟨rfl, rfl, hstage rfl⟩, fun answer => ?_⟩
      cases answer with
      | error message => exact ⟨rfl, told_error _ _⟩
      | ok records =>
          refine ⟨⟨rfl, rfl⟩, fun committed => ?_⟩
          cases committed with
          | error message => exact ⟨rfl, told_error _ _⟩
          | ok _ =>
              cases records with
              | nil => exact ⟨rfl, told_error _ _⟩
              | cons record records => exact ⟨rfl, fun _ _ => rfl⟩

theorem meets_inTransaction (latestVersion : ℤ) :
    (inTransaction call (commands call) latestVersion).Meets
      (callContract commands) Told (call, .reading) := by
  refine ⟨⟨rfl, rfl⟩, fun answer => ?_⟩
  cases answer with
  | error message => exact told_error _ _
  | ok _ =>
      change Prog.Meets (callContract commands) Told (call, .begun)
        ((transaction call (commands call) latestVersion).attempt >>=
          fun result => Prog.call (Statement.rollback call) >>= fun _ =>
            .done result)
      rw [Prog.meets_bind, Prog.meets_attempt]
      refine (meets_transaction latestVersion).mono fun later result htold => ?_
      obtain ⟨id, stage⟩ := later
      obtain ⟨rfl, htold⟩ := htold
      refine ⟨rfl, fun _ value hvalue => ?_⟩
      obtain rfl : stage = .finished true := htold value hvalue
      rfl

theorem meets_handle (call : ι) :
    (handle call (commands call)).Meets (callContract commands) Told
      (call, .reading) := by
  have hrest : (readLatest (commands call) >>= fun latestVersion =>
      inTransaction call (commands call) latestVersion).Meets
        (callContract commands) Told (call, .reading) := by
    rw [Prog.meets_bind]
    refine (meets_readLatest _ _).mono fun later result hlater => ?_
    subst hlater
    cases result with
    | error error => exact told_error _ _
    | ok latest => exact meets_inTransaction latest
  unfold handle
  split
  · refine ⟨trivial, fun found => ?_⟩
    cases found with
    | error message => exact told_error _ _
    | ok duplicate =>
        cases duplicate with
        | true => exact told_error _ _
        | false => exact hrest
  · exact hrest

end Contract

/-! ## Open transactions -/

/-- The transaction has added these rows to its snapshot. -/
structure Tx.Holds (tx : Tx) (events : List EventRow)
    (keys : List IdempotencyRow) : Prop where
  events : tx.work.events = tx.base.events ++ events
  keys : tx.work.idempotencyKeys = tx.base.idempotencyKeys ++ keys

/-- What the transaction of a call contains at each stage. -/
def Matches (command : AppendEventCommand) : Stage → Option Tx → Prop
  | .begun, slot => ∃ tx, slot = some tx ∧ tx.Holds [] []
  | .claimed, slot => ∃ tx keys, slot = some tx ∧ tx.Holds [] keys ∧
      keys.map IdempotencyRow.idempotencyKey = newKeys command
  | .appended, slot => ∃ tx row keys, slot = some tx ∧
      tx.Holds [row] keys ∧
        keys.map IdempotencyRow.idempotencyKey = newKeys command ∧
          row.metadata.idempotencyKey = nullString command.idempotencyKey
  | .reading, _ => True
  | .finished _, _ => True

/-- The call whose transaction the statement works in. -/
def Statement.call {ι : Type} : Statement ι → Option ι
  | checkIdempotency _ => none
  | getLatestVersion _ => none
  | beginTx call => some call
  | storeIdempotency call _ => some call
  | appendTx call _ _ => some call
  | commit call => some call
  | rollback call => some call

section Statements

variable {sha256 : Bytes → Bytes} {marshal : Payload → Except String Bytes}
  {events : List EventRow} {keys : List IdempotencyRow}

theorem Tx.Holds.newEvents_eq {tx : Tx} (hholds : tx.Holds events keys) :
    tx.newEvents = events := by
  rw [Tx.newEvents, hholds.events, List.drop_left]

theorem Tx.Holds.newKeys_eq {tx : Tx} (hholds : tx.Holds events keys) :
    tx.newKeys = keys := by
  rw [Tx.newKeys, hholds.keys, List.drop_left]

/-- `AppendTx` on one event adds its row, and to the transaction log at
most. -/
theorem appendTx_eq_ok {env : TxEnv} {db appended : Database}
    {event : DomainEvent} {records : List StoredEventRecord}
    (happend : EventStore.appendTx sha256 marshal env db [.domain event] =
      .ok (records, appended)) :
    ∃ row log, violatesUnique db row = false ∧
      row.metadata.idempotencyKey = nullString event.idempotency ∧
        appended = { db with
          events := db.events ++ [row]
          transactionLog := db.transactionLog ++ log } := by
  obtain ⟨record, -, hone⟩ := appendTx_domain_eq_ok happend
  obtain ⟨payload, row, log, -, rfl, hunique, rfl, -⟩ := appendOne_eq_ok hone
  exact ⟨_, log, hunique, rfl, rfl⟩

variable {ι : Type} [DecidableEq ι] {turn : Turn} {server : Server ι}

variable {statement : Statement ι}

/-- The transactions of other calls are left alone. -/
theorem respond_transactions_of_ne {other : ι}
    (hother : statement.call ≠ some other) :
    (statement.respond sha256 marshal turn server).2.transactions other =
      server.transactions other := by
  have hset : ∀ {call : ι} (tx : Option Tx), some call ≠ some other →
      (server.set call tx).transactions other = server.transactions other := by
    intro call tx hne
    exact Function.update_of_ne (fun heq => hne (congrArg some heq.symm)) _ _
  cases statement with
  | checkIdempotency key | getLatestVersion aggregateId =>
      simp only [Statement.respond]
      split <;> rfl
  | beginTx call =>
      simp only [Statement.respond]
      split
      · rfl
      · exact hset _ hother
  | storeIdempotency call key =>
      simp only [Statement.respond]
      split
      · rfl
      · rfl
      · rw [Server.store]
        split
        · rfl
        · split
          · rfl
          · exact hset _ hother
  | appendTx call command latestVersion =>
      simp only [Statement.respond]
      split
      · rfl
      · rfl
      · rw [Server.append]
        split
        · rfl
        · exact hset _ hother
  | commit call =>
      simp only [Statement.respond]
      split
      · rfl
      · rw [Server.commit]
        split
        · exact hset _ hother
        · split
          · exact hset _ hother
          · exact hset _ hother
  | rollback call => exact hset _ hother

/-- What a commit does: it leaves the committed tables and reports an error,
or it adds the rows of its transaction. -/
theorem commit_cases (server : Server ι) (call : ι) (tx : Tx) (turn : Turn) :
    let answer := server.commit call tx turn
    (answer.2.db = server.db ∧ answer.2.log = server.log ∧
        ∃ message, answer.1 = .error message) ∨
      conflicts server.db tx = false ∧ answer.2.db = merge server.db tx ∧
        answer.2.log =
          server.log ++ tx.newEvents.map fun row => (call, row) := by
  intro answer
  by_cases hlost : turn.failure.isSome ∧ ¬ turn.applied
  · left
    obtain ⟨message, hmessage⟩ := Option.isSome_iff_exists.mp hlost.1
    have hanswer : answer = (match turn.failure with
        | some message => .error message
        | none => .ok (), server.set call none) := if_pos hlost
    rw [hanswer, hmessage]
    exact ⟨rfl, rfl, message, rfl⟩
  · cases hconflicts : conflicts server.db tx with
    | true =>
        left
        simp only [answer, Server.commit, if_neg hlost, hconflicts, if_true]
        exact ⟨rfl, rfl, _, rfl⟩
    | false =>
        refine Or.inr ⟨rfl, ?_, ?_⟩ <;>
        · simp only [answer, Server.commit, if_neg hlost, hconflicts]
          rfl

/-- Only a commit changes the committed tables. -/
theorem respond_cases (turn : Turn) (statement : Statement ι)
    (server : Server ι) :
    let after := (statement.respond sha256 marshal turn server).2
    (after.db = server.db ∧ after.log = server.log ∧
        ∀ call, statement = .commit call → ∃ message,
          ((Statement.commit call).respond sha256 marshal turn server).1 =
            .error message) ∨
      ∃ call tx, statement = .commit call ∧
        server.transactions call = some tx ∧ conflicts server.db tx = false ∧
          after.db = merge server.db tx ∧
            after.log =
              server.log ++ tx.newEvents.map fun row => (call, row) := by
  intro after
  cases statement with
  | checkIdempotency key | getLatestVersion aggregateId | beginTx call =>
      refine Or.inl ⟨?_, ?_, fun call hcommit => by cases hcommit⟩ <;>
      · simp only [after, Statement.respond]
        split <;> rfl
  | storeIdempotency call key =>
      refine Or.inl ⟨?_, ?_, fun call hcommit => by cases hcommit⟩ <;>
      · simp only [after, Statement.respond, Server.store]
        repeat' split
        all_goals rfl
  | appendTx call command latestVersion =>
      refine Or.inl ⟨?_, ?_, fun call hcommit => by cases hcommit⟩ <;>
      · simp only [after, Statement.respond, Server.append]
        repeat' split
        all_goals rfl
  | rollback call =>
      exact Or.inl ⟨rfl, rfl, fun call hcommit => by cases hcommit⟩
  | commit call =>
      cases htx : server.transactions call with
      | none =>
          have hanswer : (Statement.commit call).respond sha256 marshal turn
              server = (.error txDone, server) := by
            simp only [Statement.respond, htx]
          refine Or.inl ⟨by simp only [after, hanswer], by
            simp only [after, hanswer], fun other hcommit => ?_⟩
          obtain rfl := Statement.commit.inj hcommit
          exact ⟨txDone, by rw [hanswer]⟩
      | some tx =>
          have hanswer : (Statement.commit call).respond sha256 marshal turn
              server = server.commit call tx turn := by
            simp only [Statement.respond, htx]
          simp only [after, hanswer]
          rcases commit_cases server call tx turn with
            ⟨hdb, hlog, message, hmessage⟩ | ⟨hconflicts, hdb, hlog⟩
          · refine Or.inl ⟨hdb, hlog, fun other hcommit => ?_⟩
            obtain rfl := Statement.commit.inj hcommit
            exact ⟨message, by rw [hanswer, hmessage]⟩
          · exact Or.inr ⟨call, tx, rfl, htx, hconflicts, hdb, hlog⟩

variable {commands : ι → AppendEventCommand} {call : ι} {stage : Stage}

/-- A statement of a call keeps its transaction in step with its stage. -/
theorem respond_matches
    (hallowed : (callContract commands).allowed (call, stage) statement)
    (hmatches : Matches (commands call) stage (server.transactions call)) :
    let answer := statement.respond sha256 marshal turn server
    Matches (commands call)
      ((callContract commands).observe (call, stage) statement answer.1).2
      (answer.2.transactions call) := by
  intro answer
  cases statement with
  | checkIdempotency key | getLatestVersion aggregateId =>
      have hanswer : answer.2 = server := by
        simp only [answer, Statement.respond]
        split <;> rfl
      rw [hanswer]
      exact hmatches
  | beginTx owner =>
      obtain ⟨rfl, -⟩ := hallowed
      simp only [answer, Statement.respond]
      cases turn.failure with
      | some message => exact hmatches
      | none =>
          exact ⟨_, Function.update_self _ _ _, (List.append_nil _).symm,
            (List.append_nil _).symm⟩
  | storeIdempotency owner key =>
      obtain ⟨rfl, rfl, rfl, hkey⟩ := hallowed
      obtain ⟨tx, htx, hholds⟩ := hmatches
      have hsame : Matches (commands owner) .begun
          (server.transactions owner) := ⟨tx, htx, hholds⟩
      simp only [answer, Statement.respond]
      cases turn.failure with
      | some message => exact hsame
      | none =>
          rw [htx]
          dsimp only [Server.store]
          split
          · exact hsame
          · cases hstore : storeIdempotency sha256 tx.work
                (commands owner).idempotencyKey turn.occurredAt with
            | error error => exact hsame
            | ok stored =>
                obtain ⟨hevents, row, hrow, hkeys⟩ :=
                  storeIdempotency_eq_ok hstore
                refine ⟨_, [row], Function.update_self _ _ _, ⟨?_, ?_⟩, ?_⟩
                · exact hevents.trans hholds.events
                · rw [hkeys, hholds.keys, List.append_nil]
                · rw [newKeys, if_neg hkey, List.map_singleton, hrow]
  | appendTx owner command latestVersion =>
      obtain ⟨rfl, rfl, hstage⟩ := hallowed
      obtain ⟨tx, keys, htx, hholds, hkeys⟩ : ∃ tx keys,
          server.transactions owner = some tx ∧ tx.Holds [] keys ∧
            keys.map IdempotencyRow.idempotencyKey =
              newKeys (commands owner) := by
        rcases hstage with rfl | ⟨rfl, hkey⟩
        · exact hmatches
        · obtain ⟨tx, htx, hholds⟩ := hmatches
          exact ⟨tx, [], htx, hholds, by rw [newKeys, if_pos hkey]; rfl⟩
      simp only [answer, Statement.respond]
      cases turn.failure with
      | some message => exact hmatches
      | none =>
          rw [htx]
          dsimp only [Server.append]
          cases happend : EventStore.appendTx sha256 marshal turn.env tx.work
              [.domain ((commands owner).event latestVersion
                turn.occurredAt)] with
          | error message => exact hmatches
          | ok result =>
              obtain ⟨records, appended⟩ := result
              obtain ⟨row, log, -, hrow, rfl⟩ := appendTx_eq_ok happend
              refine ⟨_, row, keys, Function.update_self _ _ _,
                ⟨?_, hholds.keys⟩, hkeys, hrow⟩
              exact congrArg (· ++ [row])
                (hholds.events.trans (List.append_nil _))
  | commit owner =>
      cases hreported : answer.1 <;> trivial
  | rollback owner =>
      obtain rfl : owner = call := hallowed
      cases stage <;> trivial

omit [DecidableEq ι] in
theorem call_of_allowed
    (hallowed : (callContract commands).allowed (call, stage) statement) :
    statement.call = none ∨ statement.call = some call := by
  cases statement with
  | checkIdempotency key | getLatestVersion aggregateId => exact Or.inl rfl
  | beginTx owner | storeIdempotency owner key
  | appendTx owner command latestVersion | commit owner =>
      exact Or.inr (congrArg some hallowed.1)
  | rollback owner => exact Or.inr (congrArg some hallowed)

omit [DecidableEq ι] in
theorem observe_fst (note : ι × Stage) (statement : Statement ι)
    (answer : statement.Res) :
    ((callContract commands).observe note statement answer).1 = note.1 := by
  cases statement <;> first | rfl | (cases answer <;> rfl)

omit [DecidableEq ι] in
/-- A finished call stays finished. -/
theorem observe_of_finished {reported : Bool}
    (hallowed : (callContract commands).allowed
      (call, .finished reported) statement)
    (answer : statement.Res) :
    ((callContract commands).observe (call, .finished reported) statement
      answer).2 = .finished reported := by
  cases statement with
  | checkIdempotency key => rfl
  | getLatestVersion aggregateId => rfl
  | beginTx owner => cases hallowed.2
  | storeIdempotency owner key => cases hallowed.2.1
  | appendTx owner command latestVersion =>
      rcases hallowed.2.2 with hstage | ⟨hstage, -⟩ <;> cases hstage
  | commit owner => cases hallowed.2
  | rollback owner => rfl

omit [DecidableEq ι] in
/-- A call is told of a success only by its commit. -/
theorem commit_of_observe {answer : statement.Res}
    (hobserve : ((callContract commands).observe (call, stage) statement
      answer).2 = .finished true) :
    stage = .finished true ∨ ∃ owner, ∃ hcommit : statement = .commit owner,
      (hcommit ▸ answer : (Statement.commit owner).Res) = .ok () := by
  cases statement with
  | checkIdempotency key => exact Or.inl hobserve
  | getLatestVersion aggregateId => exact Or.inl hobserve
  | beginTx owner
  | storeIdempotency owner key
  | appendTx owner command latestVersion =>
      cases answer with
      | error message => exact Or.inl hobserve
      | ok _ => cases hobserve
  | commit owner =>
      cases answer with
      | error message => cases hobserve
      | ok _ => exact Or.inr ⟨owner, rfl, rfl⟩
  | rollback owner =>
      cases stage with
      | finished reported => exact Or.inl hobserve
      | reading => cases hobserve
      | begun => cases hobserve
      | claimed => cases hobserve
      | appended => cases hobserve

end Statements

end UssdKernel.KeyClaims
