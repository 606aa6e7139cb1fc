import UssdKernel.Orchestrator.SessionHistory

/-!
# The outcome of one append

What a call of `Handle` answers and leaves behind when no other call disturbs
it.  The answer depends on the store through three readings only: whether the
idempotency key is stored, the latest version of the aggregate, and the
transaction types.  A call that answers an error leaves the store as it was.
-/

namespace UssdKernel.AppendOutcome

open Programs EventStore SessionHistory

/-- What can fail in `AppendTx` for an event with a free version. -/
def appendVerdict (marshal : Payload → Except String Bytes)
    (payload : Payload) (aggregateType eventType : String) (db : Database) :
    Except String Unit :=
  match marshal payload with
  | .error message => .error message
  | .ok _ =>
      if isFinancialEvent aggregateType then
        (resolveTransactionType db eventType).map fun _ => ()
      else .ok ()

section Verdict

variable (marshal : Payload → Except String Bytes) (env : CallEnv)
  (command : AppendEventCommand) (db : Database)

/-- What can still fail in a transaction whose key and version are free. -/
def commitVerdict : Except AppendError Unit :=
  match env.commit.failure with
  | some message => .error (.other message)
  | none =>
      match appendVerdict marshal command.payload command.aggregateType
        command.eventType db with
      | .error message => .error (.other message)
      | .ok () => .ok ()

/-- The version a call is accepted with, or the error it answers. -/
def verdict : Except AppendError ℤ := do
  checkVerdict env command db
  let latest ← readVerdict env command db
  commitVerdict marshal env command db
  return latest + 1

end Verdict

/-- What `AppendTx` returns for a row, and the caller is told. -/
def resultOf (row : EventRow) : AppendEventResult where
  eventId := row.eventId
  version := row.sequenceNumber
  recordedAt := row.occurredAt
  recordHash := row.metadata.recordHash
  previousHash := row.metadata.previousHash

/-- The row that an accepted command leaves. -/
structure RowOf (command : AppendEventCommand) (row : EventRow) : Prop where
  eventType : row.eventType = command.eventType
  streamId : row.streamId = command.aggregateId
  idempotencyKey :
    row.metadata.idempotencyKey = nullString command.idempotencyKey

/-- The keys that an accepted command stores. -/
def newKeys (command : AppendEventCommand) : List String :=
  if command.idempotencyKey = "" then [] else [command.idempotencyKey]

def keys (db : Database) : List String :=
  db.idempotencyKeys.map IdempotencyRow.idempotencyKey

/-- The command is accepted: its row and its key are added. -/
structure Appended (command : AppendEventCommand) (row : EventRow)
    (before after : Database) : Prop where
  carries : RowOf command row
  version : row.sequenceNumber = latestVersion before command.aggregateId + 1
  events : after.events = before.events ++ [row]
  keys : keys after = keys before ++ newKeys command
  types : after.transactionTypes = before.transactionTypes

theorem keyStored_iff {db : Database} {key : String} :
    keyStored db key = true ↔ key ∈ keys db := by
  rw [keyStored, keys, List.any_eq_true, List.mem_map]
  simp only [decide_eq_true_eq]

theorem keyStored_eq_false_iff {db : Database} {key : String} :
    keyStored db key = false ↔ key ∉ keys db := by
  rw [← keyStored_iff, Bool.not_eq_true]

variable {sha256 : Bytes → Bytes}

section Transaction

variable {marshal : Payload → Except String Bytes}

theorem resolveTransactionType_congr {first second : Database}
    (htypes : first.transactionTypes = second.transactionTypes)
    (eventType : String) :
    resolveTransactionType first eventType =
      resolveTransactionType second eventType := by
  simp only [resolveTransactionType, htypes]

variable {db : Database}

/-- A version above every stored one violates no constraint. -/
theorem violatesUnique_eq_false {row : EventRow}
    (hversion : latestVersion db row.streamId < row.sequenceNumber) :
    violatesUnique db row = false := by
  rw [violatesUnique, List.any_eq_false]
  intro stored hstored hsame
  obtain ⟨hstream, hsequence, -⟩ := of_decide_eq_true hsame
  have hmem : row.sequenceNumber ∈ versions db row.streamId := by
    rw [← hsequence, ← hstream]
    exact List.mem_map_of_mem (List.mem_filter.mpr ⟨hstored, by simp⟩)
  have hle : row.sequenceNumber ≤ latestVersion db row.streamId := le_top hmem
  exact absurd hversion (not_lt.mpr hle)

/-- `AppendTx` on one event: the row is inserted, and the transaction log may
refuse it. -/
theorem appendTx_singleton (env : TxEnv) (db : Database)
    (event : DomainEvent) :
    appendTx sha256 marshal env db [.domain event] =
      (appendOne sha256 marshal env 0 db event).map fun answer =>
        ([answer.1], answer.2) := by
  rw [appendTx, appendFrom]
  cases appendOne sha256 marshal env 0 db event with
  | error message => rfl
  | ok answer => rfl

variable {event : DomainEvent} {command : AppendEventCommand} {env : TxEnv}
  {index : ℕ}

theorem appendOne_of_marshal_error {message : String}
    (hpayload : marshal event.payload = .error message) :
    appendOne sha256 marshal env index db event = .error message := by
  rw [appendOne, hpayload]
  rfl

theorem appendOne_of_fresh {payload : Bytes}
    (hpayload : marshal event.payload = .ok payload)
    (hversion : latestVersion db event.aggId < event.version) :
    let row := eventRow sha256 env index event payload
      (selectPrevHash db event.aggId)
    appendOne sha256 marshal env index db event =
      (logFinancial env index { db with events := db.events ++ [row] } event
        payload row.metadata.recordHash row.metadata.previousHash).map
          fun logged => (resultOf row, logged) := by
  intro row
  have hunique : violatesUnique db row = false :=
    violatesUnique_eq_false hversion
  have hinserted : insertEvent db row =
      .ok { db with events := db.events ++ [row] } := by
    rw [insertEvent, hunique]
    rfl
  rw [appendOne, hpayload]
  change (insertEvent db row >>= fun inserted =>
    logFinancial env index inserted event payload row.metadata.recordHash
      row.metadata.previousHash >>= fun logged => pure (_, logged)) = _
  rw [hinserted]
  change logFinancial env index { db with events := db.events ++ [row] } event
    payload row.metadata.recordHash row.metadata.previousHash >>= _ = _
  cases logFinancial env index { db with events := db.events ++ [row] } event
      payload row.metadata.recordHash row.metadata.previousHash with
  | error message => rfl
  | ok logged => rfl

/-- The transaction log takes the event, or its type is not registered. -/
theorem logFinancial_cases (env : TxEnv) (index : ℕ) (db : Database)
    (event : DomainEvent) (payload hash prevHash : Bytes) :
    let answer := logFinancial env index db event payload hash prevHash
    let registered := if isFinancialEvent event.aggregateType then
        (resolveTransactionType db event.type).map fun _ => ()
      else .ok ()
    (∃ message, registered = .error message ∧ answer = .error message) ∨
      registered = .ok () ∧ ∃ log, answer = .ok { db with
        transactionLog := db.transactionLog ++ log } := by
  simp only [logFinancial, appendTransactionLog]
  cases isFinancialEvent event.aggregateType with
  | false =>
      refine Or.inr ⟨rfl, [], ?_⟩
      rw [List.append_nil]
      rfl
  | true =>
      cases resolveTransactionType db event.type with
      | error message => exact Or.inl ⟨message, rfl, rfl⟩
      | ok typeId => exact Or.inr ⟨rfl, _, rfl⟩

/-- The row that `AppendTx` stores for an event. -/
structure Records (event : DomainEvent) (row : EventRow) : Prop where
  eventType : row.eventType = event.type
  streamId : row.streamId = event.aggId
  sequenceNumber : row.sequenceNumber = event.version
  idempotencyKey : row.metadata.idempotencyKey = nullString event.idempotency

/-- `AppendTx` on one event whose version is above the stored ones. -/
theorem appendTx_cases (env : TxEnv)
    (hversion : latestVersion db event.aggId < event.version) :
    let answer := appendTx sha256 marshal env db [.domain event]
    let registered := appendVerdict marshal event.payload event.aggregateType
      event.type db
    (∃ message, registered = .error message ∧ answer = .error message) ∨
      registered = .ok () ∧ ∃ row log, Records event row ∧
        answer = .ok ([resultOf row],
          { db with
            events := db.events ++ [row]
            transactionLog := db.transactionLog ++ log }) := by
  intro answer registered
  cases hpayload : marshal event.payload with
  | error message =>
      refine Or.inl ⟨message, ?_, ?_⟩
      · simp only [registered, appendVerdict, hpayload]
      · simp only [answer, appendTx_singleton,
          appendOne_of_marshal_error hpayload]
        rfl
  | ok payload =>
      have hregistered : registered =
          if isFinancialEvent event.aggregateType then
            (resolveTransactionType db event.type).map fun _ => ()
          else .ok () := by
        simp only [registered, appendVerdict, hpayload]
      let row := eventRow sha256 env 0 event payload
        (selectPrevHash db event.aggId)
      let inserted : Database := { db with events := db.events ++ [row] }
      have hanswer : answer = ((logFinancial env 0 inserted event payload
          row.metadata.recordHash row.metadata.previousHash).map
            fun logged => (resultOf row, logged)).map
              fun answer => ([answer.1], answer.2) := by
        simp only [answer, appendTx_singleton]
        rw [appendOne_of_fresh hpayload hversion]
      rw [hanswer, hregistered]
      rcases logFinancial_cases env 0 inserted event payload
          row.metadata.recordHash row.metadata.previousHash with
        ⟨message, htype, hlogged⟩ | ⟨htype, log, hlogged⟩
      · refine Or.inl ⟨message, htype, ?_⟩
        rw [hlogged]
        rfl
      · refine Or.inr ⟨htype, row, log, ⟨rfl, rfl, rfl, rfl⟩, ?_⟩
        rw [hlogged]
        rfl

/-- A free key is claimed, and nothing else changes. -/
theorem exists_stored
    (hfree : command.idempotencyKey ≠ "" →
      keyStored db command.idempotencyKey = false) (now : Time) :
    ∃ stored, (if command.idempotencyKey = "" then .ok db
        else storeIdempotency sha256 db command.idempotencyKey now) =
          .ok stored ∧
      stored.events = db.events ∧ keys stored = keys db ++ newKeys command ∧
        stored.transactionTypes = db.transactionTypes := by
  by_cases hkey : command.idempotencyKey = ""
  · refine ⟨db, if_pos hkey, rfl, ?_, rfl⟩
    rw [newKeys, if_pos hkey, List.append_nil]
  · have hunused : db.idempotencyKeys.any
        (·.idempotencyKey = command.idempotencyKey) = false := hfree hkey
    rw [if_neg hkey, storeIdempotency, hunused]
    refine ⟨_, rfl, rfl, ?_, rfl⟩
    rw [newKeys, if_neg hkey, keys, List.map_append]
    rfl

/-- A transaction with a free key and the next version answers the verdict of
its statements. -/
theorem respond_transaction {env : CallEnv}
    (hfree : command.idempotencyKey ≠ "" →
      keyStored db command.idempotencyKey = false) :
    let latest := latestVersion db command.aggregateId
    let answer := Op.respond sha256 marshal env.commit
      (.transaction command latest) db
    (∃ error, commitVerdict marshal env command db = .error error ∧
        answer = (.error error, db)) ∨
      commitVerdict marshal env command db = .ok () ∧ ∃ row,
        answer.1 = .ok (resultOf row) ∧ Appended command row db answer.2 := by
  intro latest
  simp only [Op.respond, commitVerdict]
  cases env.commit.failure with
  | some message => exact Or.inl ⟨.other message, rfl, rfl⟩
  | none =>
      obtain ⟨stored, hstored, hevents, hkeys, htypes⟩ :
          ∃ stored, (if command.idempotencyKey = "" then .ok db
            else storeIdempotency sha256 db command.idempotencyKey
              env.commit.occurredAt) = .ok stored ∧ _ :=
        exists_stored hfree env.commit.occurredAt
      let event := command.event latest env.commit.occurredAt
      have hlatest : latestVersion stored event.aggId < event.version := by
        rw [latestVersion, versions, hevents]
        exact lt_add_one latest
      have hregistered : appendVerdict marshal command.payload
          command.aggregateType command.eventType stored =
            appendVerdict marshal command.payload command.aggregateType
              command.eventType db := by
        simp only [appendVerdict, resolveTransactionType_congr htypes]
      rw [transact, hstored]
      dsimp only
      rcases appendTx_cases env.commit.env hlatest with
        ⟨message, hverdict, happend⟩ |
        ⟨hverdict, row, log, hrecords, happend⟩
      · rw [happend]
        refine Or.inl ⟨.other message, ?_, rfl⟩
        rw [hregistered.symm.trans hverdict]
      · rw [happend]
        refine Or.inr ⟨?_, row, rfl, ⟨hrecords.eventType, hrecords.streamId,
          hrecords.idempotencyKey⟩, hrecords.sequenceNumber, ?_, hkeys, htypes⟩
        · rw [hregistered.symm.trans hverdict]
        · rw [← hevents]

/-! ## The whole call -/

variable {env : CallEnv} {command : AppendEventCommand} {db : Database}

variable (sha256 marshal) in
/-- A call answers its verdict.  An error leaves the store, and an accepted
command adds its event and its key. -/
theorem handleAlone_cases (env : CallEnv) (command : AppendEventCommand)
    (db : Database) :
    (∃ error, verdict marshal env command db = .error error ∧
        handleAlone sha256 marshal env command db = (.error error, db)) ∨
      ∃ row after, handleAlone sha256 marshal env command db =
          (.ok (resultOf row), after) ∧
        verdict marshal env command db = .ok row.sequenceNumber ∧
          Appended command row db after := by
  rw [handleAlone_eq, verdict]
  cases hcheck : checkVerdict env command db with
  | error error => exact Or.inl ⟨error, rfl, rfl⟩
  | ok _ =>
      dsimp only
      rw [exec_readLatest_bind]
      cases hread : readVerdict env command db with
      | error error => exact Or.inl ⟨error, rfl, rfl⟩
      | ok latest =>
          obtain rfl : latest = latestVersion db command.aggregateId := by
            rw [readVerdict] at hread
            split at hread
            · cases hread
            · split at hread
              · cases hread
              · exact (Except.ok.inj hread).symm
          have hcases : (∃ error, commitVerdict marshal env command db =
              .error error ∧ Op.respond sha256 marshal env.commit
                (.transaction command _) db = (.error error, db)) ∨ _ :=
            respond_transaction fun hkey => (checkVerdict_eq_ok hcheck hkey).2
          rcases hcases with ⟨error, hcommit, hanswer⟩ |
            ⟨hcommit, row, hresult, happended⟩
          · refine Or.inl ⟨error, ?_, hanswer⟩
            rw [hcommit]
            rfl
          · refine Or.inr ⟨row, _, Prod.ext hresult rfl, ?_, happended⟩
            rw [hcommit, happended.version]
            rfl

/-! ## When a call is accepted -/

variable (marshal env command db)

/-- No statement of the call fails. -/
structure Works : Prop where
  check : command.idempotencyKey ≠ "" → env.check.failure = none
  read : env.read.failure = none
  commit : env.commit.failure = none
  append : appendVerdict marshal command.payload command.aggregateType
    command.eventType db = .ok ()

/-- The statements work, the key is unused, and the expected version is the
latest one. -/
structure Accepts : Prop
    extends Works marshal env command db where
  unused : command.idempotencyKey ≠ "" → command.idempotencyKey ∉ keys db
  expected : 0 ≤ command.expectedVersion →
    latestVersion db command.aggregateId = command.expectedVersion

variable {marshal env command db}

theorem checkVerdict_eq_ok_iff :
    checkVerdict env command db = .ok () ↔ command.idempotencyKey ≠ "" →
      env.check.failure = none ∧ command.idempotencyKey ∉ keys db := by
  by_cases hkey : command.idempotencyKey = ""
  · exact iff_of_true (if_pos hkey) fun hne => absurd hkey hne
  · rw [checkVerdict, if_neg hkey, imp_iff_right hkey,
      ← keyStored_eq_false_iff]
    cases env.check.failure <;>
      cases keyStored db command.idempotencyKey <;> simp

theorem readVerdict_eq_ok_iff {latest : ℤ} :
    readVerdict env command db = .ok latest ↔ env.read.failure = none ∧
      (0 ≤ command.expectedVersion →
        latestVersion db command.aggregateId = command.expectedVersion) ∧
        latest = latestVersion db command.aggregateId := by
  rw [readVerdict]
  cases env.read.failure with
  | some message => simp
  | none =>
      by_cases hexpected : command.expectedVersion ≥ 0 ∧
          latestVersion db command.aggregateId ≠ command.expectedVersion
      · simp [hexpected]
      · simp only [if_neg hexpected, Except.ok.injEq, true_and]
        rw [not_and_not_right] at hexpected
        exact ⟨fun h => ⟨hexpected, h.symm⟩, fun h => h.2.symm⟩

theorem commitVerdict_eq_ok_iff :
    commitVerdict marshal env command db = .ok () ↔
      env.commit.failure = none ∧ appendVerdict marshal command.payload
        command.aggregateType command.eventType db = .ok () := by
  rw [commitVerdict]
  cases env.commit.failure with
  | some message => simp
  | none =>
      cases appendVerdict marshal command.payload command.aggregateType
          command.eventType db <;> simp

theorem verdict_eq_ok_iff {version : ℤ} :
    verdict marshal env command db = .ok version ↔
      Accepts marshal env command db ∧
        version = latestVersion db command.aggregateId + 1 := by
  constructor
  · intro hverdict
    obtain ⟨_, hcheck, hafter⟩ := Results.bind_eq_ok.mp hverdict
    obtain ⟨latest, hread, hafter⟩ := Results.bind_eq_ok.mp hafter
    obtain ⟨_, hcommit, hversion⟩ := Results.bind_eq_ok.mp hafter
    cases hversion
    rw [checkVerdict_eq_ok_iff] at hcheck
    rw [commitVerdict_eq_ok_iff] at hcommit
    obtain ⟨hreads, hexpected, rfl⟩ := readVerdict_eq_ok_iff.mp hread
    exact ⟨⟨⟨fun hkey => (hcheck hkey).1, hreads, hcommit.1, hcommit.2⟩,
      fun hkey => (hcheck hkey).2, hexpected⟩, rfl⟩
  · rintro ⟨haccepts, rfl⟩
    have hcheck := checkVerdict_eq_ok_iff.mpr fun hkey =>
      ⟨haccepts.check hkey, haccepts.unused hkey⟩
    have hread := readVerdict_eq_ok_iff.mpr
      ⟨haccepts.read, haccepts.expected, rfl⟩
    have hcommit := commitVerdict_eq_ok_iff.mpr
      ⟨haccepts.commit, haccepts.append⟩
    rw [verdict, hcheck, hread, hcommit]
    rfl

variable (sha256) in
/-- A call succeeds exactly if it is accepted, with its row and key added, and
fails without a trace otherwise. -/
theorem handleAlone_of_accepts (haccepts : Accepts marshal env command db) :
    ∃ row after, handleAlone sha256 marshal env command db =
      (.ok (resultOf row), after) ∧ Appended command row db after := by
  have hverdict := verdict_eq_ok_iff.mpr ⟨haccepts, rfl⟩
  rcases handleAlone_cases sha256 marshal env command db with
    ⟨error, herror, -⟩ | ⟨row, after, hanswer, -, happended⟩
  · rw [hverdict] at herror
    cases herror
  · exact ⟨row, after, hanswer, happended⟩

variable (sha256) in
theorem handleAlone_of_not_accepts
    (haccepts : ¬ Accepts marshal env command db) :
    ∃ error, handleAlone sha256 marshal env command db =
      (.error error, db) := by
  rcases handleAlone_cases sha256 marshal env command db with
    ⟨error, -, hanswer⟩ | ⟨row, after, -, hverdict, -⟩
  · exact ⟨error, hanswer⟩
  · exact absurd (verdict_eq_ok_iff.mp hverdict).1 haccepts

theorem mem_newKeys_iff {key : String} (hkey : key ≠ "") :
    key ∈ newKeys command ↔ command.idempotencyKey = key := by
  rw [newKeys]
  split
  · next hempty =>
    refine iff_of_false List.not_mem_nil fun heq => hkey ?_
    rw [← heq, hempty]
  · rw [List.mem_singleton, eq_comm]

/-- The version after the largest one becomes the largest. -/
theorem top_append_succ {stored : List ℤ} :
    top (stored ++ [top stored + 1]) = top stored + 1 := by
  have hlast : top stored + 1 ∈ stored ++ [top stored + 1] :=
    List.mem_append_right _ List.mem_cons_self
  apply le_antisymm
  · rcases List.mem_append.mp (top_mem (List.ne_nil_of_mem hlast)) with
      hstored | hnew
    · exact (le_top hstored).trans (le_of_lt (lt_add_one _))
    · exact le_of_eq (List.mem_singleton.mp hnew)
  · exact le_top hlast

section Appended

variable {row : EventRow} {before after : Database}

/-- An accepted command adds the next version to its own aggregate only. -/
theorem Appended.versions_eq (happended : Appended command row before after)
    (aggregateId : Uuid) :
    versions after aggregateId = versions before aggregateId ++
      if command.aggregateId = aggregateId then
        [latestVersion before aggregateId + 1]
      else [] := by
  split
  · next hown =>
    rw [versions_append happended.events
      (happended.carries.streamId.trans hown), happended.version, hown]
  · next hother =>
    have hne : row.streamId ≠ aggregateId := by
      rw [happended.carries.streamId]
      exact hother
    simp [versions, happended.events, hne]

/-- An accepted command raises the latest version of its aggregate by one. -/
theorem Appended.latestVersion_eq
    (happended : Appended command row before after) (aggregateId : Uuid) :
    latestVersion after aggregateId = latestVersion before aggregateId +
      if command.aggregateId = aggregateId then 1 else 0 := by
  have hversions := happended.versions_eq aggregateId
  split at hversions
  · next hown =>
    rw [if_pos hown, latestVersion, hversions]
    exact top_append_succ
  · next hother =>
    rw [if_neg hother, add_zero, latestVersion, hversions, List.append_nil,
      ← latestVersion]

end Appended

section Congruence

variable {first second : Database}

/-- The verdict depends on the store through three readings. -/
theorem verdict_congr
    (hkeys : command.idempotencyKey ≠ "" →
      (command.idempotencyKey ∈ keys first ↔
        command.idempotencyKey ∈ keys second))
    (hlatest : latestVersion first command.aggregateId =
      latestVersion second command.aggregateId)
    (htypes : first.transactionTypes = second.transactionTypes) :
    verdict marshal env command first = verdict marshal env command second := by
  have hcheck : checkVerdict env command first =
      checkVerdict env command second := by
    rw [checkVerdict, checkVerdict]
    split
    · rfl
    · next hkey =>
      have hstored : keyStored first command.idempotencyKey =
          keyStored second command.idempotencyKey := by
        rw [Bool.eq_iff_iff, keyStored_iff, keyStored_iff]
        exact hkeys hkey
      rw [hstored]
  have hread : readVerdict env command first =
      readVerdict env command second := by
    rw [readVerdict, hlatest, ← readVerdict]
  have hcommit : commitVerdict marshal env command first =
      commitVerdict marshal env command second := by
    rw [commitVerdict, commitVerdict, appendVerdict, appendVerdict,
      resolveTransactionType_congr htypes]
  rw [verdict, verdict, hcheck, hread, hcommit]

theorem works_congr
    (htypes : first.transactionTypes = second.transactionTypes) :
    Works marshal env command first ↔ Works marshal env command second := by
  have happend : appendVerdict marshal command.payload command.aggregateType
      command.eventType first = appendVerdict marshal command.payload
        command.aggregateType command.eventType second := by
    simp only [appendVerdict, resolveTransactionType_congr htypes]
  constructor
  · rintro ⟨hcheck, hread, hcommit, hworks⟩
    exact ⟨hcheck, hread, hcommit, happend ▸ hworks⟩
  · rintro ⟨hcheck, hread, hcommit, hworks⟩
    exact ⟨hcheck, hread, hcommit, happend ▸ hworks⟩

end Congruence

end Transaction

end UssdKernel.AppendOutcome
