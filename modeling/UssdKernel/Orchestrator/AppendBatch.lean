import UssdKernel.Orchestrator.AppendOutcome

/-!
# Batches of events

`AppendEventsBatch` hands the events of its request to `Handle` one by one,
each with a transaction of its own, and returns at the first error.  The
field `atomic` of the request is read nowhere.
-/

namespace UssdKernel.AppendBatch

open EventStore SessionHistory AppendOutcome

inductive Code
  | invalidArgument
  | alreadyExists
  | failedPrecondition
  | resourceExhausted
  | internal
  deriving DecidableEq

structure Status where
  code : Code
  message : String
  deriving DecidableEq

/-- `mapError`, on the errors of `Handle`. -/
def mapError : AppendError → Status
  | .duplicateEvent => ⟨.alreadyExists, "duplicate event"⟩
  | .concurrencyConflict => ⟨.failedPrecondition, "concurrency conflict"⟩
  | .other message =>
      if message = "rate limit exceeded" ∨
          message = "rate limit exceeded for phone number" ∨
          message = "rate limit exceeded for tenant" then
        ⟨.resourceExhausted, message⟩
      else ⟨.internal, message⟩

/-- The ids of a `SessionContext`. -/
structure Context where
  tenantId : String
  sessionId : String
  deriving DecidableEq

/-- An `AppendEventRequest`; `payload` is what `AsMap` makes of it. -/
structure EventRequest where
  eventType : String
  aggregateType : String
  aggregateId : String
  expectedVersion : ℤ
  payload : List (String × Value)
  idempotencyKey : String
  context : Option Context
  correlationId : String
  causationId : String
  deriving DecidableEq

structure BatchRequest where
  events : List EventRequest
  atomic : Bool
  deriving DecidableEq

structure EventResponse where
  eventId : Uuid
  version : ℤ
  recordedAt : Time
  recordHash : Bytes
  previousHash : Bytes
  wasDuplicate : Bool
  deriving DecidableEq

structure BatchResponse where
  responses : List EventResponse
  allSucceeded : Bool
  batchId : String
  deriving DecidableEq

def responseOf (result : AppendEventResult) : EventResponse where
  eventId := result.eventId
  version := result.version
  recordedAt := result.recordedAt
  recordHash := result.recordHash
  previousHash := result.previousHash
  wasDuplicate := false

section Batch

variable (sha256 : Bytes → Bytes) (marshal : Payload → Except String Bytes)
  (parse : String → Uuid × Bool) (batchId : String) (envs : ℕ → CallEnv)

/-- The command of an event.  `parse` is `uuid.Parse`: the id it returns, and
whether it returns no error. -/
def commandOf (event : EventRequest) : AppendEventCommand where
  eventType := event.eventType
  aggregateType := event.aggregateType
  aggregateId := (parse event.aggregateId).1
  expectedVersion := event.expectedVersion
  payload := some event.payload
  idempotencyKey := event.idempotencyKey
  tenantId := (event.context.map fun context =>
    (parse context.tenantId).1).getD 0
  sessionId := (event.context.map fun context =>
    (parse context.sessionId).1).getD 0
  correlationId := event.correlationId
  causationId := event.causationId

/-- The loop of `AppendEventsBatch` from the event with this index. -/
def batchFrom : ℕ → List EventResponse → List EventRequest → Database →
    Except Status BatchResponse × Database
  | _, results, [], db =>
      (.ok { responses := results, allSucceeded := true, batchId }, db)
  | index, results, event :: events, db =>
      if (parse event.aggregateId).2 then
        match handleAlone sha256 marshal (envs index) (commandOf parse event)
          db with
        | (.error error, after) => (.error (mapError error), after)
        | (.ok result, after) =>
            batchFrom (index + 1) (results ++ [responseOf result]) events after
      else (.error ⟨.invalidArgument, "invalid aggregate_id"⟩, db)

def appendEventsBatch (request : BatchRequest) (db : Database) :
    Except Status BatchResponse × Database :=
  batchFrom sha256 marshal parse batchId envs 0 [] request.events db

/-- All events are appended and reported in order, or the call fails and
leaves the events and the keys. -/
def AllOrNothing (request : BatchRequest) (db : Database) : Prop :=
  let answer := appendEventsBatch sha256 marshal parse batchId envs request db
  (∃ response rows, answer.1 = .ok response ∧
      answer.2.events = db.events ++ rows ∧
        List.Forall₂ (fun event row => RowOf (commandOf parse event) row)
          request.events rows ∧
          response.allSucceeded = true ∧
            response.responses =
              rows.map fun row => responseOf (resultOf row)) ∨
    ∃ status, answer.1 = .error status ∧ answer.2.events = db.events ∧
      answer.2.idempotencyKeys = db.idempotencyKeys

/-! ## Events that fit -/

variable (db : Database)

/-- The event can be appended after the earlier events of the request: its id
is well formed, its statements work, its key is used neither in the store nor
by an earlier event, and it expects the latest version of its aggregate,
counting the earlier events. -/
structure Fits (earlier : List EventRequest) (event : EventRequest) :
    Prop where
  id : (parse event.aggregateId).2 = true
  works : Works marshal (envs earlier.length) (commandOf parse event) db
  unused : event.idempotencyKey ≠ "" →
    event.idempotencyKey ∉ keys db ∧
      ∀ other ∈ earlier, other.idempotencyKey ≠ event.idempotencyKey
  expected : 0 ≤ event.expectedVersion →
    event.expectedVersion =
      latestVersion db (parse event.aggregateId).1 +
        earlier.countP fun other =>
          (parse other.aggregateId).1 = (parse event.aggregateId).1

/-- Every event fits after those before it. -/
def AllFit : List EventRequest → List EventRequest → Prop
  | _, [] => True
  | earlier, event :: events =>
      Fits marshal parse envs db earlier event ∧
        AllFit (earlier ++ [event]) events

/-- The first event of the request, if there is one, fits. -/
def FirstFits : List EventRequest → Prop
  | [] => True
  | event :: _ => Fits marshal parse envs db [] event

variable {sha256 marshal parse batchId envs}
  {initial db after : Database} {earlier : List EventRequest}
  {event : EventRequest}

/-- What later events read of the store after some events of the request. -/
structure Progress (parse : String → Uuid × Bool) (initial : Database)
    (earlier : List EventRequest) (db : Database) : Prop where
  types : db.transactionTypes = initial.transactionTypes
  keys : keys db = keys initial ++
    earlier.flatMap fun event => newKeys (commandOf parse event)
  versions : ∀ aggregateId, latestVersion db aggregateId =
    latestVersion initial aggregateId + earlier.countP fun event =>
      (parse event.aggregateId).1 = aggregateId

theorem progress_nil (db : Database) : Progress parse db [] db where
  types := rfl
  keys := (List.append_nil _).symm
  versions _ := (add_zero _).symm

theorem Progress.append {row : EventRow}
    (hprogress : Progress parse initial earlier db)
    (happended : Appended (commandOf parse event) row db after) :
    Progress parse initial (earlier ++ [event]) after where
  types := happended.types.trans hprogress.types
  keys := by
    rw [happended.keys, hprogress.keys, List.flatMap_append,
      List.flatMap_singleton, List.append_assoc]
  versions aggregateId := by
    rw [happended.latestVersion_eq, hprogress.versions, List.countP_append,
      List.countP_singleton]
    by_cases hown : (parse event.aggregateId).1 = aggregateId
    · simp [commandOf, hown, add_assoc]
    · simp [commandOf, hown]

theorem mem_flatMap_newKeys_iff {key : String} (hkey : key ≠ "") :
    (key ∈ earlier.flatMap fun event => newKeys (commandOf parse event)) ↔
      ∃ other ∈ earlier, other.idempotencyKey = key := by
  rw [List.mem_flatMap]
  exact exists_congr fun other => and_congr_right fun _ => mem_newKeys_iff hkey

section Loop

variable (hprogress : Progress parse initial earlier db)
  {events : List EventRequest}

include hprogress

/-- An event fits exactly if its id is well formed and the store accepts
it. -/
theorem fits_iff_accepts :
    Fits marshal parse envs initial earlier event ↔
      (parse event.aggregateId).2 = true ∧
        Accepts marshal (envs earlier.length) (commandOf parse event) db := by
  constructor
  · intro hfits
    refine ⟨hfits.id, { toWorks := (works_congr hprogress.types).mpr hfits.works
                        unused := fun hkey => ?_
                        expected := fun hnonneg => ?_ }⟩
    · obtain ⟨hstored, hearlier⟩ := hfits.unused hkey
      rw [hprogress.keys, List.mem_append, not_or]
      refine ⟨hstored, fun hmem => ?_⟩
      obtain ⟨other, hother, heq⟩ := (mem_flatMap_newKeys_iff hkey).mp hmem
      exact hearlier other hother heq
    · rw [hprogress.versions]
      exact (hfits.expected hnonneg).symm
  · rintro ⟨hid, haccepts⟩
    refine ⟨hid, (works_congr hprogress.types).mp haccepts.toWorks,
      fun hkey => ?_, fun hnonneg => ?_⟩
    · have hunused := haccepts.unused hkey
      rw [hprogress.keys, List.mem_append, not_or] at hunused
      exact ⟨hunused.1, fun other hother heq =>
        hunused.2 ((mem_flatMap_newKeys_iff hkey).mpr ⟨other, hother, heq⟩)⟩
    · have hexpected := haccepts.expected hnonneg
      rw [hprogress.versions] at hexpected
      exact hexpected.symm

/-! ## The loop -/

variable (results : List EventResponse)

variable (sha256 batchId) in
/-- An event that does not fit ends the loop, and nothing is stored for it. -/
theorem batchFrom_of_not_fits (events : List EventRequest)
    (hfits : ¬ Fits marshal parse envs initial earlier event) :
    ∃ status, batchFrom sha256 marshal parse batchId envs earlier.length
      results (event :: events) db = (.error status, db) := by
  rw [fits_iff_accepts hprogress, not_and] at hfits
  rw [batchFrom]
  by_cases hid : (parse event.aggregateId).2 = true
  · obtain ⟨error, hanswer⟩ := handleAlone_of_not_accepts sha256 (hfits hid)
    rw [if_pos hid, hanswer]
    exact ⟨mapError error, rfl⟩
  · rw [if_neg hid]
    exact ⟨_, rfl⟩

variable (sha256 batchId) in
/-- An event that fits is stored, and the loop goes on. -/
theorem batchFrom_of_fits (events : List EventRequest)
    (hfits : Fits marshal parse envs initial earlier event) :
    ∃ row after, Appended (commandOf parse event) row db after ∧
      batchFrom sha256 marshal parse batchId envs earlier.length results
          (event :: events) db =
        batchFrom sha256 marshal parse batchId envs
          (earlier ++ [event]).length
          (results ++ [responseOf (resultOf row)]) events after := by
  obtain ⟨hid, haccepts⟩ := (fits_iff_accepts hprogress).mp hfits
  obtain ⟨row, after, hanswer, happended⟩ :=
    handleAlone_of_accepts sha256 haccepts
  refine ⟨row, after, happended, ?_⟩
  rw [batchFrom, if_pos hid, hanswer, List.length_append,
    List.length_singleton]

/-- If all events fit, all are stored and reported. -/
theorem batchFrom_of_allFit {results : List EventResponse}
    (hfit : AllFit marshal parse envs initial earlier events) :
    ∃ rows after, batchFrom sha256 marshal parse batchId envs earlier.length
        results events db =
          (.ok { responses := results ++
                  rows.map fun row => responseOf (resultOf row)
                 allSucceeded := true
                 batchId }, after) ∧
      after.events = db.events ++ rows ∧
        List.Forall₂ (fun event row => RowOf (commandOf parse event) row)
          events rows := by
  induction events generalizing earlier results db with
  | nil =>
      refine ⟨[], db, ?_, (List.append_nil _).symm, .nil⟩
      rw [batchFrom, List.map_nil, List.append_nil]
  | cons event events ih =>
      obtain ⟨row, after, happended, hloop⟩ :=
        batchFrom_of_fits sha256 batchId hprogress results events hfit.1
      obtain ⟨rows, final, hrest, hevents, hrows⟩ :=
        ih (hprogress.append happended) hfit.2
      refine ⟨row :: rows, final, ?_, ?_, .cons happended.carries hrows⟩
      · rw [hloop, hrest, List.map_cons, List.append_assoc]
        rfl
      · rw [hevents, happended.events, List.append_assoc]
        rfl

variable (sha256 batchId) in
/-- If one does not fit, the call fails, and the events before it stay. -/
theorem batchFrom_of_not_allFit
    (hfit : ¬ AllFit marshal parse envs initial earlier events) :
    ∃ status rows after, batchFrom sha256 marshal parse batchId envs
        earlier.length results events db = (.error status, after) ∧
      after.events = db.events ++ rows := by
  induction events generalizing earlier results db with
  | nil => exact absurd trivial hfit
  | cons event events ih =>
      by_cases hfirst : Fits marshal parse envs initial earlier event
      · obtain ⟨row, after, happended, hloop⟩ :=
          batchFrom_of_fits sha256 batchId hprogress results events hfirst
        obtain ⟨status, rows, final, hrest, hevents⟩ :=
          ih (hprogress.append happended) _ fun hrest => hfit ⟨hfirst, hrest⟩
        refine ⟨status, row :: rows, final, hloop.trans hrest, ?_⟩
        rw [hevents, happended.events, List.append_assoc]
        rfl
      · obtain ⟨status, hanswer⟩ :=
          batchFrom_of_not_fits sha256 batchId hprogress results events hfirst
        exact ⟨status, [], db, hanswer, (List.append_nil _).symm⟩

end Loop

/-- A batch, atomic or not, is all or nothing exactly if all its events fit or
its first one does not. -/
theorem appendEventsBatch_allOrNothing_iff (request : BatchRequest)
    (db : Database) :
    AllOrNothing sha256 marshal parse batchId envs request db ↔
      (FirstFits marshal parse envs db request.events →
        AllFit marshal parse envs db [] request.events) := by
  have hinitial : Progress parse db [] db := progress_nil db
  by_cases hfit : AllFit marshal parse envs db [] request.events
  · obtain ⟨rows, after, hanswer, hevents, hrows⟩ :
        ∃ rows after, appendEventsBatch sha256 marshal parse batchId envs
          request db = _ ∧ _ := batchFrom_of_allFit hinitial hfit
    refine iff_of_true (Or.inl ?_) fun _ => hfit
    rw [hanswer]
    exact ⟨_, rows, rfl, hevents, hrows, rfl, rfl⟩
  · cases hrequest : request.events with
    | nil =>
        rw [hrequest] at hfit
        exact absurd trivial hfit
    | cons event events =>
        rw [hrequest] at hfit
        by_cases hfirst : Fits marshal parse envs db [] event
        · -- the first event stays, and the call fails at a later one
          obtain ⟨row, after, happended, hloop⟩ :=
            batchFrom_of_fits sha256 batchId hinitial [] events hfirst
          rw [List.length_nil] at hloop
          obtain ⟨status, rows, final, hrest, hevents⟩ :=
            batchFrom_of_not_allFit sha256 batchId (hinitial.append happended) _
              fun hrest => hfit ⟨hfirst, hrest⟩
          have hanswer : appendEventsBatch sha256 marshal parse batchId envs
              request db = (.error status, final) := by
            rw [appendEventsBatch, hrequest, hloop, hrest]
          refine iff_of_false ?_ fun himp => hfit (himp hfirst)
          rw [AllOrNothing, hanswer]
          rintro (⟨response, _, hresponse, -⟩ | ⟨_, -, hsame, -⟩)
          · cases hresponse
          · rw [hevents, happended.events, List.append_assoc] at hsame
            exact absurd (List.append_right_eq_self.mp hsame) (by simp)
        · obtain ⟨status, hanswer⟩ :=
            batchFrom_of_not_fits sha256 batchId hinitial [] events hfirst
          rw [List.length_nil] at hanswer
          refine iff_of_true (Or.inr ?_) fun hfits => absurd hfits hfirst
          rw [appendEventsBatch, hrequest, hanswer]
          exact ⟨status, rfl, rfl, rfl⟩

end Batch

namespace Samples

open EventStore.Samples (sha256 marshal midnight empty)

/-- Reads the id of aggregate 9 only. -/
def parse (text : String) : Uuid × Bool :=
  if text = "00000000-0000-0000-0000-000000000009" then (9, true)
  else (0, false)

def envs (index : ℕ) : CallEnv :=
  SessionHistory.Samples.calls (midnight + 1000000000) index

def ended : EventRequest where
  eventType := "SessionEnded"
  aggregateType := "USR_SESSION"
  aggregateId := "00000000-0000-0000-0000-000000000009"
  expectedVersion := 0
  payload := [("reason", .string "timeout")]
  idempotencyKey := ""
  context := none
  correlationId := ""
  causationId := ""

/-- Two events for one aggregate that expect the same version. -/
def conflicting : BatchRequest where
  events := [ended, ended]
  atomic := true

/-- The answer to the request on an empty store. -/
def answer : Except Status BatchResponse × Database :=
  appendEventsBatch sha256 marshal parse "batch-1" envs conflicting empty

end Samples

/-- An atomic batch fails at its second event, and the first one stays. -/
theorem atomic_batch_half_appended :
    Samples.answer.1 =
        .error ⟨.failedPrecondition, "concurrency conflict"⟩ ∧
      Samples.answer.2.events.map EventRow.sequenceNumber = [1] ∧
      ¬ AllOrNothing EventStore.Samples.sha256 EventStore.Samples.marshal
        Samples.parse "batch-1" Samples.envs Samples.conflicting
        EventStore.Samples.empty := by
  have hstatus : Samples.answer.1 =
      .error ⟨.failedPrecondition, "concurrency conflict"⟩ := by
    decide +kernel
  have hevents : Samples.answer.2.events.map EventRow.sequenceNumber = [1] := by
    decide +kernel
  refine ⟨hstatus, hevents, ?_⟩
  rintro (⟨response, _, hresponse, -⟩ | ⟨_, -, hsame, -⟩)
  · cases hstatus.symm.trans hresponse
  · have hnone : Samples.answer.2.events = [] := hsame
    rw [hnone] at hevents
    cases hevents

end UssdKernel.AppendBatch
