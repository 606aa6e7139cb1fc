import UssdKernel.Edge.Sync
import UssdKernel.Orchestrator.AppendBatch

/-!
# Delivery of the edge log to the event store

The batches of `edge-sync.py` meet `AppendEventsBatch` and `Handle`.  A batch may
be stored in part, its reply may be lost, and the events that are not marked are
sent again.  The request carries neither an idempotency key nor an expected
version, which `Handle` reads as version 0: an event is stored only in a stream
that has no event, and storing it ends that.

So every event of the log is stored at most once, whatever the edge node sends
again: each row of the store that an edge node has sent is the row of one line,
and no line has two.
-/

namespace UssdKernel.EdgeDelivery

open EventStore SessionHistory AppendOutcome AppendBatch
open EdgeSync (State Line Batch Reply Sourced Stems)

/-- What the batch takes from an event of the log besides its id; a member that
is missing is empty. -/
structure EventBody where
  eventType : String
  aggregateType : String
  aggregateId : String
  payload : List (String × Value)
  deriving DecidableEq

abbrev Event := EdgeSync.Event String EventBody

abbrev LogLine := Line String EventBody

abbrev EventBatch := Batch String EventBody

/-- The fields that the client sets.  `event_id` and `occurred_at` have no
counterpart among those that the server reads. -/
def requestOf (event : Event) : EventRequest where
  eventType := event.body.eventType
  aggregateType := event.body.aggregateType
  aggregateId := event.body.aggregateId
  expectedVersion := 0
  payload := event.body.payload
  idempotencyKey := ""
  context := none
  correlationId := ""
  causationId := ""

/-- What one sending meets: whether the stubs can be imported, the request can be
built, it arrives, and the answer comes back. -/
structure SendEnv where
  stubs : Bool
  built : Bool
  arrives : Bool
  answered : Bool
  batchId : String
  envs : ℕ → CallEnv

inductive Turn
  | append (line : LogLine)
  | sync (env : SendEnv)
  | client (command : AppendEventCommand) (env : CallEnv)

/-- The edge node and the event store.  `origins` has the number of the line that
each row of the store was sent for; the rows of other clients have none. -/
structure Delivery where
  edge : State String EventBody
  db : Database
  origins : List (Option ℕ)

def Delivery.start (db : Database) : Delivery :=
  ⟨State.start, db, List.replicate db.events.length none⟩

/-- The number of rows that a call has added. -/
def added (before after : Database) : ℕ :=
  after.events.length - before.events.length

/-- What the client learns of the answer of the server. -/
def replyOf (answered : Bool) :
    Except AppendBatch.Status BatchResponse → Reply
  | .ok _ => if answered then .accepted else .lost true
  | .error _ => if answered then .rejected else .lost false

variable {sha256 : Bytes → Bytes} {marshal : Payload → Except String Bytes}

section Steps

variable (sha256 marshal) (parse : String → Uuid × Bool)

/-- `_append_events_batch`, with the server at the other end. -/
def send (env : SendEnv) (batch : EventBatch) (db : Database) :
    Reply × Database :=
  if env.stubs = false then (.noStubs, db)
  else if env.built = false then (.raised, db)
  else if env.arrives = false then (.lost false, db)
  else
    let answer := appendEventsBatch sha256 marshal parse env.batchId env.envs
      { events := batch.map fun event => requestOf event.2, atomic := false } db
    (replyOf env.answered answer.1, answer.2)

def step (delivery : Delivery) : Turn → Delivery
  | .append line =>
      { delivery with edge := EdgeSync.step delivery.edge (.append line) }
  | .sync env =>
      match delivery.edge.phase with
      | .sending batch =>
          let answer := send sha256 marshal parse env batch delivery.db
          -- a batch ends at the first event that is not stored
          { edge := delivery.edge.sync answer.1
            db := answer.2
            origins := delivery.origins ++
              (batch.map fun event => some event.1).take
                (added delivery.db answer.2) }
      | _ => { delivery with edge := delivery.edge.sync .raised }
  | .client command env =>
      let after := (handleAlone sha256 marshal env command delivery.db).2
      { delivery with
        db := after
        origins := delivery.origins ++
          List.replicate (added delivery.db after) none }

end Steps

/-! ## Stored events -/

/-- No event is stored twice, and the stream of a stored event has a version. -/
structure StoredOnce (aggregate : ℕ → Uuid) (origins : List (Option ℕ))
    (db : Database) : Prop where
  once : ∀ number, origins.count (some number) ≤ 1
  version : ∀ number, some number ∈ origins →
    1 ≤ latestVersion db (aggregate number)

section StoredOnce

variable {aggregate : ℕ → Uuid} {origins : List (Option ℕ)}
  {db after : Database} {command : AppendEventCommand} {row : EventRow}

section Kept

variable (hstored : StoredOnce aggregate origins db)

include hstored

theorem StoredOnce.appended (happended : Appended command row db after) :
    StoredOnce aggregate origins after where
  once := hstored.once
  version number hnumber := by
    have hbefore := hstored.version number hnumber
    rw [happended.latestVersion_eq]
    split <;> omega

/-- A row of another client. -/
theorem StoredOnce.foreign : StoredOnce aggregate (origins ++ [none]) db where
  once number := by
    rw [List.count_append]
    exact hstored.once number
  version number hnumber := by
    rcases List.mem_append.mp hnumber with hold | hnew
    · exact hstored.version number hold
    · cases List.mem_singleton.mp hnew

/-- An event that is accepted at version 0 was not stored before. -/
theorem StoredOnce.accepted (happended : Appended command row db after)
    (hlatest : latestVersion db command.aggregateId = 0) {number : ℕ}
    (hnumber : aggregate number = command.aggregateId) :
    StoredOnce aggregate (origins ++ [some number]) after := by
  have hfresh : some number ∉ origins := by
    intro hmem
    have hversion := hstored.version number hmem
    rw [hnumber, hlatest] at hversion
    omega
  constructor
  · intro other
    rw [List.count_append, List.count_singleton]
    split
    · rename_i hsame
      rw [← beq_iff_eq.mp hsame, List.count_eq_zero_of_not_mem hfresh]
    · exact hstored.once other
  · intro other hother
    rcases List.mem_append.mp hother with hold | hnew
    · exact (hstored.appended happended).version other hold
    · rw [Option.some.inj (List.mem_singleton.mp hnew),
        happended.latestVersion_eq, hnumber, hlatest, if_pos rfl]
      omega

end Kept

/-- The rows that were added are those of the first events of the batch, and none
of these was stored before. -/
def Extends (parse : String → Uuid × Bool) (aggregate : ℕ → Uuid)
    (batch : EventBatch) (origins : List (Option ℕ))
    (before after : Database) : Prop :=
  ∃ rows, after.events = before.events ++ rows ∧
    List.Forall₂
      (fun event row => RowOf (commandOf parse (requestOf event.2)) row)
      (batch.take rows.length) rows ∧
    StoredOnce aggregate
      (origins ++ (batch.map fun event => some event.1).take rows.length) after

section Batches

variable {parse : String → Uuid × Bool} {batch : EventBatch}

theorem Extends.refl (hstored : StoredOnce aggregate origins db) :
    Extends parse aggregate batch origins db db :=
  ⟨[], (List.append_nil _).symm, .nil, by simpa using hstored⟩

theorem Extends.cons {number : ℕ} {event : Event}
    {final : Database}
    (happended : Appended (commandOf parse (requestOf event)) row db after)
    (hrest : Extends parse aggregate batch (origins ++ [some number]) after
      final) :
    Extends parse aggregate ((number, event) :: batch) origins db final := by
  obtain ⟨rows, hevents, hrows, hstored⟩ := hrest
  refine ⟨row :: rows, ?_, .cons happended.carries hrows, ?_⟩
  · rw [hevents, happended.events, List.append_assoc]
    rfl
  · rw [List.append_assoc] at hstored
    exact hstored

variable (sha256 marshal)
  (hbatch : ∀ event ∈ batch,
    aggregate event.1 = (parse event.2.body.aggregateId).1)
  (hstored : StoredOnce aggregate origins db)

include hbatch hstored

theorem extends_batchFrom (batchId : String) (envs : ℕ → CallEnv) (index : ℕ)
    (results : List EventResponse) :
    Extends parse aggregate batch origins db
      (batchFrom sha256 marshal parse batchId envs index results
        (batch.map fun event => requestOf event.2) db).2 := by
  induction batch generalizing origins db index results with
  | nil => exact Extends.refl hstored
  | cons event batch ih =>
      obtain ⟨number, event⟩ := event
      rw [List.map_cons, batchFrom]
      by_cases hid : (parse (requestOf event).aggregateId).2 = true
      · rw [if_pos hid]
        by_cases haccepts : Accepts marshal (envs index)
            (commandOf parse (requestOf event)) db
        · obtain ⟨row, after, hanswer, happended⟩ :=
            handleAlone_of_accepts sha256 haccepts
          rw [hanswer]
          refine Extends.cons happended (ih (fun other hother =>
            hbatch other (List.mem_cons_of_mem _ hother)) ?_ _ _)
          exact hstored.accepted happended (haccepts.expected le_rfl)
            (hbatch _ List.mem_cons_self)
        · obtain ⟨error, hanswer⟩ := handleAlone_of_not_accepts sha256 haccepts
          rw [hanswer]
          exact Extends.refl hstored
      · rw [if_neg hid]
        exact Extends.refl hstored

theorem extends_send (env : SendEnv) :
    Extends parse aggregate batch origins db
      (send sha256 marshal parse env batch db).2 := by
  rw [send]
  split_ifs
  · exact Extends.refl hstored
  · exact Extends.refl hstored
  · exact Extends.refl hstored
  · exact extends_batchFrom sha256 marshal hbatch hstored env.batchId env.envs
      0 []

end Batches

end StoredOnce

/-! ## Runs -/

section Runs

variable {parse : String → Uuid × Bool}

/-- The stream of the event with this number. -/
def aggregateOf (parse : String → Uuid × Bool)
    (appended : List LogLine) (number : ℕ) : Uuid :=
  match appended[number]? with
  | some (.event event) => (parse event.body.aggregateId).1
  | _ => 0

variable {appended : List LogLine} {number : ℕ} {event : Event}

theorem aggregateOf_append {more : List LogLine}
    (hnumber : number < appended.length) :
    aggregateOf parse (appended ++ more) number =
      aggregateOf parse appended number := by
  rw [aggregateOf, aggregateOf, List.getElem?_append_left hnumber]

section Stems

variable (hstems : Stems appended ⟨number, .event event⟩)
include hstems

/-- An event of a batch has the body of the line with its number. -/
theorem exists_source :
    ∃ source, appended[number]? = some (.event source) ∧
      source.body = event.body := by
  obtain ⟨line, hline, hcases⟩ := hstems
  rcases hcases with rfl | ⟨source, rfl, hmarked⟩
  · exact ⟨event, hline, rfl⟩
  · cases hmarked
    exact ⟨source, hline, rfl⟩

theorem aggregateOf_stems :
    aggregateOf parse appended number =
      (parse event.body.aggregateId).1 := by
  obtain ⟨source, hsource, hbody⟩ := exists_source hstems
  rw [aggregateOf, hsource, ← hbody]

/-- A row that was sent for a line is that of the event of the line. -/
def Carried (parse : String → Uuid × Bool)
    (appended : List LogLine) (origin : Option ℕ)
    (row : EventRow) : Prop :=
  ∀ number ∈ origin, ∃ event, appended[number]? = some (.event event) ∧
    RowOf (commandOf parse (requestOf event)) row

theorem carried_of_stems {row : EventRow}
    (hrow : RowOf (commandOf parse (requestOf event)) row) :
    Carried parse appended (some number) row := by
  intro other hother
  obtain rfl : number = other := Option.some.inj hother
  obtain ⟨source, hsource, hbody⟩ := exists_source hstems
  refine ⟨source, hsource, ?_⟩
  rw [requestOf, hbody]
  exact hrow

end Stems

structure Invariant (parse : String → Uuid × Bool) (delivery : Delivery) :
    Prop where
  sourced : Sourced delivery.edge
  known : ∀ number, some number ∈ delivery.origins →
    number < delivery.edge.appended.length
  carried : List.Forall₂ (Carried parse delivery.edge.appended)
    delivery.origins delivery.db.events
  stored : StoredOnce (aggregateOf parse delivery.edge.appended)
    delivery.origins delivery.db

theorem invariant_start (db : Database) :
    Invariant parse (Delivery.start db) := by
  have hnone : ∀ number,
      some number ∉ List.replicate db.events.length (none : Option ℕ) := by
    intro number hmem
    cases (List.mem_replicate.mp hmem).2
  refine ⟨EdgeSync.invariant_start.toSourced,
    fun number hmem => absurd hmem (hnone number), ?_,
    fun number => ?_, fun number hmem => absurd hmem (hnone number)⟩
  · rw [Delivery.start, List.forall₂_iff_get]
    refine ⟨List.length_replicate, fun position hposition _ number hnumber => ?_⟩
    rw [List.get_eq_getElem, List.getElem_replicate] at hnumber
    cases hnumber
  · exact (List.count_eq_zero_of_not_mem (hnone number)).trans_le (by omega)

theorem appended_sync (edge : State String EventBody) (reply : Reply) :
    (edge.sync reply).appended = edge.appended := by
  rcases EdgeSync.sync_cases edge reply with ⟨batch, read, -, hsync⟩ |
    ⟨-, -, happended, -⟩
  · rw [hsync]
  · exact happended

theorem invariant_append {delivery : Delivery}
    (hdelivery : Invariant parse delivery) (line : LogLine) :
    Invariant parse (step sha256 marshal parse delivery (.append line)) := by
  have hlonger : ∀ number < delivery.edge.appended.length,
      (delivery.edge.appended ++ [line])[number]? =
        delivery.edge.appended[number]? := fun number hnumber =>
    List.getElem?_append_left hnumber
  refine ⟨hdelivery.sourced.append line, ?_, ?_, hdelivery.stored.once, ?_⟩
  · intro number hnumber
    have hknown := hdelivery.known number hnumber
    simp only [step, EdgeSync.step, List.length_append]
    omega
  · refine hdelivery.carried.imp fun origin row hcarried number hnumber => ?_
    obtain ⟨event, hevent, hrow⟩ := hcarried number hnumber
    refine ⟨event, ?_, hrow⟩
    exact (hlonger number (List.getElem?_eq_some_iff.mp hevent).1).trans hevent
  · intro number hnumber
    refine le_of_le_of_eq (hdelivery.stored.version number hnumber) ?_
    exact congrArg (latestVersion delivery.db)
      (aggregateOf_append (hdelivery.known number hnumber)).symm

/-- The rows of other clients are sent for no line. -/
theorem invariant_client {delivery : Delivery}
    (hdelivery : Invariant parse delivery) (command : AppendEventCommand)
    (env : CallEnv) :
    Invariant parse
      (step sha256 marshal parse delivery (.client command env)) := by
  rw [step]
  by_cases haccepts : Accepts marshal env command delivery.db
  · obtain ⟨row, after, hanswer, happended⟩ :=
      handleAlone_of_accepts sha256 haccepts
    have hadded : added delivery.db after = 1 := by
      rw [added, happended.events, List.length_append,
        Nat.add_sub_cancel_left, List.length_singleton]
    rw [hanswer]
    dsimp only
    rw [hadded]
    refine ⟨hdelivery.sourced, fun number hnumber => ?_, ?_,
      (hdelivery.stored.appended happended).foreign⟩
    · rcases List.mem_append.mp hnumber with hold | hnew
      · exact hdelivery.known number hold
      · cases List.mem_singleton.mp hnew
    · dsimp only
      rw [happended.events]
      refine List.rel_append hdelivery.carried (.cons ?_ .nil)
      intro number hnumber
      cases hnumber
  · obtain ⟨error, hanswer⟩ := handleAlone_of_not_accepts sha256 haccepts
    rw [hanswer]
    dsimp only
    rw [added, Nat.sub_self, List.replicate_zero, List.append_nil]
    exact hdelivery

theorem invariant_sync {delivery : Delivery}
    (hdelivery : Invariant parse delivery) (env : SendEnv) :
    Invariant parse (step sha256 marshal parse delivery (.sync env)) := by
  rw [step]
  split
  · rename_i batch hphase
    have hevents : ∀ event ∈ batch, Stems delivery.edge.appended
        ⟨event.1, .event event.2⟩ := by
      have hbatch := hdelivery.sourced.batch
      rwa [hphase] at hbatch
    obtain ⟨rows, hrows, hpaired, hstored⟩ := extends_send sha256 marshal
      (fun event hevent => aggregateOf_stems (hevents event hevent))
      hdelivery.stored env
    have hadded : added delivery.db
        (send sha256 marshal parse env batch delivery.db).2 = rows.length := by
      rw [added, hrows, List.length_append, Nat.add_sub_cancel_left]
    dsimp only
    rw [hadded]
    refine ⟨hdelivery.sourced.sync _, ?_, ?_, ?_⟩
    · intro number hnumber
      dsimp only
      rw [appended_sync]
      rcases List.mem_append.mp hnumber with hold | hnew
      · exact hdelivery.known number hold
      · obtain ⟨event, hevent, hsame⟩ := List.mem_map.mp
          (List.mem_of_mem_take hnew)
        exact Option.some.inj hsame ▸ (hevents event hevent).lt
    · dsimp only
      rw [appended_sync, hrows]
      refine List.rel_append hdelivery.carried ?_
      rw [← List.map_take, List.forall₂_map_left_iff]
      have hmem := (List.forall₂_and_left _ _).mpr
        ⟨fun event hevent => List.mem_of_mem_take hevent, hpaired⟩
      exact hmem.imp fun event row hevent =>
        carried_of_stems (hevents event hevent.1) hevent.2
    · dsimp only
      rw [appended_sync]
      exact hstored
  · refine ⟨hdelivery.sourced.sync .raised, ?_, ?_, ?_⟩
    all_goals
      dsimp only
      rw [appended_sync]
    · exact hdelivery.known
    · exact hdelivery.carried
    · exact hdelivery.stored

/-- In every run, with any batches stored in part, lost replies, repeated cycles
and calls of other clients, each row that the edge node has sent is the row of
the event of its line, and no line has two rows. -/
theorem stored_at_most_once (sha256 : Bytes → Bytes)
    (marshal : Payload → Except String Bytes) (parse : String → Uuid × Bool)
    (db : Database) (turns : List Turn) :
    let final := turns.foldl (step sha256 marshal parse) (Delivery.start db)
    List.Forall₂ (Carried parse final.edge.appended) final.origins
        final.db.events ∧
      ∀ number, final.origins.count (some number) ≤ 1 := by
  intro final
  have hstep : ∀ delivery turn, Invariant parse delivery → True →
      Invariant parse (step sha256 marshal parse delivery turn) := by
    intro delivery turn hdelivery _
    cases turn with
    | append line => exact invariant_append hdelivery line
    | sync env => exact invariant_sync hdelivery env
    | client command env => exact invariant_client hdelivery command env
  have hrun : Invariant parse final :=
    Runs.foldl_invariant hstep (invariant_start db)
      (Runs.throughout_of_forall (fun _ _ => trivial) turns _)
  exact ⟨hrun.carried, hrun.stored.once⟩

end Runs

namespace Sample

/-- The end of a session, as a line of the log. -/
def line : LogLine :=
  .event
    { eventId := "e1"
      synced := .falsy
      body :=
        { eventType := "SessionEnded"
          aggregateType := "USR_SESSION"
          aggregateId := "00000000-0000-0000-0000-000000000009"
          payload := [("reason", .string "timeout")] } }

def env (answered : Bool) : SendEnv where
  stubs := true
  built := true
  arrives := true
  answered := answered
  batchId := "batch-1"
  envs := AppendBatch.Samples.envs

/-- Two cycles that send the event; the first reply is lost. -/
def turns : List Turn :=
  [.append line, .sync (env false), .sync (env false), .sync (env false),
    .sync (env true), .sync (env true), .sync (env true)]

def final : Delivery :=
  turns.foldl (step EventStore.Samples.sha256 EventStore.Samples.marshal
    AppendBatch.Samples.parse) (Delivery.start EventStore.Samples.empty)

end Sample

/-- The second sending is refused. -/
theorem stored_at_most_once_lost_reply :
    Sample.final.origins = [some 0] ∧
      List.Forall₂ (Carried AppendBatch.Samples.parse
        Sample.final.edge.appended) Sample.final.origins
        Sample.final.db.events ∧
      ∀ number, Sample.final.origins.count (some number) ≤ 1 :=
  ⟨by decide +kernel, stored_at_most_once _ _ _ _ _⟩

end UssdKernel.EdgeDelivery
