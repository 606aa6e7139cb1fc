import UssdKernel.Orchestrator.EventStore
import UssdKernel.SessionReconstructor.Integrity

/-!
# The orchestrator's chain and its verification

The events of a session are hashed by `AppendTx` in the orchestrator and
verified by the session reconstructor.  The first hashes the payload and the
nanoseconds, the second the type, the payload and the RFC 3339 time, and the
previous hashes that `AppendTx` returns are empty.  What was appended is
therefore verified only where two different texts share a digest.
-/

namespace UssdKernel.SessionReconstructor

open EventStore (Payload DomainEvent Event Database TxEnv StoredEventRecord
  EventRow appendTx Unwritten Unlinked Reports)

variable {sha256 : Bytes → Bytes} {marshal : Payload → Except String Bytes}

section Append

variable (sha256 marshal)

/-- Successive calls of `AppendTx` with the records they return. -/
def appendRecords :
    List (TxEnv × List Event) → Database →
      Except String (List StoredEventRecord × Database)
  | [], db => return ([], db)
  | (env, events) :: calls, db => do
      let (records, appended) ← appendTx sha256 marshal env db events
      let (later, final) ← appendRecords calls appended
      return (records ++ later, final)

/-- The event as the reconstructor reads it, with the hashes of its record. -/
def dbEvent (event : DomainEvent) (record : StoredEventRecord) :
    DbEvent Payload where
  eventType := event.type
  version := record.version
  payload := event.payload
  sessionId := event.sessionId
  recordHash := record.recordHash
  previousHash := some record.previousHash
  occurredAt := event.eventTime

/-- The text that `AppendTx` hashes for an event without a previous hash. -/
def appendInput (event : DomainEvent) (payload : Bytes) : Bytes :=
  payload ++ Text.utf8 (toString event.eventTime)

/-- The text that the verification hashes for it. -/
def verifyInput (toJson : Payload → Bytes) (toRfc3339 : Time → Bytes)
    (event : DomainEvent) : Bytes :=
  hashInput toJson toRfc3339 [] event.type event.payload event.eventTime

end Append

section Appended

variable {records : List StoredEventRecord}

/-- A record whose hash covers the event's payload and time only. -/
structure Recorded (sha256 : Bytes → Bytes)
    (marshal : Payload → Except String Bytes) (event : DomainEvent)
    (record : StoredEventRecord) : Prop where
  version : record.version = event.version
  previousHash : record.previousHash = []
  recordHash : ∃ payload, marshal event.payload = .ok payload ∧
    record.recordHash = textHash sha256 (appendInput event payload)

theorem recorded_of_reports {event : DomainEvent} {row : EventRow}
    {record : StoredEventRecord} (hrow : Unlinked sha256 marshal event row)
    (hreports : Reports record row) : Recorded sha256 marshal event record where
  version := hreports.1.trans hrow.sequenceNumber
  previousHash := hreports.2.2.trans hrow.previousHash
  recordHash := by
    refine ⟨row.payload, hrow.payload, ?_⟩
    rw [hreports.2.1, hrow.recordHash, hrow.occurredAt]
    rfl

theorem forall₂_recorded {events : List DomainEvent} {rows : List EventRow}
    (hrows : List.Forall₂ (Unlinked sha256 marshal) events rows)
    (hreports : List.Forall₂ Reports records rows) :
    List.Forall₂ (Recorded sha256 marshal) events records := by
  induction hrows generalizing records with
  | nil =>
      rw [List.forall₂_nil_right_iff.mp hreports]
      exact .nil
  | cons hrow _ ih =>
      obtain ⟨record, rest, hrecord, hrest, rfl⟩ :=
        List.forall₂_cons_right_iff.mp hreports
      exact .cons (recorded_of_reports hrow hrecord) (ih hrest)

theorem map_domain_injective :
    Function.Injective (List.map Event.domain) :=
  List.map_injective_iff.mpr fun _ _ heq => Event.domain.inj heq

/-- The records of successful calls, one for every event. -/
theorem appendRecords_eq_ok {calls : List (TxEnv × List Event)}
    {db after : Database} (hdb : Unwritten db)
    (hcalls : appendRecords sha256 marshal calls db = .ok (records, after)) :
    ∃ events, calls.flatMap Prod.snd = events.map Event.domain ∧
      List.Forall₂ (Recorded sha256 marshal) events records := by
  induction calls generalizing db records with
  | nil =>
      cases hcalls
      exact ⟨[], rfl, .nil⟩
  | cons call calls ih =>
      obtain ⟨⟨first, appended⟩, hcall, hcalls⟩ := Results.bind_eq_ok.mp hcalls
      obtain ⟨⟨later, final⟩, hlater, hcalls⟩ := Results.bind_eq_ok.mp hcalls
      cases hcalls
      obtain ⟨batch, rows, hbatch, hrows, -, hreports, happended⟩ :=
        EventStore.appendFrom_eq_ok hdb hcall
      obtain ⟨events, hevents, hrecords⟩ := ih happended hlater
      refine ⟨batch ++ events, ?_,
        List.rel_append (forall₂_recorded hrows hreports) hrecords⟩
      rw [List.flatMap_cons, hbatch, hevents, List.map_append]

end Appended

/-! ## Two hashed texts for one event -/

/-- A text that ends with a colon and two digits, cut after its last byte that
is not part of a number, is cut after the colon or a digit. -/
theorem getLast?_eq_of_append_eq {body number head : Bytes}
    (hnumber : number ≠ []) (hcolon : 58 ∉ number)
    (heq : body ++ number = head ++ [58, 48, 48]) :
    body.getLast? = some 58 ∨ body.getLast? = some 48 := by
  have hreversed := congrArg List.reverse heq
  rw [List.reverse_append, List.reverse_append] at hreversed
  rw [← List.head?_reverse]
  rw [← List.reverse_ne_nil_iff] at hnumber
  rw [← List.mem_reverse] at hcolon
  -- the number has one byte, two bytes, or reaches the colon
  match hdigits : number.reverse with
  | [] => exact absurd hdigits hnumber
  | [last] =>
      rw [hdigits] at hreversed
      exact Or.inr (congrArg List.head? (List.cons.inj hreversed).2)
  | [last, second] =>
      rw [hdigits] at hreversed
      have hrest := (List.cons.inj (List.cons.inj hreversed).2).2
      exact Or.inl (congrArg List.head? hrest)
  | last :: second :: third :: rest =>
      rw [hdigits] at hreversed hcolon
      have hrest := (List.cons.inj (List.cons.inj hreversed).2).2
      rw [show third = 58 from (List.cons.inj hrest).1] at hcolon
      exact absurd (by simp) hcolon

section Verified

variable {toJson : Payload → Bytes} {toRfc3339 : Time → Bytes}
  {event : DomainEvent}

/-- A payload is marshalled to an object or to `null`. -/
def MarshalsObjects (marshal : Payload → Except String Bytes) : Prop :=
  ∀ payload text, marshal payload = .ok text →
    text.getLast? = some 125 ∨ text = Text.utf8 "null"

/-- A time is written with the offset of UTC. -/
def WritesUtc (toRfc3339 : Time → Bytes) : Prop :=
  ∀ time, ∃ clock, toRfc3339 time = clock ++ Text.utf8 "+00:00"

theorem appendInput_ne_verifyInput (hmarshal : MarshalsObjects marshal)
    (htime : WritesUtc toRfc3339) {payload : Bytes}
    (hpayload : marshal event.payload = .ok payload) :
    appendInput event payload ≠ verifyInput toJson toRfc3339 event := by
  intro heq
  obtain ⟨start, hstart⟩ := htime event.eventTime
  obtain ⟨hsome, hcolon⟩ := Text.utf8_toString_integer event.eventTime
  have hends : verifyInput toJson toRfc3339 event =
      (Text.utf8 event.type ++ toJson event.payload ++ start ++
        Text.utf8 "+00") ++ [58, 48, 48] := by
    rw [verifyInput, hashInput, hstart, List.nil_append,
      show Text.utf8 "+00:00" = Text.utf8 "+00" ++ [58, 48, 48] by decide]
    simp only [List.append_assoc]
  have hlast := getLast?_eq_of_append_eq hsome hcolon (heq.trans hends)
  rcases hmarshal event.payload payload hpayload with hobject | rfl
  · rw [hobject] at hlast
    exact absurd hlast (by decide)
  · exact absurd hlast (by decide)

/-- One event is verified exactly if its two texts collide. -/
theorem valid_single_iff (hmarshal : MarshalsObjects marshal)
    (htime : WritesUtc toRfc3339) {record : StoredEventRecord}
    (hrecord : Recorded sha256 marshal event record)
    (hversion : event.version = 1) {payload : Bytes}
    (hpayload : marshal event.payload = .ok payload) :
    (∃ hash, Valid sha256 toJson toRfc3339 [dbEvent event record] hash) ↔
      HashChain.Collision sha256 [appendInput event payload,
        verifyInput toJson toRfc3339 event] := by
  have hne : appendInput event payload ≠ verifyInput toJson toRfc3339 event :=
    appendInput_ne_verifyInput hmarshal htime hpayload
  have hhash : record.recordHash =
      textHash sha256 (appendInput event payload) := by
    obtain ⟨stored, hstored, hhash⟩ := hrecord.recordHash
    rw [hpayload] at hstored
    rw [hhash, Except.ok.inj hstored]
  have htext : eventText toJson toRfc3339 (dbEvent event record) =
      verifyInput toJson toRfc3339 event := by
    rw [eventText, verifyInput,
      show (dbEvent event record).previousHash = some [] from
        congrArg some hrecord.previousHash]
    rfl
  rw [HashChain.collision_pair hne]
  constructor
  · rintro ⟨hash, hvalid⟩
    obtain ⟨-, -, -, hrecomputed, -⟩ := valid_iff.mp hvalid
    rw [htext, show (dbEvent event record).recordHash = record.recordHash from
      rfl, hhash] at hrecomputed
    exact Text.hex_injective hrecomputed
  · intro hsame
    refine ⟨record.recordHash, valid_iff.mpr ⟨List.cons_ne_nil _ _,
      hrecord.version.trans hversion, fun hlater => absurd hlater (lt_irrefl 1),
      ?_, rfl⟩⟩
    rw [htext]
    exact hhash.trans (congrArg Text.hex hsame)

/-- A second event does not name the hash of the first. -/
theorem not_valid_cons_cons (hdigest : ∀ data, (sha256 data).length = 32)
    {first second : DomainEvent} {firstRecord secondRecord : StoredEventRecord}
    (hfirst : Recorded sha256 marshal first firstRecord)
    (hsecond : Recorded sha256 marshal second secondRecord)
    {events : List (DbEvent Payload)} {hash : Bytes} :
    ¬ Valid sha256 toJson toRfc3339
      (dbEvent first firstRecord :: dbEvent second secondRecord :: events)
      hash := by
  intro hvalid
  obtain ⟨-, -, -, -, -, hprevious, -⟩ := valid_iff.mp hvalid
  have hempty : [] = firstRecord.recordHash :=
    hsecond.previousHash.symm.trans (hprevious (by norm_num))
  obtain ⟨payload, -, hhash⟩ := hfirst.recordHash
  have hlength := congrArg List.length (hempty.trans hhash)
  rw [length_textHash hdigest] at hlength
  cases hlength

/-- Events appended with versions from 1 on are verified exactly if there is
one event, and the texts that the two services hash for it are different texts
with one digest. -/
theorem appended_session_valid_iff
    (hdigest : ∀ data, (sha256 data).length = 32)
    (hmarshal : MarshalsObjects marshal) (htime : WritesUtc toRfc3339)
    {calls : List (TxEnv × List Event)} {db after : Database}
    {events : List DomainEvent} {records : List StoredEventRecord}
    (hdb : Unwritten db)
    (hevents : calls.flatMap Prod.snd = events.map Event.domain)
    (hversions : events.map DomainEvent.version =
      (List.range events.length).map fun (k : ℕ) => (k : ℤ) + 1)
    (hcalls : appendRecords sha256 marshal calls db = .ok (records, after)) :
    (∃ hash, Valid sha256 toJson toRfc3339
        (List.zipWith dbEvent events records) hash) ↔
      ∃ event payload, events = [event] ∧
        marshal event.payload = .ok payload ∧
          HashChain.Collision sha256 [appendInput event payload,
            verifyInput toJson toRfc3339 event] := by
  obtain ⟨batch, hbatch, hrecords⟩ := appendRecords_eq_ok hdb hcalls
  obtain rfl : events = batch :=
    map_domain_injective (hevents.symm.trans hbatch)
  cases hrecords with
  | nil =>
      refine iff_of_false ?_ ?_
      · rintro ⟨hash, hvalid⟩
        exact (valid_iff.mp hvalid).1 rfl
      · rintro ⟨event, payload, hevent, -⟩
        cases hevent
  | @cons event record later laterRecords hrecord hlater =>
      cases hlater with
      | nil =>
          have hversion : event.version = 1 := (List.cons.inj hversions).1
          obtain ⟨payload, hpayload, -⟩ := hrecord.recordHash
          have hsingle : (∃ hash, Valid sha256 toJson toRfc3339
              [dbEvent event record] hash) ↔ _ :=
            valid_single_iff hmarshal htime hrecord hversion hpayload
          refine hsingle.trans ⟨fun hcollision =>
            ⟨event, payload, rfl, hpayload, hcollision⟩, ?_⟩
          rintro ⟨other, text, hother, htext, hcollision⟩
          cases hother
          rw [hpayload] at htext
          cases htext
          exact hcollision
      | cons hsecond _ =>
          refine iff_of_false ?_ ?_
          · rintro ⟨hash, hvalid⟩
            exact not_valid_cons_cons hdigest hrecord hsecond hvalid
          · rintro ⟨single, payload, hsingle, -⟩
            cases hsingle

end Verified

namespace Samples

/-- Agrees with serde_json on the two payloads. -/
def toJson (payload : Payload) : Bytes :=
  match EventStore.Samples.marshal payload with
  | .ok text => text
  | .error _ => []

/-- Agrees with chrono at midnight. -/
def toUtc (time : Time) : Bytes :=
  (if time = midnight then Text.utf8 "2024-10-04T00:00:00"
    else Text.utf8 "2024-10-04T00:00:01") ++ Text.utf8 "+00:00"

/-- The real digests of the texts hashed by the two services. -/
def bothHashes : List (Bytes × Bytes) :=
  EventStore.Samples.hashes ++ hashes

def bothSha256 : Bytes → Bytes := HashTables.tableHash bothHashes

theorem length_bothSha256 (data : Bytes) : (bothSha256 data).length = 32 :=
  HashTables.length_tableHash (by decide +kernel) data

theorem marshalsObjects : MarshalsObjects EventStore.Samples.marshal := by
  intro payload text htext
  rw [EventStore.Samples.marshal] at htext
  split at htext
  · cases htext
    exact Or.inl (by decide)
  · split at htext
    · cases htext
      exact Or.inl (by decide)
    · cases htext

theorem writesUtc : WritesUtc toUtc := fun _ => ⟨_, rfl⟩

/-- A session is created by one call of `AppendTx`. -/
def creation : List (TxEnv × List Event) :=
  [(EventStore.Samples.env 1, [.domain (EventStore.Samples.created 9)])]

def appended (calls : List (TxEnv × List Event)) :
    List StoredEventRecord × Database :=
  match appendRecords bothSha256 EventStore.Samples.marshal calls
    EventStore.Samples.empty with
  | .ok result => result
  | .error _ => ([], EventStore.Samples.empty)

/-- The created session as the reconstructor reads it. -/
def createdSession : List (DbEvent Payload) :=
  List.zipWith dbEvent [EventStore.Samples.created 9] (appended creation).1

end Samples

theorem appended_session_valid_iff_created :
    (∃ hash, Valid Samples.bothSha256 Samples.toJson Samples.toUtc
        Samples.createdSession hash) ↔
      ∃ event payload, [EventStore.Samples.created 9] = [event] ∧
        EventStore.Samples.marshal event.payload = .ok payload ∧
          HashChain.Collision Samples.bothSha256 [appendInput event payload,
            verifyInput Samples.toJson Samples.toUtc event] := by
  have hcalls : appendRecords Samples.bothSha256 EventStore.Samples.marshal
      Samples.creation EventStore.Samples.empty =
        .ok (Samples.appended Samples.creation) := by
    decide +kernel
  exact appended_session_valid_iff Samples.length_bothSha256
    Samples.marshalsObjects Samples.writesUtc
    EventStore.Samples.unwritten_empty rfl rfl hcalls

/-- The creation of a session is appended, and its verification fails at
version 1. -/
theorem created_session_invalid :
    (appendRecords Samples.bothSha256 EventStore.Samples.marshal
        Samples.creation EventStore.Samples.empty).isOk = true ∧
      verifyIntegrity Samples.bothSha256 Samples.toJson Samples.toUtc
          Samples.createdSession =
        .ok
          { isValid := false
            computedHash := Samples.createdHash
            eventCount := 1
            brokenAtVersion := some 1 } := by
  decide +kernel

end UssdKernel.SessionReconstructor
