import UssdKernel.Audit.BatchChain

/-!
# Proofs and stored batches

`get_merkle_proof` builds the tree of a day from the events stored now, while
the batch of the day keeps the root of the events that were stored when it was
computed.  The two roots agree as long as no event is appended to a day that
already has its batch.
-/

namespace UssdKernel.AuditHandler

open UssdKernel.Batches
open UssdKernel.KeyedTables
open UssdKernel.Merkle
open UssdKernel.Programs
open UssdKernel.Runs
open UssdKernel.SortedOrders

/-- No two events share a sequence number. -/
def NoTies (eventStore : List StoredEvent) : Prop :=
  ∀ first ∈ eventStore, ∀ second ∈ eventStore,
    first.sequenceNumber = second.sequenceNumber → first = second

instance {eventStore : List StoredEvent} : Decidable (NoTies eventStore) :=
  inferInstanceAs (Decidable (∀ first ∈ eventStore, _))

theorem NoTies.mono {eventStore more : List StoredEvent}
    (hsubset : eventStore ⊆ more) (hties : NoTies more) : NoTies eventStore :=
  fun first hfirst second hsecond =>
    hties first (hsubset hfirst) second (hsubset hsecond)

/-- A time lies in the range of its own date only. -/
theorem in_range_iff (date time : ℤ) :
    date * day ≤ time ∧ time < date * day + day ↔ dateNaive time = date := by
  rw [dateNaive, day]
  omega

theorem dayRows_append_of_ne {eventStore : List StoredEvent}
    {row : StoredEvent} {date : ℤ} (hdate : dateNaive row.occurredAt ≠ date) :
    dayRows (eventStore ++ [row]) date = dayRows eventStore date := by
  have hout : ¬ (date * day ≤ row.occurredAt ∧
      row.occurredAt < date * day + day) :=
    mt (in_range_iff date row.occurredAt).mp hdate
  rw [dayRows, rangeRows, List.filter_append, List.filter_singleton,
    decide_eq_false hout, cond_false, List.append_nil]
  rfl

section Roots

variable {sha256 : Bytes → Bytes} {backend : SigningBackend}
variable {parseUuid : String → Except String Uuid} {db : AuditDb}

/-- The root of a day's events, read without ties. -/
def dayRoot (sha256 : Bytes → Bytes) (eventStore : List StoredEvent)
    (date : ℤ) : Bytes :=
  rootOf sha256 (leavesOf sha256 (((dayRows eventStore date).insertionSort
    fun first second => first.sequenceNumber ≤ second.sequenceNumber).map
      (StoredEvent.record sha256)))

/-- Without ties every order that may be returned has the same root. -/
theorem rootOf_dayOrder {eventStore rows : List StoredEvent} {date : ℤ}
    (hties : NoTies eventStore) (hrows : DayOrder eventStore date rows) :
    rootOf sha256 (leavesOf sha256 (rows.map (StoredEvent.record sha256))) =
      dayRoot sha256 eventStore date := by
  have hday : NoTies (dayRows eventStore date) :=
    hties.mono (List.filter_subset_self _)
  rw [hrows.eq hday (orderedBy_insertionSort _ _)]
  rfl

/-- Every stored batch has the root of its day's events. -/
def Settled (sha256 : Bytes → Bytes) (db : AuditDb) : Prop :=
  ∀ link ∈ db.links,
    link.batchHash = Text.hex (dayRoot sha256 db.eventStore link.batchDate)

/-- Events are appended only to days without a batch. -/
def Timely (db : AuditDb) : Call → Prop
  | .append row _ => db.batches.lookup (dateNaive row.occurredAt) = none
  | _ => True

instance {db : AuditDb} : (call : Call) → Decidable (Timely db call)
  | .append _ _ => inferInstanceAs (Decidable (_ = _))
  | .compute _ _ => isTrue trivial
  | .prove _ _ => isTrue trivial

theorem eventStore_subset_step (db : AuditDb) (call : Call) :
    db.eventStore ⊆ (step sha256 backend parseUuid db call).eventStore := by
  rcases step_cases db call with
    ⟨hevents, -⟩ | ⟨row, choice, -, hevents, -⟩ |
      ⟨date, choices, rows, -, -, -, hevents, -⟩
  · rw [hevents]
    exact List.Subset.refl _
  · rw [hevents]
    exact List.subset_append_left _ _
  · rw [hevents]
    exact List.Subset.refl _

theorem lookup_of_mem_links {link : Link} (hlink : link ∈ db.links) :
    ∃ row, db.batches.lookup link.batchDate = some row := by
  obtain ⟨record, hrecord, rfl⟩ := mem_links.mp hlink
  obtain ⟨row, hrow, rfl⟩ := List.mem_map.mp hrecord
  exact ⟨row, Table.lookup_key hrow⟩

theorem Settled.step {call : Call} (hsettled : Settled sha256 db)
    (hties : NoTies db.eventStore) (hcall : Timely db call) :
    Settled sha256 (step sha256 backend parseUuid db call) := by
  rcases step_cases db call with
    ⟨hevents, hlinks⟩ | ⟨row, choice, rfl, hevents, hlinks⟩ |
      ⟨date, choices, rows, rfl, -, hrows, hevents, hlinks⟩
  · rw [Settled, hevents, hlinks]
    exact hsettled
  · rw [Settled, hevents, hlinks]
    intro link hlink
    have hdate : dateNaive row.occurredAt ≠ link.batchDate := by
      intro hsame
      obtain ⟨stored, hstored⟩ := lookup_of_mem_links hlink
      rw [← hsame] at hstored
      cases hstored.symm.trans hcall
    rw [dayRoot, dayRows_append_of_ne hdate]
    exact hsettled link hlink
  · rw [Settled, hevents, hlinks]
    intro link hlink
    rcases List.mem_append.mp hlink with hlink | hnew
    · exact hsettled link hlink
    · rw [List.mem_singleton.mp hnew]
      exact congrArg Text.hex (rootOf_dayOrder hties hrows)

theorem settled_run (hdb : db.batches = Table.empty) {calls : List Call}
    (hcalls : Throughout (step sha256 backend parseUuid) Timely calls db) :
    NoTies (run sha256 backend parseUuid calls db).eventStore →
      Settled sha256 (run sha256 backend parseUuid calls db) := by
  -- events are never removed, so that a state without ties has none before it
  have hstep : ∀ (db : AuditDb) (call : Call),
      (NoTies db.eventStore → Settled sha256 db) → Timely db call →
        NoTies (step sha256 backend parseUuid db call).eventStore →
          Settled sha256 (step sha256 backend parseUuid db call) := by
    intro db call hsettled hcall hties
    have hbefore := hties.mono (eventStore_subset_step db call)
    exact (hsettled hbefore).step hbefore hcall
  have hstart : NoTies db.eventStore → Settled sha256 db := by
    intro _ link hlink
    rw [AuditDb.links, AuditDb.database, hdb] at hlink
    cases hlink
  exact foldl_invariant hstep hstart hcalls

/-- If events are appended only to days without a batch, the root of every
proof is the stored root of its day. -/
theorem proof_root_is_batch_hash {db : AuditDb}
    (hdb : db.batches = Table.empty) {calls : List Call}
    (hties : NoTies (run sha256 backend parseUuid calls db).eventStore)
    (hcalls : Throughout (step sha256 backend parseUuid) Timely calls db)
    {request : MerkleProofRequest} {choices : Op → Choice}
    {event : EventRecord} {result : MerkleProofResult} {row : BatchRow}
    (hevent : (Prog.exec (respondWith sha256 backend choices)
      (targetEvent parseUuid request)
      (run sha256 backend parseUuid calls db)).1 = .ok event)
    (hresult : (Prog.exec (respondWith sha256 backend choices)
      (getMerkleProof sha256 parseUuid request)
      (run sha256 backend parseUuid calls db)).1 = .ok result)
    (hrow : (run sha256 backend parseUuid calls db).batches.lookup
      (dateNaive event.occurredAt) = some row) :
    Text.hex result.merkleRoot = row.record.batchHash := by
  have hsettled := settled_run hdb hcalls hties
  generalize run sha256 backend parseUuid calls db = reached at *
  have htarget : Prog.exec (respondWith sha256 backend choices)
      (targetEvent parseUuid request) reached = (.ok event, reached) :=
    Prod.ext hevent (exec_targetEvent choices request reached)
  rw [getMerkleProof, Prog.exec_bind_of_ok htarget] at hresult
  obtain ⟨rows, hrows, hroot⟩ :=
    (exec_proveEvent choices _ event reached).2 result hresult
  obtain ⟨hmem, hdate⟩ := Table.lookup_eq_some_iff.mp hrow
  have hlink : linkOf row.record ∈ reached.links :=
    mem_links.mpr ⟨row.record, List.mem_map_of_mem hmem, rfl⟩
  calc Text.hex result.merkleRoot
      = Text.hex (dayRoot sha256 reached.eventStore
          (dateNaive event.occurredAt)) := by
        rw [hroot, rootOf_dayOrder hties hrows]
    _ = Text.hex (dayRoot sha256 reached.eventStore
          (linkOf row.record).batchDate) := by
        rw [← hdate]
        rfl
    _ = row.record.batchHash := (hsettled _ hlink).symm

end Roots

namespace Samples

/-- Two sessions end on day 20000, and the batch of the day is computed. -/
def batchTaken : List Call :=
  [.append (Batches.Samples.closingEvent 1 "completed") (working 1 0),
    .append (Batches.Samples.closingEvent 2 "cancelled") (working 2 0),
    .compute 20000 (choices 20000)]

/-- An event of the same day arrives after the batch. -/
def lateEvent : List Call :=
  batchTaken ++
    [.append (Batches.Samples.closingEvent 3 "timeout") (working 3 0)]

def firstClosing : MerkleProofRequest where
  transactionId := none
  eventId := none
  sequenceNumber := some 1

def reached (calls : List Call) : AuditDb :=
  run sha256 backend parseUuid calls freshDb

/-- The proof of the first event. -/
def proof (db : AuditDb) : Except AuditError MerkleProofResult :=
  (Prog.exec (respondWith sha256 backend (choices 20001))
    (getMerkleProof sha256 parseUuid firstClosing) db).1

def target (db : AuditDb) : Except AuditError EventRecord :=
  (Prog.exec (respondWith sha256 backend (choices 20001))
    (targetEvent parseUuid firstClosing) db).1

end Samples

theorem proof_root_is_batch_hash_two_closings :
    Throughout (step Samples.sha256 Samples.backend Samples.parseUuid) Timely
        Samples.batchTaken Samples.freshDb ∧
      NoTies (Samples.reached Samples.batchTaken).eventStore ∧
      ∃ event result row,
        Samples.target (Samples.reached Samples.batchTaken) = .ok event ∧
          Samples.proof (Samples.reached Samples.batchTaken) = .ok result ∧
          (Samples.reached Samples.batchTaken).batches.lookup
            (dateNaive event.occurredAt) = some row ∧
          Text.hex result.merkleRoot = row.record.batchHash := by
  have hcalls : Throughout (step Samples.sha256 Samples.backend
      Samples.parseUuid) Timely Samples.batchTaken Samples.freshDb := by
    decide +kernel
  have hties : NoTies (Samples.reached Samples.batchTaken).eventStore := by
    decide +kernel
  have hfound : (Samples.target (Samples.reached
      Samples.batchTaken)).toOption.map (dateNaive ·.occurredAt) =
        some 20000 := by
    decide +kernel
  have hproved : (Samples.proof (Samples.reached
      Samples.batchTaken)).toOption.map (fun _ => ()) = some () := by
    decide +kernel
  have hstored : ((Samples.reached Samples.batchTaken).batches.lookup
      20000).isSome = true := by
    decide +kernel
  obtain ⟨event, hevent, hdate⟩ := Results.exists_ok_of_toOption hfound
  obtain ⟨result, hresult, -⟩ := Results.exists_ok_of_toOption hproved
  obtain ⟨row, hrow⟩ := Option.isSome_iff_exists.mp hstored
  rw [← hdate] at hrow
  exact ⟨hcalls, hties, event, result, row, hevent, hresult, hrow,
    proof_root_is_batch_hash rfl hties hcalls hevent hresult hrow⟩

/-- An event that arrives after the batch of its day gives every proof of the
day another root than the stored one. -/
theorem late_event_other_root :
    NoTies (Samples.reached Samples.lateEvent).eventStore ∧
      (Samples.target (Samples.reached Samples.lateEvent)).map
          (dateNaive ·.occurredAt) = .ok 20000 ∧
      (Samples.proof (Samples.reached Samples.lateEvent)).map
          (Text.hex ·.merkleRoot) =
        .ok (Text.hex Batches.Samples.closingsRoot) ∧
      ((Samples.reached Samples.lateEvent).batches.lookup 20000).map
          (·.record.batchHash) =
        some (Text.hex Batches.Samples.closingsLeft) ∧
      Text.hex Batches.Samples.closingsRoot ≠
        Text.hex Batches.Samples.closingsLeft := by
  exact ⟨by decide +kernel, by decide +kernel, by decide +kernel,
    by decide +kernel, by decide +kernel⟩

end UssdKernel.AuditHandler
