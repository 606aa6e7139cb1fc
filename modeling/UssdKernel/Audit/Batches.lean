import UssdKernel.Audit.MerkleProofs
import UssdKernel.Core.Text

/-!
# Daily batches and batch verification

The audit service reads events from the event store with a record hash that
the query computes from the payload text.  `get_or_compute_batch_hash` stores
the Merkle root of a day together with its number of events;
`verify_batch_integrity` recomputes the root of a sequence range and compares
it with an expected one.  Texts that are hashed or compared are kept as their
bytes.
-/

namespace UssdKernel.Batches

open UssdKernel.Merkle
open UssdKernel.MerkleProofs
open UssdKernel.PairLevels

/-- Nanoseconds since the Unix epoch. -/
abbrev Timestamp := ℤ

def day : Timestamp := 24 * 60 * 60 * 1000000000

/-- A row of `events.event_store`. -/
structure StoredEvent where
  eventId : Uuid
  sequenceNumber : ℤ
  payloadText : Bytes
  occurredAt : Timestamp
deriving DecidableEq

structure EventRecord where
  eventId : Uuid
  sequenceNumber : ℤ
  recordHash : Bytes
  occurredAt : Timestamp
deriving DecidableEq

/-- A row of `integrity.batch_hashes`.  The date counts days since the
epoch. -/
structure BatchHashRecord where
  batchId : Uuid
  batchDate : ℤ
  batchHash : Bytes
  recordCount : Int32
  sourceDataHash : Bytes
  computedAt : Timestamp
  previousBatchHash : Option Bytes
deriving DecidableEq

structure Database where
  eventStore : List StoredEvent
  batchHashes : List BatchHashRecord

inductive AuditError where
  | invalidDateRange (message : String)
deriving DecidableEq

/-- The transaction id is the first event's id, and empty without events. -/
structure IntegrityViolation where
  transactionId : Option Uuid
  expectedHash : Bytes
  actualHash : Bytes
  violationType : String
deriving DecidableEq

structure BatchIntegrityResult where
  valid : Bool
  computedRoot : Bytes
  periodStart : Option Timestamp
  periodEnd : Option Timestamp
  totalTransactions : ℕ
  verifiedTransactions : ℕ
  failedTransactions : ℕ
  isFullyValid : Bool
  previousBatchHash : Option Bytes
  violations : List IntegrityViolation
deriving DecidableEq

section Model

variable (sha256 : Bytes → Bytes)

/-- The columns selected by `fetch_events_for_range`: the record hash is
`encode(digest(payload::text, 'sha256'), 'hex')`. -/
def StoredEvent.record (row : StoredEvent) : EventRecord where
  eventId := row.eventId
  sequenceNumber := row.sequenceNumber
  recordHash := Text.hex (sha256 row.payloadText)
  occurredAt := row.occurredAt

def fetchEventsForRange (eventStore : List StoredEvent)
    (start stop : Timestamp) : List EventRecord :=
  ((eventStore.filter fun row =>
      start ≤ row.occurredAt ∧ row.occurredAt < stop).insertionSort
    fun first second => first.sequenceNumber ≤ second.sequenceNumber).map
      (StoredEvent.record sha256)

def leavesOf (events : List EventRecord) : List Bytes :=
  events.map fun event => sha256 event.recordHash

/-- The root returned by `build_merkle_tree`, which never reads outside its
array (`buildMerkleTree_rootOf`). -/
def rootOf (leaves : List Bytes) : Bytes :=
  ((buildMerkleTree sha256 leaves).map Prod.fst).getD []

def sourceDataHash (events : List EventRecord) : Bytes :=
  if events.isEmpty then Text.hex (sha256 [])
  else Text.hex (sha256 (events.flatMap EventRecord.recordHash))

/-- The events of one day. -/
def dayEvents (db : Database) (date : ℤ) : List EventRecord :=
  fetchEventsForRange sha256 db.eventStore (date * day) (date * day + day)

def findPreviousBatchHash (rows : List BatchHashRecord) (date : ℤ) :
    Option Bytes :=
  ((rows.filter fun row => row.batchDate < date).insertionSort
    fun first second => second.batchDate ≤ first.batchDate).head?.map
      BatchHashRecord.batchHash

/-- `INSERT … ON CONFLICT (batch_date) DO UPDATE`: a row of the same date
keeps its id. -/
def upsertBatch (rows : List BatchHashRecord) (new : BatchHashRecord) :
    List BatchHashRecord :=
  if rows.any (·.batchDate = new.batchDate) then
    rows.map fun row =>
      if row.batchDate = new.batchDate then { new with batchId := row.batchId }
      else row
  else rows ++ [new]

/-- The row that `get_or_compute_batch_hash` computes from the events it has
read. -/
def batchRecord (date : ℤ) (events : List EventRecord)
    (previousBatchHash : Option Bytes) (batchId : Uuid)
    (computedAt : Timestamp) : BatchHashRecord where
  batchId := batchId
  batchDate := date
  batchHash := Text.hex (rootOf sha256 (leavesOf sha256 events))
  recordCount := Int32.ofNat events.length
  sourceDataHash := sourceDataHash sha256 events
  computedAt := computedAt
  previousBatchHash := previousBatchHash

/-- `get_or_compute_batch_hash` on the events that its query returns; `batchId`
and `computedAt` are the fresh id and the clock of the call. -/
def getOrComputeOn (db : Database) (date : ℤ) (events : List EventRecord)
    (batchId : Uuid) (computedAt : Timestamp) : BatchHashRecord × Database :=
  match db.batchHashes.find? (·.batchDate = date) with
  | some existing => (existing, db)
  | none =>
      let record := batchRecord sha256 date events
        (findPreviousBatchHash db.batchHashes date) batchId computedAt
      (record, { db with batchHashes := upsertBatch db.batchHashes record })

def getOrComputeBatchHash (db : Database) (date : ℤ) (batchId : Uuid)
    (computedAt : Timestamp) : BatchHashRecord × Database :=
  getOrComputeOn sha256 db date (dayEvents sha256 db date) batchId computedAt

section Verification

variable (eventStore : List StoredEvent) (now : Timestamp)
  (startEventId endEventId : ℤ)

/-- The events that `verify_batch_integrity` compares: everything from the
epoch to ten years ahead, cut down to the sequence range. -/
def rangeEvents : List EventRecord :=
  (fetchEventsForRange sha256 eventStore 0 (now + 365 * 10 * day)).filter
    fun event => event.sequenceNumber ≥ startEventId ∧
      event.sequenceNumber ≤ endEventId

def verifyBatchIntegrity (expectedRootHex : Option Bytes) :
    Except AuditError BatchIntegrityResult :=
  if startEventId > endEventId then
    .error (.invalidDateRange "start_event_id must be <= end_event_id")
  else
    let events := rangeEvents sha256 eventStore now startEventId endEventId
    let computedRootHex :=
      Text.hex (rootOf sha256 (leavesOf sha256 events))
    let valid := (expectedRootHex.map fun expected =>
      decide (expected.map Text.lower = computedRootHex.map Text.lower)).getD true
    let violations :=
      if !valid then
        [{ transactionId := events.head?.map EventRecord.eventId
           expectedHash := expectedRootHex.getD []
           actualHash := computedRootHex
           violationType := "ROOT_MISMATCH" }]
      else []
    .ok
      { valid
        computedRoot := computedRootHex
        periodStart := events.head?.map EventRecord.occurredAt
        periodEnd := events.getLast?.map EventRecord.occurredAt
        totalTransactions := events.length
        verifiedTransactions := if valid then events.length else 0
        failedTransactions := if valid then 0 else events.length
        isFullyValid := valid
        previousBatchHash := none
        violations }

end Verification

/-- The inputs hashed for a tree over the given events: the record hashes for
the leaves, then those of `build_merkle_tree`. -/
def hashInputs (events : List EventRecord) : List Bytes :=
  events.map EventRecord.recordHash ++
    buildInputs sha256 (leavesOf sha256 events)

end Model

/-! ## Strings hashed level by level -/

section Strings

variable (sha256 : Bytes → Bytes) {strings : List Bytes}

/-- The strings whose digests form the bottom level.  The tree over no events
is the digest of the empty string. -/
def leafStrings (events : List EventRecord) : List Bytes :=
  if events.isEmpty then [[]] else events.map EventRecord.recordHash

/-- The strings whose digests form level `k` above the given ones. -/
def stringsAt (strings : List Bytes) : ℕ → List Bytes
  | 0 => strings
  | k + 1 => (pairs ((stringsAt strings k).map sha256)).map joined

/-- Every string hashed for the tree over the digests of the given strings. -/
def stringInputs (strings : List Bytes) : List Bytes :=
  strings ++
    (combinedPairs (node sha256) (strings.map sha256)).map joined

variable (events : List EventRecord)

theorem leafStrings_ne_nil :
    leafStrings events ≠ [] := by
  unfold leafStrings
  split
  · simp
  · next hevents => simpa using hevents

theorem map_stringsAt (strings : List Bytes) (k : ℕ) :
    (stringsAt sha256 strings k).map sha256 =
      (parents (node sha256))^[k] (strings.map sha256) := by
  induction k with
  | zero => rfl
  | succ k ih =>
      rw [Function.iterate_succ_apply', ← ih, stringsAt, map_joined_pairs]

theorem length_stringsAt (strings : List Bytes) (k : ℕ) :
    (stringsAt sha256 strings k).length =
      ((parents (node sha256))^[k] (strings.map sha256)).length := by
  rw [← map_stringsAt, List.length_map]

theorem height_stringsAt (strings : List Bytes) (k : ℕ) :
    height (stringsAt sha256 strings k).length =
      height strings.length - k := by
  rw [length_stringsAt, height_iterate_parents, List.length_map]

theorem stringsAt_ne_nil (hstrings : strings ≠ []) (k : ℕ) :
    stringsAt sha256 strings k ≠ [] := by
  induction k with
  | zero => exact hstrings
  | succ k ih =>
      apply List.ne_nil_of_length_pos
      have hpositive := List.length_pos_iff.mpr ih
      rw [stringsAt, List.length_map, length_pairs, List.length_map]
      omega

/-- Below the root, the strings of a level are hashed for the tree. -/
theorem stringInputs_stringsAt_subset {k : ℕ} (hk : k ≤ height strings.length) :
    stringInputs sha256 (stringsAt sha256 strings k) ⊆
      stringInputs sha256 strings := by
  apply List.append_subset.mpr
  constructor
  · cases k with
    | zero => exact List.subset_append_left _ _
    | succ k =>
        have hbelow : k < height (strings.map sha256).length := by
          rw [List.length_map]
          omega
        have hlevel := pairs_iterate_subset (node sha256) hbelow
        rw [stringsAt, map_stringsAt]
        exact List.Subset.trans (List.map_subset joined hlevel)
          (List.subset_append_right _ _)
  · rw [map_stringsAt]
    exact List.Subset.trans
      (List.map_subset joined (combinedPairs_iterate_subset _ _ _))
      (List.subset_append_right _ _)

theorem map_leafStrings {events : List EventRecord} (hevents : events ≠ []) :
    (leafStrings events).map sha256 = leavesOf sha256 events := by
  simp [leafStrings, leavesOf, hevents]

theorem root_leafStrings :
    root (node sha256) ((leafStrings events).map sha256) =
      some (rootOf sha256 (leavesOf sha256 events)) := by
  by_cases hevents : events = []
  · subst hevents
    rw [root_of_few _ (by simp [leafStrings])]
    rfl
  · have hleaves : leavesOf sha256 events ≠ [] := by simpa [leavesOf] using hevents
    obtain ⟨top, htop, hbuild⟩ := buildMerkleTree_eq sha256 hleaves
    rw [map_leafStrings sha256 hevents, htop, rootOf, hbuild]
    rfl

theorem buildMerkleTree_rootOf (leaves : List Bytes) :
    ∃ tree, buildMerkleTree sha256 leaves =
      some (rootOf sha256 leaves, tree) := by
  by_cases hleaves : leaves = []
  · exact ⟨_, by subst hleaves; rfl⟩
  · obtain ⟨top, -, hbuild⟩ := buildMerkleTree_eq sha256 hleaves
    exact ⟨_, by rw [rootOf, hbuild]; rfl⟩

theorem hashInputs_eq :
    hashInputs sha256 events = stringInputs sha256 (leafStrings events) := by
  by_cases hevents : events = []
  · subst hevents
    rw [stringInputs, combinedPairs_of_few _ (by simp [leafStrings])]
    rfl
  · have hleaves : leavesOf sha256 events ≠ [] := by simpa [leavesOf] using hevents
    rw [hashInputs, stringInputs, map_leafStrings sha256 hevents,
      buildInputs_eq sha256 hleaves]
    simp [leafStrings, hevents]

end Strings

/-! ## Equal roots -/

section Roots

variable {sha256 : Bytes → Bytes} {left right : List Bytes}

theorem hashCollision_mono {left right moreLeft moreRight : List Bytes}
    (hleft : left ⊆ moreLeft) (hright : right ⊆ moreRight)
    (hcollision : HashCollision sha256 (left ++ right)) :
    HashCollision sha256 (moreLeft ++ moreRight) := by
  have hsubset : left ++ right ⊆ moreLeft ++ moreRight :=
    List.append_subset.mpr ⟨List.subset_append_of_subset_left _ hleft,
      List.subset_append_of_subset_right _ hright⟩
  obtain ⟨first, hfirst, second, hsecond, hne, hdigest⟩ := hcollision
  exact ⟨first, hsubset hfirst, second, hsubset hsecond, hne, hdigest⟩

/-- Trees of one height with equal roots are built over strings with equal
padding, unless two of the hashed strings collide. -/
theorem padded_eq_or_hashCollision
    (hdigest : ∀ data, (sha256 data).length = digestLength) (hleft : left ≠ [])
    (hright : right ≠ []) (hheight : height left.length = height right.length)
    (hroot : root (node sha256) (left.map sha256) =
      root (node sha256) (right.map sha256)) :
    padded left = padded right ∨
      HashCollision sha256
        (stringInputs sha256 left ++ stringInputs sha256 right) := by
  have hsized : ∀ strings : List Bytes, ∀ pair ∈
      combinedPairs (node sha256) (strings.map sha256),
        pair.1.length = digestLength := by
    intro strings pair hpair
    refine (valid_of_mem_combinedPairs DigestSized
      (fun left right => hdigest (left ++ right)) ?_ hpair).1
    intro digest hmem
    obtain ⟨string, -, rfl⟩ := List.mem_map.mp hmem
    exact hdigest string
  rcases padded_eq_or_collides (node sha256)
    (by simpa only [List.length_map] using hheight) (by simpa using hleft)
    (by simpa using hright) hroot with hpadded | hcollides
  · rw [padded_map, padded_map] at hpadded
    rcases eq_or_exists_ne_of_map_eq hpadded with
      hsame | ⟨x, hx, y, hy, hne, hcollision⟩
    · exact Or.inl hsame
    · exact Or.inr ⟨x, List.mem_append_left _
          (List.mem_append_left _ (mem_of_mem_padded hx)), y,
        List.mem_append_right _
          (List.mem_append_left _ (mem_of_mem_padded hy)), hne, hcollision⟩
  · exact Or.inr (hashCollision_mono (List.subset_append_right _ _)
      (List.subset_append_right _ _)
      (hashCollision_of_collides (hsized left) (hsized right) hcollides))

/-- The padded strings of the shallower tree are the padded strings of the
deeper one at the level of the same height. -/
def Aligned (sha256 : Bytes → Bytes) (left right : List Bytes) : Prop :=
  padded (stringsAt sha256 left (height left.length - height right.length)) =
    padded (stringsAt sha256 right (height right.length - height left.length))

theorem root_stringsAt {strings : List Bytes} {k : ℕ}
    (hk : k ≤ height strings.length) :
    root (node sha256) ((stringsAt sha256 strings k).map sha256) =
      root (node sha256) (strings.map sha256) := by
  rw [map_stringsAt]
  exact root_iterate_parents _ (by rwa [List.length_map])

theorem root_eq_of_aligned (haligned : Aligned sha256 left right) :
    root (node sha256) (left.map sha256) =
      root (node sha256) (right.map sha256) := by
  have hleft := Nat.sub_le (height left.length) (height right.length)
  have hright := Nat.sub_le (height right.length) (height left.length)
  rw [← root_stringsAt hleft, ← root_stringsAt hright]
  apply root_eq_of_padded_eq
  rw [padded_map, padded_map, haligned]

theorem aligned_or_hashCollision
    (hdigest : ∀ data, (sha256 data).length = digestLength) (hleft : left ≠ [])
    (hright : right ≠ [])
    (hroot : root (node sha256) (left.map sha256) =
      root (node sha256) (right.map sha256)) :
    Aligned sha256 left right ∨
      HashCollision sha256
        (stringInputs sha256 left ++ stringInputs sha256 right) := by
  have hleftShift := Nat.sub_le (height left.length) (height right.length)
  have hrightShift := Nat.sub_le (height right.length) (height left.length)
  rcases padded_eq_or_hashCollision hdigest
    (stringsAt_ne_nil sha256 hleft (height left.length - height right.length))
    (stringsAt_ne_nil sha256 hright (height right.length - height left.length))
    (by rw [height_stringsAt, height_stringsAt]; omega)
    (by rw [root_stringsAt hleftShift, root_stringsAt hrightShift, hroot]) with
    haligned | hcollision
  · exact Or.inl haligned
  · exact Or.inr (hashCollision_mono
      (stringInputs_stringsAt_subset sha256 hleftShift)
      (stringInputs_stringsAt_subset sha256 hrightShift) hcollision)

end Roots

end UssdKernel.Batches
