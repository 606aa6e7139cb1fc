import UssdKernel.Audit.Batches
import UssdKernel.Core.HashTables

/-!
# What a batch hash binds

The stored row of a day names a root and a number of events; together they
determine the day's record hashes.  The root alone does not: batch
verification accepts another list exactly if its hashed strings are aligned
with those of the list the root was computed from.
-/

namespace UssdKernel.Batches

open UssdKernel.HashTables (digest tableHash length_tableHash tableHash_inj)
open UssdKernel.Merkle
open UssdKernel.MerkleProofs
open UssdKernel.PairLevels

section Binding

variable {sha256 : Bytes → Bytes} {db : Database} {date : ℤ}

/-- Equal record hashes at every position, or two different hashed strings
with one digest. -/
def SameRecords (sha256 : Bytes → Bytes) (left right : List EventRecord) :
    Prop :=
  left.map EventRecord.recordHash = right.map EventRecord.recordHash ∨
    HashCollision sha256 (hashInputs sha256 left ++ hashInputs sha256 right)

theorem rootOf_eq_iff (left right : List EventRecord) :
    rootOf sha256 (leavesOf sha256 left) =
        rootOf sha256 (leavesOf sha256 right) ↔
      root (node sha256) ((leafStrings left).map sha256) =
        root (node sha256) ((leafStrings right).map sha256) := by
  rw [root_leafStrings, root_leafStrings, Option.some.injEq]

theorem leafStrings_of_ne_nil {events : List EventRecord}
    (hevents : events ≠ []) :
    leafStrings events = events.map EventRecord.recordHash := by
  simp [leafStrings, hevents]

/-- Equally many events with one root have the same record hashes. -/
theorem sameRecords_of_length_eq
    (hdigest : ∀ data, (sha256 data).length = digestLength)
    {left right : List EventRecord} (hlength : left.length = right.length)
    (hroot : rootOf sha256 (leavesOf sha256 left) =
      rootOf sha256 (leavesOf sha256 right)) :
    SameRecords sha256 left right := by
  by_cases hleft : left = []
  · subst hleft
    have hright : right = [] := List.eq_nil_of_length_eq_zero hlength.symm
    subst hright
    exact Or.inl rfl
  · have hright : right ≠ [] := by
      apply List.ne_nil_of_length_pos
      rw [← hlength]
      exact List.length_pos_iff.mpr hleft
    have hstrings : (leafStrings left).length = (leafStrings right).length := by
      rw [leafStrings_of_ne_nil hleft, leafStrings_of_ne_nil hright,
        List.length_map, List.length_map, hlength]
    rcases padded_eq_or_hashCollision hdigest (leafStrings_ne_nil left)
      (leafStrings_ne_nil right) (by rw [hstrings])
      ((rootOf_eq_iff left right).mp hroot) with hpadded | hcollision
    · have hsame := eq_of_padded_eq hstrings hpadded
      rw [leafStrings_of_ne_nil hleft, leafStrings_of_ne_nil hright] at hsame
      exact Or.inl hsame
    · rw [← hashInputs_eq, ← hashInputs_eq] at hcollision
      exact Or.inr hcollision

/-! ## Events with one record hash -/

section Repeated

variable {events : List EventRecord} {count : ℕ} {text : Bytes}
  (hcount : 0 < count)
  (hevents : events.map EventRecord.recordHash = List.replicate count text)

include hcount hevents

theorem leafStrings_of_repeated :
    leafStrings events = List.replicate count text := by
  have hnonempty : events ≠ [] := by
    rintro rfl
    have hlength := congrArg List.length hevents
    rw [List.map_nil, List.length_nil, List.length_replicate] at hlength
    omega
  rw [leafStrings_of_ne_nil hnonempty, hevents]

variable (sha256 : Bytes → Bytes)

theorem rootOf_of_repeated :
    rootOf sha256 (leavesOf sha256 events) =
      (doubled (node sha256))^[height count] (sha256 text) := by
  have hroot := root_leafStrings sha256 events
  rw [leafStrings_of_repeated hcount hevents, List.map_replicate,
    root_replicate _ hcount] at hroot
  exact (Option.some.inj hroot).symm

theorem mem_hashInputs_of_repeated {input : Bytes}
    (hinput : input ∈ hashInputs sha256 events) :
    input = text ∨ ∃ k < height count,
      input = (doubled (node sha256))^[k] (sha256 text) ++
        (doubled (node sha256))^[k] (sha256 text) := by
  rw [hashInputs_eq, leafStrings_of_repeated hcount hevents, stringInputs,
    List.map_replicate] at hinput
  rcases List.mem_append.mp hinput with hleaf | hnode
  · exact Or.inl (List.eq_of_mem_replicate hleaf)
  · obtain ⟨pair, hpair, rfl⟩ := List.mem_map.mp hnode
    obtain ⟨k, hk, rfl⟩ := mem_combinedPairs_replicate _ hpair
    exact Or.inr ⟨k, hk, rfl⟩

end Repeated

/-! ## Tables of real digests -/

namespace Samples

/-- A table without repeated digests has no collision among its inputs. -/
theorem not_hashCollision_tableHash {table : List (Bytes × Bytes)}
    (hnodup : (table.map Prod.snd).Nodup) {inputs : List Bytes}
    (hinputs : ∀ input ∈ inputs, input ∈ table.map Prod.fst) :
    ¬ HashCollision (tableHash table) inputs := by
  rintro ⟨left, hleft, right, hright, hne, hsame⟩
  exact hne (tableHash_inj hnodup (hinputs left hleft) (hinputs right hright)
    hsame)

/-- The payload text of a closed session, as `jsonb` prints it. -/
def closingPayload (reason : String) : Bytes :=
  Text.utf8 ("\x7b\"reason\": \"" ++ reason ++ "\"\x7d")

def completedDigest : Bytes :=
  digest 0x1fead686749619c94c5039937cb2af76f1d2d77ddc5bc521726e0ffe20d40677

def cancelledDigest : Bytes :=
  digest 0x247fee9e8b98da5f3bb8f7b31c16375442bb5e2e53fa029c8935fbfce4233474

def timeoutDigest : Bytes :=
  digest 0x5da027b78b24179b6e23ad498f06e23047fb2b1edf3bf7b7e061bcb70d894379

def completedLeaf : Bytes :=
  digest 0x50dee66af49143164e902ff9e4f60126c3f72d62b49fcdb3b1788f7bfc61720e

def cancelledLeaf : Bytes :=
  digest 0x5223e7524667a13853c5bc624900b2f8885073ed3f04c3f40793d69c02a0879c

def timeoutLeaf : Bytes :=
  digest 0xc2d15f78c45c27fd522536981ed0553ff82ff560dcff1830cb60eca99a8ed4f9

def closingsLeft : Bytes :=
  digest 0x08e9cbae4dbd0eb0e579e516573a487c24f3c25e2829bcb038ae8c4a2f2ba845

def closingsRight : Bytes :=
  digest 0x70c44577da0dbcc991e1ab4ca1cb2acd865e5de114bdba61cd1bd14ee486a76c

def closingsRoot : Bytes :=
  digest 0x4bb16410c871a95b4c8680cd8e63e0a1665e50d67dd0b3fcdcf117009da8bba9

def closingsTable : List (Bytes × Bytes) :=
  [(closingPayload "completed", completedDigest),
    (closingPayload "cancelled", cancelledDigest),
    (closingPayload "timeout", timeoutDigest),
    (Text.hex completedDigest, completedLeaf),
    (Text.hex cancelledDigest, cancelledLeaf),
    (Text.hex timeoutDigest, timeoutLeaf),
    (completedLeaf ++ cancelledLeaf, closingsLeft),
    (timeoutLeaf ++ timeoutLeaf, closingsRight),
    (closingsLeft ++ closingsRight, closingsRoot)]

def closingSha256 : Bytes → Bytes := tableHash closingsTable

theorem length_closingSha256 (data : Bytes) :
    (closingSha256 data).length = digestLength :=
  length_tableHash (by decide +kernel) data

def closingEvent (sequenceNumber : ℕ) (reason : String) : StoredEvent where
  eventId := BitVec.ofNat 128 sequenceNumber
  sequenceNumber := sequenceNumber
  payloadText := closingPayload reason
  occurredAt := 20000 * day + sequenceNumber

/-- Three sessions end for different reasons. -/
def closings : List StoredEvent :=
  [closingEvent 1 "completed", closingEvent 2 "cancelled",
    closingEvent 3 "timeout"]

/-- Later a fourth session times out. -/
def moreClosings : List StoredEvent :=
  closings ++ [closingEvent 4 "timeout"]

def yesterday : BatchHashRecord where
  batchId := 7
  batchDate := 19999
  batchHash := Text.hex closingsRoot
  recordCount := 3
  sourceDataHash := []
  computedAt := 20000 * day
  previousBatchHash := none

end Samples

/-! ## The stored row of a day -/

/-- No row is stored for the date, so the batch is computed. -/
def Uncomputed (db : Database) (date : ℤ) : Prop :=
  ∀ row ∈ db.batchHashes, row.batchDate ≠ date

theorem uncomputed_iff :
    Uncomputed db date ↔ db.batchHashes.find? (·.batchDate = date) = none := by
  simp [Uncomputed, List.find?_eq_none]

theorem getOrComputeBatchHash_of_uncomputed (sha256 : Bytes → Bytes)
    (hdate : Uncomputed db date) (batchId : Uuid) (computedAt : Timestamp) :
    let computed := (getOrComputeBatchHash sha256 db date batchId computedAt).1
    computed.batchHash =
        Text.hex (rootOf sha256 (leavesOf sha256 (dayEvents sha256 db date))) ∧
      computed.recordCount =
        Int32.ofNat (dayEvents sha256 db date).length := by
  simp only [getOrComputeBatchHash, getOrComputeOn, uncomputed_iff.mp hdate,
    batchRecord, and_self]

/-- The count column tells lists of fewer than `2 ^ 32` events apart. -/
theorem eq_of_recordCount_eq {left right : ℕ} (hleft : left < 2 ^ 32)
    (hright : right < 2 ^ 32) (heq : Int32.ofNat left = Int32.ofNat right) :
    left = right := by
  have hbits : BitVec.ofNat 32 left = BitVec.ofNat 32 right :=
    congrArg Int32.toBitVec heq
  have hvalues := congrArg BitVec.toNat hbits
  rwa [BitVec.toNat_ofNat, BitVec.toNat_ofNat, Nat.mod_eq_of_lt hleft,
    Nat.mod_eq_of_lt hright] at hvalues

/-- Two days computed with the same batch hash and the same record count have
the same record hashes, unless two hashed strings collide. -/
theorem equal_batch_rows_same_records
    (hdigest : ∀ data, (sha256 data).length = digestLength)
    {db otherDb : Database} {date otherDate : ℤ}
    (hdate : Uncomputed db date) (hotherDate : Uncomputed otherDb otherDate)
    (hsize : (dayEvents sha256 db date).length < 2 ^ 32)
    (hotherSize : (dayEvents sha256 otherDb otherDate).length < 2 ^ 32)
    (batchId otherBatchId : Uuid) (computedAt otherComputedAt : Timestamp)
    (hhash : (getOrComputeBatchHash sha256 db date batchId
        computedAt).1.batchHash =
      (getOrComputeBatchHash sha256 otherDb otherDate otherBatchId
        otherComputedAt).1.batchHash)
    (hcount : (getOrComputeBatchHash sha256 db date batchId
        computedAt).1.recordCount =
      (getOrComputeBatchHash sha256 otherDb otherDate otherBatchId
        otherComputedAt).1.recordCount) :
    SameRecords sha256 (dayEvents sha256 db date)
      (dayEvents sha256 otherDb otherDate) := by
  obtain ⟨hrowHash, hrowCount⟩ := getOrComputeBatchHash_of_uncomputed
    sha256 hdate batchId computedAt
  obtain ⟨hotherHash, hotherCount⟩ := getOrComputeBatchHash_of_uncomputed
    sha256 hotherDate otherBatchId otherComputedAt
  rw [hrowHash, hotherHash] at hhash
  rw [hrowCount, hotherCount] at hcount
  exact sameRecords_of_length_eq hdigest
    (eq_of_recordCount_eq hsize hotherSize hcount) (Text.hex_injective hhash)

theorem equal_batch_rows_same_records_closings :
    (getOrComputeBatchHash Samples.closingSha256 ⟨Samples.closings, []⟩ 20000 1
        0).1.batchHash =
      (getOrComputeBatchHash Samples.closingSha256
        ⟨Samples.closings, [Samples.yesterday]⟩ 20000 2 5).1.batchHash ∧
      SameRecords Samples.closingSha256
        (dayEvents Samples.closingSha256 ⟨Samples.closings, []⟩ 20000)
        (dayEvents Samples.closingSha256
          ⟨Samples.closings, [Samples.yesterday]⟩ 20000) := by
  have hempty : Uncomputed ⟨Samples.closings, []⟩ 20000 := by
    simp [Uncomputed]
  have hstored : Uncomputed ⟨Samples.closings, [Samples.yesterday]⟩ 20000 := by
    simp [Uncomputed, Samples.yesterday]
  obtain ⟨hhash, hcount⟩ := getOrComputeBatchHash_of_uncomputed
    Samples.closingSha256 hempty 1 0
  obtain ⟨hotherHash, hotherCount⟩ := getOrComputeBatchHash_of_uncomputed
    Samples.closingSha256 hstored 2 5
  have hlength : (dayEvents Samples.closingSha256 ⟨Samples.closings, []⟩
      20000).length < 2 ^ 32 := by decide +kernel
  exact ⟨hhash.trans hotherHash.symm,
    equal_batch_rows_same_records Samples.length_closingSha256 hempty hstored
      hlength hlength 1 2 0 5 (hhash.trans hotherHash.symm)
      (hcount.trans hotherCount.symm)⟩

namespace Samples

/-- The digest of `timeoutDigest` as hexadecimal text, then at each position
the digest of the one before it joined with itself. -/
def timeoutChain : List ℕ :=
  [0xc2d15f78c45c27fd522536981ed0553ff82ff560dcff1830cb60eca99a8ed4f9,
    0x70c44577da0dbcc991e1ab4ca1cb2acd865e5de114bdba61cd1bd14ee486a76c,
    0x9b51fb78b0ebf4f95112816a54b3887f643190742a17df2fb283f431f3824630,
    0xb0d17af97fcfae668bc276f062c1cdcdf61d2f6d305ab4165759d06a4ae516a0,
    0x60bbcc2fb37370cca48a4f1134f9be78b93abaa23f7c0fa4858ee4abbc6c536e,
    0x4fbc3179a2d6ed7e8861b6aaf2a572e5185ade1c9bbb070b03dc2e4c8b54cd37,
    0xd5585d477f311023347f7a9fb5fca78e1d5e48c8d2e94b1503c4b24a099a69cb,
    0xdd39b4fd1c2edf1f03e2d3b249acee4532d0c529b15ce6435c42b953d5f528c5,
    0x4c0118b6b6c1ac6639c1d67491f558c8e1e81f3ad7fcae6722829f35bb389891,
    0xf08dc3fdbab021cbdb6f9052ed39d4fa1f21a4ecf18b33208cf21370d28fcda8,
    0x930a98cd3a8b5d35558322537038d8a48063ab0b66415b7bda60f1060c4c95d3,
    0x6e8de51bd311574026c59013f7163a7666397d2486368092903dcc22585e6244,
    0x8e00e6bb65ce30a99f67fcc37d69a9933330c3f1f0fa1467c828120590ad4c1b,
    0x8da3e5a4085a6eec476c76b06a244f43b2a1ddee111b8d348bbe42dadde066d2,
    0x26302d65b9df2c489e1b9b250e99b2571a22701707cc68c452f8e9c8d1c27a79,
    0x0f903990e70a665645a38ba3df38b41f2ff4625f242fa0eae77e5eea876327a2,
    0x60ca0573fafa1fda6d68a92f164273bbf726671d478d670346b083495ac68222,
    0xf96bb812e72bbc1478611919ff7d351da78b8e619e9c750c74e03f9938cc0162,
    0x52850ca22fb31baa77a266f33fe716cbeb20f39e8362a40913bdac713cc33a5a,
    0x1f6030ceac700188fc09bb76cec1e00943a746bd506bacfa73bf0972cba332d3,
    0x31282e14cbcc285535e1abbd92ca66d2e2520a0bed3e67c2525cab8af980b354,
    0xa415ec309bd410ca038f5d3160579508809bbe45640bddd67bf587c3241522e4,
    0x3426fbb09dbbb68f14dcb51b0cf2f4356588079757996d2665c8a1115fda75c1,
    0x05225ae867cd1363da3b4e0b33ef4857dedb22201f894ca5c10f3171ad54f877,
    0x258eeb6881e8b6e505175afe5089dc7667780c67e8ae6f32d1cbe16a4b935150,
    0x73773b74595731ad4b207e1e7ac23f9b9801d482206db5a1e444d71a9020bab8,
    0x079276df72936c67f10c185c31d2ed7ea1eaa8366b34f2d171b8e7fa7d86d8b5,
    0xddcb325bdd443907ca3687234ae4849379d83ff8ddd60265ad5b7858973a4abc,
    0xaae743420b1504fcc011df0642e291cdb11d53d8f1d44548d5d6f9f50f9ce52f,
    0xd71c455d43c5210f453a751c54b005518d2b38a890069c1334cbd75632f6201f,
    0x65a4b6a8a23df6e2b99775cbeb9b37aeda30521c12c87b893bfeda8ed8443534,
    0x2df2b03773a38e47be425027d31a074f089ff46fb8f1e0b3ee10933a0f0f6a10,
    0x14267e3627d825eb9d6544d5871591e1fb84802c0b6ce8a2298b30eafba680fb,
    0xf9e8e385ba0c629f24d80278982fb3666c19e802320aaf35f4fc8d9d6b91a5e4,
    0x868424d3248e9ad97b78f55f88f2e6cf55b1b22abb46a5c78660620e118041fd]

def chainDigest (k : ℕ) : Bytes := digest (timeoutChain.getD k 0)

def chainTable : List (Bytes × Bytes) :=
  (closingPayload "timeout", timeoutDigest) ::
    (Text.hex timeoutDigest, chainDigest 0) ::
    (List.range 34).map fun k =>
      (chainDigest k ++ chainDigest k, chainDigest (k + 1))

theorem tableHash_chainDigest {k : ℕ} (hk : k < 34) :
    tableHash chainTable (chainDigest k ++ chainDigest k) =
      chainDigest (k + 1) := by
  have hchain : ∀ k < 34, tableHash chainTable
      (chainDigest k ++ chainDigest k) = chainDigest (k + 1) := by
    decide +kernel
  exact hchain k hk

theorem doubled_iterate_chainDigest {k : ℕ} (hk : k ≤ 34) :
    (doubled (node (tableHash chainTable)))^[k] (chainDigest 0) =
      chainDigest k := by
  induction k with
  | zero => rfl
  | succ k ih =>
      rw [Function.iterate_succ_apply', ih (by omega)]
      exact tableHash_chainDigest (by omega)

/-- `count` timed-out sessions on one day. -/
def busyDay (count : ℕ) : Database where
  eventStore := (List.range count).map fun (i : ℕ) =>
    { eventId := BitVec.ofNat 128 i
      sequenceNumber := (i : ℤ) + 1
      payloadText := closingPayload "timeout"
      occurredAt := 20000 * day + (i : ℤ) }
  batchHashes := []

theorem dayEvents_busyDay (sha256 : Bytes → Bytes) {count : ℕ}
    (hcount : (count : ℤ) ≤ day) :
    (dayEvents sha256 (busyDay count) 20000).map EventRecord.recordHash =
      List.replicate count (Text.hex (sha256 (closingPayload "timeout"))) := by
  have hall : (busyDay count).eventStore.filter (fun row =>
      20000 * day ≤ row.occurredAt ∧ row.occurredAt < 20000 * day + day) =
        (busyDay count).eventStore := by
    apply List.filter_eq_self.mpr
    intro row hrow
    obtain ⟨i, hi, rfl⟩ := List.mem_map.mp hrow
    have hbound : (i : ℤ) < day :=
      (Int.ofNat_lt.mpr (List.mem_range.mp hi)).trans_le hcount
    have hnonneg : (0 : ℤ) ≤ i := Int.natCast_nonneg i
    apply decide_eq_true
    constructor
    · exact le_add_of_nonneg_right hnonneg
    · exact add_lt_add_right hbound _
  have hsorted : (busyDay count).eventStore.Pairwise
      fun first second => first.sequenceNumber ≤ second.sequenceNumber := by
    apply List.pairwise_map.mpr
    apply List.pairwise_lt_range.imp
    intro i j hij
    dsimp only
    omega
  rw [dayEvents, fetchEventsForRange, hall, hsorted.insertionSort_eq,
    List.map_map]
  simp [busyDay, StoredEvent.record, Function.comp_def]

/-- Days of more than `2 ^ 33` and at most `2 ^ 34` timeouts hash the inputs
of the table. -/
theorem mem_chainTable_of_mem_hashInputs {events : List EventRecord}
    {count : ℕ} (hcount : 0 < count) (hheight : height count = 34)
    (hevents : events.map EventRecord.recordHash =
      List.replicate count (Text.hex timeoutDigest))
    {input : Bytes}
    (hinput : input ∈ hashInputs (tableHash chainTable) events) :
    input ∈ chainTable.map Prod.fst := by
  have hleaf : tableHash chainTable (Text.hex timeoutDigest) =
      chainDigest 0 := by decide +kernel
  rcases mem_hashInputs_of_repeated hcount hevents _ hinput with
    rfl | ⟨k, hk, rfl⟩
  · exact List.mem_cons_of_mem _ List.mem_cons_self
  · rw [hheight] at hk
    rw [hleaf, doubled_iterate_chainDigest (by omega)]
    apply List.mem_cons_of_mem
    apply List.mem_cons_of_mem
    rw [List.map_map]
    exact List.mem_map.mpr ⟨k, List.mem_range.mpr hk, rfl⟩

theorem height_eq_of_bounds {count levels : ℕ} (hlow : 2 ^ levels < count)
    (hhigh : count ≤ 2 ^ (levels + 1)) : height count = levels + 1 := by
  apply le_antisymm
  · exact Nat.clog_le_of_le_pow hhigh
  · exact (Nat.lt_clog_iff_pow_lt one_lt_two).mpr hlow

end Samples

/-- With more than `2 ^ 32` events the count column wraps around, and two days
of different length have one batch hash and one record count. -/
theorem wrapped_count_shared :
    let sha256 := tableHash Samples.chainTable
    let day := Samples.busyDay (2 ^ 33 + 1)
    let longer := Samples.busyDay (2 ^ 33 + 2 ^ 32 + 1)
    Uncomputed day 20000 ∧ Uncomputed longer 20000 ∧
      (getOrComputeBatchHash sha256 day 20000 1 0).1.batchHash =
          (getOrComputeBatchHash sha256 longer 20000 1 0).1.batchHash ∧
        (getOrComputeBatchHash sha256 day 20000 1 0).1.recordCount =
          (getOrComputeBatchHash sha256 longer 20000 1 0).1.recordCount ∧
          ¬ SameRecords sha256 (dayEvents sha256 day 20000)
            (dayEvents sha256 longer 20000) := by
  intro sha256 day longer
  have hday : Uncomputed day 20000 := by simp [Uncomputed, day, Samples.busyDay]
  have hlonger : Uncomputed longer 20000 := by
    simp [Uncomputed, longer, Samples.busyDay]
  have hdayHashes : (dayEvents sha256 day 20000).map EventRecord.recordHash =
      List.replicate (2 ^ 33 + 1) (Text.hex Samples.timeoutDigest) :=
    Samples.dayEvents_busyDay sha256 (by decide)
  have hlongerHashes :
      (dayEvents sha256 longer 20000).map EventRecord.recordHash =
        List.replicate (2 ^ 33 + 2 ^ 32 + 1) (Text.hex Samples.timeoutDigest) :=
    Samples.dayEvents_busyDay sha256 (by decide)
  have hheight : height (2 ^ 33 + 1) = 34 :=
    Samples.height_eq_of_bounds (by norm_num) (by norm_num)
  have hlongerHeight : height (2 ^ 33 + 2 ^ 32 + 1) = 34 :=
    Samples.height_eq_of_bounds (by norm_num) (by norm_num)
  obtain ⟨hhash, hcount⟩ :=
    getOrComputeBatchHash_of_uncomputed sha256 hday 1 0
  obtain ⟨hlongerHash, hlongerCount⟩ :=
    getOrComputeBatchHash_of_uncomputed sha256 hlonger 1 0
  have hlength := congrArg List.length hdayHashes
  have hlongerLength := congrArg List.length hlongerHashes
  rw [List.length_map, List.length_replicate] at hlength hlongerLength
  refine ⟨hday, hlonger, ?_, ?_, ?_⟩
  · rw [hhash, hlongerHash, rootOf_of_repeated (by norm_num) hdayHashes,
      rootOf_of_repeated (by norm_num) hlongerHashes, hheight,
      hlongerHeight]
  · rw [hcount, hlongerCount, hlength, hlongerLength]
    rfl
  · rintro (hsame | hcollision)
    · have hlengths := congrArg List.length hsame
      rw [List.length_map, List.length_map, hlength, hlongerLength] at hlengths
      omega
    · refine Samples.not_hashCollision_tableHash (by decide +kernel) ?_
        hcollision
      intro input hinput
      rcases List.mem_append.mp hinput with hhere | hthere
      · exact Samples.mem_chainTable_of_mem_hashInputs (by norm_num) hheight
          hdayHashes hhere
      · exact Samples.mem_chainTable_of_mem_hashInputs (by norm_num)
          hlongerHeight hlongerHashes hthere

/-! ## Verification of a sequence range -/

theorem verifyBatchIntegrity_root {startEventId endEventId : ℤ}
    (hrange : startEventId ≤ endEventId) (eventStore : List StoredEvent)
    (now : Timestamp) (expected : Bytes) :
    ∃ result,
      verifyBatchIntegrity sha256 eventStore now startEventId endEventId
          (some (Text.hex expected)) = .ok result ∧
        (result.valid = true ↔ expected = rootOf sha256 (leavesOf sha256
          (rangeEvents sha256 eventStore now startEventId endEventId))) := by
  rw [verifyBatchIntegrity, if_neg (by omega)]
  refine ⟨_, rfl, ?_⟩
  simp only [Option.map_some, Option.getD_some, decide_eq_true_eq,
    Text.map_lower_hex]
  exact Text.hex_injective.eq_iff

/-- Given the root of the events stored before, verification accepts the
events stored after only if they have the same record hashes, up to
collisions. -/
def DetectsChange (sha256 : Bytes → Bytes) (before after : List StoredEvent)
    (computedAt verifiedAt : Timestamp) (startEventId endEventId : ℤ) : Prop :=
  ∀ result,
    verifyBatchIntegrity sha256 after verifiedAt startEventId endEventId
        (some (Text.hex (rootOf sha256 (leavesOf sha256
          (rangeEvents sha256 before computedAt startEventId endEventId))))) =
      .ok result →
    result.valid = true →
      SameRecords sha256
        (rangeEvents sha256 before computedAt startEventId endEventId)
        (rangeEvents sha256 after verifiedAt startEventId endEventId)

/-- Verification misses a change exactly if the strings hashed for the two
lists are aligned. -/
theorem verification_detects_change_iff
    (hdigest : ∀ data, (sha256 data).length = digestLength)
    (before after : List StoredEvent) (computedAt verifiedAt : Timestamp)
    (startEventId endEventId : ℤ) :
    DetectsChange sha256 before after computedAt verifiedAt startEventId
        endEventId ↔
      endEventId < startEventId ∨
        ¬ Aligned sha256
          (leafStrings
            (rangeEvents sha256 before computedAt startEventId endEventId))
          (leafStrings
            (rangeEvents sha256 after verifiedAt startEventId endEventId)) ∨
          SameRecords sha256
            (rangeEvents sha256 before computedAt startEventId endEventId)
            (rangeEvents sha256 after verifiedAt startEventId endEventId) := by
  constructor
  · intro hdetects
    by_cases hrange : endEventId < startEventId
    · exact Or.inl hrange
    · refine Or.inr (Classical.or_iff_not_imp_left.mpr fun hnot => ?_)
      obtain ⟨result, hresult, hvalid⟩ := verifyBatchIntegrity_root
        (not_lt.mp hrange) after verifiedAt _
      apply hdetects result hresult
      rw [hvalid, rootOf_eq_iff]
      exact root_eq_of_aligned (not_not.mp hnot)
  · intro hcondition result hresult hvalid
    rcases hcondition with hempty | hunaligned | hsame
    · rw [verifyBatchIntegrity, if_pos hempty] at hresult
      cases hresult
    · have hrange : startEventId ≤ endEventId := by
        by_contra hempty
        rw [verifyBatchIntegrity, if_pos (by omega)] at hresult
        cases hresult
      obtain ⟨verified, hverified, hiff⟩ :=
        verifyBatchIntegrity_root hrange after verifiedAt _
      obtain rfl := Except.ok.inj (hresult.symm.trans hverified)
      have hroot := (rootOf_eq_iff _ _).mp (hiff.mp hvalid)
      rcases aligned_or_hashCollision hdigest (leafStrings_ne_nil _)
        (leafStrings_ne_nil _) hroot with haligned | hcollision
      · exact absurd haligned hunaligned
      · rw [← hashInputs_eq, ← hashInputs_eq] at hcollision
        exact Or.inr hcollision
    · exact hsame

theorem verification_detects_change_iff_closings :
    (∀ data, (Samples.closingSha256 data).length = digestLength) ∧
      (DetectsChange Samples.closingSha256 Samples.closings
          Samples.moreClosings (20001 * day) (20002 * day) 1 3 ↔
        (3 : ℤ) < 1 ∨
          ¬ Aligned Samples.closingSha256
            (leafStrings (rangeEvents Samples.closingSha256 Samples.closings
              (20001 * day) 1 3))
            (leafStrings (rangeEvents Samples.closingSha256
              Samples.moreClosings (20002 * day) 1 3)) ∨
            SameRecords Samples.closingSha256
              (rangeEvents Samples.closingSha256 Samples.closings
                (20001 * day) 1 3)
              (rangeEvents Samples.closingSha256 Samples.moreClosings
                (20002 * day) 1 3)) :=
  ⟨Samples.length_closingSha256,
    verification_detects_change_iff Samples.length_closingSha256 _ _ _ _ 1 3⟩

namespace Samples

variable {Node : Type}

theorem padded_three_eq_four (first second third : Node) :
    padded [first, second, third] = padded [first, second, third, third] := by
  simp [padded_of_many, padded_of_few, pairs]

theorem combinedPairs_three_eq_four (combine : Node → Node → Node)
    (first second third : Node) :
    combinedPairs combine [first, second, third] =
      combinedPairs combine [first, second, third, third] := by
  simp [combinedPairs_of_many, parents, pairs]

theorem combinedPairs_four (combine : Node → Node → Node)
    (first second third fourth : Node) :
    combinedPairs combine [first, second, third, fourth] =
      [(first, second), (third, fourth),
        (combine first second, combine third fourth)] := by
  rw [combinedPairs_of_many _ (by simp), parents, pairs, pairs]
  simp [combinedPairs_of_many, combinedPairs_of_few, parents, pairs]

end Samples

/-- A fourth event that repeats the third one's payload is not detected. -/
theorem repeated_tail_undetected :
    ¬ DetectsChange Samples.closingSha256 Samples.closings
      Samples.moreClosings (20001 * day) (20002 * day) 1 10 := by
  let before := rangeEvents Samples.closingSha256 Samples.closings
    (20001 * day) 1 10
  let after := rangeEvents Samples.closingSha256 Samples.moreClosings
    (20002 * day) 1 10
  have hbefore : leafStrings before =
      [Text.hex Samples.completedDigest, Text.hex Samples.cancelledDigest,
        Text.hex Samples.timeoutDigest] := by decide +kernel
  have hafter : leafStrings after =
      [Text.hex Samples.completedDigest, Text.hex Samples.cancelledDigest,
        Text.hex Samples.timeoutDigest, Text.hex Samples.timeoutDigest] := by
    decide +kernel
  have haligned : Aligned Samples.closingSha256 (leafStrings before)
      (leafStrings after) := by
    have hheights : height 3 = height 4 := by decide +kernel
    rw [Aligned, hbefore, hafter]
    simp only [List.length_cons, List.length_nil, Nat.reduceAdd, hheights,
      Nat.sub_self, stringsAt]
    exact Samples.padded_three_eq_four _ _ _
  intro hdetects
  obtain ⟨result, hresult, hvalid⟩ :=
    verifyBatchIntegrity_root (show (1 : ℤ) ≤ 10 by norm_num)
      Samples.moreClosings (20002 * day) _
  have hsame := hdetects result hresult
    (hvalid.mpr ((rootOf_eq_iff before after).mpr (root_eq_of_aligned haligned)))
  rcases hsame with hhashes | hcollision
  · exact absurd hhashes (by decide +kernel)
  · refine Samples.not_hashCollision_tableHash (by decide +kernel) ?_
      hcollision
    rw [hashInputs_eq, hashInputs_eq, stringInputs, stringInputs]
    change ∀ input ∈ (leafStrings before ++ (combinedPairs _
      ((leafStrings before).map _)).map joined) ++ (leafStrings after ++
        (combinedPairs _ ((leafStrings after).map _)).map joined), _
    rw [hbefore, hafter]
    simp only [List.map_cons, List.map_nil,
      Samples.combinedPairs_three_eq_four, Samples.combinedPairs_four]
    decide +kernel

end Binding

end UssdKernel.Batches
