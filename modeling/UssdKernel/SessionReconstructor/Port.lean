import UssdKernel.SessionReconstructor.Cache
import UssdKernel.SessionReconstructor.MerkleProofs

/-!
# The reconstructor's gRPC port

`ReconstructSession` can attach a Merkle proof to its answer.  The version in
that proof comes from the answer, which may be cached or cut at `max_events`;
the leaf and the root come from a second read of all stored hashes; the sibling
list is left empty.  Texts of hashes are kept as their bytes, and a panic is
`none`.
-/

namespace UssdKernel.SessionReconstructor

open UssdKernel.Merkle (node)
open UssdKernel.PairLevels (combinedPairs root)

structure ReconstructSessionRequest where
  sessionId : String
  tenantId : String
  maxEvents : ℤ
  includeMerkleProof : Bool

structure IntegrityProof where
  sessionId : String
  eventVersion : ℤ
  eventHash : Bytes
  siblingHashes : List Bytes
  merkleRoot : Bytes
  proofGeneratedAt : Time
  signature : String
  deriving DecidableEq

/-- The fields of the response that copy the handler's result are that result. -/
structure ReconstructSessionResponse where
  result : ReconstructSessionResult
  merkleProof : Option IntegrityProof
  deriving DecidableEq

inductive RequestError
  /-- `invalid uuid: {}` -/
  | invalidUuid (text : String)
  | domain (error : DomainError)
  deriving DecidableEq

/-- What a request meets: an error of the replay's read, the events stored
before the hashes are read, an error of that read, and the time of the proof. -/
structure Reads (Value : Type) where
  failure : Option String
  appended : List (DbEvent Value)
  hashesFailure : Option String
  generatedAt : Time

section Port

variable {Value : Type}

/-- The limit is `i32::MAX`. -/
def fetchEventHashes (failure : Option String) (stored : List (DbEvent Value))
    (sessionId : Uuid) : Except DomainError (List Bytes) :=
  match fetchEvents failure stored sessionId 2147483647 with
  | .error message => .error (.internal message)
  | .ok events =>
      if events.isEmpty then .error .sessionNotFound
      else .ok (events.map DbEvent.recordHash)

variable (sha256 : Bytes → Bytes) (parseUuid : String → Option Uuid)

/-- The proof that is attached to an answer.  Its siblings are not filled in. -/
def lastEventProof (sessionId : Uuid) (currentVersion : ℤ) (hashes : List Bytes)
    (merkleRoot : Bytes) (generatedAt : Time) : IntegrityProof where
  sessionId := Text.uuid sessionId
  eventVersion := currentVersion
  eventHash := hashes.getLast?.getD []
  siblingHashes := []
  merkleRoot := merkleRoot
  proofGeneratedAt := generatedAt
  signature := ""

/-- The part of `reconstruct_session` under `include_merkle_proof`. -/
def attachedProof (reads : Reads Value) (stored : List (DbEvent Value))
    (sessionId : Uuid) (currentVersion : ℤ) : Option (Option IntegrityProof) :=
  match fetchEventHashes reads.hashesFailure stored sessionId with
  | .error _ => some none
  | .ok hashes =>
      if hashes.isEmpty then some none
      else do
        let proof ← computeMerkleProof sha256 hashes (hashes.length - 1)
        some (some (lastEventProof sessionId currentVersion hashes proof.1
          reads.generatedAt))

/-- The answer to a request, and what the cache and the store are left as. -/
def SessionGrpcServer.reconstructSession
    (textField : Value → String → Option String) (reads : Reads Value)
    (service : Service Value) (request : ReconstructSessionRequest) :
    Option (Except RequestError ReconstructSessionResponse) × Service Value :=
  match parseUuid request.sessionId, parseUuid request.tenantId with
  | none, _ => (some (.error (.invalidUuid request.sessionId)), service)
  | some _, none => (some (.error (.invalidUuid request.tenantId)), service)
  | some sessionId, some tenantId =>
      let maxEvents := if 0 < request.maxEvents then request.maxEvents else 1000
      let (answer, replayed) := SessionReconstructor.reconstructSession textField
        reads.failure service sessionId tenantId maxEvents
      let after :=
        { replayed with stored := replayed.stored ++ reads.appended }
      match answer with
      | .error error => (some (.error (.domain error)), after)
      | .ok result =>
          let attached :=
            if request.includeMerkleProof then
              attachedProof sha256 reads after.stored sessionId
                result.currentVersion
            else some none
          (attached.map fun merkleProof => .ok { result, merkleProof }, after)

/-- Folding the siblings from the event's hash at the index given by its version
yields the root. -/
def IntegrityProof.Verifies (proof : IntegrityProof) : Prop :=
  Merkle.verifyMerkleProof sha256 (decode proof.eventHash)
    (proof.eventVersion - 1).toNat (proof.siblingHashes.map decode)
      (decode proof.merkleRoot) = true

/-! ## Which proofs verify -/

variable {sha256 parseUuid} {failure : Option String}
  {stored : List (DbEvent Value)} {sessionId : Uuid} {hashes : List Bytes}
  {reads : Reads Value}

theorem fetchEventHashes_ne_nil
    (hfetch : fetchEventHashes failure stored sessionId = .ok hashes) :
    hashes ≠ [] := by
  unfold fetchEventHashes at hfetch
  split at hfetch
  · cases hfetch
  · next events hevents =>
    split at hfetch
    · cases hfetch
    · next hsome =>
      cases hfetch
      intro hempty
      apply hsome
      rw [List.map_eq_nil_iff.mp hempty]
      rfl

/-- The attached proof holds the root of the hashes that are read. -/
theorem attachedProof_eq_some_iff {currentVersion : ℤ} {proof : IntegrityProof}
    :
    attachedProof sha256 reads stored sessionId currentVersion =
        some (some proof) ↔
      ∃ hashes top,
        fetchEventHashes reads.hashesFailure stored sessionId = .ok hashes ∧
          root (node sha256) (hashes.map decode) = some top ∧
            lastEventProof sessionId currentVersion hashes (Text.hex top)
              reads.generatedAt = proof := by
  cases hfetch : fetchEventHashes reads.hashesFailure stored sessionId with
  | error error => simp [attachedProof, hfetch]
  | ok hashes =>
      have hsome := fetchEventHashes_ne_nil hfetch
      have hpositive := List.length_pos_iff.mpr hsome
      have hindex : hashes.length - 1 < (hashes.map decode).length := by
        rw [List.length_map]
        omega
      obtain ⟨path, hpath⟩ := PairLevels.exists_siblings (node sha256) hindex
      have hroot := PairLevels.root_eq_climb (node sha256)
        (List.getElem?_eq_getElem hindex) hpath
      simp [attachedProof, hfetch, hsome, hroot,
        computeMerkleProof_eq sha256 (by omega) hroot hpath]

/-- Without siblings the leaf itself is compared with the root. -/
theorem lastEventProof_verifies_iff {top : Bytes}
    (hroot : root (node sha256) (hashes.map decode) = some top)
    (hsome : hashes ≠ []) (sessionId : Uuid) (currentVersion : ℤ)
    (generatedAt : Time) :
    (lastEventProof sessionId currentVersion hashes (Text.hex top)
        generatedAt).Verifies sha256 ↔
      root (node sha256) (hashes.map decode) =
        (hashes.map decode).getLast? := by
  rw [IntegrityProof.Verifies, Merkle.verifyMerkleProof_eq_true_iff, hroot,
    List.getLast?_map, List.getLast?_eq_some_getLast hsome, Option.map_some,
    Option.some_inj]
  change decode (hashes.getLast?.getD []) = decode (Text.hex top) ↔ _
  rw [decode_hex, List.getLast?_eq_some_getLast hsome, Option.getD_some]
  exact eq_comm

/-- The last hash is itself the digest of the two nodes below the root, which are
made from it. -/
def LastIsDigest (sha256 : Bytes → Bytes) (hashes : List Bytes) : Prop :=
  ∃ pair ∈ (combinedPairs (node sha256) (hashes.map decode)).getLast?,
    (hashes.map decode).getLast? = some (sha256 (pair.1 ++ pair.2))

/-- A single hash is the root; of two or more the root is a new digest. -/
theorem root_eq_getLast?_iff (hsome : hashes ≠ []) :
    root (node sha256) (hashes.map decode) = (hashes.map decode).getLast? ↔
      hashes.length = 1 ∨ LastIsDigest sha256 hashes := by
  have hpositive := List.length_pos_iff.mpr hsome
  by_cases hmany : 1 < (hashes.map decode).length
  · have hlength : hashes.length ≠ 1 := by
      rw [List.length_map] at hmany
      omega
    rw [or_iff_right hlength, LastIsDigest,
      PairLevels.root_eq_combinedPairs (node sha256) hmany]
    cases (combinedPairs (node sha256) (hashes.map decode)).getLast? with
    | none => simpa using hsome
    | some pair => simp [eq_comm, node]
  · have hsingle : hashes.length = 1 := by
      rw [List.length_map] at hmany
      omega
    obtain ⟨hash, rfl⟩ := List.length_eq_one_iff.mp hsingle
    exact iff_of_true (PairLevels.root_of_few (node sha256) hmany)
      (Or.inl hsingle)

variable {textField : Value → String → Option String}

theorem stored_reconstructSession (failure : Option String)
    (service : Service Value) (sessionId tenantId : Uuid) (maxEvents : ℤ) :
    (reconstructSession textField failure service sessionId tenantId
      maxEvents).2.stored = service.stored := by
  unfold reconstructSession
  split
  · rfl
  · split <;> rfl

/-- Where the parts of an answer come from. -/
theorem reconstructSession_eq_ok_iff {service : Service Value}
    {request : ReconstructSessionRequest}
    {response : ReconstructSessionResponse} :
    (SessionGrpcServer.reconstructSession sha256 parseUuid textField reads
        service request).1 = some (.ok response) ↔
      ∃ sessionId tenantId result proof,
        parseUuid request.sessionId = some sessionId ∧
          parseUuid request.tenantId = some tenantId ∧
            (reconstructSession textField reads.failure service sessionId
              tenantId (if 0 < request.maxEvents then request.maxEvents
                else 1000)).1 = .ok result ∧
              (if request.includeMerkleProof then
                attachedProof sha256 reads (service.stored ++ reads.appended)
                  sessionId result.currentVersion
                else some none) = some proof ∧
                response = ⟨result, proof⟩ := by
  unfold SessionGrpcServer.reconstructSession
  cases parseUuid request.sessionId with
  | none => simp
  | some sessionId =>
      cases parseUuid request.tenantId with
      | none => simp
      | some tenantId =>
          simp only [stored_reconstructSession]
          cases hanswer : (reconstructSession textField reads.failure service
            sessionId tenantId (if 0 < request.maxEvents then request.maxEvents
              else 1000)).1 with
          | error error => simp [hanswer]
          | ok result =>
              rw [Option.map_eq_some_iff]
              constructor
              · rintro ⟨proof, hproof, ⟨⟩⟩
                exact ⟨sessionId, tenantId, result, proof, rfl, rfl, hanswer,
                  hproof, rfl⟩
              · rintro ⟨_, _, _, proof, ⟨⟩, ⟨⟩, hother, hproof, rfl⟩
                cases hanswer.symm.trans hother
                exact ⟨proof, hproof, rfl⟩

/-- A replay that succeeds has reached a version of at least one. -/
theorem one_le_currentVersion {maxEvents : ℤ}
    {result : ReconstructSessionResult}
    (hreplay : replay textField failure stored sessionId maxEvents =
      .ok result) : 1 ≤ result.currentVersion := by
  obtain ⟨-, events, hsome, -, -, hcount, -⟩ := exists_of_replay_eq_ok hreplay
  have hnumber : (result.eventCount : ℤ) = result.currentVersion :=
    congrArg ReconstructSessionResult.currentVersion
      (result_cached_of_replay hreplay)
  have hpositive := List.length_pos_iff.mpr hsome
  omega

/-- After any history of calls, appended events, invalidations and waits, the
attached proof has an index and no siblings, and it verifies exactly if there is
one stored hash, or if the last of several happens to be the digest of the nodes
below the root. -/
theorem attached_proof_verifies_iff {initial : Service Value}
    (hempty : initial.cache = .empty) (history : List (Step Value))
    (reads : Reads Value) (request : ReconstructSessionRequest)
    {response : ReconstructSessionResponse} {proof : IntegrityProof}
    (hresponse : (SessionGrpcServer.reconstructSession sha256 parseUuid
      textField reads (run textField initial history) request).1 =
        some (.ok response))
    (hproof : response.merkleProof = some proof) :
    ∃ sessionId hashes, parseUuid request.sessionId = some sessionId ∧
      fetchEventHashes reads.hashesFailure
          ((run textField initial history).stored ++ reads.appended)
          sessionId = .ok hashes ∧
        1 ≤ proof.eventVersion ∧ proof.siblingHashes = [] ∧
          (proof.Verifies sha256 ↔
            hashes.length = 1 ∨ LastIsDigest sha256 hashes) := by
  obtain ⟨sessionId, tenantId, result, attached, hparse, -, hresult, hattached,
    rfl⟩ := reconstructSession_eq_ok_iff.mp hresponse
  obtain rfl : attached = some proof := hproof
  split at hattached
  · obtain ⟨hashes, top, hread, hroot, rfl⟩ :=
      attachedProof_eq_some_iff.mp hattached
    obtain ⟨earlier, -, replayed, -, hreplay, -⟩ :=
      answer_of_recent_call hempty history hresult
    rw [uncached_eq_replay] at hreplay
    have hsome := fetchEventHashes_ne_nil hread
    refine ⟨sessionId, hashes, hparse, hread, one_le_currentVersion hreplay, rfl,
      ?_⟩
    rw [lastEventProof_verifies_iff hroot hsome, root_eq_getLast?_iff hsome]
  · cases hattached

end Port

namespace Samples

/-- `Uuid::parse_str` on the ids of the requests. -/
def parseUuid (text : String) : Option Uuid :=
  if text = "00000000-0000-0000-0000-000000000009" then some 9
  else if text = "00000000-0000-0000-0000-000000000005" then some 5
  else none

def proofRequest : ReconstructSessionRequest where
  sessionId := "00000000-0000-0000-0000-000000000009"
  tenantId := "00000000-0000-0000-0000-000000000005"
  maxEvents := 0
  includeMerkleProof := true

/-- Both reads succeed, and nothing is stored between them. -/
def quietReads : Reads String where
  failure := none
  appended := []
  hashesFailure := none
  generatedAt := midnight + 2000000000

/-- The real digest above the hashes of the two events. -/
def nodeSha256 : Bytes → Bytes :=
  HashTables.tableHash
    [(decode createdHash ++ decode endedHash,
      HashTables.digest
        0x3bdb48f660fb4dca6a7db764b5a1a6520a5bb2a4a0a0322f1ecc539c3a0c607a)]

/-- The answer to the request after a history, with its proof. -/
def provenAnswer (history : List (Step String)) :
    Option (Except RequestError ReconstructSessionResponse) :=
  (SessionGrpcServer.reconstructSession nodeSha256 parseUuid payloadField
    quietReads (run payloadField idle history) proofRequest).1

theorem provenAnswer_of_hashes (history : List (Step String))
    {result : ReconstructSessionResult} {hashes : List Bytes} {top : Bytes}
    (hresult : (reconstructSession payloadField none
      (run payloadField idle history) 9 5 1000).1 = .ok result)
    (hfetch : fetchEventHashes none
      ((run payloadField idle history).stored ++ []) 9 = .ok hashes)
    (hroot : root (node nodeSha256) (hashes.map decode) = some top) :
    provenAnswer history = some (.ok ⟨result, some (lastEventProof 9
      result.currentVersion hashes (Text.hex top) quietReads.generatedAt)⟩) := by
  apply reconstructSession_eq_ok_iff.mpr
  refine ⟨9, 5, result, _, by decide, by decide, hresult, ?_, rfl⟩
  exact attachedProof_eq_some_iff.mpr ⟨hashes, top, hfetch, hroot, rfl⟩

/-- Session 9 is created. -/
def opened : List (Step String) := [.append (created none)]

/-- Session 9 is created and ended. -/
def closed : List (Step String) := [.append (created none), .append (ended 2)]

/-- The session after its end. -/
def finished : ReconstructSessionResult where
  sessionId := 9
  state := [("end_reason", "timeout"), ("status", "ended"),
    ("phone_number", "+263771234567")]
  eventCount := 2
  integrityHash := endedHash
  lastActivity := some (midnight + 1000000000)
  currentVersion := 2

end Samples

/-- The proof for a session of one event verifies. -/
theorem attached_proof_verifies_single :
    ∃ response proof, Samples.provenAnswer Samples.opened = some (.ok response) ∧
      response.merkleProof = some proof ∧
        proof.Verifies Samples.nodeSha256 := by
  have hfetch : fetchEventHashes none
      ((run Samples.payloadField Samples.idle Samples.opened).stored ++ []) 9 =
        .ok [Samples.createdHash] := by decide +kernel
  have hresponse := Samples.provenAnswer_of_hashes Samples.opened
    (show _ = Except.ok Samples.active by decide +kernel) hfetch
    (PairLevels.root_of_few _ (Nat.lt_irrefl 1))
  obtain ⟨sessionId, hashes, hparse, hread, -, -, hverifies⟩ :=
    attached_proof_verifies_iff rfl Samples.opened Samples.quietReads
      Samples.proofRequest hresponse rfl
  have hid : Samples.parseUuid Samples.proofRequest.sessionId = some 9 := by
    decide
  obtain rfl : 9 = sessionId := Option.some.inj (hid.symm.trans hparse)
  obtain rfl : [Samples.createdHash] = hashes :=
    Except.ok.inj (hfetch.symm.trans hread)
  exact ⟨_, _, hresponse, rfl, hverifies.mpr (Or.inl rfl)⟩

/-- The proof for a session of two events, with their real digests, does not
verify. -/
theorem attached_proof_fails_for_two_events :
    ∃ response proof, Samples.provenAnswer Samples.closed = some (.ok response) ∧
      response.merkleProof = some proof ∧
        ¬ proof.Verifies Samples.nodeSha256 := by
  have hroot : root (node Samples.nodeSha256)
      ([Samples.createdHash, Samples.endedHash].map decode) =
        some (HashTables.digest
          0x3bdb48f660fb4dca6a7db764b5a1a6520a5bb2a4a0a0322f1ecc539c3a0c607a) := by
    rw [PairLevels.root_of_many _ (by decide +kernel),
      PairLevels.root_of_few _ (by decide +kernel)]
    decide +kernel
  have hresponse := Samples.provenAnswer_of_hashes Samples.closed
    (show _ = Except.ok Samples.finished by decide +kernel)
    (show _ = Except.ok [Samples.createdHash, Samples.endedHash] by
      decide +kernel) hroot
  refine ⟨_, _, hresponse, rfl, ?_⟩
  rw [lastEventProof_verifies_iff hroot (List.cons_ne_nil _ _), hroot]
  decide +kernel

end UssdKernel.SessionReconstructor
