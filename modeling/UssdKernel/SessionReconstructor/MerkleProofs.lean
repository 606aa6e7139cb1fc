import UssdKernel.Audit.MerkleProofs
import UssdKernel.Core.Padding
import UssdKernel.Core.Text

/-!
# The reconstructor's Merkle proofs

`compute_merkle_proof` keeps one level at a time.  A level of odd length is
extended by its last node before neighbours are hashed, and the siblings are
collected on the way up, as hexadecimal text.  An access outside the level is
`none`.  The loop climbs the pairing levels that the audit service stores in
its flat array, so that both services give one root and one sibling list.
-/

namespace UssdKernel.SessionReconstructor

open UssdKernel.Merkle (node stepByTwo)
open UssdKernel.PairLevels
open UssdKernel.Text (hex unhex)

/-- `hex::decode(h).unwrap_or_default()`. -/
def decode (text : Bytes) : Bytes :=
  (unhex text).getD []

theorem decode_hex (data : Bytes) : decode (hex data) = data := by
  rw [decode, Text.unhex_hex, Option.getD_some]

section Proof

variable (sha256 : Bytes → Bytes) {level : List Bytes} {index : ℕ}

/-- The digest of iteration `i` of the inner loop. -/
def digestAt (current : List Bytes) (i : ℕ) : Option Bytes := do
  let left ← current[i]?
  let right ← current[i + 1]?
  some (sha256 (left ++ right))

/-- The inner loop of `compute_merkle_proof`. -/
def nextLevel (current : List Bytes) : Option (List Bytes) :=
  (stepByTwo current.length).mapM (digestAt sha256 current)

/-- The `while current.len() > 1` loop. -/
def climbLoop (current : List Bytes) (idx : ℕ) (siblings : List Bytes) :
    Option (Bytes × List Bytes) :=
  if 1 < current.length then
    let padded := evened current
    let siblingIdx := if idx % 2 = 0 then idx + 1 else idx - 1
    match padded[siblingIdx]? with
    | none => none
    | some sibling =>
        match _hnext : nextLevel sha256 padded with
        | none => none
        | some next => climbLoop next (idx / 2) (siblings ++ [hex sibling])
  else current[0]?.map fun root => (hex root, siblings)
termination_by current.length
decreasing_by
  have hlength := Merkle.length_of_mapM_eq_some _hnext
  rw [stepByTwo, List.length_map, List.length_range, length_evened] at hlength
  omega

def computeMerkleProof (hashes : List Bytes) (targetIndex : ℕ) :
    Option (Bytes × List Bytes) :=
  if hashes.isEmpty then some ([], [])
  else climbLoop sha256 (hashes.map decode) targetIndex []

/-! ## Refinement to pairing levels -/

/-- The inner loop hashes the pairs of a level that is made of pairs. -/
theorem nextLevel_unpaired (list : List (Bytes × Bytes)) :
    nextLevel sha256 (unpaired list) =
      some (list.map fun pair => node sha256 pair.1 pair.2) := by
  induction list with
  | nil => rfl
  | cons pair list ih =>
      rw [nextLevel] at ih
      rw [nextLevel, unpaired_cons, List.length_cons, List.length_cons,
        Merkle.stepByTwo_add_two, List.mapM_cons, List.mapM_map]
      have hshift : digestAt sha256 (pair.1 :: pair.2 :: unpaired list) ∘
          (· + 2) = digestAt sha256 (unpaired list) := rfl
      rw [hshift, ih]
      rfl

theorem nextLevel_evened (level : List Bytes) :
    nextLevel sha256 (evened level) = some (parents (node sha256) level) := by
  rw [evened_eq_unpaired, nextLevel_unpaired]
  rfl

/-- One iteration moves to the parents and collects the partner. -/
theorem climbLoop_step {sibling : Bytes} (hmany : 1 < level.length)
    (hindex : index < level.length)
    (hsibling : level[siblingIndex level.length index]? = some sibling)
    (siblings : List Bytes) :
    climbLoop sha256 level index siblings =
      climbLoop sha256 (parents (node sha256) level) (index / 2)
        (siblings ++ [hex sibling]) := by
  rw [climbLoop.eq_def, if_pos hmany]
  dsimp only
  rw [getElem?_evened_partner hindex, hsibling]
  dsimp only
  split
  · next hnone =>
      rw [nextLevel_evened] at hnone
      cases hnone
  · next next hsome =>
      rw [nextLevel_evened] at hsome
      obtain rfl := Option.some.inj hsome
      rfl

theorem climbLoop_done (hfew : ¬ 1 < level.length) (index : ℕ)
    (siblings : List Bytes) :
    climbLoop sha256 level index siblings =
      level[0]?.map fun root => (hex root, siblings) := by
  rw [climbLoop.eq_def, if_neg hfew]

/-- The loop returns the root of a level and appends its sibling path. -/
theorem climbLoop_eq {level path : List Bytes} {top : Bytes}
    (hindex : index < level.length)
    (hroot : root (node sha256) level = some top)
    (hpath : PairLevels.siblings (node sha256) level index = some path)
    (siblings : List Bytes) :
    climbLoop sha256 level index siblings =
      some (hex top, siblings ++ path.map hex) := by
  induction level using levels.induct (node sha256)
    generalizing path index siblings with
  | case1 level hmany ih =>
      obtain ⟨sibling, rest, hsibling, hrest, rfl⟩ :=
        siblings_eq_some (node sha256) hmany hpath
      rw [root_of_many (node sha256) hmany] at hroot
      have hparent : index / 2 < (parents (node sha256) level).length := by
        rw [length_parents]
        omega
      rw [climbLoop_step sha256 hmany hindex hsibling,
        ih hparent hroot hrest, List.append_assoc]
      rfl
  | case2 level hfew =>
      rw [root_of_few (node sha256) hfew, List.head?_eq_getElem?] at hroot
      rw [PairLevels.siblings, if_neg hfew] at hpath
      rw [climbLoop_done sha256 hfew, hroot, ← Option.some.inj hpath,
        List.map_nil, List.append_nil]
      rfl

/-- For an index inside the list the root and the sibling path of the decoded
hashes are returned. -/
theorem computeMerkleProof_eq {hashes path : List Bytes} {top : Bytes}
    (hindex : index < hashes.length)
    (hroot : root (node sha256) (hashes.map decode) = some top)
    (hpath : PairLevels.siblings (node sha256) (hashes.map decode) index =
      some path) :
    computeMerkleProof sha256 hashes index = some (hex top, path.map hex) := by
  have hsome : ¬ hashes.isEmpty := by
    intro hempty
    rw [List.isEmpty_iff.mp hempty] at hindex
    exact Nat.not_lt_zero index hindex
  have hdecoded : index < (hashes.map decode).length := by
    rwa [List.length_map]
  rw [computeMerkleProof, if_neg hsome,
    climbLoop_eq sha256 hdecoded hroot hpath [], List.nil_append]

theorem map_decode_of_mapM {hashes leaves : List Bytes}
    (hleaves : hashes.mapM unhex = some leaves) : hashes.map decode = leaves := by
  induction hashes generalizing leaves with
  | nil => exact Option.some.inj hleaves
  | cons hash hashes ih =>
      rw [List.mapM_cons] at hleaves
      obtain ⟨leaf, hleaf, hrest⟩ := Option.bind_eq_some_iff.mp hleaves
      obtain ⟨rest, hdecoded, hcons⟩ := Option.bind_eq_some_iff.mp hrest
      rw [List.map_cons, ih hdecoded, decode, hleaf]
      exact Option.some.inj hcons

/-- On hexadecimal hashes the reconstructor stays inside its levels and returns
the root and the siblings of the audit service's tree, as text. -/
theorem computeMerkleProof_agrees_with_audit {hashes leaves : List Bytes}
    (hleaves : hashes.mapM unhex = some leaves) {i : ℕ}
    (hi : i < hashes.length) :
    ∃ top tree proof,
      Merkle.buildMerkleTree sha256 leaves = some (top, tree) ∧
        Merkle.merkleProof tree leaves.length i = some proof ∧
          computeMerkleProof sha256 hashes i =
            some (hex top, proof.map hex) := by
  obtain rfl := map_decode_of_mapM hleaves
  have hindex : i < (hashes.map decode).length := by rwa [List.length_map]
  have hsome : hashes.map decode ≠ [] := List.ne_nil_of_length_pos (by omega)
  obtain ⟨top, hroot, hbuild⟩ := Merkle.buildMerkleTree_eq sha256 hsome
  obtain ⟨path, hpath⟩ := exists_siblings (node sha256) hindex
  refine ⟨top, _, path, hbuild, ?_, ?_⟩
  · rw [Merkle.merkleProof_eq sha256 hindex, hpath]
  · exact computeMerkleProof_eq sha256 hi hroot hpath

/-- Three hashes, one of them in upper case, and the last of them. -/
theorem computeMerkleProof_agrees_three_hashes :
    [[97, 49], [66, 50], [99, 51]].mapM unhex = some [[0xa1], [0xb2], [0xc3]] ∧
      ∃ top tree proof,
        Merkle.buildMerkleTree MerkleProofs.sampleSha256
            [[0xa1], [0xb2], [0xc3]] = some (top, tree) ∧
          Merkle.merkleProof tree 3 2 = some proof ∧
            computeMerkleProof MerkleProofs.sampleSha256
              [[97, 49], [66, 50], [99, 51]] 2 =
                some (hex top, proof.map hex) :=
  ⟨by decide, computeMerkleProof_agrees_with_audit _ (by decide) (by decide)⟩

end Proof

end UssdKernel.SessionReconstructor
