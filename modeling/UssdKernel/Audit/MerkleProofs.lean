import UssdKernel.Audit.Merkle
import UssdKernel.Core.Padding

/-!
# Completeness and position binding of Merkle proofs

Completeness treats the hash as an arbitrary function.  Binding uses one fact
about it, the fixed digest length: it is what makes the two halves of a hashed
concatenation recoverable.
-/

namespace UssdKernel.MerkleProofs

open UssdKernel.Merkle
open UssdKernel.PairLevels

/-- SHA-256 digests, and the leaves and proof hashes handled with them, have
32 bytes. -/
abbrev digestLength : ℕ := 32

def DigestSized (data : Bytes) : Prop :=
  data.length = digestLength

section Completeness

variable (sha256 : Bytes → Bytes)

/-- Every proof that `merkle_proof` reads from a built tree is read inside the
tree and is accepted by `verify_merkle_proof` at its own index. -/
theorem built_proof_verifies (leaves : List Bytes) (i : ℕ)
    (hi : i < leaves.length) :
    ∃ top tree proof,
      buildMerkleTree sha256 leaves = some (top, tree) ∧
        merkleProof tree leaves.length i = some proof ∧
          verifyMerkleProof sha256 leaves[i] i proof top = true := by
  have hleaves : leaves ≠ [] := List.ne_nil_of_length_pos (by omega)
  obtain ⟨top, htop, hbuild⟩ := buildMerkleTree_eq sha256 hleaves
  obtain ⟨proof, hproof⟩ := exists_siblings (node sha256) hi
  refine ⟨top, _, proof, hbuild, ?_, ?_⟩
  · rw [merkleProof_eq sha256 hi, hproof]
  · have hclimb := root_eq_climb (node sha256)
      (List.getElem?_eq_getElem hi) hproof
    rw [htop] at hclimb
    exact (verifyMerkleProof_eq_true_iff sha256 _ _ _ _).mpr
      (Option.some.inj hclimb).symm

/-- The entries of the tree, the hashes computed for it and the length of every
proof.  `Nat.clog` is the least exponent whose power of two covers the
leaves. -/
theorem built_tree_sizes {leaves : List Bytes} (hleaves : leaves ≠ []) :
    let height := Nat.clog 2 leaves.length
    ∃ top tree, buildMerkleTree sha256 leaves = some (top, tree) ∧
      tree.length = ∑ k ∈ Finset.range (height + 1),
        (leaves.length + 2 ^ k - 1) / 2 ^ k ∧
      (buildInputs sha256 leaves).length ≤ leaves.length - 1 + height ∧
      ∀ i < leaves.length, ∃ proof,
        merkleProof tree leaves.length i = some proof ∧
          proof.length = height := by
  obtain ⟨top, -, hbuild⟩ := buildMerkleTree_eq sha256 hleaves
  refine ⟨top, _, hbuild, length_flatten_levels _ leaves, ?_, ?_⟩
  · rw [buildInputs_eq sha256 hleaves, List.length_map]
    exact length_combinedPairs_le _ hleaves
  · intro i hi
    obtain ⟨proof, hproof⟩ := exists_siblings (node sha256) hi
    exact ⟨proof, (merkleProof_eq sha256 hi).trans hproof,
      length_siblings _ hproof⟩

end Completeness

/-- A tree over five leaves has 5 + 3 + 2 + 1 entries. -/
theorem built_tree_sizes_five :
    ∃ top tree, buildMerkleTree id (List.replicate 5 []) = some (top, tree) ∧
      tree.length = 11 ∧
        (buildInputs id (List.replicate 5 [])).length ≤ 7 := by
  obtain ⟨top, tree, hbuild, htree, hhashes, -⟩ :=
    built_tree_sizes id (by simp : List.replicate 5 ([] : Bytes) ≠ [])
  exact ⟨top, tree, hbuild, htree.trans (by decide), hhashes⟩

section Binding

variable {sha256 : Bytes → Bytes}

/-- Two different inputs with one digest among the given hash inputs. -/
def HashCollision (sha256 : Bytes → Bytes) (inputs : List Bytes) : Prop :=
  ∃ left ∈ inputs, ∃ right ∈ inputs, left ≠ right ∧
    sha256 left = sha256 right

theorem joined_ne {left right : Bytes × Bytes}
    (hlength : left.1.length = right.1.length) (hne : left ≠ right) :
    joined left ≠ joined right := by
  intro heq
  obtain ⟨hfirst, hsecond⟩ := List.append_inj heq hlength
  exact hne (Prod.ext hfirst hsecond)

/-- Colliding pairs of digest-length nodes are colliding hash inputs. -/
theorem hashCollision_of_collides {built climbed : List (Bytes × Bytes)}
    (hbuilt : ∀ pair ∈ built, pair.1.length = digestLength)
    (hclimbed : ∀ pair ∈ climbed, pair.1.length = digestLength)
    (hcollides : Collides (node sha256) built climbed) :
    HashCollision sha256 (built.map joined ++ climbed.map joined) := by
  obtain ⟨honest, hhonest, forged, hforged, hne, hdigest⟩ := hcollides
  refine ⟨joined honest, ?_, joined forged, ?_, ?_, hdigest⟩
  · exact List.mem_append_left _ (List.mem_map_of_mem hhonest)
  · exact List.mem_append_right _ (List.mem_map_of_mem hforged)
  · exact joined_ne ((hbuilt _ hhonest).trans (hclimbed _ hforged).symm) hne

/-- A proof of the right length that verifies at position `i` opens the leaf
stored there, unless two different inputs hashed while building the tree and
verifying the proof have one digest. -/
theorem verified_leaf_eq_or_collision
    (hdigest : ∀ data, (sha256 data).length = digestLength)
    {leaves : List Bytes} (hleaves : ∀ leaf ∈ leaves, leaf.length = digestLength)
    {i : ℕ} (hi : i < leaves.length) {top : Bytes} {tree proof : List Bytes}
    (hbuild : buildMerkleTree sha256 leaves = some (top, tree))
    (hproof : merkleProof tree leaves.length i = some proof)
    {x : Bytes} (hx : x.length = digestLength) {p : List Bytes}
    (hp : ∀ sibling ∈ p, sibling.length = digestLength)
    (hlength : p.length = proof.length)
    (hverify : verifyMerkleProof sha256 x i p top = true) :
    x = leaves[i] ∨
      HashCollision sha256
        (buildInputs sha256 leaves ++ verifyInputs sha256 x i p) := by
  have hnonempty : leaves ≠ [] := List.ne_nil_of_length_pos (by omega)
  obtain ⟨root', hroot, hbuilt⟩ := buildMerkleTree_eq sha256 hnonempty
  obtain ⟨rfl, rfl⟩ := Prod.mk.inj (Option.some.inj (hbuild.symm.trans hbuilt))
  rw [merkleProof_eq sha256 hi] at hproof
  rw [verifyMerkleProof_eq_true_iff] at hverify
  rw [← hverify] at hroot
  have hnode : ∀ left right, DigestSized (node sha256 left right) :=
    fun left right => hdigest (left ++ right)
  rcases current_eq_or_collides (node sha256) (List.getElem?_eq_getElem hi)
    hproof hlength hroot with hsame | hcollides
  · exact Or.inl hsame
  · rw [buildInputs_eq sha256 hnonempty, verifyInputs_eq]
    refine Or.inr (hashCollision_of_collides (fun pair hpair => ?_)
      (fun pair hpair => ?_) hcollides)
    · exact (valid_of_mem_combinedPairs DigestSized hnode hleaves hpair).1
    · exact (valid_of_mem_climbPairs DigestSized hnode hx hp hpair).1

end Binding

/-! ## Two leaves under their real digest -/

def zeroLeaf : Bytes := List.replicate 32 0

def oneLeaf : Bytes := List.replicate 32 1

/-- The SHA-256 digest of `zeroLeaf ++ oneLeaf`. -/
def zeroOneDigest : Bytes :=
  [92, 133, 149, 95, 112, 146, 131, 236, 206, 43, 116, 241, 177, 85, 41, 24,
    129, 159, 57, 9, 17, 129, 110, 123, 180, 102, 128, 90, 56, 171, 135, 243]

/-- Agrees with SHA-256 on the only input hashed for these two leaves. -/
def sampleSha256 (data : Bytes) : Bytes :=
  if data = zeroLeaf ++ oneLeaf then zeroOneDigest else List.replicate 32 0

theorem length_sampleSha256 (data : Bytes) :
    (sampleSha256 data).length = digestLength := by
  unfold sampleSha256
  split <;> rfl

theorem buildMerkleTree_sample :
    buildMerkleTree sampleSha256 [zeroLeaf, oneLeaf] =
      some (zeroOneDigest, [zeroLeaf, oneLeaf, zeroOneDigest]) := by
  have hinputs : levelInputs (buildStart [zeroLeaf, oneLeaf]) =
      some [zeroLeaf ++ oneLeaf] := rfl
  have hloop : buildLoop sampleSha256 (buildStart [zeroLeaf, oneLeaf]) =
      some ⟨[zeroLeaf, oneLeaf, zeroOneDigest], 2, 1, [zeroLeaf ++ oneLeaf]⟩ := by
    rw [buildLoop_step sampleSha256 (by decide) hinputs,
      buildLoop_done sampleSha256 (by decide)]
    simp [buildStart, sampleSha256]
  simp [buildMerkleTree, hloop]

theorem merkleProof_sample :
    merkleProof [zeroLeaf, oneLeaf, zeroOneDigest] 2 1 = some [zeroLeaf] := by
  simp [merkleProof, proofLoop.eq_def]

theorem verified_leaf_eq_or_collision_two_leaves :
    verifyMerkleProof sampleSha256 oneLeaf 1 [zeroLeaf] zeroOneDigest = true ∧
      (oneLeaf = [zeroLeaf, oneLeaf][1] ∨
        HashCollision sampleSha256
          (buildInputs sampleSha256 [zeroLeaf, oneLeaf] ++
            verifyInputs sampleSha256 oneLeaf 1 [zeroLeaf])) :=
  ⟨by decide, verified_leaf_eq_or_collision length_sampleSha256 (by decide)
    (by decide) buildMerkleTree_sample merkleProof_sample (by decide)
    (by decide) rfl (by decide)⟩

theorem built_proof_verifies_two_leaves :
    1 < [zeroLeaf, oneLeaf].length ∧
      ∃ top tree proof,
        buildMerkleTree sampleSha256 [zeroLeaf, oneLeaf] = some (top, tree) ∧
          merkleProof tree 2 1 = some proof ∧
            verifyMerkleProof sampleSha256 oneLeaf 1 proof top = true :=
  ⟨by decide,
    built_proof_verifies sampleSha256 [zeroLeaf, oneLeaf] 1 (by decide)⟩

end UssdKernel.MerkleProofs
