import UssdKernel.Core.Data
import UssdKernel.Core.PairLevels

/-!
# The audit service's Merkle tree

`build_merkle_tree` keeps every level in one flat array, leaves first.
`merkle_proof` walks that array again with its own level boundaries, and
`verify_merkle_proof` sees only a leaf, an index and a list of hashes.  The
three functions are embedded as the loops they are; an array access outside
the array is `none`.  Every byte string handed to `sha256` is also recorded,
in call order, so that hash collisions can be located among real inputs.

The refinement theorems of this file reduce the three loops to the pairing
levels of `UssdKernel.PairLevels`.
-/

namespace UssdKernel.Merkle

open UssdKernel.PairLevels

variable (sha256 : Bytes → Bytes)

/-- Locals of the `while` loop of `build_merkle_tree`, and the inputs hashed
so far. -/
structure BuildState where
  tree : List Bytes
  levelStart : ℕ
  levelLen : ℕ
  hashed : List Bytes

/-- `(0..n).step_by(2)`. -/
def stepByTwo (n : ℕ) : List ℕ :=
  (List.range ((n + 1) / 2)).map (2 * ·)

/-- The buffer `combined` of iteration `i` of the inner loop. -/
def combinedAt (tree : List Bytes) (levelStart levelLen i : ℕ) :
    Option Bytes := do
  let left ← tree[levelStart + i]?
  let right ←
    if i + 1 < levelLen then tree[levelStart + i + 1]? else some left
  some (left ++ right)

def levelInputs (state : BuildState) : Option (List Bytes) :=
  (stepByTwo state.levelLen).mapM
    (combinedAt state.tree state.levelStart state.levelLen)

theorem length_of_mapM_eq_some {A B : Type*} {f : A → Option B}
    {inputs : List A} {outputs : List B}
    (houtputs : inputs.mapM f = some outputs) :
    outputs.length = inputs.length := by
  induction inputs generalizing outputs with
  | nil => simp_all
  | cons input inputs ih =>
      simp only [List.mapM_cons, Option.bind_eq_bind, Option.pure_def,
        Option.bind_eq_some_iff, Option.some.injEq] at houtputs
      obtain ⟨output, -, rest, hrest, rfl⟩ := houtputs
      simp [ih hrest]

variable {state : BuildState} {combined : List Bytes}

theorem length_levelInputs (hcombined : levelInputs state = some combined) :
    combined.length = (state.levelLen + 1) / 2 := by
  rw [length_of_mapM_eq_some hcombined]
  simp [stepByTwo]

/-- The `while level_len > 1` loop. -/
def buildLoop (state : BuildState) : Option BuildState :=
  if 1 < state.levelLen then
    match _hcombined : levelInputs state with
    | none => none
    | some combined =>
        buildLoop
          { tree := state.tree ++ combined.map sha256
            levelStart := state.levelStart + state.levelLen
            levelLen := combined.length
            hashed := state.hashed ++ combined }
  else some state
termination_by state.levelLen
decreasing_by
  have := length_levelInputs _hcombined
  omega

theorem buildLoop_step (hmany : 1 < state.levelLen)
    (hcombined : levelInputs state = some combined) :
    buildLoop sha256 state =
      buildLoop sha256
        { tree := state.tree ++ combined.map sha256
          levelStart := state.levelStart + state.levelLen
          levelLen := combined.length
          hashed := state.hashed ++ combined } := by
  rw [buildLoop.eq_def, if_pos hmany]
  split
  · next hnone =>
      rw [hcombined] at hnone
      cases hnone
  · next found hsome =>
      rw [hcombined] at hsome
      obtain rfl := Option.some.inj hsome
      rfl

theorem buildLoop_done (hfew : ¬ 1 < state.levelLen) :
    buildLoop sha256 state = some state := by
  rw [buildLoop.eq_def, if_neg hfew]

def buildStart (leaves : List Bytes) : BuildState where
  tree := leaves
  levelStart := 0
  levelLen := leaves.length
  hashed := []

def buildMerkleTree (leaves : List Bytes) : Option (Bytes × List Bytes) :=
  if leaves.isEmpty then
    let root := sha256 []
    some (root, [root])
  else do
    let state ← buildLoop sha256 (buildStart leaves)
    let root := state.tree.getLast?.getD (sha256 [])
    some (root, state.tree)

/-- The inputs that `build_merkle_tree` hashes. -/
def buildInputs (leaves : List Bytes) : List Bytes :=
  if leaves.isEmpty then [[]]
  else ((buildLoop sha256 (buildStart leaves)).map BuildState.hashed).getD []

/-- The `while level_len > 1` loop of `merkle_proof`. -/
def proofLoop (tree : List Bytes) (idx levelStart levelLen : ℕ)
    (proof : List Bytes) : Option (List Bytes) :=
  if 1 < levelLen then
    let siblingIdx :=
      if idx % 2 = 0 then
        if idx + 1 < levelLen then idx + 1 else idx
      else idx - 1
    match tree[levelStart + siblingIdx]? with
    | none => none
    | some sibling =>
        proofLoop tree (idx / 2) (levelStart + levelLen) ((levelLen + 1) / 2)
          (proof ++ [sibling])
  else some proof
termination_by levelLen

def merkleProof (tree : List Bytes) (leafCount leafIndex : ℕ) :
    Option (List Bytes) :=
  if leafCount = 0 ∨ tree.isEmpty then some []
  else proofLoop tree leafIndex 0 leafCount []

/-- Locals of the loop of `verify_merkle_proof`, and the inputs hashed so
far. -/
structure VerifyState where
  current : Bytes
  idx : ℕ
  hashed : List Bytes

def verifyStep (state : VerifyState) (sibling : Bytes) : VerifyState :=
  let combined :=
    if state.idx % 2 = 0 then state.current ++ sibling
    else sibling ++ state.current
  { current := sha256 combined
    idx := state.idx / 2
    hashed := state.hashed ++ [combined] }

section Verification

variable (leafHash : Bytes) (leafIndex : ℕ) (proofHashes : List Bytes)

def verifyLoop :
    VerifyState :=
  proofHashes.foldl (verifyStep sha256) ⟨leafHash, leafIndex, []⟩

def verifyMerkleProof (expectedRoot : Bytes) : Bool :=
  (verifyLoop sha256 leafHash leafIndex proofHashes).current == expectedRoot

/-- The inputs that `verify_merkle_proof` hashes. -/
def verifyInputs : List Bytes :=
  (verifyLoop sha256 leafHash leafIndex proofHashes).hashed

end Verification

/-! ## Refinement to pairing levels -/

/-- The node above two children. -/
def node (left right : Bytes) : Bytes :=
  sha256 (left ++ right)

def joined (pair : Bytes × Bytes) : Bytes :=
  pair.1 ++ pair.2

theorem stepByTwo_add_two (n : ℕ) :
    stepByTwo (n + 2) = 0 :: (stepByTwo n).map (· + 2) := by
  rw [stepByTwo, show (n + 2 + 1) / 2 = (n + 1) / 2 + 1 by omega,
    List.range_succ_eq_map, stepByTwo]
  simp [Function.comp_def, Nat.mul_add]

theorem combinedAt_shift (before : List Bytes) (left right : Bytes)
    (rest : List Bytes) (length i : ℕ) :
    combinedAt (before ++ left :: right :: rest) before.length (length + 2)
        (i + 2) =
      combinedAt (before ++ [left, right] ++ rest)
        (before ++ [left, right]).length length i := by
  have hstart : before.length + (i + 2) =
      (before ++ [left, right]).length + i := by
    simp only [List.length_append, List.length_cons, List.length_nil]
    omega
  have hbound : i + 2 + 1 < length + 2 ↔ i + 1 < length := by omega
  have htree : before ++ left :: right :: rest =
      before ++ [left, right] ++ rest := by simp
  simp only [combinedAt, hstart, hbound, htree]

/-- One pass of the inner loop over the level stored after `before` produces
the joined neighbours of that level. -/
theorem mapM_combinedAt (before level above : List Bytes) :
    (stepByTwo level.length).mapM
        (combinedAt (before ++ level ++ above) before.length level.length) =
      some ((pairs level).map joined) := by
  fun_induction pairs level generalizing before with
  | case1 => simp [stepByTwo]
  | case2 last => simp [stepByTwo, combinedAt, joined]
  | case3 left right rest ih =>
      have hrest := ih (before ++ [left, right])
      have hshift : ∀ i, combinedAt (before ++ left :: right :: rest ++ above)
          before.length (rest.length + 2) (i + 2) =
            combinedAt (before ++ [left, right] ++ rest ++ above)
              (before ++ [left, right]).length rest.length i := by
        intro i
        simpa using combinedAt_shift before left right (rest ++ above)
          rest.length i
      have hfirst : combinedAt (before ++ left :: right :: rest ++ above)
          before.length (rest.length + 2) 0 = some (left ++ right) := by
        simp [combinedAt]
      simp only [List.length_cons, stepByTwo_add_two, List.mapM_cons, hfirst,
        List.map_cons]
      rw [List.mapM_map]
      simp only [Function.comp_def, hshift, hrest]
      rfl

variable (before level hashed : List Bytes)

theorem levelInputs_eq :
    levelInputs ⟨before ++ level, before.length, level.length, hashed⟩ =
      some ((pairs level).map joined) := by
  simpa [levelInputs] using mapM_combinedAt before level []

theorem map_joined_pairs (level : List Bytes) :
    ((pairs level).map joined).map sha256 = parents (node sha256) level := by
  simp [parents, node, joined, Function.comp_def]

/-- From a level stored at the end of the array, the loop appends every level
above it and hashes the neighbours of each. -/
theorem buildLoop_eq :
    ∃ state,
      buildLoop sha256 ⟨before ++ level, before.length, level.length, hashed⟩ =
          some state ∧
        state.tree = before ++ (levels (node sha256) level).flatten ∧
          state.hashed =
            hashed ++ (combinedPairs (node sha256) level).map joined := by
  induction level using levels.induct (node sha256)
    generalizing before hashed with
  | case1 level hmany ih =>
      rw [levels, combinedPairs, if_pos hmany, if_pos hmany,
        buildLoop_step sha256 hmany (levelInputs_eq before level hashed),
        map_joined_pairs]
      obtain ⟨state, hstate, htree, hhashed⟩ :=
        ih (before ++ level) (hashed ++ (pairs level).map joined)
      refine ⟨state, ?_, ?_, ?_⟩
      · simpa [length_pairs] using hstate
      · simpa using htree
      · simpa using hhashed
  | case2 level hfew =>
      rw [levels, combinedPairs, if_neg hfew, if_neg hfew]
      exact ⟨_, buildLoop_done sha256 hfew, by simp, by simp⟩

variable {leaves : List Bytes}

/-- `build_merkle_tree` returns the concatenated levels and their root. -/
theorem buildMerkleTree_eq (hleaves : leaves ≠ []) :
    ∃ top, root (node sha256) leaves = some top ∧
      buildMerkleTree sha256 leaves =
        some (top, (levels (node sha256) leaves).flatten) := by
  obtain ⟨state, hstate, htree, -⟩ := buildLoop_eq sha256 [] leaves []
  obtain ⟨path, hpath⟩ := exists_siblings (node sha256)
    (List.length_pos_iff.mpr hleaves)
  have hroot := root_eq_climb (node sha256)
    (List.getElem?_eq_getElem (List.length_pos_iff.mpr hleaves)) hpath
  refine ⟨_, hroot, ?_⟩
  have hstart : buildLoop sha256 (buildStart leaves) = some state := hstate
  have hlast := getLast?_flatten_levels (node sha256) hleaves
  simp [buildMerkleTree, hleaves, hstart, hlast, hroot, htree]

theorem buildInputs_eq (hleaves : leaves ≠ []) :
    buildInputs sha256 leaves =
      (combinedPairs (node sha256) leaves).map joined := by
  obtain ⟨state, hstate, -, hhashed⟩ := buildLoop_eq sha256 [] leaves []
  have hstart : buildLoop sha256 (buildStart leaves) = some state := hstate
  simp [buildInputs, hleaves, hstart, hhashed]

/-- `merkle_proof` reads the sibling path of the level that starts at
`before.length`. -/
theorem proofLoop_eq (before level proof : List Bytes) {index : ℕ}
    (hindex : index < level.length) :
    proofLoop (before ++ (levels (node sha256) level).flatten) index
        before.length level.length proof =
      (siblings (node sha256) level index).map (proof ++ ·) := by
  induction level using levels.induct (node sha256)
    generalizing before proof index with
  | case1 level hmany ih =>
      have hread : (before ++ (levels (node sha256) level).flatten)[
          before.length + siblingIndex level.length index]? =
            level[siblingIndex level.length index]? := by
        rw [List.getElem?_append_right (by omega), Nat.add_sub_cancel_left]
        exact getElem?_flatten_levels _ (siblingIndex_lt hindex)
      have hstored : before ++ (levels (node sha256) level).flatten =
          before ++ level ++
            (levels (node sha256) (parents (node sha256) level)).flatten := by
        rw [levels, if_pos hmany]
        simp
      rw [proofLoop, siblings, if_pos hmany, if_pos hmany]
      change (match (before ++ (levels (node sha256) level).flatten)[
          before.length + siblingIndex level.length index]? with
        | none => none
        | some sibling => proofLoop _ _ _ _ (proof ++ [sibling])) = _
      rw [hread, hstored]
      cases level[siblingIndex level.length index]? with
      | none => rfl
      | some sibling =>
          have hparent : index / 2 < (parents (node sha256) level).length := by
            rw [length_parents]
            omega
          have habove := ih (before ++ level) (proof ++ [sibling]) hparent
          rw [length_parents, List.length_append] at habove
          simp only [habove, Option.map_map]
          simp [Function.comp_def]
  | case2 level hfew =>
      rw [proofLoop, siblings, if_neg hfew, if_neg hfew]
      simp

/-- On the array that `build_merkle_tree` returns, `merkle_proof` stays inside
the array and returns the sibling path. -/
theorem merkleProof_eq {index : ℕ} (hindex : index < leaves.length) :
    merkleProof (levels (node sha256) leaves).flatten leaves.length index =
      siblings (node sha256) leaves index := by
  have hpositive : leaves.length ≠ 0 := by omega
  have hread := getElem?_flatten_levels (node sha256) hindex
  rw [List.getElem?_eq_getElem hindex] at hread
  have hfilled : (levels (node sha256) leaves).flatten ≠ [] :=
    List.ne_nil_of_mem (List.mem_of_getElem? hread)
  have hloop := proofLoop_eq sha256 [] leaves [] hindex
  simpa [merkleProof, hpositive, hfilled] using hloop

/-- The verifier's loop climbs the given hashes. -/
theorem foldl_verifyStep (proofHashes : List Bytes) (state : VerifyState) :
    (proofHashes.foldl (verifyStep sha256) state).current =
        climb (node sha256) state.idx state.current proofHashes ∧
      (proofHashes.foldl (verifyStep sha256) state).hashed =
        state.hashed ++
          (climbPairs (node sha256) state.idx state.current proofHashes).map
            joined := by
  induction proofHashes generalizing state with
  | nil => simp [climb, climbPairs]
  | cons sibling proofHashes ih =>
      have hcombined : (if state.idx % 2 = 0 then state.current ++ sibling
          else sibling ++ state.current) =
            joined (orient state.idx state.current sibling) := by
        unfold orient
        split <;> rfl
      obtain ⟨hcurrent, hhashed⟩ := ih (verifyStep sha256 state sibling)
      rw [List.foldl_cons, hcurrent, hhashed, climb, climbPairs]
      simp only [verifyStep, hcombined]
      exact ⟨rfl, by simp [node, joined]⟩

theorem verifyMerkleProof_eq_true_iff (leafHash : Bytes) (leafIndex : ℕ)
    (proofHashes : List Bytes) (expectedRoot : Bytes) :
    verifyMerkleProof sha256 leafHash leafIndex proofHashes expectedRoot =
        true ↔
      climb (node sha256) leafIndex leafHash proofHashes = expectedRoot := by
  rw [verifyMerkleProof, verifyLoop, (foldl_verifyStep sha256 _ _).1, beq_iff_eq]

theorem verifyInputs_eq (leafHash : Bytes) (leafIndex : ℕ)
    (proofHashes : List Bytes) :
    verifyInputs sha256 leafHash leafIndex proofHashes =
      (climbPairs (node sha256) leafIndex leafHash proofHashes).map joined := by
  rw [verifyInputs, verifyLoop, (foldl_verifyStep sha256 _ _).2, List.nil_append]

end UssdKernel.Merkle
