import Mathlib

/-!
# Pairing levels

A sequence of nodes is reduced level by level: neighbours are combined from
the left, and an unpaired last node is combined with itself, until one node is
left.  This file develops the levels, the root, the sibling path of a position
and the climb along a path over an arbitrary node type and an arbitrary
combining function.  Completeness of the sibling path needs nothing about the
combining function; uniqueness of the opened node is stated up to two distinct
pairs with one combination.
-/

namespace UssdKernel.PairLevels

variable {Node : Type*}

/-- Neighbours of one level, from the left.  An unpaired last node is its own
partner. -/
def pairs : List Node → List (Node × Node)
  | [] => []
  | [last] => [(last, last)]
  | left :: right :: rest => (left, right) :: pairs rest

theorem length_pairs (level : List Node) :
    (pairs level).length = (level.length + 1) / 2 := by
  fun_induction pairs level with
  | case1 => simp
  | case2 last => simp
  | case3 left right rest ih =>
      simp only [List.length_cons, ih]
      omega

/-- Position of the partner of `index` in a level of the given length. -/
def siblingIndex (length index : ℕ) : ℕ :=
  if index % 2 = 0 then
    if index + 1 < length then index + 1 else index
  else index - 1

variable {index : ℕ}

theorem siblingIndex_lt {length : ℕ} (hindex : index < length) :
    siblingIndex length index < length := by
  unfold siblingIndex
  split_ifs <;> omega

theorem siblingIndex_add_two (length index : ℕ) :
    siblingIndex (length + 2) (index + 2) = siblingIndex length index + 2 := by
  unfold siblingIndex
  split_ifs <;> omega

/-- The pair of a node and its sibling in left-to-right order. -/
def orient (index : ℕ) (current sibling : Node) : Node × Node :=
  if index % 2 = 0 then (current, sibling) else (sibling, current)

theorem orient_add_two (index : ℕ) (current sibling : Node) :
    orient (index + 2) current sibling = orient index current sibling := by
  simp [orient]

theorem current_eq_of_orient_eq {left right : Node}
    {leftSibling rightSibling : Node}
    (heq : orient index left leftSibling = orient index right rightSibling) :
    left = right := by
  unfold orient at heq
  split at heq
  · exact (Prod.mk.inj heq).1
  · exact (Prod.mk.inj heq).2

variable {level : List Node} {current : Node} {sibling : Node}

/-- The pair that covers a position holds its node and the sibling's node, in
the order given by the parity of the position. -/
theorem getElem?_pairs (hcurrent : level[index]? = some current)
    (hsibling : level[siblingIndex level.length index]? = some sibling) :
    (pairs level)[index / 2]? = some (orient index current sibling) := by
  fun_induction pairs level generalizing index with
  | case1 => simp at hcurrent
  | case2 last =>
      have hzero : index = 0 := by
        have := (List.getElem?_eq_some_iff.mp hcurrent).1
        simpa using this
      subst hzero
      simp_all [siblingIndex, orient]
  | case3 left right rest ih =>
      match index with
      | 0 => simp_all [siblingIndex, orient]
      | 1 => simp_all [siblingIndex, orient]
      | index + 2 =>
          have hcurrent' : rest[index]? = some current := by
            simpa using hcurrent
          have hsibling' : rest[siblingIndex rest.length index]? =
              some sibling := by
            simpa only [List.length_cons, siblingIndex_add_two,
              List.getElem?_cons_succ] using hsibling
          have hrest := ih hcurrent' hsibling'
          rw [show (index + 2) / 2 = index / 2 + 1 by omega,
            List.getElem?_cons_succ, hrest, orient_add_two]

variable (combine : Node → Node → Node)

def parents (level : List Node) : List Node :=
  (pairs level).map fun pair => combine pair.1 pair.2

@[simp]
theorem length_parents (level : List Node) :
    (parents combine level).length = (level.length + 1) / 2 := by
  simp [parents, length_pairs]

theorem getElem?_parents (hcurrent : level[index]? = some current)
    (hsibling : level[siblingIndex level.length index]? = some sibling) :
    (parents combine level)[index / 2]? =
      some (combine (orient index current sibling).1
        (orient index current sibling).2) := by
  rw [parents, List.getElem?_map, getElem?_pairs hcurrent hsibling]
  rfl

/-! ## Levels, root, sibling path and climb -/

/-- All levels above and including the given one. -/
def levels (level : List Node) : List (List Node) :=
  if 1 < level.length then level :: levels (parents combine level) else [level]
termination_by level.length
decreasing_by
  rw [length_parents]
  omega

/-- Every pair combined above the given level, bottom level first. -/
def combinedPairs (level : List Node) : List (Node × Node) :=
  if 1 < level.length then
    pairs level ++ combinedPairs (parents combine level)
  else []
termination_by level.length
decreasing_by
  rw [length_parents]
  omega

def root (level : List Node) : Option Node :=
  if 1 < level.length then root (parents combine level) else level.head?
termination_by level.length
decreasing_by
  rw [length_parents]
  omega

/-- Sibling nodes met on the way from `index` to the root. -/
def siblings (level : List Node) (index : ℕ) : Option (List Node) :=
  if 1 < level.length then
    match level[siblingIndex level.length index]? with
    | none => none
    | some sibling =>
        (siblings (parents combine level) (index / 2)).map (sibling :: ·)
  else some []
termination_by level.length
decreasing_by
  rw [length_parents]
  omega

/-- Combine a node with the nodes of a path, bottom to top. -/
def climb : ℕ → Node → List Node → Node
  | _, current, [] => current
  | index, current, sibling :: path =>
      climb (index / 2)
        (combine (orient index current sibling).1
          (orient index current sibling).2) path

/-- The pairs combined by `climb`. -/
def climbPairs : ℕ → Node → List Node → List (Node × Node)
  | _, _, [] => []
  | index, current, sibling :: path =>
      orient index current sibling ::
        climbPairs (index / 2)
          (combine (orient index current sibling).1
            (orient index current sibling).2) path

theorem getElem?_flatten_levels (hindex : index < level.length) :
    (levels combine level).flatten[index]? = level[index]? := by
  rw [levels]
  split
  · rw [List.flatten_cons, List.getElem?_append_left hindex]
  · simp

/-- The root is the last entry of the concatenated levels. -/
theorem getLast?_flatten_levels (hlevel : level ≠ []) :
    (levels combine level).flatten.getLast? = root combine level := by
  induction level using levels.induct combine with
  | case1 level hmany ih =>
      have hparents : parents combine level ≠ [] := by
        apply List.ne_nil_of_length_pos
        rw [length_parents]
        omega
      have hlast := ih hparents
      rw [levels, root, if_pos hmany, if_pos hmany, List.flatten_cons,
        List.getLast?_append, hlast]
      cases hroot : root combine (parents combine level) with
      | some node => rfl
      | none =>
          rw [hroot] at hlast
          have hempty := List.getLast?_eq_none_iff.mp hlast
          rw [levels] at hempty
          split at hempty <;> simp_all
  | case2 level hfew =>
      have hpositive := List.length_pos_iff.mpr hlevel
      obtain ⟨node, rfl⟩ := List.length_eq_one_iff.mp
        (show level.length = 1 by omega)
      rw [levels, root, if_neg hfew, if_neg hfew]
      rfl

theorem exists_siblings (hindex : index < level.length) :
    ∃ path, siblings combine level index = some path := by
  induction level using levels.induct combine generalizing index with
  | case1 level hmany ih =>
      have hparent : index / 2 < (parents combine level).length := by
        rw [length_parents]
        omega
      obtain ⟨path, hpath⟩ := ih hparent
      rw [siblings, if_pos hmany,
        List.getElem?_eq_getElem (siblingIndex_lt hindex), hpath]
      exact ⟨_, rfl⟩
  | case2 level hfew => exact ⟨[], by rw [siblings, if_neg hfew]⟩

variable {path : List Node}

/-- One level of `siblings`. -/
theorem siblings_eq_some (hmany : 1 < level.length)
    (hpath : siblings combine level index = some path) :
    ∃ sibling rest,
      level[siblingIndex level.length index]? = some sibling ∧
        siblings combine (parents combine level) (index / 2) = some rest ∧
          path = sibling :: rest := by
  rw [siblings, if_pos hmany] at hpath
  split at hpath
  · cases hpath
  · next sibling hsibling =>
      obtain ⟨rest, hrest, rfl⟩ := Option.map_eq_some_iff.mp hpath
      exact ⟨sibling, rest, hsibling, hrest, rfl⟩

/-- Climbing from a node of the level along its sibling path reaches the
root. -/
theorem root_eq_climb (hcurrent : level[index]? = some current)
    (hpath : siblings combine level index = some path) :
    root combine level = some (climb combine index current path) := by
  induction level using levels.induct combine
    generalizing index current path with
  | case1 level hmany ih =>
      obtain ⟨sibling, rest, hsibling, hrest, rfl⟩ :=
        siblings_eq_some combine hmany hpath
      rw [root, if_pos hmany, climb]
      exact ih (getElem?_parents combine hcurrent hsibling) hrest
  | case2 level hfew =>
      have hindex := (List.getElem?_eq_some_iff.mp hcurrent).1
      rw [siblings, if_neg hfew] at hpath
      obtain rfl : index = 0 := by omega
      simp only [Option.some.injEq] at hpath
      subst hpath
      rw [root, if_neg hfew, List.head?_eq_getElem?, hcurrent, climb]

/-! ## Uniqueness of the opened node -/

/-- Two distinct pairs, one combined while building and one while climbing,
with the same combination. -/
def Collides (built climbed : List (Node × Node)) : Prop :=
  ∃ honest ∈ built, ∃ forged ∈ climbed, honest ≠ forged ∧
    combine honest.1 honest.2 = combine forged.1 forged.2

/-- A path of the honest length that climbs to the root starts at the honest
node, unless two distinct pairs combine to one node. -/
theorem current_eq_or_collides {forged : Node} {forgedPath : List Node}
    (hcurrent : level[index]? = some current)
    (hpath : siblings combine level index = some path)
    (hlengths : forgedPath.length = path.length)
    (hroot : root combine level =
      some (climb combine index forged forgedPath)) :
    forged = current ∨
      Collides combine (combinedPairs combine level)
        (climbPairs combine index forged forgedPath) := by
  induction level using levels.induct combine
    generalizing index current forged path forgedPath with
  | case1 level hmany ih =>
      obtain ⟨sibling, rest, hsibling, hrest, rfl⟩ :=
        siblings_eq_some combine hmany hpath
      obtain ⟨forgedSibling, forgedRest, rfl⟩ :=
        List.exists_of_length_succ forgedPath hlengths
      rw [root, if_pos hmany, climb] at hroot
      have habove := ih (getElem?_parents combine hcurrent hsibling) hrest
        (by simpa using hlengths) hroot
      rw [combinedPairs, if_pos hmany, climbPairs]
      rcases habove with hsame | ⟨honest, hhonest, other, hother, hcollision⟩
      · by_cases hpair : orient index current sibling =
            orient index forged forgedSibling
        · exact Or.inl (current_eq_of_orient_eq hpair.symm)
        · refine Or.inr ⟨orient index current sibling, ?_,
            orient index forged forgedSibling, by simp, hpair, hsame.symm⟩
          exact List.mem_append_left _
            (List.mem_of_getElem? (getElem?_pairs hcurrent hsibling))
      · exact Or.inr ⟨honest, List.mem_append_right _ hhonest, other,
          List.mem_cons_of_mem _ hother, hcollision⟩
  | case2 level hfew =>
      have hindex := (List.getElem?_eq_some_iff.mp hcurrent).1
      rw [siblings, if_neg hfew] at hpath
      simp only [Option.some.injEq] at hpath
      subst hpath
      obtain rfl := List.eq_nil_of_length_eq_zero hlengths
      obtain rfl : index = 0 := by omega
      rw [root, if_neg hfew, List.head?_eq_getElem?, hcurrent, climb] at hroot
      exact Or.inl (Option.some.inj hroot).symm

/-! ## Node invariants -/

section Invariant

variable {combine} (Valid : Node → Prop)

variable {pair : Node × Node} {level : List Node}

theorem valid_of_mem_pairs (hlevel : ∀ node ∈ level, Valid node)
    (hpair : pair ∈ pairs level) :
    Valid pair.1 ∧ Valid pair.2 := by
  fun_induction pairs level with
  | case1 => simp at hpair
  | case2 last => simp_all
  | case3 left right rest ih =>
      rcases List.mem_cons.mp hpair with rfl | hrest
      · simp_all
      · exact ih (fun node hnode => hlevel node (by simp [hnode])) hrest

theorem valid_of_mem_combinedPairs
    (hcombine : ∀ left right, Valid (combine left right))
    (hlevel : ∀ node ∈ level, Valid node)
    (hpair : pair ∈ combinedPairs combine level) :
    Valid pair.1 ∧ Valid pair.2 := by
  fun_induction combinedPairs combine level with
  | case1 level hmany ih =>
      rcases List.mem_append.mp hpair with hhere | habove
      · exact valid_of_mem_pairs Valid hlevel hhere
      · refine ih (fun node hnode => ?_) habove
        obtain ⟨source, -, rfl⟩ := List.mem_map.mp hnode
        exact hcombine _ _
  | case2 => simp at hpair

theorem valid_of_mem_climbPairs
    (hcombine : ∀ left right, Valid (combine left right)) {index : ℕ}
    {current : Node} {path : List Node} (hcurrent : Valid current)
    (hpath : ∀ node ∈ path, Valid node)
    (hpair : pair ∈ climbPairs combine index current path) :
    Valid pair.1 ∧ Valid pair.2 := by
  induction path generalizing index current with
  | nil => simp [climbPairs] at hpair
  | cons sibling path ih =>
      rcases List.mem_cons.mp hpair with rfl | habove
      · unfold orient
        split <;> simp_all
      · exact ih (hcombine _ _) (fun node hnode => hpath node (by simp [hnode]))
          habove

end Invariant

end UssdKernel.PairLevels
