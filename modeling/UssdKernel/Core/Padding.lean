import UssdKernel.Core.PairLevels

/-!
# Padding of pairing levels

Reducing a level combines an unpaired last node with itself, so the levels
above see repetitions that the level does not hold.  `padded` writes all of
them out: a level of height `h` becomes a sequence of `2 ^ h` nodes.  Levels
with equal padding have equal roots, and levels of one height with equal roots
have equal padding or combine two distinct pairs to one node.
-/

namespace UssdKernel.PairLevels

variable {Node Other : Type*}

/-- The nodes of a list of pairs, in order. -/
def unpaired (list : List (Node × Node)) : List Node :=
  list.flatMap fun pair => [pair.1, pair.2]

@[simp]
theorem unpaired_nil : unpaired ([] : List (Node × Node)) = [] := rfl

@[simp]
theorem unpaired_cons (pair : Node × Node) (list : List (Node × Node)) :
    unpaired (pair :: list) = pair.1 :: pair.2 :: unpaired list := rfl

theorem unpaired_append (first second : List (Node × Node)) :
    unpaired (first ++ second) = unpaired first ++ unpaired second :=
  List.flatMap_append

theorem length_unpaired (list : List (Node × Node)) :
    (unpaired list).length = 2 * list.length := by
  induction list with
  | nil => rfl
  | cons pair list ih =>
      simp only [unpaired_cons, List.length_cons, ih]
      omega

theorem unpaired_injective :
    Function.Injective (unpaired : List (Node × Node) → List Node) := by
  intro left right heq
  induction left generalizing right with
  | nil =>
      cases right with
      | nil => rfl
      | cons pair right => simp at heq
  | cons pair left ih =>
      cases right with
      | nil => simp at heq
      | cons other right =>
          simp only [unpaired_cons, List.cons.injEq] at heq
          obtain ⟨hfirst, hsecond, hrest⟩ := heq
          rw [Prod.ext hfirst hsecond, ih hrest]

/-- The level with an unpaired last node written a second time. -/
def evened (level : List Node) : List Node :=
  if level.length % 2 = 1 then level ++ level.getLast?.toList else level

theorem evened_eq_unpaired (level : List Node) :
    evened level = unpaired (pairs level) := by
  fun_induction pairs level with
  | case1 => rfl
  | case2 last => rfl
  | case3 left right rest ih =>
      have hlong : (left :: right :: rest).length % 2 = rest.length % 2 := by
        rw [List.length_cons, List.length_cons]
        omega
      rw [unpaired_cons, ← ih, evened, evened, hlong]
      by_cases hodd : rest.length % 2 = 1
      · have hsome : rest ≠ [] := by
          rintro rfl
          cases hodd
        have hlast : (left :: right :: rest).getLast? = rest.getLast? := by
          rw [List.getLast?_cons_of_ne_nil (List.cons_ne_nil right rest),
            List.getLast?_cons_of_ne_nil hsome]
        rw [if_pos hodd, if_pos hodd, hlast]
        rfl
      · rw [if_neg hodd, if_neg hodd]

theorem length_evened (level : List Node) :
    (evened level).length = 2 * ((level.length + 1) / 2) := by
  rw [evened_eq_unpaired, length_unpaired, length_pairs]

variable {level : List Node}

theorem getElem?_evened {index : ℕ} (hindex : index < level.length) :
    (evened level)[index]? = level[index]? := by
  rw [evened]
  by_cases hodd : level.length % 2 = 1
  · rw [if_pos hodd, List.getElem?_append_left hindex]
  · rw [if_neg hodd]

/-- In an evened level the partner of a node stands next to it. -/
theorem getElem?_evened_partner {index : ℕ} (hindex : index < level.length) :
    (evened level)[if index % 2 = 0 then index + 1 else index - 1]? =
      level[siblingIndex level.length index]? := by
  rw [siblingIndex]
  by_cases heven : index % 2 = 0
  · rw [if_pos heven, if_pos heven]
    by_cases hnext : index + 1 < level.length
    · rw [if_pos hnext, getElem?_evened hnext]
    · -- the last node is unpaired and follows itself
      have hlength : level.length = index + 1 := by omega
      have hodd : level.length % 2 = 1 := by omega
      have hlast : level.getLast? = level[index]? := by
        rw [List.getLast?_eq_getElem?, hlength, Nat.add_sub_cancel]
      rw [if_neg hnext, evened, if_pos hodd,
        List.getElem?_append_right (le_of_eq hlength), hlength, Nat.sub_self,
        hlast, List.getElem?_eq_getElem hindex]
      rfl
  · rw [if_neg heven, if_neg heven]
    exact getElem?_evened (by omega)

theorem map_unpaired (f : Node → Other) (list : List (Node × Node)) :
    (unpaired list).map f = unpaired (list.map (Prod.map f f)) := by
  induction list with
  | nil => rfl
  | cons pair list ih => simp [ih]

theorem mem_unpaired {list : List (Node × Node)} {node : Node}
    (hnode : node ∈ unpaired list) :
    ∃ pair ∈ list, node = pair.1 ∨ node = pair.2 := by
  obtain ⟨pair, hpair, hmem⟩ := List.mem_flatMap.mp hnode
  exact ⟨pair, hpair, by simpa using hmem⟩

theorem pairs_map (f : Node → Other) (level : List Node) :
    pairs (level.map f) = (pairs level).map (Prod.map f f) := by
  fun_induction pairs level with
  | case1 => rfl
  | case2 last => rfl
  | case3 left right rest ih => simp [pairs, ih]

/-- Pairing loses nothing: at most the last node is repeated. -/
theorem prefix_unpaired_pairs (level : List Node) :
    level <+: unpaired (pairs level) := by
  fun_induction pairs level with
  | case1 => exact List.prefix_rfl
  | case2 last => exact ⟨[last], rfl⟩
  | case3 left right rest ih =>
      rw [unpaired_cons, List.prefix_cons_inj, List.prefix_cons_inj]
      exact ih

/-! ## Height -/

/-- Number of levels above the given length. -/
abbrev height (length : ℕ) : ℕ := Nat.clog 2 length

variable {length : ℕ}

theorem height_of_many (hmany : 1 < length) :
    height length = height ((length + 1) / 2) + 1 :=
  Nat.clog_of_one_lt one_lt_two hmany

theorem height_of_few (hfew : ¬ 1 < length) : height length = 0 :=
  Nat.clog_of_right_le_one (by omega) 2

theorem many_of_height (hheight : 0 < height length) :
    1 < length := by
  by_contra hfew
  rw [height_of_few hfew] at hheight
  omega

theorem height_eq_zero_iff : height length = 0 ↔ ¬ 1 < length := by
  constructor
  · intro hzero hmany
    rw [height_of_many hmany] at hzero
    omega
  · exact height_of_few

theorem many_iff_of_height {other : ℕ} (hheight : height length = height other) :
    1 < length ↔ 1 < other := by
  rw [← not_iff_not, ← height_eq_zero_iff, hheight, height_eq_zero_iff]

/-! ## Written-out padding -/

/-- A level with every repetition of its reduction written out. -/
def padded {Node : Type*} (level : List Node) : List Node :=
  if 1 < level.length then unpaired (padded (pairs level)) else level
termination_by level.length
decreasing_by
  rw [length_pairs]
  omega

theorem padded_of_many (hmany : 1 < level.length) :
    padded level = unpaired (padded (pairs level)) := by
  rw [padded, if_pos hmany]

theorem padded_of_few (hfew : ¬ 1 < level.length) :
    padded level = level := by
  rw [padded, if_neg hfew]

theorem length_padded {Node : Type*} {level : List Node} (hlevel : level ≠ []) :
    (padded level).length = 2 ^ height level.length := by
  have hpositive := List.length_pos_iff.mpr hlevel
  by_cases hmany : 1 < level.length
  · have hpairs : pairs level ≠ [] := by
      apply List.ne_nil_of_length_pos
      rw [length_pairs]
      omega
    calc (padded level).length
        = 2 * (padded (pairs level)).length := by
          rw [padded_of_many hmany, length_unpaired]
      _ = 2 * 2 ^ height (pairs level).length := by
          rw [length_padded hpairs]
      _ = 2 ^ height level.length := by
          rw [height_of_many hmany, length_pairs, pow_succ, mul_comm]
  · rw [padded_of_few hmany, height_of_few hmany]
    omega
termination_by level.length
decreasing_by
  rw [length_pairs]
  omega

theorem padded_eq_nil_iff : padded level = [] ↔ level = [] := by
  constructor
  · intro hpadded
    by_contra hlevel
    refine List.ne_nil_of_length_pos ?_ hpadded
    rw [length_padded hlevel]
    positivity
  · rintro rfl
    exact padded_of_few (by simp)

theorem padded_map {Node Other : Type*} (f : Node → Other) (level : List Node) :
    padded (level.map f) = (padded level).map f := by
  by_cases hmany : 1 < level.length
  · rw [padded_of_many hmany, padded_of_many (by simpa using hmany), pairs_map,
      padded_map (Prod.map f f) (pairs level), map_unpaired]
  · rw [padded_of_few hmany, padded_of_few (by simpa using hmany)]
termination_by level.length
decreasing_by
  rw [length_pairs]
  omega

theorem prefix_padded {Node : Type*} (level : List Node) :
    level <+: padded level := by
  by_cases hmany : 1 < level.length
  · rw [padded_of_many hmany]
    apply (prefix_unpaired_pairs level).trans
    obtain ⟨rest, hrest⟩ := prefix_padded (pairs level)
    rw [← hrest, unpaired_append]
    exact List.prefix_append _ _
  · rw [padded_of_few hmany]
termination_by level.length
decreasing_by
  rw [length_pairs]
  omega

theorem mem_of_mem_pairs {pair : Node × Node} (hpair : pair ∈ pairs level) :
    pair.1 ∈ level ∧ pair.2 ∈ level :=
  valid_of_mem_pairs (· ∈ level) (fun _ hnode => hnode) hpair

theorem mem_of_mem_padded {Node : Type*} {level : List Node} {node : Node}
    (hnode : node ∈ padded level) : node ∈ level := by
  by_cases hmany : 1 < level.length
  · rw [padded_of_many hmany] at hnode
    obtain ⟨pair, hpair, hside⟩ := mem_unpaired hnode
    have hmembers := mem_of_mem_pairs (mem_of_mem_padded hpair)
    rcases hside with rfl | rfl
    · exact hmembers.1
    · exact hmembers.2
  · rwa [padded_of_few hmany] at hnode
termination_by level.length
decreasing_by
  rw [length_pairs]
  omega

variable {left right : List Node}

/-- Padding hides nothing but the length. -/
theorem eq_of_padded_eq (hlength : left.length = right.length)
    (hpadded : padded left = padded right) : left = right := by
  have hleft := prefix_padded left
  rw [hpadded] at hleft
  exact (List.prefix_of_prefix_length_le hleft (prefix_padded right)
    hlength.le).eq_of_length hlength

theorem height_eq_of_padded_eq (hpadded : padded left = padded right) :
    height left.length = height right.length := by
  have hnil : left = [] ↔ right = [] := by
    rw [← padded_eq_nil_iff, hpadded, padded_eq_nil_iff]
  by_cases hleft : left = []
  · rw [hleft, hnil.mp hleft]
  · have hlengths := congrArg List.length hpadded
    rw [length_padded hleft, length_padded (hnil.not.mp hleft)] at hlengths
    exact Nat.pow_right_injective (le_refl 2) hlengths

/-! ## Roots -/

variable (combine : Node → Node → Node)

theorem root_of_many (hmany : 1 < level.length) :
    root combine level = root combine (parents combine level) := by
  rw [root, if_pos hmany]

theorem root_of_few (hfew : ¬ 1 < level.length) :
    root combine level = level.head? := by
  rw [root, if_neg hfew]

theorem padded_parents (level : List Node) :
    padded (parents combine level) =
      (padded (pairs level)).map fun pair => combine pair.1 pair.2 :=
  padded_map _ _

/-- Levels with equal padding have equal roots. -/
theorem root_eq_of_padded_eq (hpadded : padded left = padded right) :
    root combine left = root combine right := by
  have hheight := height_eq_of_padded_eq hpadded
  induction left using levels.induct combine generalizing right with
  | case1 left hleft ih =>
      have hright := (many_iff_of_height hheight).mp hleft
      have hpairs : padded (pairs left) = padded (pairs right) := by
        apply unpaired_injective
        rw [← padded_of_many hleft, ← padded_of_many hright]
        exact hpadded
      have habove : padded (parents combine left) =
          padded (parents combine right) := by
        rw [padded_parents, padded_parents, hpairs]
      rw [root_of_many combine hleft, root_of_many combine hright]
      exact ih habove (height_eq_of_padded_eq habove)
  | case2 left hleft =>
      have hright := (many_iff_of_height hheight).not.mp hleft
      rw [padded_of_few hleft, padded_of_few hright] at hpadded
      rw [hpadded]

/-- Two lists with equal images are equal, or hold two distinct members with
one image. -/
theorem eq_or_exists_ne_of_map_eq {f : Node → Other}
    (hmap : left.map f = right.map f) :
    left = right ∨ ∃ x ∈ left, ∃ y ∈ right, x ≠ y ∧ f x = f y := by
  induction left generalizing right with
  | nil =>
      have hright : right = [] := by simpa using hmap.symm
      exact Or.inl hright.symm
  | cons head tail ih =>
      cases right with
      | nil => simp at hmap
      | cons otherHead otherTail =>
          simp only [List.map_cons, List.cons.injEq] at hmap
          by_cases hheads : head = otherHead
          · rcases ih hmap.2 with htails | ⟨x, hx, y, hy, hne, hsame⟩
            · exact Or.inl (by rw [hheads, htails])
            · exact Or.inr ⟨x, List.mem_cons_of_mem _ hx, y,
                List.mem_cons_of_mem _ hy, hne, hsame⟩
          · exact Or.inr ⟨head, List.mem_cons_self, otherHead,
              List.mem_cons_self, hheads, hmap.1⟩

theorem combinedPairs_of_many (hmany : 1 < level.length) :
    combinedPairs combine level =
      pairs level ++ combinedPairs combine (parents combine level) := by
  rw [combinedPairs, if_pos hmany]

/-- The root of several nodes is the combination of the last pair. -/
theorem root_eq_combinedPairs (hmany : 1 < level.length) :
    root combine level = (combinedPairs combine level).getLast?.map
      fun pair => combine pair.1 pair.2 := by
  induction level using levels.induct combine with
  | case1 level _ ih =>
      rw [root_of_many combine hmany, combinedPairs_of_many combine hmany,
        List.getLast?_append]
      by_cases hmore : 1 < (parents combine level).length
      · have hne : pairs (parents combine level) ≠ [] := by
          rw [← List.length_pos_iff, length_pairs]
          omega
        have hlast := List.getLast?_isSome.mpr (List.append_ne_nil_of_left_ne_nil
          hne (combinedPairs combine (parents combine (parents combine level))))
        rw [← combinedPairs_of_many combine hmore] at hlast
        rw [ih hmore, Option.or_of_isSome hlast]
      · have htwo : level.length = 2 := by
          rw [length_parents] at hmore
          omega
        obtain ⟨left, right, rfl⟩ := List.length_eq_two.mp htwo
        rw [root_of_few combine hmore, combinedPairs, if_neg hmore]
        rfl
  | case2 level hfew => exact absurd hmany hfew

/-- Levels of one height with equal roots have equal padding, unless two
distinct pairs combine to one node. -/
theorem padded_eq_or_collides
    (hheight : height left.length = height right.length) (hleft : left ≠ [])
    (hright : right ≠ []) (hroot : root combine left = root combine right) :
    padded left = padded right ∨
      Collides combine (combinedPairs combine left)
        (combinedPairs combine right) := by
  induction left using levels.induct combine generalizing right with
  | case2 left hleftFew =>
      have hrightFew := (many_iff_of_height hheight).not.mp hleftFew
      have hleftPositive := List.length_pos_iff.mpr hleft
      have hrightPositive := List.length_pos_iff.mpr hright
      obtain ⟨x, rfl⟩ := List.length_eq_one_iff.mp
        (show left.length = 1 by omega)
      obtain ⟨y, rfl⟩ := List.length_eq_one_iff.mp
        (show right.length = 1 by omega)
      rw [root_of_few combine hleftFew, root_of_few combine hrightFew] at hroot
      rw [Option.some.inj hroot]
      exact Or.inl rfl
  | case1 left hleftMany ih =>
      have hrightMany := (many_iff_of_height hheight).mp hleftMany
      rw [height_of_many hleftMany, height_of_many hrightMany] at hheight
      rw [root_of_many combine hleftMany, root_of_many combine hrightMany] at hroot
      have habove : padded (parents combine left) =
          padded (parents combine right) ∨ Collides combine
            (combinedPairs combine (parents combine left))
            (combinedPairs combine (parents combine right)) := by
        apply ih _ _ _ hroot
        · simpa only [length_parents] using Nat.succ.inj hheight
        · exact List.ne_nil_of_length_pos (by rw [length_parents]; omega)
        · exact List.ne_nil_of_length_pos (by rw [length_parents]; omega)
      rw [combinedPairs_of_many combine hleftMany,
        combinedPairs_of_many combine hrightMany]
      rcases habove with hsame | ⟨honest, hhonest, forged, hforged, hcollision⟩
      · rw [padded_parents, padded_parents] at hsame
        rcases eq_or_exists_ne_of_map_eq hsame with
          hpairs | ⟨x, hx, y, hy, hne, hcombine⟩
        · refine Or.inl ?_
          rw [padded_of_many hleftMany, padded_of_many hrightMany, hpairs]
        · exact Or.inr ⟨x, List.mem_append_left _ (mem_of_mem_padded hx), y,
            List.mem_append_left _ (mem_of_mem_padded hy), hne, hcombine⟩
      · exact Or.inr ⟨honest, List.mem_append_right _ hhonest, forged,
          List.mem_append_right _ hforged, hcollision⟩

/-! ## Levels further up -/

theorem height_length_parents :
    height (parents combine level).length = height level.length - 1 := by
  rw [length_parents]
  by_cases hmany : 1 < level.length
  · rw [height_of_many hmany]
    rfl
  · rw [height_of_few hmany, height_of_few (by omega)]

theorem height_iterate_parents (level : List Node) (k : ℕ) :
    height ((parents combine)^[k] level).length = height level.length - k := by
  induction k with
  | zero => rfl
  | succ k ih =>
      rw [Function.iterate_succ_apply', height_length_parents, ih]
      omega

/-- Below the root, every level has the same root. -/
theorem root_iterate_parents {k : ℕ} (hk : k ≤ height level.length) :
    root combine ((parents combine)^[k] level) = root combine level := by
  induction k with
  | zero => rfl
  | succ k ih =>
      rw [← ih (by omega), Function.iterate_succ_apply']
      refine (root_of_many combine (many_of_height ?_)).symm
      rw [height_iterate_parents]
      omega

theorem combinedPairs_of_few (hfew : ¬ 1 < level.length) :
    combinedPairs combine level = [] := by
  rw [combinedPairs, if_neg hfew]

theorem combinedPairs_parents_subset (level : List Node) :
    combinedPairs combine (parents combine level) ⊆
      combinedPairs combine level := by
  by_cases hmany : 1 < level.length
  · rw [combinedPairs_of_many combine hmany]
    exact List.subset_append_right _ _
  · rw [combinedPairs_of_few combine (by rw [length_parents]; omega)]
    exact List.nil_subset _

theorem combinedPairs_iterate_subset (level : List Node) (k : ℕ) :
    combinedPairs combine ((parents combine)^[k] level) ⊆
      combinedPairs combine level := by
  induction k with
  | zero => exact fun _ hpair => hpair
  | succ k ih =>
      rw [Function.iterate_succ_apply']
      exact List.Subset.trans (combinedPairs_parents_subset combine _) ih

/-- The neighbours of every level below the root are combined. -/
theorem pairs_iterate_subset {k : ℕ} (hk : k < height level.length) :
    pairs ((parents combine)^[k] level) ⊆ combinedPairs combine level := by
  have hmany : 1 < ((parents combine)^[k] level).length := by
    apply many_of_height
    rw [height_iterate_parents]
    omega
  intro pair hpair
  apply combinedPairs_iterate_subset combine level k
  rw [combinedPairs_of_many combine hmany]
  exact List.mem_append_left _ hpair

/-! ## Levels of one repeated node -/

/-- A node combined with itself. -/
def doubled (node : Node) : Node := combine node node

theorem pairs_replicate (length : ℕ) (node : Node) :
    pairs (List.replicate length node) =
      List.replicate ((length + 1) / 2) (node, node) := by
  induction length using Nat.twoStepInduction with
  | zero => rfl
  | one => rfl
  | more length ih _ =>
      rw [show (length + 2 + 1) / 2 = (length + 1) / 2 + 1 by omega,
        List.replicate_succ, List.replicate_succ, List.replicate_succ, pairs, ih]

theorem parents_replicate (length : ℕ) (node : Node) :
    parents combine (List.replicate length node) =
      List.replicate ((length + 1) / 2) (doubled combine node) := by
  rw [parents, pairs_replicate, List.map_replicate]
  rfl

theorem root_replicate (hlength : 0 < length) (node : Node) :
    root combine (List.replicate length node) =
      some ((doubled combine)^[height length] node) := by
  induction hlevels : height length generalizing length node with
  | zero =>
      have hfew := height_eq_zero_iff.mp hlevels
      obtain rfl : length = 1 := by omega
      rw [root_of_few combine (by simp)]
      rfl
  | succ levels ih =>
      have hmany : 1 < length := many_of_height (by omega)
      rw [height_of_many hmany] at hlevels
      rw [root_of_many combine (by simpa using hmany), parents_replicate,
        ih (by omega) _ (Nat.succ.inj hlevels), Function.iterate_succ_apply]

/-- Above a repeated node, every combined pair is a repeated node again. -/
theorem mem_combinedPairs_replicate {node : Node} {pair : Node × Node}
    (hpair : pair ∈ combinedPairs combine (List.replicate length node)) :
    ∃ k < height length,
      pair = ((doubled combine)^[k] node, (doubled combine)^[k] node) := by
  induction hlevels : height length generalizing length node with
  | zero =>
      rw [combinedPairs_of_few combine
        (by simpa using height_eq_zero_iff.mp hlevels)] at hpair
      cases hpair
  | succ levels ih =>
      have hmany : 1 < length := many_of_height (by omega)
      rw [height_of_many hmany] at hlevels
      rw [combinedPairs_of_many combine (by simpa using hmany),
        pairs_replicate, parents_replicate] at hpair
      rcases List.mem_append.mp hpair with hhere | habove
      · exact ⟨0, by omega, List.eq_of_mem_replicate hhere⟩
      · obtain ⟨k, hk, rfl⟩ := ih habove (Nat.succ.inj hlevels)
        exact ⟨k + 1, by omega, by rw [Function.iterate_succ_apply]⟩

/-! ## Sizes -/

variable {path : List Node} {index : ℕ}

theorem length_siblings (hpath : siblings combine level index = some path) :
    path.length = height level.length := by
  induction level using levels.induct combine generalizing index path with
  | case1 level hmany ih =>
      obtain ⟨sibling, rest, -, hrest, rfl⟩ :=
        siblings_eq_some combine hmany hpath
      rw [List.length_cons, ih hrest, length_parents, height_of_many hmany]
  | case2 level hfew =>
      rw [siblings, if_neg hfew] at hpath
      rw [height_of_few hfew, ← Option.some.inj hpath, List.length_nil]

/-- The lengths of the levels are rounded up. -/
theorem length_flatten_levels (level : List Node) :
    (levels combine level).flatten.length =
      ∑ k ∈ Finset.range (height level.length + 1),
        (level.length + 2 ^ k - 1) / 2 ^ k := by
  induction level using levels.induct combine with
  | case1 level hmany ih =>
      have hhalved : ∀ k, (level.length + 2 ^ (k + 1) - 1) / 2 ^ (k + 1) =
          ((level.length + 1) / 2 + 2 ^ k - 1) / 2 ^ k := by
        intro k
        have hpos : 0 < 2 ^ k := Nat.two_pow_pos k
        rw [pow_succ', ← Nat.div_div_eq_div_mul]
        congr 1
        omega
      rw [levels, if_pos hmany, List.flatten_cons, List.length_append, ih,
        length_parents, height_of_many hmany,
        Finset.sum_range_succ' _ (_ + 1),
        Finset.sum_congr rfl fun k _ => hhalved k]
      simp [add_comm]
  | case2 level hfew =>
      rw [levels, if_neg hfew, height_of_few hfew]
      simp

theorem length_combinedPairs_le (hlevel : level ≠ []) :
    (combinedPairs combine level).length ≤
      level.length - 1 + height level.length := by
  induction level using levels.induct combine with
  | case1 level hmany ih =>
      have hparents := ih (List.ne_nil_of_length_pos (by simp; omega))
      rw [length_parents] at hparents
      rw [combinedPairs_of_many combine hmany, List.length_append,
        length_pairs, height_of_many hmany]
      omega
  | case2 level hfew =>
      rw [combinedPairs_of_few combine hfew]
      exact Nat.zero_le _

end UssdKernel.PairLevels
