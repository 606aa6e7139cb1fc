import UssdKernel.Core.FirstFit
import UssdKernel.Reconciliation.Domain

/-!
# Matching internal with external transactions

`match_transactions` keeps one flag for each external transaction and gives
every internal transaction the first unflagged one it matches.  Every new item
takes a fresh identifier, `newIds` in the order of the calls.

The external transactions whose flag is not set, with their positions, are the
free elements of a first-fit assignment, so the two loops compute that
assignment and the items are read off from it.
-/

namespace UssdKernel.Reconciliation

open UssdKernel.FirstFit

def isMatch [DecimalArithmetic] (internal : InternalTransaction)
    (external : ExternalTransaction) (tolerance : ℚ) : Bool :=
  let refMatch := !internal.reference.isEmpty && !external.reference.isEmpty &&
    internal.reference == external.reference
  let amountMatch : Bool := |minus internal.amount external.amount| ≤ tolerance
  refMatch && amountMatch

/-! ## The three kinds of items -/

section Items

variable (runId : Uuid)

def amountMismatch [DecimalArithmetic] (internal : InternalTransaction)
    (external : ExternalTransaction) (itemId : Uuid) :
    ReconciliationItem where
  itemId := itemId
  runId := runId
  transactionId := internal.transactionId
  discrepancyType := .amountMismatch
  internalStatus := internal.status
  externalStatus := external.status
  internalAmount := internal.amount
  externalAmount := external.amount
  difference := |minus internal.amount external.amount|
  resolved := false
  resolutionAction := none
  resolvedBy := none
  resolvedAt := none
  notes := none

def missingExternal (internal : InternalTransaction) (itemId : Uuid) :
    ReconciliationItem where
  itemId := itemId
  runId := runId
  transactionId := internal.transactionId
  discrepancyType := .missingExternal
  internalStatus := internal.status
  externalStatus := ""
  internalAmount := internal.amount
  externalAmount := 0
  difference := internal.amount
  resolved := false
  resolutionAction := none
  resolvedBy := none
  resolvedAt := none
  notes := none

def missingInternal (external : ExternalTransaction) (itemId : Uuid) :
    ReconciliationItem where
  itemId := itemId
  runId := runId
  transactionId := external.externalId
  discrepancyType := .missingInternal
  internalStatus := ""
  externalStatus := external.status
  internalAmount := 0
  externalAmount := external.amount
  difference := external.amount
  resolved := false
  resolutionAction := none
  resolvedBy := none
  resolvedAt := none
  notes := none

end Items

/-! ## The loops -/

/-- An external transaction with its position in the statement. -/
abbrev Entry := ExternalTransaction × ℕ

/-- The locals of `match_transactions`. -/
structure MatchState where
  items : List ReconciliationItem
  matchedExternal : List Bool

section Positions

variable (newIds : ℕ → Uuid) (runId : Uuid)
  (external : List ExternalTransaction)

/-- `items.push(..)` with `item_id: Uuid::new_v4()`. -/
def push (items : List ReconciliationItem)
    (item : Uuid → ReconciliationItem) : List ReconciliationItem :=
  items ++ [item (newIds items.length)]

def mark (matchedExternal : List Bool) : Option Entry → List Bool
  | none => matchedExternal
  | some entry => matchedExternal.set entry.2 true

/-- One iteration of the loop over the external transactions. -/
def reportUnmatched (matchedExternal : List Bool)
    (items : List ReconciliationItem) (entry : Entry) :
    List ReconciliationItem :=
  if matchedExternal.getD entry.2 false then items
  else push newIds items (missingInternal runId entry.1)

/-- Number items with fresh identifiers in their order. -/
def numbered (newIds : ℕ → Uuid) (items : List (Uuid → ReconciliationItem)) :
    List ReconciliationItem :=
  items.mapIdx fun position item => item (newIds position)

/-- The entries whose flag is not set. -/
def free (matchedExternal : List Bool) : List Entry :=
  external.zipIdx.filter fun entry => !matchedExternal.getD entry.2 false

theorem nodup_free_positions (matchedExternal : List Bool) :
    ((free external matchedExternal).map Prod.snd).Nodup :=
  (List.nodup_zipIdx_map_snd external).sublist (List.filter_sublist.map _)

theorem length_mark (matchedExternal : List Bool) (found : Option Entry) :
    (mark matchedExternal found).length = matchedExternal.length := by
  cases found with
  | none => rfl
  | some entry => exact List.length_set

theorem getD_set (flags : List Bool) {position : ℕ}
    (hposition : position < flags.length) (other : ℕ) :
    (flags.set position true).getD other false =
      (decide (other = position) || flags.getD other false) := by
  rw [List.getD_eq_getElem?_getD, List.getElem?_set,
    List.getD_eq_getElem?_getD]
  by_cases hother : other = position
  · subst hother
    simp [hposition]
  · simp [hother, Ne.symm hother]

/-- Positions are distinct, so dropping one drops one entry. -/
theorem filter_position_ne {before after : List Entry} {entry : Entry}
    (hnodup : ((before ++ entry :: after).map Prod.snd).Nodup) :
    (before ++ entry :: after).filter (fun other => other.2 ≠ entry.2) =
      before ++ after := by
  rw [List.map_append, List.map_cons, List.nodup_middle, List.nodup_cons,
    List.mem_append, not_or] at hnodup
  have hkeep : ∀ list : List Entry, entry.2 ∉ list.map Prod.snd →
      list.filter (fun other => other.2 ≠ entry.2) = list := by
    intro list hlist
    apply List.filter_eq_self.mpr
    intro other hother
    rw [decide_eq_true_eq]
    intro hsame
    exact hlist (hsame ▸ List.mem_map_of_mem hother)
  rw [List.filter_append, List.filter_cons_of_neg (by simp),
    hkeep before hnodup.1.1, hkeep after hnodup.1.2]

theorem free_unflagged :
    free external (List.replicate external.length false) =
      external.zipIdx := by
  apply List.filter_eq_self.mpr
  intro entry _
  rw [List.getD_eq_getElem?_getD, List.getElem?_replicate]
  split <;> rfl

theorem numbered_concat (items : List (Uuid → ReconciliationItem))
    (item : Uuid → ReconciliationItem) :
    numbered newIds (items ++ [item]) =
      push newIds (numbered newIds items) item := by
  simp [numbered, push, List.mapIdx_append]

theorem foldl_push_numbered (items more : List (Uuid → ReconciliationItem)) :
    more.foldl (push newIds) (numbered newIds items) =
      numbered newIds (items ++ more) := by
  induction more generalizing items with
  | nil => rw [List.append_nil, List.foldl_nil]
  | cons item more ih =>
      rw [List.foldl_cons, ← numbered_concat, ih, List.append_assoc,
        List.singleton_append]

/-- The loop over the external transactions. -/
theorem foldl_reportUnmatched (matchedExternal : List Bool)
    (items : List ReconciliationItem) :
    external.zipIdx.foldl (reportUnmatched newIds runId matchedExternal)
        items =
      ((free external matchedExternal).map fun entry =>
        missingInternal runId entry.1).foldl (push newIds) items := by
  rw [List.foldl_map, free, List.foldl_filter]
  congr 1
  funext before entry
  unfold reportUnmatched
  cases matchedExternal.getD entry.2 false <;> rfl

theorem map_entries {Observed : Type}
    (observe : ExternalTransaction → Observed) :
    (external.zipIdx.map fun entry => observe entry.1) =
      external.map observe := by
  have hfst := congrArg (List.map observe) (List.zipIdx_map_fst 0 external)
  rwa [List.map_map] at hfst

end Positions

section Loops

variable [DecimalArithmetic] (newIds : ℕ → Uuid) (runId : Uuid)
  (external : List ExternalTransaction) (tolerance : ℚ)

/-- The inner loop, which skips flagged entries and breaks at the first
match. -/
def findMatch (internal : InternalTransaction) (matchedExternal : List Bool) :
    Option Entry :=
  external.zipIdx.find? fun entry =>
    !matchedExternal.getD entry.2 false &&
      isMatch internal entry.1 tolerance

/-- One iteration of the loop over the internal transactions. -/
def matchInternal (state : MatchState) (internal : InternalTransaction) :
    MatchState :=
  let found := findMatch external tolerance internal state.matchedExternal
  { matchedExternal := mark state.matchedExternal found
    items :=
      match found with
      | some entry =>
          if 0 < |minus internal.amount entry.1.amount| then
            push newIds state.items (amountMismatch runId internal entry.1)
          else state.items
      | none => push newIds state.items (missingExternal runId internal) }

def matchTransactions (internal : List InternalTransaction) :
    List ReconciliationItem :=
  let state := internal.foldl (matchInternal newIds runId external tolerance)
    ⟨[], List.replicate external.length false⟩
  external.zipIdx.foldl (reportUnmatched newIds runId state.matchedExternal)
    state.items

/-! ## The pairs -/

/-- What the inner loop finds for each internal transaction, from given
flags. -/
def pairsFrom : List InternalTransaction → List Bool →
    List (InternalTransaction × Option Entry)
  | [], _ => []
  | internal :: rest, matchedExternal =>
      let found := findMatch external tolerance internal matchedExternal
      (internal, found) :: pairsFrom rest (mark matchedExternal found)

section Pairs

variable (internal : List InternalTransaction)

/-- Each internal transaction with the external one it is paired with. -/
def pairs :
    List (InternalTransaction × Option Entry) :=
  pairsFrom external tolerance internal
    (List.replicate external.length false)

/-- The entries that are in some pair. -/
def pairedEntries : List Entry :=
  (pairs external tolerance internal).filterMap Prod.snd

/-- The entries that are in no pair. -/
def unpaired : List Entry :=
  external.zipIdx.filter fun entry =>
    entry ∉ pairedEntries external tolerance internal

end Pairs

/-- The item that an internal transaction gives rise to. -/
def pairItem (runId : Uuid) :
    InternalTransaction × Option Entry → Option (Uuid → ReconciliationItem)
  | (internal, none) => some (missingExternal runId internal)
  | (internal, some entry) =>
      if 0 < |minus internal.amount entry.1.amount| then
        some (amountMismatch runId internal entry.1)
      else none

variable {internal : InternalTransaction} {entry : Entry}

theorem pairItem_of_silent (runId : Uuid)
    (hsilent : ¬ 0 < |minus internal.amount entry.1.amount|) :
    pairItem runId (internal, some entry) = none :=
  if_neg hsilent

theorem pairItem_of_differs (runId : Uuid)
    (hdiffers : 0 < |minus internal.amount entry.1.amount|) :
    pairItem runId (internal, some entry) =
      some (amountMismatch runId internal entry.1) :=
  if_pos hdiffers

theorem pairItem_eq_some {runId : Uuid}
    {pair : InternalTransaction × Option Entry} {item : Uuid → ReconciliationItem}
    (hitem : pairItem runId pair = some item) :
    (∃ entry, pair.2 = some entry ∧ item = amountMismatch runId pair.1 entry.1) ∨
      pair.2 = none ∧ item = missingExternal runId pair.1 := by
  obtain ⟨transaction, found⟩ := pair
  cases found with
  | none => exact Or.inr ⟨rfl, (Option.some.inj hitem).symm⟩
  | some entry =>
      by_cases hdiffers : 0 < |minus transaction.amount entry.1.amount|
      · rw [pairItem_of_differs runId hdiffers] at hitem
        exact Or.inl ⟨entry, rfl, (Option.some.inj hitem).symm⟩
      · rw [pairItem_of_silent runId hdiffers] at hitem
        cases hitem

/-- The items without their identifiers: those of the pairs, in the order of
the internal transactions, then those of the entries in no pair. -/
def drafts (runId : Uuid) (external : List ExternalTransaction)
    (tolerance : ℚ) (internal : List InternalTransaction) :
    List (Uuid → ReconciliationItem) :=
  (pairs external tolerance internal).filterMap (pairItem runId) ++
    (unpaired external tolerance internal).map fun entry =>
      missingInternal runId entry.1

/-! ## The loops compute a first-fit assignment -/

variable {matchedExternal : List Bool}

def fits (internal : InternalTransaction) (entry : Entry) : Bool :=
  isMatch internal entry.1 tolerance

theorem findMatch_eq (internal : InternalTransaction)
    (matchedExternal : List Bool) :
    findMatch external tolerance internal matchedExternal =
      (free external matchedExternal).find? (fits tolerance internal) := by
  rw [free, List.find?_filter, findMatch]
  congr 1
  funext entry
  simp [fits]

/-- Setting the flag of the match takes it from the free entries. -/
theorem free_mark (internal : InternalTransaction)
    (hlength : matchedExternal.length = external.length) :
    free external (mark matchedExternal
        (findMatch external tolerance internal matchedExternal)) =
      (free external matchedExternal).eraseP (fits tolerance internal) := by
  rw [findMatch_eq]
  cases hfound : (free external matchedExternal).find?
      (fits tolerance internal) with
  | none => exact (eraseP_of_find?_none hfound).symm
  | some entry =>
      obtain ⟨before, after, hsplit, herase, -⟩ :=
        exists_split_of_find?_some hfound
      have hentry : entry ∈ external.zipIdx :=
        List.mem_of_mem_filter (List.mem_of_find?_eq_some hfound)
      have hposition : entry.2 < matchedExternal.length := by
        rw [hlength]
        exact (List.getElem?_eq_some_iff.mp
          (List.mem_zipIdx_iff_getElem?.mp hentry)).1
      have hfilter : free external (matchedExternal.set entry.2 true) =
          (free external matchedExternal).filter
            (fun other => other.2 ≠ entry.2) := by
        rw [free, free, List.filter_filter]
        congr 1
        funext other
        rw [getD_set matchedExternal hposition]
        simp
      have hnodup := nodup_free_positions external matchedExternal
      rw [mark, hfilter, herase]
      rw [hsplit] at hnodup ⊢
      exact filter_position_ne hnodup

/-- The flags after the pairs of some internal transactions. -/
def flagsAfter (internal : List InternalTransaction)
    (matchedExternal : List Bool) : List Bool :=
  (pairsFrom external tolerance internal matchedExternal).foldl
    (fun flags pair => mark flags pair.2) matchedExternal

theorem flagsAfter_cons (internal : InternalTransaction)
    (rest : List InternalTransaction) (matchedExternal : List Bool) :
    flagsAfter external tolerance (internal :: rest) matchedExternal =
      flagsAfter external tolerance rest (mark matchedExternal
        (findMatch external tolerance internal matchedExternal)) := rfl

/-- The code's choices and the entries it leaves are those of first fit. -/
theorem assign_free (internal : List InternalTransaction)
    (hlength : matchedExternal.length = external.length) :
    assign (fits tolerance) internal (free external matchedExternal) =
      ⟨pairsFrom external tolerance internal matchedExternal,
        free external (flagsAfter external tolerance internal
          matchedExternal)⟩ := by
  induction internal generalizing matchedExternal with
  | nil => rfl
  | cons first rest ih =>
      have hlater : (mark matchedExternal (findMatch external tolerance first
          matchedExternal)).length = external.length := by
        rw [length_mark, hlength]
      rw [assign_cons, ← free_mark external tolerance first hlength,
        ih hlater, ← findMatch_eq, flagsAfter_cons, pairsFrom]

section Assigned

variable (internal : List InternalTransaction)

theorem assign_zipIdx :
    assign (fits tolerance) internal external.zipIdx =
      ⟨pairs external tolerance internal,
        free external (flagsAfter external tolerance internal
          (List.replicate external.length false))⟩ := by
  rw [← free_unflagged external]
  exact assign_free external tolerance internal List.length_replicate

/-- Every entry is in exactly one pair or free after the loop. -/
theorem perm_paired_free :
    (pairedEntries external tolerance internal ++
      free external (flagsAfter external tolerance internal
        (List.replicate external.length false))).Perm external.zipIdx := by
  have hperm := perm_taken_rest (fits tolerance) internal external.zipIdx
  rwa [assign_zipIdx] at hperm

theorem free_eq_unpaired :
    free external (flagsAfter external tolerance internal
        (List.replicate external.length false)) =
      unpaired external tolerance internal := by
  have hperm := perm_paired_free external tolerance internal
  have hnodup : (pairedEntries external tolerance internal ++
      free external (flagsAfter external tolerance internal
        (List.replicate external.length false))).Nodup :=
    hperm.nodup_iff.mpr
      (List.Nodup.of_map Prod.snd (List.nodup_zipIdx_map_snd external))
  have hdisjoint := (List.nodup_append.mp hnodup).2.2
  apply List.filter_congr
  intro entry hentry
  have hfree : entry ∈ free external (flagsAfter external tolerance internal
        (List.replicate external.length false)) ↔
      entry ∉ pairedEntries external tolerance internal := by
    constructor
    · intro hmem hpaired
      exact hdisjoint entry hpaired entry hmem rfl
    · intro hunpaired
      exact (List.mem_append.mp (hperm.mem_iff.mpr hentry)).resolve_left
        hunpaired
  rw [free, List.mem_filter, and_iff_right hentry] at hfree
  rw [Bool.eq_iff_iff, hfree, decide_eq_true_eq]

theorem perm_paired_unpaired :
    (pairedEntries external tolerance internal ++
      unpaired external tolerance internal).Perm external.zipIdx := by
  rw [← free_eq_unpaired]
  exact perm_paired_free external tolerance internal

theorem pairs_fst :
    (pairs external tolerance internal).map Prod.fst = internal := by
  have hfst := choices_fst (fits tolerance) internal external.zipIdx
  rwa [assign_zipIdx] at hfst

end Assigned

/-! ## The items -/

/-- The loop over the internal transactions. -/
theorem foldl_matchInternal (internal : List InternalTransaction)
    (items : List ReconciliationItem) (matchedExternal : List Bool) :
    internal.foldl (matchInternal newIds runId external tolerance)
        ⟨items, matchedExternal⟩ =
      ⟨((pairsFrom external tolerance internal matchedExternal).filterMap
          (pairItem runId)).foldl (push newIds) items,
        flagsAfter external tolerance internal matchedExternal⟩ := by
  induction internal generalizing items matchedExternal with
  | nil => rfl
  | cons first rest ih =>
      rw [List.foldl_cons, flagsAfter_cons, pairsFrom, matchInternal, ih]
      congr 1
      cases findMatch external tolerance first matchedExternal with
      | none => rfl
      | some entry =>
          by_cases hdiffers : 0 < |minus first.amount entry.1.amount|
          · rw [List.filterMap_cons_some (pairItem_of_differs runId hdiffers),
              List.foldl_cons]
            simp only [if_pos hdiffers]
          · rw [List.filterMap_cons_none (pairItem_of_silent runId hdiffers)]
            simp only [if_neg hdiffers]

theorem matchTransactions_eq (internal : List InternalTransaction) :
    matchTransactions newIds runId external tolerance internal =
      numbered newIds (drafts runId external tolerance internal) := by
  rw [matchTransactions, foldl_matchInternal, foldl_reportUnmatched,
    free_eq_unpaired, drafts, ← foldl_push_numbered]
  congr 1
  exact foldl_push_numbered newIds [] _

variable (internal : List InternalTransaction) {item : Uuid → ReconciliationItem}
  {Observed : Type}

theorem mem_drafts (hitem : item ∈ drafts runId external tolerance internal) :
    (∃ transaction entry, item = amountMismatch runId transaction entry) ∨
      (∃ transaction, item = missingExternal runId transaction) ∨
        ∃ entry, item = missingInternal runId entry := by
  rw [drafts, List.mem_append, List.mem_filterMap, List.mem_map] at hitem
  rcases hitem with ⟨pair, -, hpair⟩ | ⟨entry, -, hentry⟩
  · rcases pairItem_eq_some hpair with ⟨entry, -, rfl⟩ | ⟨-, rfl⟩
    · exact Or.inl ⟨pair.1, entry.1, rfl⟩
    · exact Or.inr (Or.inl ⟨pair.1, rfl⟩)
  · exact Or.inr (Or.inr ⟨entry.1, hentry.symm⟩)

theorem draft_eq (hitem : item ∈ drafts runId external tolerance internal)
    (itemId : Uuid) : item itemId = { item 0 with itemId := itemId } := by
  rcases mem_drafts runId external tolerance internal hitem with
    ⟨transaction, entry, rfl⟩ | ⟨transaction, rfl⟩ | ⟨entry, rfl⟩ <;> rfl

/-- What does not depend on the identifier of an item can be read off the
drafts. -/
theorem map_matchTransactions (observe : ReconciliationItem → Observed)
    (hobserve : ∀ item itemId,
      observe { item with itemId := itemId } = observe item) :
    (matchTransactions newIds runId external tolerance internal).map observe =
      (drafts runId external tolerance internal).map fun item =>
        observe (item 0) := by
  rw [matchTransactions_eq]
  apply List.ext_getElem
  · simp [numbered]
  · intro position hleft hright
    simp only [numbered, List.getElem_map, List.getElem_mapIdx]
    rw [draft_eq runId external tolerance internal (List.getElem_mem _)]
    exact hobserve _ _

end Loops

/-! ## Totals -/

section Totals

variable [DecimalArithmetic]

def internalTotal (internal : List InternalTransaction) : ℚ :=
  (internal.map InternalTransaction.amount).foldl plus 0

def externalTotal (external : List ExternalTransaction) : ℚ :=
  (external.map ExternalTransaction.amount).foldl plus 0

def discrepancyAmount (items : List ReconciliationItem) : ℚ :=
  (items.map fun item => |item.difference|).foldl plus 0

end Totals

/-! ## Conservation

If `Decimal` is taken as exact. -/

section Conservation

open scoped Exact

theorem internalTotal_eq (internal : List InternalTransaction) :
    internalTotal internal =
      (internal.map InternalTransaction.amount).sum :=
  List.sum_eq_foldl.symm

theorem externalTotal_eq (external : List ExternalTransaction) :
    externalTotal external =
      (external.map ExternalTransaction.amount).sum :=
  List.sum_eq_foldl.symm

/-- What an item contributes to the difference of the totals. -/
def ReconciliationItem.imbalance (item : ReconciliationItem) : ℚ :=
  item.internalAmount - item.externalAmount

/-- What the item of a pair contributes, if there is one. -/
def pairImbalance (pair : InternalTransaction × Option Entry) : ℚ :=
  pair.1.amount - (pair.2.map fun entry => entry.1.amount).getD 0

variable (newIds : ℕ → Uuid) (runId : Uuid)
  (external : List ExternalTransaction) (tolerance : ℚ)
  (internal : List InternalTransaction)

/-- The stored difference of an item is what it contributes, up to sign. -/
theorem abs_difference_eq {item : ReconciliationItem}
    (hitem : item ∈ matchTransactions newIds runId external tolerance
      internal) : |item.difference| = |item.imbalance| := by
  rw [matchTransactions_eq, numbered, List.mem_mapIdx] at hitem
  obtain ⟨position, hposition, rfl⟩ := hitem
  rcases mem_drafts runId external tolerance internal
    (List.getElem_mem hposition) with
    ⟨transaction, entry, hdraft⟩ | ⟨transaction, hdraft⟩ | ⟨entry, hdraft⟩
  · rw [hdraft]
    exact abs_abs _
  · rw [hdraft]
    exact congrArg abs (sub_zero transaction.amount).symm
  · rw [hdraft]
    exact (abs_neg entry.amount).symm.trans
      (congrArg abs (zero_sub entry.amount).symm)

variable (pairing : List (InternalTransaction × Option Entry))

theorem sum_pairItems :
    ((pairing.filterMap (pairItem runId)).map fun item =>
        (item 0).imbalance).sum =
      (pairing.map pairImbalance).sum := by
  induction pairing with
  | nil => rfl
  | cons pair pairing ih =>
      obtain ⟨transaction, found⟩ := pair
      rw [List.map_cons, List.sum_cons]
      cases found with
      | none =>
          have hitem : pairItem runId (transaction, none) =
              some (missingExternal runId transaction) := rfl
          rw [List.filterMap_cons_some hitem, List.map_cons, List.sum_cons,
            ih]
          rfl
      | some entry =>
          by_cases hdiffers : 0 < |minus transaction.amount entry.1.amount|
          · rw [List.filterMap_cons_some (pairItem_of_differs runId hdiffers),
              List.map_cons, List.sum_cons, ih]
            rfl
          · have hzero : pairImbalance (transaction, some entry) = 0 :=
              abs_nonpos_iff.mp (not_lt.mp hdiffers)
            rw [List.filterMap_cons_none (pairItem_of_silent runId hdiffers),
              ih, hzero, zero_add]

theorem sum_pairImbalance :
    (pairing.map pairImbalance).sum =
      ((pairing.map Prod.fst).map InternalTransaction.amount).sum -
        ((pairing.filterMap Prod.snd).map fun entry => entry.1.amount).sum := by
  induction pairing with
  | nil => exact (sub_zero (0 : ℚ)).symm
  | cons pair pairing ih =>
      obtain ⟨transaction, found⟩ := pair
      rw [List.map_cons, List.map_cons, List.map_cons, List.sum_cons,
        List.sum_cons, ih]
      cases found with
      | none =>
          rw [List.filterMap_cons_none rfl]
          simp only [pairImbalance, Option.map_none, Option.getD_none]
          ring
      | some entry =>
          have hsome : Prod.snd (transaction, some entry) = some entry := rfl
          rw [List.filterMap_cons_some hsome, List.map_cons, List.sum_cons]
          simp only [pairImbalance, Option.map_some, Option.getD_some]
          ring

theorem sum_entries :
    ((pairedEntries external tolerance internal).map fun entry =>
        entry.1.amount).sum +
      ((unpaired external tolerance internal).map fun entry =>
        entry.1.amount).sum = externalTotal external := by
  have hperm := (perm_paired_unpaired external tolerance internal).map
    fun entry => entry.1.amount
  rw [← List.sum_append, ← List.map_append, hperm.sum_eq, map_entries,
    externalTotal_eq]

theorem sum_imbalance :
    ((matchTransactions newIds runId external tolerance internal).map
        ReconciliationItem.imbalance).sum =
      internalTotal internal - externalTotal external := by
  have hunpaired : (((unpaired external tolerance internal).map fun entry =>
        missingInternal runId entry.1).map fun item =>
          (item 0).imbalance).sum =
      -((unpaired external tolerance internal).map fun entry =>
        entry.1.amount).sum := by
    rw [List.sum_neg, List.map_map, List.map_map]
    apply congrArg List.sum
    apply List.map_congr_left
    intro entry _
    exact zero_sub entry.1.amount
  calc ((matchTransactions newIds runId external tolerance internal).map
        ReconciliationItem.imbalance).sum
      = ((pairs external tolerance internal).map pairImbalance).sum +
          -((unpaired external tolerance internal).map fun entry =>
            entry.1.amount).sum := by
        rw [map_matchTransactions _ _ _ _ _ _ fun _ _ => rfl, drafts,
          List.map_append, List.sum_append, sum_pairItems, hunpaired]
    _ = internalTotal internal -
          ((pairedEntries external tolerance internal).map fun entry =>
            entry.1.amount).sum +
          -((unpaired external tolerance internal).map fun entry =>
            entry.1.amount).sum := by
        rw [sum_pairImbalance, pairs_fst, pairedEntries, internalTotal_eq]
    _ = internalTotal internal - externalTotal external := by
        rw [← sum_entries external tolerance internal]
        ring

theorem discrepancyAmount_eq :
    discrepancyAmount (matchTransactions newIds runId external tolerance
        internal) =
      ((matchTransactions newIds runId external tolerance internal).map
        fun item => |item.imbalance|).sum := by
  refine List.sum_eq_foldl.symm.trans (congrArg List.sum ?_)
  apply List.map_congr_left
  intro item hitem
  exact abs_difference_eq newIds runId external tolerance internal hitem

theorem abs_sum_le (values : List ℚ) : |values.sum| ≤ (values.map abs).sum := by
  have hle := Multiset.abs_sum_le_sum_abs (s := (values : Multiset ℚ))
  rwa [Multiset.map_coe, Multiset.sum_coe, Multiset.sum_coe] at hle

/-- Every internal transaction is in one pair with at most one entry, every
entry is in at most one pair, the items are those of the pairs with different
amounts and of the transactions on either side without a partner, and they
account for the difference of the totals. -/
theorem match_transactions_conserves :
    (pairs external tolerance internal).map Prod.fst = internal ∧
      (pairedEntries external tolerance internal).Nodup ∧
      (pairedEntries external tolerance internal ++
        unpaired external tolerance internal).Perm external.zipIdx ∧
      matchTransactions newIds runId external tolerance internal =
        numbered newIds
          ((pairs external tolerance internal).filterMap (pairItem runId) ++
            (unpaired external tolerance internal).map fun entry =>
              missingInternal runId entry.1) ∧
      ((matchTransactions newIds runId external tolerance internal).map
          fun item => item.internalAmount - item.externalAmount).sum =
        internalTotal internal - externalTotal external ∧
      |internalTotal internal - externalTotal external| ≤
        discrepancyAmount
          (matchTransactions newIds runId external tolerance internal) := by
  have hperm := perm_paired_unpaired external tolerance internal
  have hnodup := hperm.nodup_iff.mpr
    (List.Nodup.of_map Prod.snd (List.nodup_zipIdx_map_snd external))
  refine ⟨pairs_fst external tolerance internal,
    (List.nodup_append.mp hnodup).1, hperm,
    matchTransactions_eq newIds runId external tolerance internal,
    sum_imbalance newIds runId external tolerance internal, ?_⟩
  rw [← sum_imbalance newIds runId external tolerance internal,
    discrepancyAmount_eq]
  have hle := abs_sum_le ((matchTransactions newIds runId external tolerance
    internal).map ReconciliationItem.imbalance)
  rwa [List.map_map] at hle

end Conservation

/-! ## A statement with the same transactions -/

section Keys

/-- What matching looks at. -/
abbrev Key := String × ℚ

def InternalTransaction.key (internal : InternalTransaction) : Key :=
  (internal.reference, internal.amount)

def ExternalTransaction.key (external : ExternalTransaction) : Key :=
  (external.reference, external.amount)

/-- `is_match` on keys. -/
def keysMatch (tolerance : ℚ) (first second : Key) : Bool :=
  !first.1.isEmpty && !second.1.isEmpty && first.1 == second.1 &&
    decide (|first.2 - second.2| ≤ tolerance)

theorem refMatch_and_iff {first second : String} {amountMatch : Bool} :
    (!first.isEmpty && !second.isEmpty && first == second && amountMatch) =
        true ↔
      first ≠ "" ∧ first = second ∧ amountMatch = true := by
  simp only [Bool.and_eq_true, Bool.not_eq_true', beq_iff_eq,
    String.isEmpty_eq_false_iff]
  constructor
  · intro hmatch
    exact ⟨hmatch.1.1.1, hmatch.1.2, hmatch.2⟩
  · intro hmatch
    exact ⟨⟨⟨hmatch.1, hmatch.2.1 ▸ hmatch.1⟩, hmatch.2.1⟩, hmatch.2.2⟩

theorem keysMatch_iff {tolerance : ℚ} {first second : Key} :
    keysMatch tolerance first second = true ↔
      first.1 ≠ "" ∧ first.1 = second.1 ∧
        |first.2 - second.2| ≤ tolerance := by
  rw [keysMatch, refMatch_and_iff, decide_eq_true_eq]

/-- Amounts of one reference that lie within the tolerance of each other
occur in the same order on both sides. -/
def KeepsOrder (tolerance : ℚ) (internal external : List Key) : Prop :=
  ∀ (reference : String) (first second : ℚ), first ≠ second →
    |first - second| ≤ tolerance →
      occurrences (reference, first) (reference, second) internal =
        occurrences (reference, first) (reference, second) external

theorem keysMatch_symm (tolerance : ℚ) (first second : Key)
    (hmatch : keysMatch tolerance first second = true) :
    keysMatch tolerance second first = true := by
  rw [keysMatch_iff] at hmatch ⊢
  obtain ⟨hreference, hsame, hamount⟩ := hmatch
  exact ⟨hsame ▸ hreference, hsame.symm, abs_sub_comm first.2 second.2 ▸ hamount⟩

theorem sameOrder_iff_keepsOrder {tolerance : ℚ}
    {left right : List Key}
    (hreferences : ∀ key ∈ left, key.1 ≠ "") (hperm : left.Perm right) :
    SameOrder (keysMatch tolerance) left right ↔
      KeepsOrder tolerance left right := by
  constructor
  · intro hsame reference first second hne hclose
    by_cases hempty : reference = ""
    · have hnone : ∀ list : List Key, (∀ key ∈ list, key.1 ≠ "") →
          occurrences (reference, first) (reference, second) list = [] := by
        intro list hlist
        apply occurrences_eq_nil
        intro key hkey hpair
        apply hlist key hkey
        rcases hpair with rfl | rfl <;> exact hempty
      rw [hnone left hreferences, hnone right fun key hkey =>
        hreferences key (hperm.mem_iff.mpr hkey)]
    · apply hsame
      · intro hpair
        exact hne (congrArg Prod.snd hpair)
      · exact keysMatch_iff.mpr ⟨hempty, rfl, hclose⟩
  · intro hkeeps first second hne hmatch
    obtain ⟨firstReference, firstAmount⟩ := first
    obtain ⟨secondReference, secondAmount⟩ := second
    obtain ⟨-, hreference, hclose⟩ := keysMatch_iff.mp hmatch
    obtain rfl : firstReference = secondReference := hreference
    apply hkeeps firstReference firstAmount secondAmount _ hclose
    intro hamount
    exact hne (congrArg (Prod.mk firstReference) hamount)

/-- Both sides hold the same references and amounts, close ones in the same
order, and every transaction matches itself. -/
structure Mirrored (tolerance : ℚ) (internal external : List Key) : Prop where
  references : ∀ key ∈ internal, key.1 ≠ ""
  nonneg : internal ≠ [] → 0 ≤ tolerance
  perm : internal.Perm external
  order : KeepsOrder tolerance internal external

/-- First fit gives every key its own copy exactly if the sides mirror each
other. -/
theorem exact_keys_iff (tolerance : ℚ) (left right : List Key) :
    (assign (keysMatch tolerance) left right).Exact ↔
      Mirrored tolerance left right := by
  rw [exact_iff (keysMatch_symm tolerance)]
  have hself : ∀ key : Key, keysMatch tolerance key key = true ↔
      key.1 ≠ "" ∧ 0 ≤ tolerance := by
    intro key
    rw [keysMatch_iff, sub_self, abs_zero, and_iff_right rfl]
  constructor
  · rintro ⟨hrefl, hperm, horder⟩
    have hreferences : ∀ key ∈ left, key.1 ≠ "" :=
      fun key hkey => ((hself key).mp (hrefl key hkey)).1
    refine ⟨hreferences, fun hne => ?_, hperm,
      (sameOrder_iff_keepsOrder hreferences hperm).mp horder⟩
    obtain ⟨key, hkey⟩ := List.exists_mem_of_ne_nil left hne
    exact ((hself key).mp (hrefl key hkey)).2
  · intro hmirrored
    refine ⟨fun key hkey => (hself key).mpr ⟨hmirrored.references key hkey,
      hmirrored.nonneg (List.ne_nil_of_mem hkey)⟩, hmirrored.perm, ?_⟩
    exact (sameOrder_iff_keepsOrder hmirrored.references
      hmirrored.perm).mpr hmirrored.order

variable [DecimalArithmetic] {external : List ExternalTransaction}
  {tolerance : ℚ} {internal : List InternalTransaction}

theorem isMatch_iff {transaction : InternalTransaction}
    {entry : ExternalTransaction} :
    isMatch transaction entry tolerance = true ↔
      transaction.reference ≠ "" ∧
        transaction.reference = entry.reference ∧
          |minus transaction.amount entry.amount| ≤ tolerance := by
  rw [isMatch, refMatch_and_iff, decide_eq_true_eq]

/-- The differences between amounts of one reference are exact: they have at
most 28 decimals and 96 bits. -/
def ExactDifferences (external : List ExternalTransaction)
    (internal : List InternalTransaction) : Prop :=
  ∀ transaction ∈ internal, ∀ entry ∈ external,
    transaction.reference = entry.reference →
      minus transaction.amount entry.amount =
        transaction.amount - entry.amount

theorem mem_of_mem_pairs {transaction : InternalTransaction} {entry : Entry}
    (hpair : (transaction, some entry) ∈ pairs external tolerance internal) :
    transaction ∈ internal ∧ entry.1 ∈ external ∧
      isMatch transaction entry.1 tolerance = true := by
  refine ⟨?_, ?_, ?_⟩
  · rw [← pairs_fst external tolerance internal]
    exact List.mem_map_of_mem hpair
  · have hpaired : entry ∈ pairedEntries external tolerance internal :=
      List.mem_filterMap.mpr ⟨_, hpair, rfl⟩
    have hentry : entry ∈ external.zipIdx :=
      (perm_paired_unpaired external tolerance internal).subset
        (List.mem_append_left _ hpaired)
    rw [← List.zipIdx_map_fst 0 external]
    exact List.mem_map_of_mem hentry
  · have hchoice : (transaction, some entry) ∈
        (assign (fits tolerance) internal external.zipIdx).choices := by
      rw [assign_zipIdx]
      exact hpair
    exact fits_of_mem_choices (fits tolerance) hchoice

/-- Nothing is paired exactly if nothing matches. -/
theorem pairedEntries_eq_nil_iff :
    pairedEntries external tolerance internal = [] ↔
      ∀ transaction ∈ internal, ∀ entry ∈ external,
        isMatch transaction entry tolerance = false := by
  have htaken := taken_eq_nil_iff (fits tolerance) internal external.zipIdx
  rw [assign_zipIdx] at htaken
  refine htaken.trans (forall₂_congr fun transaction _ => ?_)
  conv_rhs => rw [← List.zipIdx_map_fst 0 external, List.forall_mem_map]
  rfl

section Differences

variable (hexact : ExactDifferences external internal)
include hexact

theorem assign_keys (tolerance : ℚ) :
    assign (keysMatch tolerance) (internal.map InternalTransaction.key)
        (external.map ExternalTransaction.key) =
      ⟨(pairs external tolerance internal).map
          (Prod.map InternalTransaction.key
            (Option.map fun entry => entry.1.key)),
        (unpaired external tolerance internal).map fun entry =>
          entry.1.key⟩ := by
  have hfits : ∀ transaction ∈ internal, ∀ entry ∈ external.zipIdx,
      keysMatch tolerance transaction.key entry.1.key =
        fits tolerance transaction entry := by
    intro transaction htransaction entry hentry
    rw [Bool.eq_iff_iff, keysMatch_iff, fits, isMatch_iff]
    refine and_congr_right fun _ => and_congr_right fun hreference => ?_
    rw [hexact transaction htransaction entry.1
      (List.zipIdx_map_fst 0 external ▸ List.mem_map_of_mem hentry) hreference]
    rfl
  rw [← map_entries, assign_map (fits tolerance) (keysMatch tolerance) _ _
    hfits, assign_zipIdx, free_eq_unpaired]

theorem pairItem_eq_none_iff (runId : Uuid)
    {pair : InternalTransaction × Option Entry}
    (hpair : pair ∈ pairs external tolerance internal) :
    pairItem runId pair = none ↔
      pair.2.map (fun entry => entry.1.key) = some pair.1.key := by
  obtain ⟨transaction, found⟩ := pair
  cases found with
  | none =>
      constructor
      · intro hnone
        cases hnone
      · intro hsome
        cases hsome
  | some entry =>
      obtain ⟨htransaction, hentry, hmatch⟩ := mem_of_mem_pairs hpair
      have hreference := (isMatch_iff.mp hmatch).2.1
      have hminus := hexact transaction htransaction entry.1 hentry hreference
      rw [pairItem, hminus, ite_eq_right_iff, Option.map_some,
        Option.some.injEq]
      constructor
      · intro hnone
        by_contra hne
        refine Option.some_ne_none _ (hnone (abs_sub_pos.mpr fun hamount => ?_))
        exact hne (Prod.ext hreference.symm hamount.symm)
      · intro hkey hpos
        exact absurd (congrArg Prod.snd hkey).symm (abs_sub_pos.mp hpos)

/-- There is no item exactly if the two lists mirror each other. -/
theorem matchTransactions_eq_nil_iff (newIds : ℕ → Uuid) (runId : Uuid) :
    matchTransactions newIds runId external tolerance internal = [] ↔
      Mirrored tolerance (internal.map InternalTransaction.key)
        (external.map ExternalTransaction.key) := by
  rw [← exact_keys_iff, matchTransactions_eq, numbered,
    List.mapIdx_eq_nil_iff, drafts, List.append_eq_nil_iff,
    List.map_eq_nil_iff, List.filterMap_eq_nil_iff, assign_keys hexact,
    Assignment.Exact, List.map_eq_nil_iff, List.forall_mem_map]
  apply and_congr_left
  intro _
  apply forall₂_congr
  intro pair hpair
  exact pairItem_eq_none_iff hexact runId hpair

end Differences

end Keys

namespace Samples

def internalOf (transactionId : String) (amount : ℚ) :
    InternalTransaction where
  transactionId := transactionId
  reference := "INV-7"
  amount := amount
  currency := "USD"
  status := "completed"
  timestamp := 0

def externalOf (externalId : String) (amount : ℚ) : ExternalTransaction where
  externalId := externalId
  reference := "INV-7"
  amount := amount
  currency := "USD"
  status := "completed"
  timestamp := 0

/-- Two payments of one invoice. -/
def payments : List InternalTransaction :=
  [internalOf "t1" 1, internalOf "t2" 2]

/-- The provider lists them in the other order. -/
def statement : List ExternalTransaction :=
  [externalOf "e2" 2, externalOf "e1" 1]

end Samples

end UssdKernel.Reconciliation
