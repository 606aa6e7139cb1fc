import UssdKernel.Reconciliation.ReadBack

/-!
# What is left unmatched

The items of a run are those of the transactions in no pair and of the pairs
with different amounts.  Nothing is said of the other pairs: their currencies
and states are not compared, and `matched_count` counts the resolved items, of
which a new run has none.
-/

namespace UssdKernel.Reconciliation

section Unmatched

variable [DecimalArithmetic] (newIds : ℕ → Uuid) (runId : Uuid)
  (external : List ExternalTransaction) (tolerance : ℚ)
  (internal : List InternalTransaction)

/-- The internal transactions that are in no pair. -/
def unmatchedInternal : List InternalTransaction :=
  (pairs external tolerance internal).filterMap fun pair =>
    if pair.2 = none then some pair.1 else none

/-- The external transactions that are in no pair. -/
def unmatchedExternal : List ExternalTransaction :=
  (unpaired external tolerance internal).map Prod.fst

omit [DecimalArithmetic] in
/-- The item is of the type. -/
def ofType (type : DiscrepancyType) (item : Uuid → ReconciliationItem) : Bool :=
  (item 0).discrepancyType = type

theorem filter_missingExternal :
    (drafts runId external tolerance internal).filter
        (ofType .missingExternal) =
      (unmatchedInternal external tolerance internal).map
        (missingExternal runId) := by
  have hunpaired : ((unpaired external tolerance internal).map fun entry =>
      missingInternal runId entry.1).filter (ofType .missingExternal) = [] := by
    rw [List.filter_eq_nil_iff, List.forall_mem_map]
    exact fun _ _ => Bool.false_ne_true
  rw [drafts, List.filter_append, hunpaired, List.append_nil,
    List.filter_filterMap, unmatchedInternal, List.map_filterMap]
  congr 1
  funext pair
  obtain ⟨transaction, found⟩ := pair
  cases found with
  | none => rfl
  | some entry =>
      by_cases hdiffers : 0 < |minus transaction.amount entry.1.amount|
      · rw [pairItem_of_differs runId hdiffers]
        rfl
      · rw [pairItem_of_silent runId hdiffers]
        rfl

theorem filter_missingInternal :
    (drafts runId external tolerance internal).filter
        (ofType .missingInternal) =
      (unmatchedExternal external tolerance internal).map
        (missingInternal runId) := by
  have hpairs : ((pairs external tolerance internal).filterMap
      (pairItem runId)).filter (ofType .missingInternal) = [] := by
    rw [List.filter_eq_nil_iff]
    intro item hitem
    obtain ⟨pair, -, hpair⟩ := List.mem_filterMap.mp hitem
    rcases pairItem_eq_some hpair with ⟨entry, -, rfl⟩ | ⟨-, rfl⟩
    · exact Bool.false_ne_true
    · exact Bool.false_ne_true
  have hunpaired : ((unpaired external tolerance internal).map fun entry =>
      missingInternal runId entry.1).filter (ofType .missingInternal) =
        (unpaired external tolerance internal).map fun entry =>
          missingInternal runId entry.1 := by
    rw [List.filter_eq_self, List.forall_mem_map]
    exact fun _ _ => rfl
  rw [drafts, List.filter_append, hpairs, hunpaired, unmatchedExternal,
    List.map_map]
  rfl

/-- The number of items of a type. -/
theorem countP_matchTransactions (type : DiscrepancyType) :
    (matchTransactions newIds runId external tolerance internal).countP
        (·.discrepancyType = type) =
      ((drafts runId external tolerance internal).filter
        (ofType type)).length := by
  have htypes := map_matchTransactions newIds runId external tolerance internal
    ReconciliationItem.discrepancyType fun _ _ => rfl
  have hcount := congrArg (List.countP (· = type)) htypes
  rw [List.countP_map, List.countP_map] at hcount
  exact hcount.trans List.countP_eq_length_filter

theorem length_internal :
    (pairedEntries external tolerance internal).length +
        (unmatchedInternal external tolerance internal).length =
      internal.length := by
  rw [pairedEntries, unmatchedInternal, List.length_filterMap_eq_countP,
    List.length_filterMap_eq_countP]
  conv_rhs => rw [← pairs_fst external tolerance internal, List.length_map,
    List.length_eq_countP_add_countP fun pair => pair.2.isSome]
  congr 2
  funext pair
  obtain ⟨transaction, found⟩ := pair
  cases found with
  | none => rfl
  | some entry => rfl

theorem length_external :
    (pairedEntries external tolerance internal).length +
        (unmatchedExternal external tolerance internal).length =
      external.length := by
  have hlength := (perm_paired_unpaired external tolerance internal).length_eq
  rw [List.length_append, List.length_zipIdx] at hlength
  rw [unmatchedExternal, List.length_map, hlength]

variable {newIds runId external tolerance internal}

end Unmatched

/-- The counts of a run as the pairs and the items of both sides have them. -/
def CountsPairs (run : ReconciliationRun) (items : List ReconciliationItem)
    (paired : List Entry) : Prop :=
  let count type := Int32.ofNat (items.countP (·.discrepancyType = type))
  run.matchedCount.toInt = paired.length ∧
    run.totalRecords = 2 * run.matchedCount + count .missingExternal +
      count .missingInternal

/-- The counts of a run are those of its pairs exactly if no transaction matches
another. -/
theorem countsPairs_iff [AmountText] {env : RunEnv} {request : RunRequest}
    {store after : Store} {run : ReconciliationRun}
    {internal : List InternalTransaction} {external : List ExternalTransaction}
    (hinternal : env.internalTransactions = .ok internal)
    (hexternal : env.externalTransactions = .ok external)
    (hok : startReconciliation env request store = (.ok run, after)) :
    CountsPairs run (matchTransactions env.newIds env.runId external
        request.tolerance internal)
        (pairedEntries external request.tolerance internal) ↔
      ∀ transaction ∈ internal, ∀ entry ∈ external,
        isMatch transaction entry request.tolerance = false := by
  rw [← pairedEntries_eq_nil_iff]
  obtain ⟨_, _, -, -, -, hrun⟩ := startReconciliation_ok hinternal hexternal hok
  have hopen : (matchTransactions env.newIds env.runId external
      request.tolerance internal).filter (fun item => item.resolved) = [] := by
    rw [List.filter_eq_nil_iff]
    intro item hitem
    rw [resolved_of_mem_matchTransactions hitem]
    exact Bool.false_ne_true
  have hmatched : run.matchedCount = 0 := by
    rw [hrun, finished, tallied, hopen]
    rfl
  rw [CountsPairs, hmatched]
  constructor
  · rintro ⟨hlength, -⟩
    exact List.eq_nil_of_length_eq_zero (Int.ofNat_eq_zero.mp hlength.symm)
  · intro hnone
    have hleft := length_internal external request.tolerance internal
    have hright := length_external external request.tolerance internal
    rw [hnone, List.length_nil, zero_add] at hleft hright
    refine ⟨by rw [hnone]; rfl, ?_⟩
    dsimp only
    rw [countP_matchTransactions, countP_matchTransactions,
      filter_missingExternal, filter_missingInternal, List.length_map,
      List.length_map, hleft, hright, hrun]
    simp [finished, tallied, Int32.ofNat_add]

open scoped Samples in
theorem countsPairs_iff_unmatched :
    ∃ run after, startReconciliation Samples.unmatched Samples.request
        Samples.emptyStore = (.ok run, after) ∧
      CountsPairs run Samples.unmatchedItems (pairedEntries
        Samples.otherEntry Samples.request.tolerance
        Samples.invoicePayment) := by
  obtain ⟨run, after, hresult⟩ :=
    Samples.exists_run Samples.unmatched (by decide +kernel)
  exact ⟨run, after, hresult,
    (countsPairs_iff rfl rfl hresult).mpr (by decide +kernel)⟩

open scoped Samples in
/-- Of two records that are paired without an item none counts as matched. -/
theorem paired_records_not_counted :
    let statement := [Samples.externalOf "e1" 5]
    (startReconciliation
        { Samples.unmatched with externalTransactions := .ok statement }
        Samples.request Samples.emptyStore).1.toOption.map (fun run =>
          (run.totalRecords, run.matchedCount)) = some (2, 0) ∧
      pairedEntries statement 0 Samples.invoicePayment =
        [(Samples.externalOf "e1" 5, 0)] := by
  decide +kernel

end UssdKernel.Reconciliation
