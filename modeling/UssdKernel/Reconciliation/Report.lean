import UssdKernel.Reconciliation.Unmatched

/-!
# The stored report

The matcher names the side on which a transaction is missing, the schema the
side that has it: `kernel_only` is "in kernel, not in provider".
`map_discrepancy_to_mismatch` takes the one for the other, so that the rows of
kind `kernel_only` are the unmatched external transactions and those of kind
`provider_only` the unmatched internal ones.  `save_run` stores all records as
kernel transactions, all discrepancies as unmatched kernel transactions, and
zero for the provider.

The stored report says what its columns say only of two empty lists.
-/

namespace UssdKernel.Reconciliation

open UssdKernel.KeyedTables

/-! ## What a report should say -/

/-- The rows of a report of one kind. -/
def rowsOfKind (store : Store) (runId : Uuid) (kind : MismatchType) :
    List MismatchRow :=
  store.mismatches.rows.filter fun row =>
    row.reportId = runId ∧ row.mismatchType = kind

/-- The rows of kind `kernel_only` are the unmatched internal transactions,
those of kind `provider_only` the unmatched external ones, and the report has
the lengths of the two lists and the numbers of these rows. -/
structure StoredReport [AmountText] (store : Store) (runId : Uuid)
    (external : List ExternalTransaction) (tolerance : ℚ)
    (internal : List InternalTransaction) (report : ReportRow) : Prop where
  kernelOnly : ((rowsOfKind store runId .kernelOnly).map fun row =>
      (row.kernelReference, row.kernelAmount)).Perm
    ((unmatchedInternal external tolerance internal).map fun transaction =>
      (transaction.transactionId, AmountText.toText transaction.amount))
  providerOnly : ((rowsOfKind store runId .providerOnly).map fun row =>
      (row.providerReference, row.providerAmount)).Perm
    ((unmatchedExternal external tolerance internal).map fun transaction =>
      (transaction.externalId, AmountText.toText transaction.amount))
  kernelCount : report.kernelTransactionCount.toInt = internal.length
  providerCount : report.providerTransactionCount.toInt = external.length
  unmatchedKernel : report.unmatchedKernelCount.toInt =
    (rowsOfKind store runId .kernelOnly).length
  unmatchedProvider : report.unmatchedProviderCount.toInt =
    (rowsOfKind store runId .providerOnly).length

/-! ## The rows of a completed run -/

/-- What a row says, without its identifier and its times. -/
structure Content where
  reportId : Uuid
  mismatchType : MismatchType
  kernelReference : String
  kernelAmount : String
  providerReference : String
  providerAmount : String

/-- The row belongs to the report and is of the kind. -/
def Content.isOfKind (runId : Uuid) (kind : MismatchType) (content : Content) :
    Bool :=
  content.reportId = runId ∧ content.mismatchType = kind

def MismatchRow.content (row : MismatchRow) : Content where
  reportId := row.reportId
  mismatchType := row.mismatchType
  kernelReference := row.kernelReference
  kernelAmount := row.kernelAmount
  providerReference := row.providerReference
  providerAmount := row.providerAmount

section Rows

variable [AmountText] {store after : Store}

def ReconciliationItem.content (item : ReconciliationItem) : Content :=
  (item.row 0).content

theorem saveItem_rows {item : ReconciliationItem} {createdAt : DateTime}
    {failure : Option String} {value : Unit}
    (hok : saveItem store item createdAt failure = (.ok value, after))
    (hfresh : store.mismatches.lookup item.itemId = none) :
    after.mismatches.rows = store.mismatches.rows ++ [item.row createdAt] := by
  cases failure with
  | some message => cases hok
  | none =>
      cases hok
      exact Table.rows_upsert_of_none _ _ _ _ hfresh

/-- Items with fresh identifiers are appended as rows with their contents. -/
theorem saveItems_rows {env : RunEnv} {call : ℕ}
    {items : List ReconciliationItem} {value : Unit}
    (hok : saveItems env call items store = (.ok value, after))
    (hfresh : FreshItems store items) :
    ∃ added, after.mismatches.rows = store.mismatches.rows ++ added ∧
      added.map MismatchRow.content =
        items.map ReconciliationItem.content := by
  induction items generalizing call store with
  | nil =>
      cases hok
      exact ⟨[], (List.append_nil _).symm, rfl⟩
  | cons item items ih =>
      obtain ⟨saved, hsaved, hrest⟩ := saveItems_cons_ok hok
      have hnodup := hfresh.1
      rw [List.map_cons, List.nodup_cons] at hnodup
      have hlater : FreshItems saved items := by
        refine ⟨hnodup.2, fun other hother => ?_⟩
        have hne : other.itemId ≠ item.itemId := by
          intro hsame
          exact hnodup.1 (hsame ▸ List.mem_map_of_mem hother)
        rw [saveItem_ok hsaved, if_neg hne]
        exact hfresh.2 other (List.mem_cons_of_mem _ hother)
      obtain ⟨added, hrows, hcontents⟩ := ih hrest hlater
      refine ⟨item.row (env.insertedAt call) :: added, ?_, ?_⟩
      · rw [hrows, saveItem_rows hsaved (hfresh.2 item List.mem_cons_self),
          List.append_assoc]
        rfl
      · rw [List.map_cons, List.map_cons, hcontents]
        rfl

/-! ## The contents by kind -/

section Contents

variable (runId : Uuid) (external : List ExternalTransaction) (tolerance : ℚ)
  (internal : List InternalTransaction)

theorem contents_matchTransactions (newIds : ℕ → Uuid) :
    (matchTransactions newIds runId external tolerance internal).map
        ReconciliationItem.content =
      (drafts runId external tolerance internal).map fun item =>
        (item 0).content :=
  map_matchTransactions newIds runId external tolerance internal _
    fun _ _ => rfl

/-- The contents of a kind are those of the items of its type. -/
theorem contents_ofKind (type : DiscrepancyType) {kind : MismatchType}
    (hkind : ∀ other ∈ [.amountMismatch, .missingExternal, .missingInternal],
      mapDiscrepancyToMismatch other = kind ↔ other = type) :
    ((drafts runId external tolerance internal).map fun item =>
        (item 0).content).filter (Content.isOfKind runId kind) =
      ((drafts runId external tolerance internal).filter (ofType type)).map
        fun item => (item 0).content := by
  rw [List.filter_map]
  congr 1
  apply List.filter_congr
  intro item hitem
  have hcontent : ∀ other ∈ [.amountMismatch, .missingExternal,
      .missingInternal], decide (runId = runId ∧
        mapDiscrepancyToMismatch other = kind) = decide (other = type) := by
    intro other hother
    rw [decide_eq_decide, eq_self, true_and]
    exact hkind other hother
  rcases mem_drafts runId external tolerance internal hitem with
    ⟨transaction, entry, rfl⟩ | ⟨transaction, rfl⟩ | ⟨entry, rfl⟩
  · exact hcontent .amountMismatch (by decide)
  · exact hcontent .missingExternal (by decide)
  · exact hcontent .missingInternal (by decide)

end Contents

section Completed

variable {env : RunEnv} {request : RunRequest} {store after : Store}
  {run : ReconciliationRun} {internal : List InternalTransaction}
  {external : List ExternalTransaction}

/-- No row of the store belongs to the new run, and its items get identifiers of
their own. -/
structure FreshRun (store : Store) (env : RunEnv)
    (items : List ReconciliationItem) : Prop where
  items : FreshItems store items
  report : ∀ row ∈ store.mismatches.rows, row.reportId ≠ env.runId

section Run

variable (hinternal : env.internalTransactions = .ok internal)
  (hexternal : env.externalTransactions = .ok external)
  (hok : startReconciliation env request store = (.ok run, after))
include hinternal hexternal hok

/-- The report that a completed run leaves. -/
theorem report_of_completed :
    ∃ report, after.reports.lookup env.runId = some report ∧
      report.kernelTransactionCount =
        Int32.ofNat (internal.length + external.length) ∧
      report.providerTransactionCount = 0 ∧
      report.unmatchedKernelCount =
        Int32.ofNat (matchTransactions env.newIds env.runId external
          request.tolerance internal).length ∧
      report.unmatchedProviderCount = 0 := by
  obtain ⟨started, saved, -, -, hsaved, hrun⟩ :=
    startReconciliation_ok hinternal hexternal hok
  have hrunId : env.runId = run.runId :=
    (congrArg ReconciliationRun.runId hrun).symm
  have hlookup := (saveRun_ok hsaved).2 env.runId
  rw [if_pos hrunId] at hlookup
  have hcount : run.discrepancyCount = Int32.ofNat (matchTransactions
      env.newIds env.runId external request.tolerance internal).length := by
    rw [hrun, discrepancyCount_finished]
  refine ⟨_, hlookup, ?_⟩
  rw [← hcount, hrun]
  cases saved.reports.lookup env.runId <;> exact ⟨rfl, rfl, rfl, rfl⟩

variable (hfresh : FreshRun store env (matchTransactions env.newIds env.runId
  external request.tolerance internal))
include hfresh

theorem contents_rowsOfKind (kind : MismatchType) :
    (rowsOfKind after env.runId kind).map MismatchRow.content =
      ((drafts env.runId external request.tolerance internal).map fun item =>
        (item 0).content).filter (Content.isOfKind env.runId kind) := by
  obtain ⟨started, saved, hstarted, hitems, hsaved, -⟩ :=
    startReconciliation_ok hinternal hexternal hok
  have hbefore : started.mismatches = store.mismatches :=
    (saveRun_ok hstarted).1
  have hstartedFresh : FreshItems started (matchTransactions env.newIds
      env.runId external request.tolerance internal) := by
    rw [FreshItems, hbefore]
    exact hfresh.items
  obtain ⟨added, hrows, hcontents⟩ := saveItems_rows hitems hstartedFresh
  have hold : store.mismatches.rows.filter (fun row =>
      row.reportId = env.runId ∧ row.mismatchType = kind) = [] := by
    apply List.filter_eq_nil_iff.mpr
    intro row hrow hsame
    exact hfresh.report row hrow (of_decide_eq_true hsame).1
  rw [← contents_matchTransactions env.runId external request.tolerance
    internal env.newIds, ← hcontents, List.filter_map, rowsOfKind,
    (saveRun_ok hsaved).1, hrows, hbefore, List.filter_append, hold,
    List.nil_append]
  rfl

/-- The rows of kind `kernel_only` are the unmatched external transactions. -/
theorem contents_kernelOnly :
    (rowsOfKind after env.runId .kernelOnly).map MismatchRow.content =
      (unmatchedExternal external request.tolerance internal).map
        fun transaction =>
          (missingInternal env.runId transaction 0).content := by
  rw [contents_rowsOfKind hinternal hexternal hok hfresh,
    contents_ofKind _ _ _ _ .missingInternal (by decide),
    filter_missingInternal, List.map_map]
  rfl

/-- The rows of kind `provider_only` are the unmatched internal
transactions. -/
theorem contents_providerOnly :
    (rowsOfKind after env.runId .providerOnly).map MismatchRow.content =
      (unmatchedInternal external request.tolerance internal).map
        fun transaction =>
          (missingExternal env.runId transaction 0).content := by
  rw [contents_rowsOfKind hinternal hexternal hok hfresh,
    contents_ofKind _ _ _ _ .missingExternal (by decide),
    filter_missingExternal, List.map_map]
  rfl

end Run

/-- The stored report of a completed run says what its columns say exactly if
there is no transaction on either side. -/
theorem stored_report_iff
    (hinternal : env.internalTransactions = .ok internal)
    (hexternal : env.externalTransactions = .ok external)
    (hok : startReconciliation env request store = (.ok run, after))
    (hfresh : FreshRun store env (matchTransactions env.newIds env.runId
      external request.tolerance internal)) :
    (∃ report, after.reports.lookup env.runId = some report ∧
        StoredReport after env.runId external request.tolerance internal
          report) ↔
      internal = [] ∧ external = [] := by
  have hkernel := congrArg List.length
    (contents_kernelOnly hinternal hexternal hok hfresh)
  have hprovider := congrArg List.length
    (contents_providerOnly hinternal hexternal hok hfresh)
  obtain ⟨report, hlookup, hcount, hnone, hunmatched, hunmatchedNone⟩ :=
    report_of_completed hinternal hexternal hok
  rw [List.length_map, List.length_map] at hkernel hprovider
  constructor
  · rintro ⟨other, hother, hreport⟩
    obtain rfl := Option.some.inj (hlookup.symm.trans hother)
    have hlength := hreport.providerCount
    rw [hnone] at hlength
    have hempty : external = [] :=
      List.eq_nil_of_length_eq_zero (Int.natCast_eq_zero.mp hlength.symm)
    subst hempty
    have hrows := hreport.kernelOnly.length_eq
    have hpaired := length_external [] request.tolerance internal
    have hlengths := length_internal [] request.tolerance internal
    rw [List.length_map, List.length_map, hkernel] at hrows
    rw [List.length_nil] at hpaired
    exact ⟨List.eq_nil_of_length_eq_zero (by omega), rfl⟩
  · rintro ⟨rfl, rfl⟩
    have hnoKernel := List.eq_nil_of_length_eq_zero hkernel
    have hnoProvider := List.eq_nil_of_length_eq_zero hprovider
    refine ⟨report, hlookup, ?_, ?_, ?_, ?_, ?_, ?_⟩
    · rw [hnoKernel]
      exact List.Perm.refl _
    · rw [hnoProvider]
      exact List.Perm.refl _
    · rw [hcount]
      rfl
    · rw [hnone]
      rfl
    · rw [hunmatched, hnoKernel]
      rfl
    · rw [hunmatchedNone, hnoProvider]
      rfl

end Completed

end Rows

open Samples in
/-- The report of an internal and an external transaction that do not match:
`kernel_only` names the external one, and the provider has no transaction. -/
theorem report_exchanges_sides :
    let after := (startReconciliation unmatched request emptyStore).2
    (rowsOfKind after 9 .kernelOnly).map MismatchRow.kernelReference = ["e1"] ∧
      (rowsOfKind after 9 .providerOnly).map MismatchRow.providerReference =
        ["t1"] ∧
      ((after.reports.lookup 9).map fun report =>
        (report.kernelTransactionCount, report.providerTransactionCount,
          report.unmatchedKernelCount, report.unmatchedProviderCount)) =
        some (2, 0, 2, 0) ∧
      ¬ ∃ report, after.reports.lookup 9 = some report ∧
        StoredReport after 9 otherEntry request.tolerance invoicePayment
          report := by
  intro after
  have hreport : (after.reports.lookup 9).map (fun report =>
      (report.kernelTransactionCount, report.providerTransactionCount,
        report.unmatchedKernelCount, report.unmatchedProviderCount)) =
      some (2, 0, 2, 0) := by
    decide +kernel
  refine ⟨by decide +kernel, by decide +kernel, hreport, ?_⟩
  rintro ⟨report, hlookup, hstored⟩
  have hcount := hstored.providerCount
  rw [hlookup, Option.map_some, Option.some.injEq, Prod.mk.injEq,
    Prod.mk.injEq] at hreport
  rw [hreport.2.1] at hcount
  cases hcount

open Samples in
theorem stored_report_iff_unmatched :
    ∃ run after,
      startReconciliation unmatched request emptyStore = (.ok run, after) ∧
        ((∃ report, after.reports.lookup unmatched.runId = some report ∧
            StoredReport after unmatched.runId otherEntry request.tolerance
              invoicePayment report) ↔
          invoicePayment = [] ∧ otherEntry = []) := by
  obtain ⟨run, after, hresult⟩ := exists_run unmatched (by decide +kernel)
  exact ⟨run, after, hresult, stored_report_iff rfl rfl hresult
    ⟨freshItems_unmatched, fun row hrow => absurd hrow List.not_mem_nil⟩⟩

end UssdKernel.Reconciliation
