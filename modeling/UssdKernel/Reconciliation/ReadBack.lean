import UssdKernel.Reconciliation.Store

/-!
# Reading a run back

A run that `start_reconciliation` has completed is read back by
`get_reconciliation_run` and `get_reconciliation_items`.  They read the amounts
as texts from `NUMERIC` columns, which sqlx refuses, and take 0 for them; and
`partially_resolved` is stored as `completed`.  So a run comes back as it was
returned only if it has no item and both its totals are 0.
-/

namespace UssdKernel.Reconciliation

open UssdKernel.KeyedTables

/-! ## What a completed run has stored -/

section Saved

variable [AmountText]

variable {store after : Store} {value : Unit} {run : ReconciliationRun}
  {failure : Option String}

theorem saveRun_ok (hok : saveRun store run failure = (.ok value, after)) :
    after.mismatches = store.mismatches ∧
      ∀ runId, after.reports.lookup runId =
        if runId = run.runId then
          some ((store.reports.lookup runId).elim run.row run.row.refresh)
        else store.reports.lookup runId := by
  cases failure with
  | some message => cases hok
  | none =>
      cases hok
      refine ⟨rfl, ?_⟩
      intro runId
      exact Table.lookup_upsert store.reports run.row run.row.refresh _ runId

variable {item : ReconciliationItem}

theorem saveItem_ok {createdAt : DateTime}
    (hok : saveItem store item createdAt failure = (.ok value, after)) :
    ∀ itemId, after.mismatches.lookup itemId =
      if itemId = item.itemId then
        some ((store.mismatches.lookup itemId).elim (item.row createdAt)
          (item.row createdAt).refresh)
      else store.mismatches.lookup itemId := by
  cases failure with
  | some message => cases hok
  | none =>
      cases hok
      intro itemId
      exact Table.lookup_upsert store.mismatches (item.row createdAt)
        (item.row createdAt).refresh _ itemId

variable {env : RunEnv} {call : ℕ} {items : List ReconciliationItem}

theorem saveItems_cons_ok
    (hok : saveItems env call (item :: items) store = (.ok value, after)) :
    ∃ saved, saveItem store item (env.insertedAt call)
        (env.storeFailure call) = (.ok (), saved) ∧
      saveItems env (call + 1) items saved = (.ok value, after) := by
  rw [saveItems] at hok
  cases hsaved : saveItem store item (env.insertedAt call)
      (env.storeFailure call) with
  | mk result saved =>
      rw [hsaved] at hok
      cases result with
      | error error => cases hok
      | ok value => exact ⟨saved, rfl, hok⟩

/-- The three stages of a completed run. -/
theorem startReconciliation_ok {request : RunRequest}
    {internal : List InternalTransaction} {external : List ExternalTransaction}
    (hinternal : env.internalTransactions = .ok internal)
    (hexternal : env.externalTransactions = .ok external)
    (hok : startReconciliation env request store = (.ok run, after)) :
    let items := matchTransactions env.newIds env.runId external
      request.tolerance internal
    ∃ started saved,
      saveRun store (runningRun env request) (env.storeFailure 0) =
          (.ok (), started) ∧
        saveItems env 1 items started = (.ok (), saved) ∧
        saveRun saved run (env.storeFailure (items.length + 1)) =
          (.ok (), after) ∧
        run = finished (tallied (runningRun env request) internal external
          items) env.completedAt := by
  intro items
  rw [startReconciliation] at hok
  cases hstarted : saveRun store (runningRun env request)
      (env.storeFailure 0) with
  | mk startResult started =>
      rw [hstarted, hinternal, hexternal] at hok
      cases startResult with
      | error error => cases hok
      | ok startValue =>
          simp only [saveResults] at hok
          cases hsaved : saveItems env 1 items started with
          | mk saveResult saved =>
              rw [hsaved] at hok
              cases saveResult with
              | error error => cases hok
              | ok saveValue =>
                  simp only at hok
                  split at hok
                  · cases hok
                  · next heq =>
                      cases hok
                      exact ⟨started, saved, rfl, hsaved, heq, rfl⟩

end Saved

/-! ## The comparison -/

/-- The two runs agree in the fields that a client compares. -/
structure SameRun (completed read : ReconciliationRun) : Prop where
  status : read.status = completed.status
  totalRecords : read.totalRecords = completed.totalRecords
  matchedCount : read.matchedCount = completed.matchedCount
  discrepancyCount : read.discrepancyCount = completed.discrepancyCount
  discrepancyAmount : read.discrepancyAmount = completed.discrepancyAmount
  internalTotal : read.internalTotal = completed.internalTotal
  externalTotal : read.externalTotal = completed.externalTotal

structure SameItem (saved read : ReconciliationItem) : Prop where
  itemId : read.itemId = saved.itemId
  discrepancyType : read.discrepancyType = saved.discrepancyType
  internalAmount : read.internalAmount = saved.internalAmount
  externalAmount : read.externalAmount = saved.externalAmount
  difference : read.difference = saved.difference

/-- The run and every item read back as they were returned and saved. -/
def ReadsBack [AmountText] (after : Store) (tenantId : Uuid)
    (run : ReconciliationRun) (items : List ReconciliationItem) : Prop :=
  (∃ read, getRun after run.runId tenantId none = .ok read ∧
    SameRun run read) ∧
  ∃ readItems, getItems after run.runId tenantId [] false none =
      .ok readItems ∧
    ∀ item ∈ items, ∃ read ∈ readItems, SameItem item read

/-- Identifiers of new items repeat neither each other nor stored ones. -/
def FreshItems (store : Store) (items : List ReconciliationItem) : Prop :=
  (items.map ReconciliationItem.itemId).Nodup ∧
    ∀ item ∈ items, store.mismatches.lookup item.itemId = none

theorem stored_read_finished (run : ReconciliationRun)
    (completedAt : DateTime) :
    (finished run completedAt).status.stored.read =
        (finished run completedAt).status ↔ ¬ 0 < run.discrepancyCount := by
  by_cases hcount : 0 < run.discrepancyCount
  · simp [finished, hcount, ReconciliationStatus.stored, ReportStatus.read]
  · simp [finished, hcount, ReconciliationStatus.stored, ReportStatus.read]

theorem not_pos_ofNat_iff {count : ℕ} (hcount : count < 2 ^ 31) :
    ¬ 0 < Int32.ofNat count ↔ count = 0 := by
  rw [Int32.lt_iff_toInt_lt, Int32.toInt_ofNat_of_lt hcount, Int32.toInt_zero]
  omega

section Items

variable [DecimalArithmetic] {external : List ExternalTransaction}
  {tolerance : ℚ} {internal : List InternalTransaction}

/-- A new item is open. -/
theorem resolved_of_mem_matchTransactions {newIds : ℕ → Uuid} {runId : Uuid}
    {item : ReconciliationItem}
    (hitem : item ∈ matchTransactions newIds runId external tolerance
      internal) : item.resolved = false := by
  rw [matchTransactions_eq, numbered, List.mem_mapIdx] at hitem
  obtain ⟨position, hposition, rfl⟩ := hitem
  rcases mem_drafts runId external tolerance internal
    (List.getElem_mem hposition) with
    ⟨transaction, entry, hdraft⟩ | ⟨transaction, hdraft⟩ | ⟨entry, hdraft⟩
  all_goals
    rw [hdraft]
    rfl

/-- A transaction gives rise to at most one item. -/
theorem length_matchTransactions_le (newIds : ℕ → Uuid) (runId : Uuid)
    (external : List ExternalTransaction) (tolerance : ℚ)
    (internal : List InternalTransaction) :
    (matchTransactions newIds runId external tolerance internal).length ≤
      internal.length + external.length := by
  rw [matchTransactions_eq, numbered, List.length_mapIdx, drafts,
    List.length_append, List.length_map]
  have hpairs := congrArg List.length (pairs_fst external tolerance internal)
  rw [List.length_map] at hpairs
  have hunpaired : (unpaired external tolerance internal).length ≤
      external.zipIdx.length := List.length_filter_le _ _
  rw [List.length_zipIdx] at hunpaired
  have hitems := List.length_filterMap_le (pairItem runId)
    (pairs external tolerance internal)
  omega

end Items

section Comparison

variable [AmountText] {env : RunEnv} {request : RunRequest}
  {store after : Store} {run : ReconciliationRun}
  {internal : List InternalTransaction} {external : List ExternalTransaction}

theorem discrepancyCount_finished (env : RunEnv) (request : RunRequest)
    (internal : List InternalTransaction)
    (external : List ExternalTransaction) :
    (finished (tallied (runningRun env request) internal external
        (matchTransactions env.newIds env.runId external request.tolerance
          internal)) env.completedAt).discrepancyCount =
      Int32.ofNat (matchTransactions env.newIds env.runId external
        request.tolerance internal).length := by
  have hall : (matchTransactions env.newIds env.runId external
      request.tolerance internal).filter (fun item => !item.resolved) =
        matchTransactions env.newIds env.runId external request.tolerance
          internal := by
    apply List.filter_eq_self.mpr
    intro item hitem
    rw [resolved_of_mem_matchTransactions hitem]
    rfl
  simp only [finished, tallied]
  rw [hall]

variable (hrefuses : ∀ column, AmountText.tryGet column = none)
include hrefuses

/-- What `map_run_row` makes of the row that `save_run` leaves. -/
theorem getRun_of_saved {before : Store} {failure : Option String}
    {value : Unit} (hsaved : saveRun before run failure = (.ok value, after))
    (tenantId : Uuid) :
    ∃ read, getRun after run.runId tenantId none = .ok read ∧
      read.status = run.status.stored.read ∧
      read.totalRecords = run.totalRecords ∧
      read.matchedCount = run.matchedCount ∧
      read.discrepancyCount = run.discrepancyCount ∧
      read.discrepancyAmount = 0 ∧ read.internalTotal = 0 ∧
      read.externalTotal = 0 := by
  have hlookup := (saveRun_ok hsaved).2 run.runId
  rw [if_pos rfl] at hlookup
  have hzero : ∀ column : String, readAmount column = 0 :=
    fun column => readAmount_of_none (hrefuses column)
  refine ⟨mapRunRow ((before.reports.lookup run.runId).elim run.row
    run.row.refresh) tenantId, ?_, ?_⟩
  · rw [getRun, hlookup]
  · cases before.reports.lookup run.runId with
    | none | some old =>
        refine ⟨rfl, Int32.add_zero _, rfl, Int32.add_zero _, ?_, hzero _,
          hzero _⟩
        simp only [mapRunRow, hzero, DecimalArithmetic.minus_self, abs_zero]

/-- A completed run reads back as it was returned exactly if both totals are 0
and the two lists mirror each other. -/
theorem completed_run_reads_back_iff
    (hinternal : env.internalTransactions = .ok internal)
    (hexternal : env.externalTransactions = .ok external)
    (hok : startReconciliation env request store = (.ok run, after))
    (hexact : ExactDifferences external internal)
    (hcount : internal.length + external.length < 2 ^ 31) :
    ReadsBack after request.tenantId run (matchTransactions env.newIds
        env.runId external request.tolerance internal) ↔
      internalTotal internal = 0 ∧ externalTotal external = 0 ∧
        Mirrored request.tolerance (internal.map InternalTransaction.key)
          (external.map ExternalTransaction.key) := by
  obtain ⟨started, saved, -, -, hsaved, hrun⟩ :=
    startReconciliation_ok hinternal hexternal hok
  obtain ⟨read, hread, hstatus, htotal, hmatched, hnumber, hamount,
    hreadInternal, hreadExternal⟩ :=
    getRun_of_saved hrefuses hsaved request.tenantId
  have hinternalTotal : run.internalTotal = internalTotal internal :=
    congrArg ReconciliationRun.internalTotal hrun
  have hexternalTotal : run.externalTotal = externalTotal external :=
    congrArg ReconciliationRun.externalTotal hrun
  have hrunAmount : run.discrepancyAmount = discrepancyAmount
      (matchTransactions env.newIds env.runId external request.tolerance
        internal) := congrArg ReconciliationRun.discrepancyAmount hrun
  have hstatusIff : read.status = run.status ↔
      matchTransactions env.newIds env.runId external request.tolerance
        internal = [] := by
    have hitems := length_matchTransactions_le env.newIds env.runId external
      request.tolerance internal
    rw [hstatus, hrun, stored_read_finished, ← List.length_eq_zero_iff,
      ← not_pos_ofNat_iff (hitems.trans_lt hcount),
      ← discrepancyCount_finished]
    rfl
  rw [← matchTransactions_eq_nil_iff hexact env.newIds env.runId]
  constructor
  · rintro ⟨⟨other, hother, hsame⟩, -⟩
    obtain rfl := Except.ok.inj (hread.symm.trans hother)
    refine ⟨?_, ?_, hstatusIff.mp hsame.status⟩
    · rw [← hinternalTotal, ← hsame.internalTotal, hreadInternal]
    · rw [← hexternalTotal, ← hsame.externalTotal, hreadExternal]
  · rintro ⟨hinternalZero, hexternalZero, hnone⟩
    rw [hnone] at hrunAmount
    refine ⟨⟨read, hread, hstatusIff.mpr hnone, htotal, hmatched, hnumber,
      hamount.trans hrunAmount.symm, ?_, ?_⟩, _, rfl, ?_⟩
    · rw [hreadInternal, hinternalTotal, hinternalZero]
    · rw [hreadExternal, hexternalTotal, hexternalZero]
    · rw [hnone]
      exact fun item hitem => absurd hitem List.not_mem_nil

end Comparison

namespace Samples

/-- The texts of the amounts of the sample run. -/
scoped instance sampleText : AmountText where
  toDecimalArithmetic := Exact.arithmetic
  toText amount := if amount = 5 then "5" else "0"
  parse text :=
    if text = "5" then some 5 else if text = "0" then some 0 else none
  parse_zero := rfl
  tryGet _ := none

def invoicePayment : List InternalTransaction :=
  [internalOf "t1" 5]

/-- A statement entry of another invoice. -/
def otherEntry : List ExternalTransaction :=
  [{ externalOf "e1" 5 with reference := "INV-8" }]

def unmatched : RunEnv where
  runId := 9
  newIds := BitVec.ofNat 128
  startedAt := 20000 * day
  completedAt := 20000 * day + 1
  internalTransactions := .ok invoicePayment
  externalTransactions := .ok otherEntry
  storeFailure := fun _ => none
  insertedAt := fun _ => 20000 * day

def request : RunRequest where
  tenantId := 3
  providerName := "ecocash"
  periodStart := 19999 * day
  periodEnd := 20000 * day
  initiatedBy := "ops"
  tolerance := 0

def emptyStore : Store :=
  ⟨Table.empty, Table.empty, []⟩

/-- The items of the sample run. -/
def unmatchedItems : List ReconciliationItem :=
  matchTransactions unmatched.newIds unmatched.runId otherEntry
    request.tolerance invoicePayment

theorem freshItems_unmatched : FreshItems emptyStore unmatchedItems :=
  ⟨by decide +kernel, fun _ _ => rfl⟩

theorem exists_run (env : RunEnv)
    (hsome : (startReconciliation env request
      emptyStore).1.toOption.isSome = true) :
    ∃ run after,
      startReconciliation env request emptyStore = (.ok run, after) := by
  cases hresult : startReconciliation env request emptyStore with
  | mk result after =>
      rw [hresult] at hsome
      cases result with
      | error error => cases hsome
      | ok run => exact ⟨run, after, rfl⟩

/-- A payment and its reversal. -/
def reversed : List InternalTransaction :=
  [internalOf "t1" 5, internalOf "t2" (-5)]

/-- The provider lists both. -/
def reversedEntries : List ExternalTransaction :=
  [externalOf "e1" 5, externalOf "e2" (-5)]

/-- The status, the discrepancy and the totals of a run. -/
def summary (run : ReconciliationRun) :
    ReconciliationStatus × ℚ × ℚ × ℚ :=
  (run.status, run.discrepancyAmount, run.internalTotal, run.externalTotal)

/-- What a run returns, and what is read of it afterwards. -/
def returnedAndRead (env : RunEnv) : List
    (Option (ReconciliationStatus × ℚ × ℚ × ℚ)) :=
  let answer := startReconciliation env request emptyStore
  [answer.1.toOption.map summary,
    (getRun answer.2 env.runId request.tenantId none).toOption.map summary]

end Samples

open scoped Samples in
theorem completed_run_reads_back_iff_reversed :
    let env := { Samples.unmatched with
      internalTransactions := .ok Samples.reversed
      externalTransactions := .ok Samples.reversedEntries }
    ∃ run after,
      startReconciliation env Samples.request Samples.emptyStore =
          (.ok run, after) ∧
        ReadsBack after Samples.request.tenantId run (matchTransactions
          env.newIds env.runId Samples.reversedEntries
          Samples.request.tolerance Samples.reversed) := by
  intro env
  obtain ⟨run, after, hrun⟩ := Samples.exists_run env (by decide +kernel)
  have hmirrored : Mirrored Samples.request.tolerance
      (Samples.reversed.map InternalTransaction.key)
      (Samples.reversedEntries.map ExternalTransaction.key) := by
    refine ⟨by decide, fun _ => le_rfl, by decide, ?_⟩
    intro reference first second hne hclose
    exact absurd (sub_eq_zero.mp (abs_nonpos_iff.mp hclose)) hne
  exact ⟨run, after, hrun, (completed_run_reads_back_iff (fun _ => rfl) rfl rfl
    hrun (fun _ _ _ _ _ => rfl) (by decide)).mpr
      ⟨by decide +kernel, by decide +kernel, hmirrored⟩⟩

open scoped Samples in
/-- A run with two unmatched transactions of 5 each is returned as partially
resolved with a discrepancy of 10 and reads back as completed with none.  Of a
run with one pair of 5 the totals are lost. -/
theorem completed_runs_read_back_empty :
    Samples.returnedAndRead Samples.unmatched =
        [some (.partiallyResolved, 10, 5, 5), some (.completed, 0, 0, 0)] ∧
      Samples.returnedAndRead
          { Samples.unmatched with
            externalTransactions := .ok [Samples.externalOf "e1" 5] } =
        [some (.completed, 0, 5, 5), some (.completed, 0, 0, 0)] := by
  decide +kernel

end UssdKernel.Reconciliation
