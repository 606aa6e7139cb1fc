import UssdKernel.Reconciliation.Store

/-!
# Resolving discrepancies in bulk

`bulk_resolve_discrepancies` takes a run and a tenant and uses neither: every
listed item is updated by its identifier alone, and an update that meets no
row counts as a success.
-/

namespace UssdKernel.Reconciliation

open UssdKernel.KeyedTables

/-- The status that `update_item_resolution` writes. -/
def ResolutionAction.stored : ResolutionAction → ResolutionStatus
  | correctInternal => .resolved
  | correctExternal => .resolved
  | createAdjustment => .resolved
  | ignore => .resolved
  | approve => .resolved
  | escalate => .disputed

/-- The columns that `update_item_resolution` writes, apart from the time. -/
structure Resolution where
  status : ResolutionStatus
  notes : String
  resolvedBy : Option Uuid
  deriving DecidableEq

/-- `resolved_by` is the account with the given number, if there is one. -/
def resolutionOf (store : Store) (action : ResolutionAction)
    (notes resolvedBy : String) : Resolution where
  status := action.stored
  notes := "[" ++ action.asStr ++ "] " ++ notes
  resolvedBy :=
    (store.accounts.find? fun account => account.1 = resolvedBy).map Prod.snd

def MismatchRow.resolve (resolution : Resolution) (now : DateTime)
    (row : MismatchRow) : MismatchRow :=
  { row with
    resolutionStatus := resolution.status
    resolutionNotes := some resolution.notes
    resolvedBy := resolution.resolvedBy
    resolvedAt := some now }

/-- What the database answers to one update: a failure, or the time of the
statement. -/
structure Attempt where
  failure : Option String
  now : DateTime

def updateItemResolution (store : Store) (itemId : Uuid)
    (action : ResolutionAction) (notes resolvedBy : String)
    (attempt : Attempt) : Except ReconciliationError Unit × Store :=
  match attempt.failure with
  | some message => (.error (.databaseError message), store)
  | none =>
      (.ok (), { store with
        mismatches := store.mismatches.update itemId
          (MismatchRow.resolve (resolutionOf store action notes resolvedBy)
            attempt.now) (fun _ => rfl) })

/-- One iteration of the loop: an error is only logged. -/
def resolveNext (action : ResolutionAction) (notes resolvedBy : String)
    (attempts : ℕ → Attempt) (state : ℕ × Store) (item : Uuid × ℕ) :
    ℕ × Store :=
  match updateItemResolution state.2 item.1 action notes resolvedBy
      (attempts item.2) with
  | (.ok _, after) => (state.1 + 1, after)
  | (.error _, after) => (state.1, after)

/-- The count is an `i32` in the source, and the same below `2 ^ 31` items. -/
def bulkResolveDiscrepancies (store : Store) (_runId _tenantId : Uuid)
    (itemIds : List Uuid) (action : ResolutionAction)
    (notes resolvedBy : String) (attempts : ℕ → Attempt) :
    Except ReconciliationError ℕ × Store :=
  let state := itemIds.zipIdx.foldl
    (resolveNext action notes resolvedBy attempts) (0, store)
  (.ok state.1, state.2)

/-! ## What the loop does -/

/-- The updates that succeed, with their times. -/
def succeeded (attempts : ℕ → Attempt) (items : List (Uuid × ℕ)) :
    List (Uuid × DateTime) :=
  (items.filter fun item => (attempts item.2).failure = none).map fun item =>
    (item.1, (attempts item.2).now)

section Loop

variable (action : ResolutionAction) (notes resolvedBy : String)
  (attempts : ℕ → Attempt)

theorem foldl_resolveNext (count : ℕ) (store : Store)
    (items : List (Uuid × ℕ)) :
    items.foldl (resolveNext action notes resolvedBy attempts)
        (count, store) =
      (count + (succeeded attempts items).length,
        { store with
          mismatches := store.mismatches.updateAll
            (MismatchRow.resolve (resolutionOf store action notes resolvedBy))
            (fun _ _ => rfl) (succeeded attempts items) }) := by
  induction items generalizing count store with
  | nil => rfl
  | cons item items ih =>
      rw [List.foldl_cons, resolveNext, updateItemResolution]
      cases hfailure : (attempts item.2).failure with
      | some message =>
          have hskip : succeeded attempts (item :: items) =
              succeeded attempts items := by
            rw [succeeded, List.filter_cons_of_neg (by simp [hfailure])]
            rfl
          rw [hskip]
          exact ih count store
      | none =>
          have hkeep : succeeded attempts (item :: items) =
              (item.1, (attempts item.2).now) ::
                succeeded attempts items := by
            rw [succeeded, List.filter_cons_of_pos (by simp [hfailure])]
            rfl
          rw [hkeep, List.length_cons]
          refine (ih (count + 1) _).trans ?_
          rw [Nat.add_right_comm, Nat.add_assoc]
          rfl

end Loop

/-! ## Items of the run and the tenant -/

/-- The item's report is the run, and the run's application is the tenant. -/
def BelongsTo (store : Store) (runId tenantId : Uuid) (row : MismatchRow) :
    Prop :=
  row.reportId = runId ∧
    (store.reports.lookup runId).bind ReportRow.applicationId = some tenantId

instance (store : Store) (runId tenantId : Uuid) (row : MismatchRow) :
    Decidable (BelongsTo store runId tenantId row) :=
  inferInstanceAs (Decidable (_ ∧ _))

/-- Only items of the run and the tenant are changed, and the returned count
is the number of changed items. -/
def ResolvesOwnItems (store : Store) (runId tenantId : Uuid)
    (result : Except ReconciliationError ℕ × Store) : Prop :=
  (∀ row ∈ store.mismatches.changed result.2.mismatches,
    BelongsTo store runId tenantId row) ∧
  result.1 =
    .ok (store.mismatches.changed result.2.mismatches).length

/-- Every update that succeeds names a stored item of the run and the tenant
that does not have the resolution yet, and no item is named twice. -/
def EachUpdateIsOwn (store : Store) (runId tenantId : Uuid)
    (resolution : Resolution) (updates : List (Uuid × DateTime)) : Prop :=
  (updates.map Prod.fst).Nodup ∧ ∀ update ∈ updates,
    ∃ row ∈ store.mismatches.rows, row.mismatchId = update.1 ∧
      BelongsTo store runId tenantId row ∧
      row.resolve resolution update.2 ≠ row

/-- Bulk resolution stays within the run and the tenant and counts what it
changes exactly if every update that succeeds is one of theirs. -/
theorem bulk_resolution_own_items_iff (store : Store) (runId tenantId : Uuid)
    (itemIds : List Uuid) (action : ResolutionAction)
    (notes resolvedBy : String) (attempts : ℕ → Attempt) :
    ResolvesOwnItems store runId tenantId
        (bulkResolveDiscrepancies store runId tenantId itemIds action notes
          resolvedBy attempts) ↔
      EachUpdateIsOwn store runId tenantId
        (resolutionOf store action notes resolvedBy)
        (succeeded attempts itemIds.zipIdx) := by
  let resolution := resolutionOf store action notes resolvedBy
  let updates := succeeded attempts itemIds.zipIdx
  let resolve := MismatchRow.resolve resolution
  have hkey : ∀ now row, (resolve now row).mismatchId = row.mismatchId :=
    fun _ _ => rfl
  have hresult : bulkResolveDiscrepancies store runId tenantId itemIds action
      notes resolvedBy attempts = (.ok updates.length,
        { store with
          mismatches := store.mismatches.updateAll resolve hkey updates }) := by
    rw [bulkResolveDiscrepancies, foldl_resolveNext, Nat.zero_add]
  have hcount := Table.length_changed_updateAll_iff resolve hkey
    store.mismatches updates
  rw [hresult, ResolvesOwnItems, Except.ok.injEq, eq_comm, hcount]
  constructor
  · intro hown
    obtain ⟨hbelongs, hnodup, hrows⟩ := hown
    refine ⟨hnodup, ?_⟩
    intro update hupdate
    obtain ⟨row, hrow, hid, hdiffers⟩ := hrows update hupdate
    exact ⟨row, hrow, hid, hbelongs row
      ((Table.mem_changed_updateAll_iff resolve hkey store.mismatches hnodup
        hupdate hrow hid).mpr hdiffers), hdiffers⟩
  · intro heach
    obtain ⟨hnodup, hrows⟩ := heach
    refine ⟨?_, hnodup, ?_⟩
    · intro row hrow
      have hid := Table.changed_updateAll_subset resolve hkey
        store.mismatches updates (List.mem_map_of_mem hrow)
      obtain ⟨update, hupdate, hid⟩ := List.mem_map.mp hid
      obtain ⟨own, hown, hownId, hbelongs, -⟩ := hrows update hupdate
      obtain rfl := store.mismatches.eq_of_key_eq hown
        (Table.mem_changed.mp hrow).1 (hownId.trans hid)
      exact hbelongs
    · intro update hupdate
      obtain ⟨row, hrow, hid, -, hdiffers⟩ := hrows update hupdate
      exact ⟨row, hrow, hid, hdiffers⟩

namespace Samples

def report (reportId applicationId : Uuid) : ReportRow where
  reportId := reportId
  reportReference := "RUN-" ++ Text.uuid reportId
  applicationId := some applicationId
  providerId := "ecocash"
  periodStart := 19999
  periodEnd := 20000
  status := .completed
  kernelTransactionCount := 1
  providerTransactionCount := 0
  matchedCount := 0
  unmatchedKernelCount := 1
  unmatchedProviderCount := 0
  kernelTotalAmount := "5"
  providerTotalAmount := "0"
  startedAt := some (20000 * day)
  completedAt := some (20000 * day)
  createdBy := none

def openMismatch (mismatchId reportId : Uuid) : MismatchRow where
  mismatchId := mismatchId
  reportId := reportId
  mismatchType := .providerOnly
  kernelReference := "t1"
  kernelAmount := "5"
  providerReference := "t1"
  providerAmount := "0"
  amountDifference := "5"
  discrepancyReason := ""
  resolutionStatus := .isOpen
  resolutionNotes := some ""
  resolvedBy := none
  resolvedAt := none
  createdAt := 20000 * day

/-- Run 1 of tenant 11 and run 2 of tenant 12, with one open item each. -/
def twoTenants : Store where
  reports := ⟨[report 1 11, report 2 12], by decide⟩
  mismatches := ⟨[openMismatch 101 1, openMismatch 102 2], by decide⟩
  accounts := []

/-- Tenant 11 asks for the item of tenant 12 and for one that does not
exist. -/
def foreignRequest : Except ReconciliationError ℕ × Store :=
  bulkResolveDiscrepancies twoTenants 1 11 [102, 999] .approve "checked"
    "ACC-1" fun _ => ⟨none, 20001 * day⟩

end Samples

/-- The item of the other tenant is changed, and two items are reported. -/
theorem foreign_item_resolved :
    Samples.foreignRequest.1.toOption = some 2 ∧
      Samples.twoTenants.mismatches.changed
          Samples.foreignRequest.2.mismatches =
        [Samples.openMismatch 102 2] ∧
      ¬ BelongsTo Samples.twoTenants 1 11 (Samples.openMismatch 102 2) ∧
      ¬ ResolvesOwnItems Samples.twoTenants 1 11 Samples.foreignRequest := by
  have hchanged : Samples.twoTenants.mismatches.changed
      Samples.foreignRequest.2.mismatches =
        [Samples.openMismatch 102 2] := by decide +kernel
  have hforeign : ¬ BelongsTo Samples.twoTenants 1 11
      (Samples.openMismatch 102 2) := by decide +kernel
  refine ⟨by decide +kernel, hchanged, hforeign, ?_⟩
  intro hown
  apply hforeign
  apply hown.1
  rw [hchanged]
  exact List.mem_singleton.mpr rfl

end UssdKernel.Reconciliation
