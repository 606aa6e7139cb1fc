import UssdKernel.Core.HashChain
import UssdKernel.Core.SortedOrders
import UssdKernel.Ledger.Transactions

/-!
# Batch hashes

`compute_batch_hash` hashes the record hashes of a period as one text.  Record
hashes of one length can be read back from the text, so the batch hash binds
them and their order.
-/

namespace UssdKernel.Ledger.BatchHashes

open HashChain Results SortedOrders

/-- The columns of `core.transaction_log` that `compute_batch_hash` reads;
`amount_cents` is not among those that its migration declares. -/
structure LogRow where
  transactionId : ℤ
  applicationId : Option Uuid
  committedAt : ℤ
  recordHash : Option String
  amountCents : Option ℤ

/-- The variables of the loop.  The function returns them with the hash of the
text in place of the text. -/
structure Totals (A : Type) where
  combined : Option A
  recordCount : ℤ
  totalAmountCents : ℤ

/-- The values of `BIGINT`. -/
def BigintFits (value : ℤ) : Prop :=
  -2 ^ 63 ≤ value ∧ value < 2 ^ 63

instance (value : ℤ) : Decidable (BigintFits value) :=
  inferInstanceAs (Decidable (_ ∧ _))

/-- The key of `ORDER BY committed_at, transaction_id`. -/
def LogRow.place (row : LogRow) : ℤ ×ₗ ℤ :=
  toLex (row.committedAt, row.transactionId)

/-- The body of the loop.  A text joined with `NULL` is `NULL`. -/
def addRecord (totals : Totals String) (row : LogRow) :
    Except LedgerError (Totals String) := do
  let recordCount := totals.recordCount + 1
  let totalAmountCents := totals.totalAmountCents + row.amountCents.getD 0
  require (BigintFits recordCount ∧ BigintFits totalAmountCents)
    .numericOverflow
  pure ⟨Option.map₂ (· ++ ·) totals.combined row.recordHash, recordCount,
    totalAmountCents⟩

/-- Every record hash has 64 characters. -/
def FullHashes (rows : List LogRow) : Prop :=
  ∀ row ∈ rows, row.recordHash.map String.length = some 64

section Batch

variable (sha256 : String → Bytes) (startTime endTime : ℤ)
  (applicationId : Option Uuid) (rows : List LogRow)

/-- The `WHERE` clause. -/
def Selects (row : LogRow) : Prop :=
  (startTime ≤ row.committedAt ∧ row.committedAt ≤ endTime) ∧
    applicationId.all (row.applicationId = some ·)

instance (row : LogRow) :
    Decidable (Selects startTime endTime applicationId row) :=
  inferInstanceAs (Decidable (_ ∧ _))

def selectedRows : List LogRow :=
  (rows.filter (Selects startTime endTime applicationId ·)).insertionSort
    fun first second => first.place ≤ second.place

def computeBatchHash : Except LedgerError (Totals Bytes) := do
  let totals ← (selectedRows startTime endTime applicationId rows).foldlM
    addRecord ⟨some "", 0, 0⟩
  pure { totals with
    combined := totals.combined.map fun text => Text.hex (sha256 text) }

/-- The text that is hashed. -/
def combinedText : String :=
  String.ofList (rows.flatMap fun row => (row.recordHash.getD "").toList)

variable {sha256 startTime endTime applicationId rows}

theorem fullHashes_cons {row : LogRow} :
    FullHashes (row :: rows) ↔
      (∃ hash, row.recordHash = some hash ∧ hash.length = 64) ∧
        FullHashes rows := by
  simp [FullHashes, Option.map_eq_some_iff]

theorem combinedText_cons {row : LogRow} {hash : String}
    (hhash : row.recordHash = some hash) :
    combinedText (row :: rows) = hash ++ combinedText rows := by
  simp [combinedText, hhash]

theorem foldlM_addRecord {totals after : Totals String} {text : String}
    (hfull : FullHashes rows) (htext : totals.combined = some text)
    (hok : rows.foldlM addRecord totals = .ok after) :
    after.combined = some (text ++ combinedText rows) ∧
      after.recordCount = totals.recordCount + rows.length := by
  induction rows generalizing totals text with
  | nil =>
      cases hok
      simp [combinedText, htext]
  | cons row rest ih =>
      obtain ⟨⟨hash, hhash, -⟩, hrest⟩ := fullHashes_cons.mp hfull
      rw [List.foldlM_cons] at hok
      obtain ⟨next, hnext, hok⟩ := bind_eq_ok.mp hok
      obtain ⟨-, hnext⟩ := require_bind_eq_ok.mp hnext
      cases hnext
      have hjoined : Option.map₂ (· ++ ·) totals.combined row.recordHash =
          some (text ++ hash) := by
        rw [htext, hhash]
        rfl
      obtain ⟨hcombined, hcount⟩ := ih hrest hjoined hok
      rw [hcombined, hcount, combinedText_cons hhash, String.append_assoc,
        List.length_cons]
      exact ⟨rfl, by push_cast; ring⟩

/-- Record hashes of one length are read back from what they are joined to. -/
theorem recordHash_eq_of_combinedText {left right : List LogRow}
    (hleft : FullHashes left) (hright : FullHashes right)
    (htext : combinedText left = combinedText right) :
    left.map LogRow.recordHash = right.map LogRow.recordHash := by
  induction left generalizing right with
  | nil =>
      cases right with
      | nil => rfl
      | cons row rest =>
          obtain ⟨⟨hash, hhash, hlength⟩, -⟩ := fullHashes_cons.mp hright
          rw [combinedText_cons hhash] at htext
          have hchars := congrArg String.length htext.symm
          simp [combinedText, hlength] at hchars
  | cons row rest ih =>
      obtain ⟨⟨hash, hhash, hlength⟩, hrest⟩ := fullHashes_cons.mp hleft
      rw [combinedText_cons hhash] at htext
      cases right with
      | nil =>
          have hchars := congrArg String.length htext
          simp [combinedText, hlength] at hchars
      | cons other others =>
          obtain ⟨⟨second, hsecond, hother⟩, hothers⟩ :=
            fullHashes_cons.mp hright
          rw [combinedText_cons hsecond] at htext
          have hchars := congrArg String.toList htext
          rw [String.toList_append, String.toList_append] at hchars
          obtain ⟨hhead, htail⟩ := List.append_inj hchars (by
            rw [String.length_toList, String.length_toList, hlength, hother])
          rw [List.map_cons, List.map_cons, hhash, hsecond,
            String.toList_inj.mp hhead,
            ih hrest hothers (String.toList_inj.mp htail)]

/-- The batch holds the rows that the clause selects, in the order of their
commits. -/
theorem orderedBy_selectedRows (rows : List LogRow) :
    OrderedBy LogRow.place
      (rows.filter (Selects startTime endTime applicationId ·))
      (selectedRows startTime endTime applicationId rows) :=
  orderedBy_insertionSort LogRow.place _

theorem fullHashes_selectedRows (hfull : FullHashes rows) :
    FullHashes (selectedRows startTime endTime applicationId rows) :=
  fun row hrow => hfull row
    (List.mem_of_mem_filter ((orderedBy_selectedRows rows).1.mem_iff.mp hrow))

/-- With distinct ids there is one order, wherever the rows are stored. -/
theorem selectedRows_eq_of_perm {other : List LogRow}
    (hids : (rows.map LogRow.transactionId).Nodup) (hperm : other.Perm rows) :
    selectedRows startTime endTime applicationId other =
      selectedRows startTime endTime applicationId rows := by
  obtain ⟨hother, hsorted⟩ := orderedBy_selectedRows other
  refine OrderedBy.eq ?_ ⟨hother.trans (hperm.filter _), hsorted⟩
    (orderedBy_selectedRows rows)
  intro first hfirst second hsecond hplace
  exact List.inj_on_of_nodup_map hids (List.mem_of_mem_filter hfirst)
    (List.mem_of_mem_filter hsecond)
    (congrArg (fun place => (ofLex place).2) hplace)

theorem computeBatchHash_eq_ok (hfull : FullHashes rows)
    {answer : Totals Bytes}
    (hok : computeBatchHash sha256 startTime endTime applicationId rows =
      .ok answer) :
    let selected := selectedRows startTime endTime applicationId rows
    answer.combined = some (Text.hex (sha256 (combinedText selected))) ∧
      answer.recordCount = selected.length := by
  obtain ⟨totals, htotals, hanswer⟩ := bind_eq_ok.mp hok
  cases hanswer
  obtain ⟨hcombined, hcount⟩ :=
    foldlM_addRecord (fullHashes_selectedRows hfull) rfl htotals
  simp [hcombined, hcount]

/-- A batch hash binds the record hashes in their order, and it does not depend
on where the rows are stored. -/
theorem computeBatchHash_binds {left right : List LogRow}
    (hids : (left.map LogRow.transactionId).Nodup)
    (hleft : FullHashes left) (hright : FullHashes right) :
    let batchHash := computeBatchHash sha256 startTime endTime applicationId
    let selected := selectedRows startTime endTime applicationId
    (∀ first second, batchHash left = .ok first →
      batchHash right = .ok second → first.combined = second.combined →
        (selected left).map LogRow.recordHash =
            (selected right).map LogRow.recordHash ∧
          first.recordCount = second.recordCount ∨
        Collision sha256
          [combinedText (selected left), combinedText (selected right)]) ∧
    ∀ other, other.Perm left → batchHash other = batchHash left := by
  intro batchHash selected
  constructor
  · intro first second hfirst hsecond hsame
    obtain ⟨hhash, hcount⟩ := computeBatchHash_eq_ok hleft hfirst
    obtain ⟨hother, hotherCount⟩ := computeBatchHash_eq_ok hright hsecond
    rw [hhash, hother] at hsame
    by_cases htext :
        combinedText (selected left) = combinedText (selected right)
    · have hhashes := recordHash_eq_of_combinedText
        (fullHashes_selectedRows hleft) (fullHashes_selectedRows hright) htext
      have hlength := congrArg List.length hhashes
      rw [List.length_map, List.length_map] at hlength
      exact .inl ⟨hhashes, by rw [hcount, hotherCount, hlength]⟩
    · exact .inr ((collision_pair htext).mpr
        (Text.hex_injective (Option.some.inj hsame)))
  · intro other hperm
    simp only [batchHash, computeBatchHash, selectedRows_eq_of_perm hids hperm]

end Batch

namespace Sample

def payment (transactionId committedAt : ℤ) (digit : Char) : LogRow where
  transactionId := transactionId
  applicationId := none
  committedAt := committedAt
  recordHash := some (String.ofList (List.replicate 64 digit))
  amountCents := some 250

theorem fullHashes_payment {rows : List LogRow} (hfull : FullHashes rows)
    (transactionId committedAt : ℤ) (digit : Char) :
    FullHashes (payment transactionId committedAt digit :: rows) := by
  refine fullHashes_cons.mpr ⟨⟨_, rfl, ?_⟩, hfull⟩
  rw [String.length_ofList, List.length_replicate]

/-- Two payments of one moment, stored in the order of their ids or not, and
beside one that was committed after the period. -/
theorem computeBatchHash_binds_payments :
    let rows := [payment 1 5 'a', payment 2 5 'b']
    let more := payment 3 10 'c' :: rows
    let batchHash := computeBatchHash Text.utf8 0 9 none
    let selected := selectedRows 0 9 none
    batchHash [payment 2 5 'b', payment 1 5 'a'] = batchHash rows ∧
      ((selected rows).map LogRow.recordHash =
            (selected more).map LogRow.recordHash ∨
          Collision Text.utf8
            [combinedText (selected rows), combinedText (selected more)]) := by
  intro rows more batchHash selected
  have hfull : FullHashes rows := fullHashes_payment
    (fullHashes_payment (List.forall_mem_nil _) 2 5 'b') 1 5 'a'
  obtain ⟨hbinds, hperm⟩ := @computeBatchHash_binds Text.utf8 0 9 none rows
    more (by decide) hfull (fullHashes_payment hfull 3 10 'c')
  refine ⟨hperm _ (List.Perm.swap _ _ _), ?_⟩
  have hselected : selectedRows 0 9 none (payment 3 10 'c' :: rows) =
      selectedRows 0 9 none rows := by
    rw [selectedRows, selectedRows, List.filter_cons_of_neg (by decide)]
  have hsame : batchHash more = batchHash rows := by
    show computeBatchHash Text.utf8 0 9 none (payment 3 10 'c' :: rows) = _
    rw [computeBatchHash, hselected]
    rfl
  have hcount : (batchHash rows).toOption.map Totals.recordCount = some 2 := by
    decide +kernel
  obtain ⟨answer, hanswer, -⟩ := exists_ok_of_toOption hcount
  exact (hbinds answer answer hanswer (hsame.trans hanswer) rfl).imp_left
    And.left

end Sample

end UssdKernel.Ledger.BatchHashes
