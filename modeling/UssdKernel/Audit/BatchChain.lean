import UssdKernel.Audit.Handler

/-!
# The chain of batch hashes

A new batch names the hash of the latest earlier batch that is stored when it
is computed.  The stored batches form a chain if every row is created for a
date after all stored ones; the startup backfill runs the other way.
-/

namespace UssdKernel.AuditHandler

open UssdKernel.Batches
open UssdKernel.KeyedTables
open UssdKernel.Merkle
open UssdKernel.Runs

/-- Consecutive stored dates are linked, and the earliest one has no previous
hash. -/
structure Chained (links : List Link) : Prop where
  linked : ∀ earlier ∈ links, ∀ later ∈ links,
    earlier.batchDate < later.batchDate →
      (∀ between ∈ links, ¬ (earlier.batchDate < between.batchDate ∧
        between.batchDate < later.batchDate)) →
        later.previousBatchHash = some earlier.batchHash
  first : ∀ link ∈ links, (∀ other ∈ links, link.batchDate ≤ other.batchDate) →
    link.previousBatchHash = none

theorem chained_nil : Chained [] where
  linked := by
    intro earlier hearlier
    cases hearlier
  first := by
    intro link hlink
    cases hlink

/-- The previous hash is that of the latest earlier row, if there is one. -/
theorem findPreviousBatchHash_cases (rows : List BatchHashRecord) (date : ℤ) :
    (findPreviousBatchHash rows date = none ∧
        ∀ row ∈ rows, date ≤ row.batchDate) ∨
      ∃ latest ∈ rows,
        findPreviousBatchHash rows date = some latest.batchHash ∧
          latest.batchDate < date ∧
            ∀ row ∈ rows, row.batchDate < date →
              row.batchDate ≤ latest.batchDate := by
  obtain ⟨hperm, hsorted⟩ : SortedOrders.OrderedBy
      (fun row : BatchHashRecord => OrderDual.toDual row.batchDate)
      (rows.filter fun row => row.batchDate < date)
      ((rows.filter fun row => row.batchDate < date).insertionSort
        fun first second => second.batchDate ≤ first.batchDate) :=
    SortedOrders.orderedBy_insertionSort _ _
  rw [findPreviousBatchHash]
  cases hlist : (rows.filter fun row => row.batchDate < date).insertionSort
      fun first second => second.batchDate ≤ first.batchDate with
  | nil =>
      rw [hlist] at hperm
      refine Or.inl ⟨rfl, ?_⟩
      intro row hrow
      by_contra hearlier
      have hmem : row ∈ rows.filter fun row => row.batchDate < date :=
        List.mem_filter.mpr ⟨hrow, by simpa using hearlier⟩
      exact List.not_mem_nil (hperm.mem_iff.mpr hmem)
  | cons latest rest =>
      rw [hlist] at hperm hsorted
      have hlatest := List.mem_filter.mp
        (hperm.mem_iff.mp List.mem_cons_self)
      refine Or.inr ⟨latest, hlatest.1, rfl, by simpa using hlatest.2, ?_⟩
      intro row hrow hearlier
      have hmem : row ∈ latest :: rest := hperm.mem_iff.mpr
        (List.mem_filter.mpr ⟨hrow, by simpa using hearlier⟩)
      rcases List.mem_cons.mp hmem with rfl | hrest
      · exact le_refl _
      · exact (List.pairwise_cons.mp hsorted).1 row hrest

/-- A last link that names the hash of the one before it keeps the chain. -/
theorem Chained.append {links : List Link} {new : Link}
    (hchained : Chained links)
    (hlater : ∀ link ∈ links, link.batchDate < new.batchDate)
    (hfirst : links = [] → new.previousBatchHash = none)
    (hlast : ∀ last ∈ links, (∀ other ∈ links,
      other.batchDate ≤ last.batchDate) →
        new.previousBatchHash = some last.batchHash) :
    Chained (links ++ [new]) where
  linked := by
    intro earlier hearlier later hmem hbefore hbetween
    have hold : ∀ link ∈ links, link ∈ links ++ [new] :=
      fun link hlink => List.mem_append_left _ hlink
    rcases List.mem_append.mp hearlier with hearlier | hnew
    · rcases List.mem_append.mp hmem with hmem | hnew
      · exact hchained.linked earlier hearlier later hmem hbefore
          fun between hlink => hbetween between (hold between hlink)
      · rw [List.mem_singleton.mp hnew] at hbetween ⊢
        apply hlast earlier hearlier
        intro other hother
        by_contra hafter
        exact hbetween other (hold other hother)
          ⟨not_le.mp hafter, hlater other hother⟩
    · rw [List.mem_singleton.mp hnew] at hbefore
      rcases List.mem_append.mp hmem with hmem | hnew
      · exact absurd (hlater later hmem) hbefore.not_gt
      · rw [List.mem_singleton.mp hnew] at hbefore
        exact absurd hbefore (lt_irrefl _)
  first := by
    intro link hlink hleast
    rcases List.mem_append.mp hlink with hlink | hnew
    · exact hchained.first link hlink fun other hother =>
        hleast other (List.mem_append_left _ hother)
    · rw [List.mem_singleton.mp hnew] at hleast ⊢
      apply hfirst
      apply List.eq_nil_iff_forall_not_mem.mpr
      intro other hother
      exact absurd (hleast other (List.mem_append_left _ hother))
        (hlater other hother).not_ge

section Runs

variable {sha256 : Bytes → Bytes} {backend : SigningBackend}
variable {parseUuid : String → Except String Uuid} {db : AuditDb}

theorem mem_links {link : Link} :
    link ∈ db.links ↔ ∃ record ∈ db.database.batchHashes,
      linkOf record = link :=
  List.mem_map

/-- A call that creates a row does so for a date after all stored ones. -/
def InOrder (db : AuditDb) : Call → Prop
  | .compute date _ => db.batches.lookup date = none →
      ∀ row ∈ db.batches.rows, row.batchDate < date
  | _ => True

instance {db : AuditDb} : (call : Call) → Decidable (InOrder db call)
  | .append _ _ => isTrue trivial
  | .compute _ _ => inferInstanceAs (Decidable (_ → _))
  | .prove _ _ => isTrue trivial

/-- The records of a database are determined by their dates. -/
theorem record_unique {left right : BatchHashRecord}
    (hleft : left ∈ db.database.batchHashes)
    (hright : right ∈ db.database.batchHashes)
    (hdate : left.batchDate = right.batchDate) : left = right := by
  obtain ⟨leftRow, hleftRow, rfl⟩ := List.mem_map.mp hleft
  obtain ⟨rightRow, hrightRow, rfl⟩ := List.mem_map.mp hright
  rw [db.batches.eq_of_key_eq hleftRow hrightRow hdate]

theorem Chained.step {call : Call} (hchained : Chained db.links)
    (hcall : InOrder db call) :
    Chained (step sha256 backend parseUuid db call).links := by
  rcases step_cases db call with
    ⟨-, hlinks⟩ | ⟨row, choice, -, -, hlinks⟩ |
      ⟨date, choices, rows, rfl, hnone, -, -, hlinks⟩
  · rw [hlinks]
    exact hchained
  · rw [hlinks]
    exact hchained
  · have hlater : ∀ record ∈ db.database.batchHashes,
        record.batchDate < date := by
      intro record hrecord
      obtain ⟨row, hrow, rfl⟩ := List.mem_map.mp hrecord
      exact hcall hnone row hrow
    rw [hlinks]
    apply hchained.append
    · intro link hlink
      obtain ⟨record, hrecord, rfl⟩ := mem_links.mp hlink
      exact hlater record hrecord
    · intro hempty
      rcases findPreviousBatchHash_cases db.database.batchHashes date with
        ⟨hprevious, -⟩ | ⟨latest, hlatest, -⟩
      · exact hprevious
      · have hlink : linkOf latest ∈ db.links :=
          mem_links.mpr ⟨latest, hlatest, rfl⟩
        rw [hempty] at hlink
        cases hlink
    · intro last hlast hgreatest
      obtain ⟨record, hrecord, rfl⟩ := mem_links.mp hlast
      rcases findPreviousBatchHash_cases db.database.batchHashes date with
        ⟨-, hnoEarlier⟩ | ⟨latest, hlatest, hprevious, -, hgreater⟩
      · exact absurd (hlater record hrecord) (hnoEarlier record hrecord).not_gt
      · have hdate : record.batchDate = latest.batchDate :=
          le_antisymm (hgreater record hrecord (hlater record hrecord))
            (hgreatest (linkOf latest) (mem_links.mpr ⟨latest, hlatest, rfl⟩))
        rw [record_unique hrecord hlatest hdate]
        exact hprevious

/-- If rows are only created for dates after all stored ones, every run keeps
the batches chained. -/
theorem batches_chained_of_in_order {db : AuditDb} (hdb : Chained db.links)
    {calls : List Call}
    (hcalls : Throughout (step sha256 backend parseUuid) InOrder calls db) :
    Chained (run sha256 backend parseUuid calls db).links := by
  have hstep : ∀ (db : AuditDb) (call : Call), Chained db.links →
      InOrder db call →
        Chained (step sha256 backend parseUuid db call).links :=
    fun _ _ hchained hcall => hchained.step hcall
  exact foldl_invariant hstep hdb hcalls

end Runs

/-! ## The daily job -/

/-- `run_daily_batch_cron` started on the given day: the backfill of the last
seven days, then the day before each tick. -/
def runDailyBatchCron (choices : ℤ → Op → Choice) (today : ℤ)
    (ticks : List ℤ) : List Call :=
  (List.range 7).map (fun daysBack =>
      let date : ℤ := today - (daysBack + 1)
      .compute date (choices date)) ++
    ticks.map fun now =>
      let yesterday := now - 1
      .compute yesterday (choices yesterday)

namespace Samples

/-- Agrees with the parser on no request: none is made. -/
def parseUuid (_ : String) : Except String Uuid :=
  .error "invalid length"

def freshDb : AuditDb where
  eventStore := []
  batches := Table.empty

/-- Every call has a batch id of its own. -/
def choices (date : ℤ) : Op → Choice :=
  fun _ => working (BitVec.ofInt 128 date) (date * day + day)

/-- Two days, the earlier one first. -/
def twoDays : List Call :=
  [.compute 19998 (choices 19998), .compute 19999 (choices 19999)]

end Samples

theorem batches_chained_of_in_order_two_days :
    Throughout (step Samples.sha256 Samples.backend Samples.parseUuid) InOrder
        Samples.twoDays Samples.freshDb ∧
      (run Samples.sha256 Samples.backend Samples.parseUuid Samples.twoDays
        Samples.freshDb).links.length = 2 ∧
      Chained (run Samples.sha256 Samples.backend Samples.parseUuid
        Samples.twoDays Samples.freshDb).links := by
  have hcalls : Throughout (step Samples.sha256 Samples.backend
      Samples.parseUuid) InOrder Samples.twoDays Samples.freshDb := by
    decide +kernel
  have hstart : Chained Samples.freshDb.links := chained_nil
  exact ⟨hcalls, by decide +kernel, batches_chained_of_in_order hstart hcalls⟩

/-- The backfill of a service that starts with an empty table stores the
newest day first, so that no day names the one before it. -/
theorem backfill_unchained :
    (run Samples.sha256 Samples.backend Samples.parseUuid
        (runDailyBatchCron Samples.choices 20000 []) Samples.freshDb).links =
      ((List.range 7).map fun daysBack =>
        { batchDate := 19999 - daysBack
          batchHash := Text.hex Samples.emptyDigest
          previousBatchHash := none }) ∧
      ¬ Chained (run Samples.sha256 Samples.backend Samples.parseUuid
        (runDailyBatchCron Samples.choices 20000 [])
        Samples.freshDb).links := by
  have hlinks : (run Samples.sha256 Samples.backend Samples.parseUuid
      (runDailyBatchCron Samples.choices 20000 []) Samples.freshDb).links =
        (List.range 7).map fun daysBack =>
          { batchDate := 19999 - daysBack
            batchHash := Text.hex Samples.emptyDigest
            previousBatchHash := none } := by
    decide +kernel
  refine ⟨hlinks, ?_⟩
  rw [hlinks]
  intro hchained
  have hlinked := hchained.linked ⟨19998, Text.hex Samples.emptyDigest, none⟩
    (by decide +kernel) ⟨19999, Text.hex Samples.emptyDigest, none⟩
    (by decide +kernel) (by decide) (by decide +kernel)
  cases hlinked

end UssdKernel.AuditHandler
