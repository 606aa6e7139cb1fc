import UssdKernel.Core.HashChain
import UssdKernel.Core.HashTables
import UssdKernel.Core.Runs
import UssdKernel.Core.SortedOrders
import UssdKernel.Ledger.Transactions

/-!
# The verifier of the transaction chain

`verify_chain_integrity` reads the hashes of the log in the order of
`committed_at`.  It keeps the previous hash in a variable, but compares nothing
with it: it reports `FALSE` only for a hash that is `NULL` or empty.  Of all
alterations of a log that `create_transaction` has written it sees exactly
those that empty a hash.
-/

namespace UssdKernel.Ledger

open HashChain Results Runs SortedOrders Text

structure ChainReport where
  isValid : Bool
  brokenAtTransaction : Option TransactionId
  errorMessage : String
  deriving DecidableEq

/-- The report on the rows in the order in which the query returns them.  The
loop also assigns each hash to `v_prev_hash`, which nothing reads. -/
def verifyChainIntegrity : List TransactionRow → ChainReport
  | [] => ⟨true, none, "Chain integrity verified"⟩
  | row :: rows =>
      match row.transactionHash with
      | none => ⟨false, some row.transactionId, "Empty hash found"⟩
      | some hash =>
          if hash = "" then ⟨false, some row.transactionId, "Empty hash found"⟩
          else verifyChainIntegrity rows

/-- The report has this value of `is_valid` in every order of the rows by
`committed_at`. -/
def Reports (log : List TransactionRow) (isValid : Bool) : Prop :=
  ∀ rows, OrderedBy TransactionRow.committedAt log rows →
    (verifyChainIntegrity rows).isValid = isValid

/-! ## The producer -/

structure CreateCall where
  env : CreateEnv
  typeCode : String
  payload : String
  key : String

section Create

variable (sha256 : Bytes → BitVec 256) (timestampText : ℤ → String)

/-- The log after a call; one that fails leaves it. -/
def create (log : List TransactionRow) (call : CreateCall) :
    List TransactionRow :=
  match createTransaction sha256 timestampText call.env call.typeCode
      call.payload call.key log with
  | .ok created => created.2
  | .error _ => log

/-- The texts hashed for the rows that the calls add. -/
def hashedTexts : List CreateCall → List TransactionRow → List String
  | [], _ => []
  | call :: calls, log =>
      let after := create sha256 timestampText log call
      let text :=
        hashedText timestampText log call.typeCode call.payload call.env.now
      if log.length < after.length then text :: hashedTexts calls after
      else hashedTexts calls after

end Create

/-! ## Alterations -/

/-- A change of the log behind the back of its triggers, by the places of the
rows. -/
inductive Alteration
  | setPayload (place : ℕ) (payload : String)
  | setHash (place : ℕ) (hash : Option String)
  | remove (place : ℕ)
  | exchange (first second : ℕ)

/-- Rows that are exchanged take each other's place in time. -/
def Alteration.apply (log : List TransactionRow) :
    Alteration → List TransactionRow
  | .setPayload place payload =>
      log.modify place fun row => { row with payload := payload }
  | .setHash place hash =>
      log.modify place fun row => { row with transactionHash := hash }
  | .remove place => log.eraseIdx place
  | .exchange first second =>
      match log[first]?, log[second]? with
      | some row, some other =>
          (log.set first { other with committedAt := row.committedAt }).set
            second { row with committedAt := other.committedAt }
      | _, _ => log

/-- The alteration leaves a row without a hash. -/
def Alteration.EmptiesHash (log : List TransactionRow) : Alteration → Prop
  | .setHash place hash =>
      place < log.length ∧ (hash = none ∨ hash = some "")
  | _ => False

/-! ## What the verifier sees -/

/-- Every row has a hash. -/
def Hashed (log : List TransactionRow) : Prop :=
  ∀ row ∈ log, ∃ hash, row.transactionHash = some hash ∧ hash ≠ ""

theorem isValid_verify_iff (rows : List TransactionRow) :
    (verifyChainIntegrity rows).isValid = true ↔ Hashed rows := by
  induction rows with
  | nil => simp [verifyChainIntegrity, Hashed]
  | cons row rows ih =>
      rw [Hashed, List.forall_mem_cons, verifyChainIntegrity]
      cases hhash : row.transactionHash with
      | none => simp
      | some hash =>
          by_cases hempty : hash = ""
          · simp [hempty]
          · simp only [hempty, if_false, ih]
            simp [Hashed, hempty]

theorem reports_true_iff (log : List TransactionRow) :
    Reports log true ↔ Hashed log := by
  constructor
  · intro hreports
    obtain ⟨hperm, hsorted⟩ :=
      orderedBy_insertionSort TransactionRow.committedAt log
    have hrows := (isValid_verify_iff _).mp
      (hreports _ ⟨hperm, hsorted⟩)
    exact fun row hrow => hrows row (hperm.mem_iff.mpr hrow)
  · intro hhashed rows hrows
    apply (isValid_verify_iff _).mpr
    exact fun row hrow => hhashed row (hrows.1.mem_iff.mp hrow)

theorem reports_false_iff (log : List TransactionRow) :
    Reports log false ↔ ¬ Hashed log := by
  constructor
  · intro hreports hhashed
    have hsorted := orderedBy_insertionSort TransactionRow.committedAt log
    have htrue := (reports_true_iff log).mpr hhashed _ hsorted
    rw [hreports _ hsorted] at htrue
    cases htrue
  · intro hmissing rows hrows
    apply Bool.eq_false_iff.mpr
    intro hvalid
    apply hmissing
    have hhashed := (isValid_verify_iff _).mp hvalid
    exact fun row hrow => hhashed row (hrows.1.mem_iff.mpr hrow)

/-! ## What the producer writes and what an alteration changes -/

theorem hexDigits_ne_empty (digest : BitVec 256) : hexDigits digest ≠ "" := by
  intro hempty
  have hlength := congrArg (fun text => text.toList.length) hempty
  simp [hexDigits] at hlength

theorem hashed_create (sha256 : Bytes → BitVec 256)
    (timestampText : ℤ → String) {log : List TransactionRow}
    (hlog : Hashed log) (call : CreateCall) :
    Hashed (create sha256 timestampText log call) := by
  rw [create]
  cases hcreate : createTransaction sha256 timestampText call.env
      call.typeCode call.payload call.key log with
  | error error => exact hlog
  | ok created =>
      obtain ⟨⟨new, hafter, hnew⟩, -⟩ := createTransaction_eq_ok hcreate
      intro row hrow
      dsimp only at hrow
      rw [hafter] at hrow
      rcases List.mem_append.mp hrow with hold | hadded
      · exact hlog row hold
      · rw [hnew row hadded]
        exact ⟨_, rfl, hexDigits_ne_empty _⟩

theorem hashed_creates (sha256 : Bytes → BitVec 256)
    (timestampText : ℤ → String) (calls : List CreateCall) :
    Hashed (calls.foldl (create sha256 timestampText) []) := by
  have hstep : ∀ log call, Hashed log → True →
      Hashed (create sha256 timestampText log call) :=
    fun _ call hlog _ => hashed_create sha256 timestampText hlog call
  have hstart : Hashed [] := by
    intro row hrow
    cases hrow
  exact foldl_invariant hstep hstart
    (throughout_of_forall (fun _ _ => trivial) calls [])

section Logs

variable {log : List TransactionRow}

theorem mem_modify {place : ℕ} {change : TransactionRow → TransactionRow}
    {row : TransactionRow} (hrow : row ∈ log.modify place change) :
    row ∈ log ∨ place < log.length ∧ ∃ old ∈ log, row = change old := by
  obtain ⟨index, hindex⟩ := List.mem_iff_getElem?.mp hrow
  rw [List.getElem?_modify] at hindex
  obtain ⟨old, hold, rfl⟩ := Option.map_eq_some_iff.mp hindex
  have hmem := List.mem_of_getElem? hold
  by_cases hplace : place = index
  · rw [if_pos hplace]
    obtain ⟨hlength, -⟩ := List.getElem?_eq_some_iff.mp hold
    exact Or.inr ⟨hplace ▸ hlength, old, hmem, rfl⟩
  · rw [if_neg hplace]
    exact Or.inl hmem

theorem hashed_exchange (hlog : Hashed log) (first second : ℕ) :
    Hashed ((Alteration.exchange first second).apply log) := by
  rw [Alteration.apply]
  cases hfirst : log[first]? with
  | none => exact hlog
  | some row =>
      cases hsecond : log[second]? with
      | none => exact hlog
      | some other =>
          intro result hresult
          rcases List.mem_or_eq_of_mem_set hresult with hresult | rfl
          · rcases List.mem_or_eq_of_mem_set hresult with hold | rfl
            · exact hlog result hold
            · exact hlog other (List.mem_of_getElem? hsecond)
          · exact hlog row (List.mem_of_getElem? hfirst)

theorem hashed_setHash_iff (hlog : Hashed log) (place : ℕ)
    (hash : Option String) :
    ¬ Hashed ((Alteration.setHash place hash).apply log) ↔
      place < log.length ∧ (hash = none ∨ hash = some "") := by
  constructor
  · intro hmissing
    by_contra hkept
    apply hmissing
    intro row hrow
    rcases mem_modify hrow with hold | ⟨hplace, old, -, rfl⟩
    · exact hlog row hold
    · cases hash with
      | none => exact absurd ⟨hplace, Or.inl rfl⟩ hkept
      | some hash =>
          refine ⟨hash, rfl, fun hempty => ?_⟩
          exact hkept ⟨hplace, Or.inr (congrArg some hempty)⟩
  · rintro ⟨hplace, hempty⟩ hhashed
    have hrow : { log[place] with transactionHash := hash } ∈
        (Alteration.setHash place hash).apply log := by
      apply List.mem_iff_getElem?.mpr
      refine ⟨place, ?_⟩
      rw [Alteration.apply, List.getElem?_modify,
        List.getElem?_eq_getElem hplace]
      simp
    obtain ⟨stored, hstored, hne⟩ := hhashed _ hrow
    rcases hempty with rfl | rfl
    · cases hstored
    · exact hne (Option.some.inj hstored).symm

/-- An alteration of a log with all hashes leaves a row without one exactly if
it empties a hash. -/
theorem hashed_apply_iff (hlog : Hashed log) (alteration : Alteration) :
    ¬ Hashed (alteration.apply log) ↔ alteration.EmptiesHash log := by
  cases alteration with
  | setPayload place payload =>
      refine iff_of_false (not_not.mpr ?_) not_false
      intro row hrow
      rcases mem_modify hrow with hold | ⟨-, old, hold, rfl⟩
      · exact hlog row hold
      · exact hlog old hold
  | remove place =>
      refine iff_of_false (not_not.mpr ?_) not_false
      exact fun row hrow => hlog row (List.mem_of_mem_eraseIdx hrow)
  | exchange first second =>
      refine iff_of_false (not_not.mpr ?_) not_false
      exact hashed_exchange hlog first second
  | setHash place hash => exact hashed_setHash_iff hlog place hash

end Logs

/-- On every log that calls of `create_transaction` have written the verifier
reports `TRUE`, and after an alteration it reports `FALSE` (or two of the hashed
texts collide) exactly if the alteration has emptied a hash (or two of them
collide). -/
theorem alteration_reported_iff (sha256 : Bytes → BitVec 256)
    (timestampText : ℤ → String) (calls : List CreateCall)
    (alteration : Alteration) :
    let log := calls.foldl (create sha256 timestampText) []
    let collision := Collision (fun text => sha256 (utf8 text))
      (hashedTexts sha256 timestampText calls [])
    Reports log true ∧
      (Reports (alteration.apply log) false ∨ collision ↔
        alteration.EmptiesHash log ∨ collision) := by
  have hlog := hashed_creates sha256 timestampText calls
  refine ⟨(reports_true_iff _).mpr hlog, ?_⟩
  rw [reports_false_iff, hashed_apply_iff hlog]

namespace ChainSample

def call (id : TransactionId) (payload : String) : CreateCall where
  env := ⟨fun _ => true, id, id, 20000⟩
  typeCode := "PAYMENT"
  payload := payload
  key := "payment-" ++ payload

def calls : List CreateCall :=
  [call 1 "five", call 2 "seven"]

def log : List TransactionRow :=
  calls.foldl (create HashTables.endOf toString) []

def alterations : List Alteration :=
  [.setPayload 0 "nine", .setHash 0 "forged", .remove 0, .exchange 0 1]

/-- A payload, a hash, the older row and the order of the two rows are altered,
and the verifier does not report it. -/
theorem alterations_unreported :
    (alterations.map (Alteration.apply log)).all (· ≠ log) ∧
      (∀ alteration ∈ alterations,
        ¬ Reports (alteration.apply log) false) ∧
      ¬ Collision (fun text => HashTables.endOf (utf8 text))
        (hashedTexts HashTables.endOf toString calls []) := by
  have hvalid : ∀ alteration ∈ alterations,
      (verifyChainIntegrity ((alteration.apply log).insertionSort
        (·.committedAt ≤ ·.committedAt))).isValid = true := by
    decide +kernel
  refine ⟨by decide +kernel, ?_, ?_⟩
  · intro alteration halteration hreports
    have hfalse := hreports _
      (orderedBy_insertionSort TransactionRow.committedAt _)
    rw [hvalid alteration halteration] at hfalse
    cases hfalse
  · unfold Collision
    decide +kernel

end ChainSample

end UssdKernel.Ledger
