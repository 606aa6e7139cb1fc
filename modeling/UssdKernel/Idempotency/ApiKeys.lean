import UssdKernel.Core.Data
import UssdKernel.Core.Results
import UssdKernel.Core.Runs

/-!
# Idempotency keys of the API

`api.create_idempotency_key` infers a unique constraint on the application and
the key, which `api.idempotency_keys` does not have: its constraint also names
`created_at`.  `check_idempotency_key` counts the request in the row that it
returns, and `archive_expired_keys` deletes the rows that it has copied; the
triggers that keep completed keys refuse both.  The guarantees of the four
functions hold exactly in the histories that meet none of these three.
-/

namespace UssdKernel.Idempotency.ApiKeys

open Results Runs

inductive KeyStatus
  | processing
  | completed
  | failed
  deriving DecidableEq

/-- The columns of `api.idempotency_keys` that the functions read. -/
structure KeyRow where
  keyId : BitVec 128
  applicationId : BitVec 128
  idempotencyKey : String
  status : KeyStatus
  responseStatus : Option ℤ
  responseBody : Option String
  transactionId : Option (BitVec 128)
  createdAt : ℤ
  expiresAt : ℤ
  lockedAt : Option ℤ
  requestCount : Option ℤ
  deriving DecidableEq

/-- The columns of `api.idempotency_archives` that the functions read. -/
structure ArchiveRow where
  originalKeyId : BitVec 128
  archivedAt : ℤ
  deriving DecidableEq

/-- The tables, and the time of the last call. -/
structure Tables where
  keys : List KeyRow
  archives : List ArchiveRow
  time : ℤ

inductive ApiError
  /-- `there is no unique or exclusion constraint matching the ON CONFLICT
  specification` -/
  | noMatchingConstraint
  | uniqueViolation
  /-- `core.prevent_update` -/
  | preventUpdate
  /-- `core.prevent_delete` -/
  | preventDelete
  /-- `LIMIT must not be negative` -/
  | negativeLimit
  deriving DecidableEq

/-! ## Constraints -/

inductive Column
  | keyId
  | applicationId
  | idempotencyKey
  | createdAt
  deriving DecidableEq

def Column.Agree (first second : KeyRow) : Column → Prop
  | .keyId => first.keyId = second.keyId
  | .applicationId => first.applicationId = second.applicationId
  | .idempotencyKey => first.idempotencyKey = second.idempotencyKey
  | .createdAt => first.createdAt = second.createdAt

instance (first second : KeyRow) :
    (column : Column) → Decidable (column.Agree first second)
  | .keyId => inferInstanceAs (Decidable (_ = _))
  | .applicationId => inferInstanceAs (Decidable (_ = _))
  | .idempotencyKey => inferInstanceAs (Decidable (_ = _))
  | .createdAt => inferInstanceAs (Decidable (_ = _))

/-- The unique constraint and the primary key of the table. -/
def uniqueConstraints : List (List Column) :=
  [[.applicationId, .idempotencyKey, .createdAt], [.keyId, .createdAt]]

/-- `ON CONFLICT (application_id, idempotency_key)` -/
def conflictTarget : List Column :=
  [.applicationId, .idempotencyKey]

/-- Some row agrees with the new one on all the columns. -/
def Conflicts (row : KeyRow) (keys : List KeyRow) (columns : List Column) :
    Prop :=
  ∃ other ∈ keys, ∀ column ∈ columns, column.Agree row other

instance (row : KeyRow) (keys : List KeyRow) (columns : List Column) :
    Decidable (Conflicts row keys columns) :=
  inferInstanceAs (Decidable (∃ other ∈ keys, ∀ column ∈ columns,
    column.Agree row other))

/-- `INSERT … ON CONFLICT (target) DO NOTHING`, and whether it inserted. -/
def insertOrNothing (constraints : List (List Column)) (target : List Column)
    (row : KeyRow) (keys : List KeyRow) : Except ApiError Bool :=
  if ∃ constraint ∈ constraints, constraint.Perm target then
    if Conflicts row keys target then .ok false
    else if ∃ constraint ∈ constraints, Conflicts row keys constraint then
      .error .uniqueViolation
    else .ok true
  else .error .noMatchingConstraint

/-- `UPDATE … WHERE key_id = …` under the trigger for completed keys. -/
def updateKey (keyId : BitVec 128) (change : KeyRow → KeyRow)
    (keys : List KeyRow) : Except ApiError (List KeyRow) :=
  if ∃ row ∈ keys, row.keyId = keyId ∧ row.status = .completed then
    .error .preventUpdate
  else .ok (keys.map fun row => if row.keyId = keyId then change row else row)

/-! ## The functions -/

structure CheckAnswer where
  keyExists : Bool
  keyStatus : Option KeyStatus
  responseStatus : Option ℤ
  responseBody : Option String
  transactionId : Option (BitVec 128)
  isLocked : Bool
  deriving DecidableEq

inductive Answer
  | created (keyId : Option (BitVec 128))
  | completed
  | checked (answer : CheckAnswer)
  | archived (count : ℕ)
  deriving DecidableEq

inductive Call
  /-- With the drawn identifier and the `key_ttl_hours` of the application's
  active policy. -/
  | create (applicationId : BitVec 128) (idempotencyKey : String)
      (keyId : BitVec 128) (ttlHours : Option ℤ)
  | complete (keyId : BitVec 128) (responseStatus : Option ℤ)
      (responseBody : Option String) (transactionId : Option (BitVec 128))
  | check (applicationId : BitVec 128) (idempotencyKey : String)
      (scan : Scan KeyRow)
  /-- No batch size is no limit. -/
  | archive (batchSize : Option ℤ) (scan : Scan KeyRow)

/-- A call with the time of its transaction. -/
structure Request where
  now : ℤ
  call : Call

def KeyRow.Names (row : KeyRow) (applicationId : BitVec 128)
    (idempotencyKey : String) : Prop :=
  row.applicationId = applicationId ∧ row.idempotencyKey = idempotencyKey

instance (row : KeyRow) (applicationId : BitVec 128) (idempotencyKey : String) :
    Decidable (row.Names applicationId idempotencyKey) :=
  inferInstanceAs (Decidable (_ ∧ _))

/-- The row of a new key; `p_ttl_hours` is not read. -/
def newKey (now : ℤ) (applicationId : BitVec 128) (idempotencyKey : String)
    (keyId : BitVec 128) (ttlHours : Option ℤ) : KeyRow where
  keyId
  applicationId
  idempotencyKey
  status := .processing
  responseStatus := none
  responseBody := none
  transactionId := none
  createdAt := now
  expiresAt := now + ttlHours.getD 24 * hour
  lockedAt := some now
  requestCount := some 1

def createIdempotencyKey (constraints : List (List Column)) (tables : Tables)
    (row : KeyRow) : Except ApiError (Answer × Tables) := do
  if ← insertOrNothing constraints conflictTarget row tables.keys then
    return (.created (some row.keyId),
      { tables with keys := tables.keys ++ [row] })
  else return (.created none, tables)

def completeIdempotencyKey (tables : Tables) (keyId : BitVec 128)
    (responseStatus : Option ℤ) (responseBody : Option String)
    (transactionId : Option (BitVec 128)) :
    Except ApiError (Answer × Tables) := do
  let keys ← updateKey keyId
    (fun row =>
      { row with
        status := .completed
        responseStatus
        responseBody
        transactionId
        lockedAt := none })
    tables.keys
  return (.completed, { tables with keys })

def CheckAnswer.notFound : CheckAnswer where
  keyExists := false
  keyStatus := none
  responseStatus := none
  responseBody := none
  transactionId := none
  isLocked := false

/-- What is returned from the row that was read. -/
def CheckAnswer.of (now : ℤ) (row : KeyRow) : CheckAnswer where
  keyExists := true
  keyStatus := some row.status
  responseStatus := row.responseStatus
  responseBody := row.responseBody
  transactionId := row.transactionId
  isLocked := ∃ lockedAt ∈ row.lockedAt, now - 5 * 60 * 1000000 < lockedAt

def checkIdempotencyKey (now : ℤ) (tables : Tables)
    (applicationId : BitVec 128) (idempotencyKey : String)
    (scan : Scan KeyRow) :
    Except ApiError (Answer × Tables) :=
  match (scan.order tables.keys).find?
      (fun row => row.Names applicationId idempotencyKey) with
  | none => .ok (.checked .notFound, tables)
  | some row => do
      let keys ← updateKey row.keyId
        (fun row => { row with requestCount := row.requestCount.map (· + 1) })
        tables.keys
      return (.checked (.of now row), { tables with keys })

/-- `expires_at < NOW() AND status = 'completed'` -/
def KeyRow.Archivable (now : ℤ) (row : KeyRow) : Prop :=
  row.expiresAt < now ∧ row.status = .completed

instance (now : ℤ) (row : KeyRow) : Decidable (row.Archivable now) :=
  inferInstanceAs (Decidable (_ ∧ _))

/-- The `DELETE` reaches the row. -/
def KeyRow.Doomed (now : ℤ) (archives : List ArchiveRow) (row : KeyRow) :
    Prop :=
  ∃ entry ∈ archives, entry.originalKeyId = row.keyId ∧
    now - hour < entry.archivedAt

instance (now : ℤ) (archives : List ArchiveRow) (row : KeyRow) :
    Decidable (row.Doomed now archives) :=
  inferInstanceAs (Decidable (∃ entry ∈ archives,
    entry.originalKeyId = row.keyId ∧ now - hour < entry.archivedAt))

def takeBatch (batchSize : Option ℤ) (rows : List KeyRow) : List KeyRow :=
  match batchSize with
  | none => rows
  | some size => rows.take size.toNat

def archiveExpiredKeys (now : ℤ) (tables : Tables) (batchSize : Option ℤ)
    (scan : Scan KeyRow) : Except ApiError (Answer × Tables) :=
  if ∃ size ∈ batchSize, size < 0 then .error .negativeLimit
  else
    let expired := takeBatch batchSize
      ((scan.order tables.keys).filter (fun row => row.Archivable now))
    let archives := tables.archives ++
      expired.map fun row => ⟨row.keyId, now⟩
    -- the trigger refuses every deletion
    if ∃ row ∈ tables.keys, row.Doomed now archives then .error .preventDelete
    else .ok (.archived expired.length, { tables with archives })

def perform (constraints : List (List Column)) (tables : Tables)
    (request : Request) : Except ApiError (Answer × Tables) :=
  match request.call with
  | .create applicationId idempotencyKey keyId ttlHours =>
      createIdempotencyKey constraints tables
        (newKey request.now applicationId idempotencyKey keyId ttlHours)
  | .complete keyId responseStatus responseBody transactionId =>
      completeIdempotencyKey tables keyId responseStatus responseBody
        transactionId
  | .check applicationId idempotencyKey scan =>
      checkIdempotencyKey request.now tables applicationId idempotencyKey scan
  | .archive batchSize scan =>
      archiveExpiredKeys request.now tables batchSize scan

/-- The tables after a call; one that raises is rolled back. -/
def step (tables : Tables) (request : Request) : Tables :=
  match perform uniqueConstraints tables request with
  | .ok (_, after) => { after with time := request.now }
  | .error _ => { tables with time := request.now }

/-! ## What the functions promise -/

/-- The row has not expired. -/
def KeyRow.Live (now : ℤ) (row : KeyRow) : Prop :=
  now ≤ row.expiresAt

instance (now : ℤ) (row : KeyRow) : Decidable (row.Live now) :=
  inferInstanceAs (Decidable (_ ≤ _))

def InUse (now : ℤ) (keys : List KeyRow) (applicationId : BitVec 128)
    (idempotencyKey : String) : Prop :=
  ∃ row ∈ keys, row.Names applicationId idempotencyKey ∧ row.Live now

instance (now : ℤ) (keys : List KeyRow) (applicationId : BitVec 128)
    (idempotencyKey : String) :
    Decidable (InUse now keys applicationId idempotencyKey) :=
  inferInstanceAs (Decidable (∃ row ∈ keys,
    row.Names applicationId idempotencyKey ∧ row.Live now))

/-- No two unexpired rows have the same application and key. -/
def OneLive (now : ℤ) (keys : List KeyRow) : Prop :=
  keys.Pairwise fun first second => first.Live now → second.Live now →
    ¬ first.Names second.applicationId second.idempotencyKey

instance (now : ℤ) (keys : List KeyRow) : Decidable (OneLive now keys) :=
  inferInstanceAs (Decidable (keys.Pairwise _))

section Promises

variable (tables : Tables) (request : Request)

/-- What a call promises of its answer. -/
def Promise (outcome : Except ApiError (Answer × Tables)) : Prop :=
  match request.call with
  | .create applicationId idempotencyKey _ _ =>
      InUse request.now tables.keys applicationId idempotencyKey ∨
        ∃ keyId after, outcome = .ok (.created (some keyId), after)
  | .complete _ _ _ _ => True
  | .check applicationId idempotencyKey _ =>
      ∀ row ∈ tables.keys, row.Names applicationId idempotencyKey →
        row.status = .completed → row.Live request.now →
          ∃ answer after, outcome = .ok (.checked answer, after) ∧
            answer.keyStatus = some .completed ∧
            answer.responseStatus = row.responseStatus ∧
            answer.responseBody = row.responseBody ∧
            answer.transactionId = row.transactionId
  | .archive _ _ =>
      ∃ count after, outcome = .ok (.archived count, after) ∧
        ∀ entry ∈ after.archives.drop tables.archives.length,
          ∀ row ∈ after.keys, row.keyId ≠ entry.originalKeyId

/-- The promise of the call is kept, and afterwards no key has two unexpired
rows. -/
def Kept : Prop :=
  Promise tables request (perform uniqueConstraints tables request) ∧
    OneLive request.now (step tables request).keys

/-- A new key is not created, a completed unexpired key is not checked, and
nothing is there to be archived. -/
def Harmless : Prop :=
  match request.call with
  | .create applicationId idempotencyKey _ _ =>
      InUse request.now tables.keys applicationId idempotencyKey
  | .complete _ _ _ _ => True
  | .check applicationId idempotencyKey _ =>
      ∀ row ∈ tables.keys, row.Names applicationId idempotencyKey →
        row.status = .completed → ¬ row.Live request.now
  | .archive batchSize _ =>
      (∀ size ∈ batchSize, 0 ≤ size) ∧
        (batchSize = some 0 ∨
          ∀ row ∈ tables.keys, ¬ row.Archivable request.now) ∧
        ∀ row ∈ tables.keys, ¬ row.Doomed request.now tables.archives

end Promises

instance (tables : Tables) (request : Request) :
    Decidable (Harmless tables request) :=
  match hcall : request.call with
  | .create applicationId idempotencyKey _ _ =>
      decidable_of_iff
        (InUse request.now tables.keys applicationId idempotencyKey)
        (by rw [Harmless, hcall])
  | .complete _ _ _ _ => isTrue (by rw [Harmless, hcall]; trivial)
  | .check applicationId idempotencyKey _ =>
      decidable_of_iff (∀ row ∈ tables.keys,
        row.Names applicationId idempotencyKey →
          row.status = .completed → ¬ row.Live request.now)
        (by rw [Harmless, hcall])
  | .archive batchSize _ =>
      decidable_of_iff ((∀ size ∈ batchSize, 0 ≤ size) ∧
        (batchSize = some 0 ∨
          ∀ row ∈ tables.keys, ¬ row.Archivable request.now) ∧
        ∀ row ∈ tables.keys, ¬ row.Doomed request.now tables.archives)
        (by rw [Harmless, hcall])

/-! ## Rows stay as they are -/

section Steps

variable {tables : Tables} {keys after : List KeyRow} {now later : ℤ}
  {keyId : BitVec 128}

theorem oneLive_of_le (hone : OneLive now keys) (htime : now ≤ later) :
    OneLive later keys := by
  apply List.Pairwise.imp _ hone
  intro first second hsame hfirst hsecond
  exact hsame (htime.trans hfirst) (htime.trans hsecond)

/-- An `UPDATE` that leaves the key and the expiry of every row. -/
theorem oneLive_updateKey {change : KeyRow → KeyRow}
    (hupdate : updateKey keyId change keys = .ok after)
    (hchange : ∀ row, (change row).applicationId = row.applicationId ∧
      (change row).idempotencyKey = row.idempotencyKey ∧
      (change row).expiresAt = row.expiresAt) (hone : OneLive now keys) :
    OneLive now after := by
  by_cases hcompleted :
      ∃ row ∈ keys, row.keyId = keyId ∧ row.status = .completed
  · rw [updateKey, if_pos hcompleted] at hupdate
    cases hupdate
  · rw [updateKey, if_neg hcompleted] at hupdate
    cases hupdate
    have hsame : ∀ row : KeyRow,
        (if row.keyId = keyId then change row else row).applicationId =
            row.applicationId ∧
          (if row.keyId = keyId then change row else row).idempotencyKey =
            row.idempotencyKey ∧
          (if row.keyId = keyId then change row else row).expiresAt =
            row.expiresAt := by
      intro row
      by_cases hrow : row.keyId = keyId
      · rw [if_pos hrow]
        exact hchange row
      · rw [if_neg hrow]
        exact ⟨rfl, rfl, rfl⟩
    rw [OneLive, List.pairwise_map]
    apply List.Pairwise.imp _ hone
    intro first second hdistinct
    rw [KeyRow.Live, KeyRow.Live, KeyRow.Names, (hsame first).1,
      (hsame first).2.1, (hsame first).2.2, (hsame second).1,
      (hsame second).2.1, (hsame second).2.2]
    exact hdistinct

/-- The table has no constraint on the two columns alone. -/
theorem createIdempotencyKey_eq (tables : Tables) (row : KeyRow) :
    createIdempotencyKey uniqueConstraints tables row =
      .error .noMatchingConstraint := by
  have hnone : ¬ ∃ constraint ∈ uniqueConstraints,
      constraint.Perm conflictTarget := by decide
  rw [createIdempotencyKey, insertOrNothing, if_neg hnone]
  rfl

variable {answer : Answer} {tables' : Tables}

theorem oneLive_complete {responseStatus : Option ℤ}
    {responseBody : Option String} {transactionId : Option (BitVec 128)}
    (hcomplete : completeIdempotencyKey tables keyId responseStatus
      responseBody transactionId = .ok (answer, tables'))
    (hone : OneLive now tables.keys) : OneLive now tables'.keys := by
  obtain ⟨keys, hupdate, hafter⟩ := bind_eq_ok.mp hcomplete
  cases hafter
  exact oneLive_updateKey hupdate (fun _ => ⟨rfl, rfl, rfl⟩) hone

variable {scan : Scan KeyRow} {applicationId : BitVec 128}
  {idempotencyKey : String}

/-- A check returns that there is no row, or a row that it has updated. -/
theorem checkIdempotencyKey_cases
    (hcheck : checkIdempotencyKey now tables applicationId idempotencyKey
      scan = .ok (answer, tables')) :
    answer = .checked .notFound ∧ tables' = tables ∧
        (∀ row ∈ tables.keys, ¬ row.Names applicationId idempotencyKey) ∨
      ∃ row ∈ tables.keys, answer = .checked (.of now row) ∧
        ∃ keys, tables' = { tables with keys } ∧
          updateKey row.keyId (fun row =>
            { row with requestCount := row.requestCount.map (· + 1) })
            tables.keys = .ok keys := by
  rw [checkIdempotencyKey] at hcheck
  cases hfound : (scan.order tables.keys).find?
      (fun row => row.Names applicationId idempotencyKey) with
  | none =>
      simp only [hfound] at hcheck
      cases hcheck
      refine .inl ⟨rfl, rfl, fun row hrow hnames => ?_⟩
      have hnone := List.find?_eq_none.mp hfound row
        ((scan.perm tables.keys).mem_iff.mpr hrow)
      exact hnone (decide_eq_true hnames)
  | some row =>
      simp only [hfound] at hcheck
      obtain ⟨keys, hupdate, hafter⟩ := bind_eq_ok.mp hcheck
      cases hafter
      exact .inr ⟨row, (scan.perm tables.keys).mem_iff.mp
        (List.mem_of_find?_eq_some hfound), rfl, keys, rfl, hupdate⟩

variable {request : Request}

theorem oneLive_perform
    (hperform : perform uniqueConstraints tables request =
      .ok (answer, tables'))
    (hone : OneLive now tables.keys) : OneLive now tables'.keys := by
  rw [perform] at hperform
  cases hcall : request.call with
  | create applicationId idempotencyKey keyId ttlHours =>
      simp only [hcall, createIdempotencyKey_eq] at hperform
      cases hperform
  | complete keyId responseStatus responseBody transactionId =>
      simp only [hcall] at hperform
      exact oneLive_complete hperform hone
  | check applicationId idempotencyKey scan =>
      simp only [hcall] at hperform
      rcases checkIdempotencyKey_cases hperform with
        ⟨-, rfl, -⟩ | ⟨row, -, -, keys, rfl, hupdate⟩
      · exact hone
      · exact oneLive_updateKey hupdate (fun _ => ⟨rfl, rfl, rfl⟩) hone
  | archive batchSize scan =>
      simp only [hcall, archiveExpiredKeys] at hperform
      split_ifs at hperform
      cases hperform
      exact hone

theorem oneLive_step (hone : OneLive request.now tables.keys) :
    OneLive request.now (step tables request).keys := by
  rw [step]
  cases hperform : perform uniqueConstraints tables request with
  | ok returned =>
      obtain ⟨answer, after⟩ := returned
      have hafter : OneLive request.now after.keys :=
        oneLive_perform hperform hone
      exact hafter
  | error error => exact hone

/-! ## The promises -/

/-- Completed rows are not updated, so that a completed key is not checked. -/
theorem promise_check_iff
    (hcall : request.call = .check applicationId idempotencyKey scan) :
    Promise tables request (perform uniqueConstraints tables request) ↔
      Harmless tables request := by
  simp only [Promise, Harmless, perform, hcall]
  constructor
  · intro hpromise row hrow hnames hcompleted hlive
    obtain ⟨answer, tables', hcheck, hstatus, -⟩ :=
      hpromise row hrow hnames hcompleted hlive
    rcases checkIdempotencyKey_cases hcheck with
      ⟨-, -, hnone⟩ | ⟨found, hfound, hanswer, keys, -, hupdate⟩
    · exact hnone row hrow hnames
    · cases hanswer
      have hdone : found.status = .completed := Option.some.inj hstatus
      rw [updateKey, if_pos ⟨found, hfound, rfl, hdone⟩] at hupdate
      cases hupdate
  · intro hharmless row hrow hnames hcompleted hlive
    exact absurd hlive (hharmless row hrow hnames hcompleted)

variable {batchSize : Option ℤ}

/-- What a batch of the rows leaves out. -/
theorem takeBatch_eq_nil_iff (hsize : ∀ size ∈ batchSize, 0 ≤ size) :
    takeBatch batchSize keys = [] ↔ batchSize = some 0 ∨ keys = [] := by
  cases batchSize with
  | none => simp [takeBatch]
  | some size =>
      have hnonneg : 0 ≤ size := hsize size rfl
      rw [takeBatch, List.take_eq_nil_iff, Int.toNat_eq_zero, Option.some_inj]
      constructor
      · exact Or.imp_left fun hle => le_antisymm hle hnonneg
      · exact Or.imp_left le_of_eq

theorem filter_scan_eq_nil_iff (scan : Scan KeyRow) :
    (scan.order keys).filter (fun row => row.Archivable now) = [] ↔
      ∀ row ∈ keys, ¬ row.Archivable now := by
  rw [List.filter_eq_nil_iff]
  simp only [decide_eq_true_eq, (scan.perm keys).mem_iff]

theorem mem_of_mem_takeBatch {row : KeyRow}
    (hrow : row ∈ takeBatch batchSize keys) : row ∈ keys := by
  cases batchSize with
  | none => exact hrow
  | some size => exact List.mem_of_mem_take hrow

/-- A row that was just archived is one to delete, so that nothing may be
archived. -/
theorem promise_archive_iff (hcall : request.call = .archive batchSize scan) :
    Promise tables request (perform uniqueConstraints tables request) ↔
      Harmless tables request := by
  simp only [Promise, Harmless, perform, hcall, archiveExpiredKeys]
  constructor
  · rintro ⟨count, after, houtcome, -⟩
    split_ifs at houtcome with hnegative hdoomed
    have hsize : ∀ size ∈ batchSize, 0 ≤ size := fun size hmem =>
      not_lt.mp fun hlt => hnegative ⟨size, hmem, hlt⟩
    have hnone : takeBatch batchSize ((scan.order tables.keys).filter
        (fun row => row.Archivable request.now)) = [] := by
      rw [List.eq_nil_iff_forall_not_mem]
      intro row hrow
      have hkey : row ∈ tables.keys := (scan.perm tables.keys).mem_iff.mp
        (List.mem_of_mem_filter (mem_of_mem_takeBatch hrow))
      refine hdoomed ⟨row, hkey, ⟨row.keyId, request.now⟩, ?_, rfl, ?_⟩
      · exact List.mem_append_right _
          (List.mem_map_of_mem hrow)
      · exact sub_lt_self _ (by decide)
    rw [takeBatch_eq_nil_iff hsize, filter_scan_eq_nil_iff] at hnone
    refine ⟨hsize, hnone, fun row hrow hold => hdoomed ⟨row, hrow, ?_⟩⟩
    obtain ⟨entry, hentry, hrecent⟩ := hold
    exact ⟨entry, List.mem_append_left _ hentry, hrecent⟩
  · rintro ⟨hsize, hbatch, hdoomed⟩
    have hnone : takeBatch batchSize ((scan.order tables.keys).filter
        (fun row => row.Archivable request.now)) = [] := by
      rw [takeBatch_eq_nil_iff hsize, filter_scan_eq_nil_iff]
      exact hbatch
    have hnegative : ¬ ∃ size ∈ batchSize, size < 0 := by
      rintro ⟨size, hmem, hlt⟩
      exact absurd (hsize size hmem) (not_le.mpr hlt)
    rw [hnone, if_neg hnegative, List.map_nil, List.append_nil,
      if_neg (by rintro ⟨row, hrow, hold⟩; exact hdoomed row hrow hold)]
    refine ⟨_, _, rfl, fun entry hentry => ?_⟩
    rw [List.drop_length] at hentry
    exact absurd hentry List.not_mem_nil

theorem promise_iff (request : Request) :
    Promise tables request (perform uniqueConstraints tables request) ↔
      Harmless tables request := by
  cases hcall : request.call with
  | create applicationId idempotencyKey keyId ttlHours =>
      simp only [Promise, Harmless, perform, hcall, createIdempotencyKey_eq]
      apply or_iff_left
      rintro ⟨keyId, after, hcreated⟩
      cases hcreated
  | complete keyId responseStatus responseBody transactionId =>
      simp only [Promise, Harmless, hcall]
  | check applicationId idempotencyKey scan => exact promise_check_iff hcall
  | archive batchSize scan => exact promise_archive_iff hcall

end Steps

/-- In histories at non-decreasing times the promises are kept exactly as long
as no new key is created, no completed unexpired key is checked, and nothing is
to be archived. -/
theorem promises_kept_iff (tables : Tables)
    (hone : OneLive tables.time tables.keys) (requests : List Request)
    (htimes : Throughout step (fun tables request =>
      tables.time ≤ request.now) requests tables) :
    Throughout step Kept requests tables ↔
      Throughout step Harmless requests tables := by
  have hagree : ∀ (tables : Tables) (request : Request),
      OneLive tables.time tables.keys → tables.time ≤ request.now →
        (Kept tables request ↔ Harmless tables request) := by
    intro tables request hone htime
    rw [Kept, promise_iff]
    exact and_iff_left (oneLive_step (oneLive_of_le hone htime))
  have hstep : ∀ (tables : Tables) (request : Request),
      OneLive tables.time tables.keys → Kept tables request →
        OneLive (step tables request).time (step tables request).keys := by
    intro tables request _ hkept
    have htime : (step tables request).time = request.now := by
      rw [step]
      cases perform uniqueConstraints tables request with
      | ok returned => rfl
      | error error => rfl
    rw [htime]
    exact hkept.2
  exact throughout_congr hagree hstep hone htimes

namespace Sample

/-- A request that is being served, and expires after a day. -/
def payment : KeyRow where
  keyId := 7
  applicationId := 1
  idempotencyKey := "pay-1"
  status := .processing
  responseStatus := none
  responseBody := none
  transactionId := none
  createdAt := 0
  expiresAt := 24 * hour
  lockedAt := some 0
  requestCount := some 1

def tables : Tables where
  keys := [payment]
  archives := []
  time := 0

/-- The key is checked, completed, and not created again. -/
def requests : List Request :=
  [⟨1, .check 1 "pay-1" .inOrder⟩, ⟨2, .archive (some 1000) .inOrder⟩,
   ⟨3, .complete 7 (some 201) (some "receipt") none⟩,
   ⟨4, .create 1 "pay-1" 8 none⟩]

theorem promises_kept_iff_requests :
    OneLive 0 tables.keys ∧ Throughout step Harmless requests tables ∧
      Throughout step Kept requests tables := by
  have hone : OneLive tables.time tables.keys := by decide
  have hharmless : Throughout step Harmless requests tables := by
    decide +kernel
  exact ⟨hone, hharmless,
    (promises_kept_iff tables hone requests (by decide +kernel)).mpr hharmless⟩

/-- A new key is refused, the response of a completed key is not returned, and
an expired key is not archived. -/
theorem promises_broken :
    (perform uniqueConstraints ⟨[], [], 0⟩
      ⟨1, .create 1 "pay-1" 7 none⟩).isOk = false ∧
    (perform uniqueConstraints (requests.foldl step tables)
      ⟨5, .check 1 "pay-1" .inOrder⟩).isOk = false ∧
    (perform uniqueConstraints (requests.foldl step tables)
      ⟨25 * hour, .archive (some 1000) .inOrder⟩).isOk = false := by
  decide +kernel

end Sample

end UssdKernel.Idempotency.ApiKeys
