import UssdKernel.Core.Data
import UssdKernel.Core.Purging

/-!
# Idempotency keys of the kernel

`core.idempotency_keys` is unique on the application and the key, but
`check_idempotency_key` and `complete_idempotency_key` look up rows by the key
alone.  An application sees and completes the keys of others.  Two histories
that differ only in calls of other applications give an application the same
results as long as none of these calls changes a key that a later call of the
application looks up.
-/

namespace UssdKernel.Idempotency.CoreKeys

open Purging

inductive KeyStatus
  | pending
  | processing
  | completed
  | failed
  | expired
  deriving DecidableEq

/-- The columns of `core.idempotency_keys` that the functions read.  `none` is
`NULL`. -/
structure KeyRow where
  idempotencyKeyId : BitVec 128
  idempotencyKey : String
  applicationId : Option (BitVec 128)
  status : Option KeyStatus
  transactionId : Option (BitVec 128)
  responseCode : Option ℤ
  responseBody : Option String
  expiresAt : ℤ
  deriving DecidableEq

inductive KeyError
  | notNullViolation
  | uniqueViolation
  /-- `INVALID_STATUS: Status must be COMPLETED, FAILED, or EXPIRED, got %` -/
  | invalidStatus (status : String)
  deriving DecidableEq

inductive Call
  /-- With the drawn identifier. -/
  | create (idempotencyKey : Option String) (idempotencyKeyId : BitVec 128)
      (expiryHours : Option ℤ)
  | check (idempotencyKey : Option String) (scan : Scan KeyRow)
  | complete (idempotencyKey : Option String) (status : Option String)
      (transactionId : Option (BitVec 128)) (responseCode : Option ℤ)
      (responseBody : Option String)

/-- A call made for an application, with the time of its transaction. -/
structure Request where
  application : Option (BitVec 128)
  now : ℤ
  call : Call

structure CheckAnswer where
  keyExists : Bool
  status : Option KeyStatus
  transactionId : Option (BitVec 128)
  responseCode : Option ℤ
  responseBody : Option String
  isExpired : Option Bool
  deriving DecidableEq

inductive Answer
  | created (idempotencyKeyId : BitVec 128)
  | checked (answer : CheckAnswer)
  | completed (found : Bool)
  deriving DecidableEq

/-! ## The functions -/

/-- `uq_idempotency_keys_app_key`; a `NULL` application is equal to none. -/
def Taken (rows : List KeyRow) (application : Option (BitVec 128))
    (key : String) : Prop :=
  application ≠ none ∧
    ∃ row ∈ rows, row.applicationId = application ∧ row.idempotencyKey = key

instance (rows : List KeyRow) (application : Option (BitVec 128))
    (key : String) : Decidable (Taken rows application key) :=
  inferInstanceAs (Decidable (_ ∧ _))

def newRow (application : Option (BitVec 128)) (now : ℤ) (key : String)
    (idempotencyKeyId : BitVec 128) (hours : ℤ) : KeyRow where
  idempotencyKeyId
  idempotencyKey := key
  applicationId := application
  status := some .pending
  transactionId := none
  responseCode := none
  responseBody := none
  expiresAt := now + hour * hours

def createIdempotencyKey (application : Option (BitVec 128)) (now : ℤ)
    (idempotencyKey : Option String) (idempotencyKeyId : BitVec 128)
    (expiryHours : Option ℤ) (rows : List KeyRow) :
    Except KeyError (Answer × List KeyRow) :=
  match idempotencyKey, expiryHours with
  | some key, some hours =>
      if Taken rows application key then .error .uniqueViolation
      else .ok (.created idempotencyKeyId,
        rows ++ [newRow application now key idempotencyKeyId hours])
  | none, _ => .error .notNullViolation
  | some _, none => .error .notNullViolation

/-- The rows of a key, of all applications. -/
def keyed (idempotencyKey : Option String) (rows : List KeyRow) : List KeyRow :=
  rows.filter fun row => some row.idempotencyKey = idempotencyKey

def CheckAnswer.notFound : CheckAnswer where
  keyExists := false
  status := none
  transactionId := none
  responseCode := none
  responseBody := none
  isExpired := none

def CheckAnswer.of (now : ℤ) (row : KeyRow) : CheckAnswer where
  keyExists := true
  status := row.status
  transactionId := row.transactionId
  responseCode := row.responseCode
  responseBody := row.responseBody
  isExpired := some (row.expiresAt < now)

/-- The first row that the server returns decides. -/
def checkIdempotencyKey (now : ℤ) (idempotencyKey : Option String)
    (scan : Scan KeyRow) (rows : List KeyRow) : CheckAnswer :=
  match scan.order (keyed idempotencyKey rows) with
  | [] => .notFound
  | row :: _ => .of now row

/-- `p_status NOT IN (…)` is not true of `NULL`. -/
def finalStatus : Option String → Except KeyError (Option KeyStatus)
  | none => .ok none
  | some "COMPLETED" => .ok (some .completed)
  | some "FAILED" => .ok (some .failed)
  | some "EXPIRED" => .ok (some .expired)
  | some status => .error (.invalidStatus status)

/-- `status IN ('PENDING', 'PROCESSING')` -/
def KeyRow.Open (row : KeyRow) : Prop :=
  row.status = some .pending ∨ row.status = some .processing

instance (row : KeyRow) : Decidable row.Open :=
  inferInstanceAs (Decidable (_ ∨ _))

/-- The `UPDATE`, on one row. -/
def completeRow (idempotencyKey : Option String) (status : Option KeyStatus)
    (transactionId : Option (BitVec 128)) (responseCode : Option ℤ)
    (responseBody : Option String) (row : KeyRow) : KeyRow :=
  if some row.idempotencyKey = idempotencyKey ∧ row.Open then
    { row with status, transactionId, responseCode, responseBody }
  else row

def completeIdempotencyKey (idempotencyKey : Option String)
    (status : Option String) (transactionId : Option (BitVec 128))
    (responseCode : Option ℤ) (responseBody : Option String)
    (rows : List KeyRow) : Except KeyError (Answer × List KeyRow) := do
  let status ← finalStatus status
  return (.completed (∃ row ∈ keyed idempotencyKey rows, row.Open),
    rows.map (completeRow idempotencyKey status transactionId responseCode
      responseBody))

section Serving

variable (rows : List KeyRow) (request : Request)

def perform :
    Except KeyError (Answer × List KeyRow) :=
  match request.call with
  | .create idempotencyKey idempotencyKeyId expiryHours =>
      createIdempotencyKey request.application request.now idempotencyKey
        idempotencyKeyId expiryHours rows
  | .check idempotencyKey scan =>
      .ok (.checked (checkIdempotencyKey request.now idempotencyKey scan rows),
        rows)
  | .complete idempotencyKey status transactionId responseCode responseBody =>
      completeIdempotencyKey idempotencyKey status transactionId responseCode
        responseBody rows

/-- The rows after a call; one that raises is rolled back. -/
def serve : List KeyRow :=
  match perform rows request with
  | .ok (_, after) => after
  | .error _ => rows

def result : Except KeyError Answer :=
  (perform rows request).map Prod.fst

end Serving

/-! ## Calls of other applications -/

def Call.key : Call → Option String
  | .create idempotencyKey _ _ => idempotencyKey
  | .check idempotencyKey _ => idempotencyKey
  | .complete idempotencyKey _ _ _ _ => idempotencyKey

/-- The call looks up its key without the application. -/
def Call.looksUp : Call → Bool
  | .create _ _ _ => false
  | .check _ _ => true
  | .complete _ _ _ _ _ => true

section Histories

variable (application : Option (BitVec 128))

def ofApplication (request : Request) : Bool :=
  request.application = application

/-- A call of another application that changes the table leaves the keys alone
that later calls of the application look up. -/
def LeavesKeys (rows : List KeyRow) (request : Request)
    (later : List Request) : Prop :=
  ofApplication application request = false → serve rows request ≠ rows →
    ∀ other ∈ later, ofApplication application other = true →
      other.call.looksUp = true → other.call.key ≠ request.call.key

instance (rows : List KeyRow) (request : Request) (later : List Request) :
    Decidable (LeavesKeys application rows request later) :=
  inferInstanceAs (Decidable (_ → _ → ∀ other ∈ later, _ → _ → _))

/-- The tables agree on what the later calls of the application read. -/
structure Agree (later : List Request) (first second : List KeyRow) :
    Prop where
  own : ∀ key, Taken first application key ↔ Taken second application key
  looked : ∀ other ∈ later, ofApplication application other = true →
    other.call.looksUp = true →
      keyed other.call.key first = keyed other.call.key second

end Histories

section Noninterference

variable {application : Option (BitVec 128)} {request : Request}
variable {later : List Request} {rows first second : List KeyRow}

theorem Agree.tail (hagree : Agree application (request :: later) first second) :
    Agree application later first second where
  own := hagree.own
  looked := fun other hother =>
    hagree.looked other (List.mem_cons_of_mem _ hother)

/-! ### What a call leaves -/

variable {idempotencyKey responseBody : Option String}
variable {status : Option KeyStatus} {transactionId : Option (BitVec 128)}
variable {responseCode : Option ℤ} {row : KeyRow} {key : Option String}

@[simp]
theorem key_completeRow :
    (completeRow idempotencyKey status transactionId responseCode responseBody
      row).idempotencyKey = row.idempotencyKey := by
  rw [completeRow]
  split_ifs
  · rfl
  · rfl

@[simp]
theorem applicationId_completeRow :
    (completeRow idempotencyKey status transactionId responseCode responseBody
      row).applicationId = row.applicationId := by
  rw [completeRow]
  split_ifs
  · rfl
  · rfl

/-- A call leaves the table, adds a row of its application and key, or
completes the rows of its key. -/
theorem serve_cases (rows : List KeyRow) (request : Request) :
    serve rows request = rows ∨
      (∃ key id hours, request.call.key = some key ∧
        ¬ Taken rows request.application key ∧
        request.call.looksUp = false ∧
        serve rows request =
          rows ++ [newRow request.application request.now key id hours]) ∨
      ∃ status transactionId responseCode responseBody,
        request.call.looksUp = true ∧
        serve rows request = rows.map (completeRow request.call.key status
          transactionId responseCode responseBody) := by
  unfold serve perform
  cases request.call with
  | create idempotencyKey idempotencyKeyId expiryHours =>
      cases idempotencyKey with
      | none => exact .inl rfl
      | some key =>
          cases expiryHours with
          | none => exact .inl rfl
          | some hours =>
              dsimp only [createIdempotencyKey]
              by_cases htaken : Taken rows request.application key
              · rw [if_pos htaken]
                exact .inl rfl
              · rw [if_neg htaken]
                exact .inr (.inl ⟨key, idempotencyKeyId, hours, rfl, htaken,
                  rfl, rfl⟩)
  | check idempotencyKey scan => exact .inl rfl
  | complete idempotencyKey status transactionId responseCode responseBody =>
      dsimp only [completeIdempotencyKey]
      cases finalStatus status with
      | error error => exact .inl rfl
      | ok final =>
          exact .inr (.inr ⟨final, transactionId, responseCode, responseBody,
            rfl, rfl⟩)

theorem taken_map_completeRow {key : String} :
    Taken (rows.map (completeRow idempotencyKey status transactionId
        responseCode responseBody)) application key ↔
      Taken rows application key := by
  simp only [Taken, List.mem_map, exists_exists_and_eq_and, key_completeRow,
    applicationId_completeRow]

theorem taken_append {key : String} :
    Taken (rows ++ [row]) application key ↔
      Taken rows application key ∨ application ≠ none ∧
        row.applicationId = application ∧ row.idempotencyKey = key := by
  simp only [Taken, List.mem_append, List.mem_singleton, or_and_right,
    exists_or, exists_eq_left, and_or_left]

theorem keyed_map_completeRow :
    keyed key (rows.map (completeRow idempotencyKey status transactionId
        responseCode responseBody)) =
      (keyed key rows).map (completeRow idempotencyKey status transactionId
        responseCode responseBody) := by
  rw [keyed, keyed, List.filter_map]
  simp only [Function.comp_def, key_completeRow]

theorem keyed_append :
    keyed key (rows ++ [row]) = keyed key rows ++ keyed key [row] :=
  List.filter_append _ _

/-- A call leaves the rows of other keys. -/
theorem keyed_serve_of_ne (hkey : key ≠ request.call.key) :
    keyed key (serve rows request) = keyed key rows := by
  rcases serve_cases rows request with
    hsame | ⟨name, id, hours, hname, -, -, hcreated⟩ |
      ⟨status, transactionId, responseCode, responseBody, -, hcompleted⟩
  · rw [hsame]
  · have hnone : keyed key
        [newRow request.application request.now name id hours] = [] := by
      rw [keyed, List.filter_eq_nil_iff]
      intro row hrow
      rw [List.mem_singleton.mp hrow, decide_eq_true_eq, newRow, ← hname]
      exact hkey.symm
    rw [hcreated, keyed_append, hnone, List.append_nil]
  · rw [hcompleted, keyed_map_completeRow, List.map_congr_left, List.map_id]
    intro row hrow
    have hrow : some row.idempotencyKey = key :=
      of_decide_eq_true (List.mem_filter.mp hrow).2
    rw [completeRow, if_neg, id]
    rintro ⟨hsame, -⟩
    exact hkey (hrow.symm.trans hsame)

/-- A call of another application creates no key of this one. -/
theorem taken_serve_of_other (hother : ofApplication application request = false)
    {key : String} :
    Taken (serve rows request) application key ↔
      Taken rows application key := by
  rcases serve_cases rows request with
    hsame | ⟨name, id, hours, -, -, -, hcreated⟩ |
      ⟨status, transactionId, responseCode, responseBody, -, hcompleted⟩
  · rw [hsame]
  · rw [hcreated, taken_append]
    apply or_iff_left
    rintro ⟨-, hsame, -⟩
    exact of_decide_eq_false hother hsame
  · rw [hcompleted, taken_map_completeRow]

/-! ### Two tables -/

section Agreeing

variable (hagree : Agree application (request :: later) first second)
include hagree

/-- A call of another application changes nothing that later calls of this one
read. -/
theorem Agree.removed (hother : ofApplication application request = false)
    (hleaves : LeavesKeys application first request later) :
    Agree application later (serve first request) second where
  own := fun key => (taken_serve_of_other hother).trans (hagree.own key)
  looked := by
    intro other hmem hown hlooks
    by_cases hchanged : serve first request = first
    · rw [hchanged]
      exact hagree.tail.looked other hmem hown hlooks
    · rw [keyed_serve_of_ne
        (hleaves hother hchanged other hmem hown hlooks)]
      exact hagree.tail.looked other hmem hown hlooks

section Own

variable (hown : ofApplication application request = true)

include hown

/-- A call that adds the same row to both tables or to none. -/
theorem Agree.create {id : BitVec 128} {expiryHours : Option ℤ}
    (hcall : request.call = .create idempotencyKey id expiryHours) :
    result first request = result second request ∧
      Agree application later (serve first request) (serve second request) := by
  have happlication : request.application = application :=
    of_decide_eq_true hown
  simp only [result, serve, perform, hcall]
  cases idempotencyKey with
  | none => exact ⟨rfl, hagree.tail⟩
  | some key =>
      cases expiryHours with
      | none => exact ⟨rfl, hagree.tail⟩
      | some hours =>
          have hsame : Taken first request.application key ↔
              Taken second request.application key := by
            rw [happlication]
            exact hagree.own key
          simp only [createIdempotencyKey]
          by_cases htaken : Taken first request.application key
          · rw [if_pos htaken, if_pos (hsame.mp htaken)]
            exact ⟨rfl, hagree.tail⟩
          · rw [if_neg htaken, if_neg (mt hsame.mpr htaken)]
            refine ⟨rfl, fun other => ?_, fun other hmem hother hlooks => ?_⟩
            · rw [taken_append, taken_append, hagree.own other]
            · rw [keyed_append, keyed_append,
                hagree.tail.looked other hmem hother hlooks]

theorem Agree.complete {status : Option String}
    (hcall : request.call = .complete idempotencyKey status transactionId
      responseCode responseBody) :
    result first request = result second request ∧
      Agree application later (serve first request) (serve second request) := by
  have hlooked := hagree.looked request List.mem_cons_self hown
    (by rw [hcall]; rfl)
  have hkey : request.call.key = idempotencyKey := by
    rw [hcall]
    rfl
  rw [hkey] at hlooked
  simp only [result, serve, perform, hcall, completeIdempotencyKey]
  cases finalStatus status with
  | error error => exact ⟨rfl, hagree.tail⟩
  | ok final =>
      refine ⟨?_, fun key => ?_, fun other hmem hother hlooks => ?_⟩
      · rw [hlooked]
        rfl
      · exact taken_map_completeRow.trans
          ((hagree.own key).trans taken_map_completeRow.symm)
      · have hrest := hagree.tail.looked other hmem hother hlooks
        exact keyed_map_completeRow.trans
          ((congrArg _ hrest).trans keyed_map_completeRow.symm)

theorem Agree.kept :
    result first request = result second request ∧
      Agree application later (serve first request) (serve second request) := by
  cases hcall : request.call with
  | create idempotencyKey id expiryHours => exact hagree.create hown hcall
  | check idempotencyKey scan =>
      have hlooked := hagree.looked request List.mem_cons_self hown
        (by rw [hcall]; rfl)
      have hkey : request.call.key = idempotencyKey := by
        rw [hcall]
        rfl
      rw [hkey] at hlooked
      simp only [result, serve, perform, hcall, checkIdempotencyKey, hlooked]
      exact ⟨rfl, hagree.tail⟩
  | complete idempotencyKey status transactionId responseCode responseBody =>
      exact hagree.complete hown hcall

end Own

end Agreeing

/-- Two histories that differ only in calls of other applications give the
application the same results, if none of these calls changes a key that a later
call of the application looks up. -/
theorem application_results_eq (application : Option (BitVec 128))
    (rows : List KeyRow) (history other : List Request)
    (hsame : history.filter (ofApplication application) =
      other.filter (ofApplication application))
    (hhistory : Along serve (LeavesKeys application) history rows)
    (hother : Along serve (LeavesKeys application) other rows) :
    outputs serve result (ofApplication application) history rows =
      outputs serve result (ofApplication application) other rows := by
  have hunwinding : Unwinding serve result (ofApplication application)
      (ofApplication application) (LeavesKeys application)
      (Agree application) :=
    { observed_kept := fun _ hobserved => hobserved
      removed := fun hremoved hleaves hagree =>
        hagree.removed hremoved hleaves
      kept := fun hkept _ hagree =>
        ⟨fun _ => (hagree.kept hkept).1, (hagree.kept hkept).2⟩ }
  exact hunwinding.outputs_eq hsame hhistory hother
    fun _ => ⟨fun _ => Iff.rfl, fun _ _ _ _ => rfl⟩

end Noninterference

namespace Sample

/-- Application 1 creates a key and reads it. -/
def own : List Request :=
  [⟨some 1, 0, .create (some "pay-1") 10 (some 24)⟩,
   ⟨some 1, 1, .check (some "pay-1") .inOrder⟩]

/-- Application 2 uses another key in between. -/
def otherKey : List Request :=
  [⟨some 1, 0, .create (some "pay-1") 10 (some 24)⟩,
   ⟨some 2, 0, .create (some "pay-2") 20 (some 24)⟩,
   ⟨some 2, 0, .complete (some "pay-2") (some "FAILED") none none none⟩,
   ⟨some 1, 1, .check (some "pay-1") .inOrder⟩]

theorem application_results_eq_other_key :
    outputs serve result (ofApplication (some 1)) own [] =
      outputs serve result (ofApplication (some 1)) otherKey [] :=
  application_results_eq (some 1) [] own otherKey rfl (by decide +kernel)
    (by decide +kernel)

/-- Application 2 completes the key of application 1, or creates a key that
application 1 then finds. -/
theorem foreign_key_is_seen :
    outputs serve result (ofApplication (some 1)) own [] ≠
        outputs serve result (ofApplication (some 1))
          (own.take 1 ++ [⟨some 2, 0, .complete (some "pay-1") (some "FAILED")
            none none none⟩] ++ own.drop 1) [] ∧
      outputs serve result (ofApplication (some 1)) (own.drop 1) [] ≠
        outputs serve result (ofApplication (some 1))
          (⟨some 2, 0, .create (some "pay-1") 20 (some 24)⟩ :: own.drop 1)
          [] := by
  decide +kernel

end Sample

end UssdKernel.Idempotency.CoreKeys
