import UssdKernel.Core.KeyedTables
import UssdKernel.Core.Purging
import UssdKernel.Ledger.Transactions

/-!
# Submitting transactions

`submit_transaction` looks for the idempotency key among the transactions of its
application.  The trigger `check_idempotency`, which the `INSERT` fires, looks
for it among those of all applications, and its error becomes a result with
`success` false.  A key that another application has used first is refused,
although the application itself has no transaction with it.
-/

namespace UssdKernel.Ledger.Submissions

open KeyedTables Purging

/-- The columns of `core.transaction_log` that a submission reads. -/
structure SubmittedRow where
  transactionId : TransactionId
  transactionUuid : String
  applicationId : Option Uuid
  idempotencyKey : String
  transactionReference : String
  status : String
  transactionHash : String
  chainSequence : ℤ
  accountSequence : ℤ

/-- The trigger keeps the keys apart. -/
abbrev SubmissionLog := Table SubmittedRow.idempotencyKey

/-- `core.transaction_result` -/
structure TransactionResult where
  success : Bool
  transactionId : Option TransactionId
  transactionReference : Option String
  status : Option String
  message : Option String
  chainSequence : Option ℤ
  accountSequence : Option ℤ
  currentHash : Option String
  deriving DecidableEq

/-- The answer of `validate_transaction_payload`. -/
structure Validation where
  valid : Option Bool
  errorMessage : Option String

/-- What the functions of the hash chains return. -/
structure ChainValues where
  transactionHash : String
  chainSequence : ℤ
  accountSequence : ℤ

/-- A call, with the identifiers and the reference that it draws.  Its other
parameters are only passed on. -/
structure Submission (Body : Type) where
  applicationId : Option Uuid
  idempotencyKey : Option String
  body : Body
  newId : TransactionId
  newUuid : String
  newReference : String

/-! ## The function -/

def duplicateMessage : String :=
  "Duplicate transaction detected - returning existing record"

/-- The `SELECT` by key and application; `NULL` is equal to nothing. -/
def ownRow (log : SubmissionLog) (applicationId : Option Uuid)
    (idempotencyKey : Option String) : Option SubmittedRow := do
  let key ← idempotencyKey
  let application ← applicationId
  (log.lookup key).filter fun row => row.applicationId = some application

def TransactionResult.duplicate (row : SubmittedRow) : TransactionResult where
  success := true
  transactionId := some row.transactionId
  transactionReference := some row.transactionReference
  status := some row.status
  message := some duplicateMessage
  chainSequence := some row.chainSequence
  accountSequence := some row.accountSequence
  currentHash := some row.transactionHash

/-- A result with `success` false. -/
def TransactionResult.refused (status : String) (message : Option String) :
    TransactionResult where
  success := false
  transactionId := none
  transactionReference := none
  status := some status
  message
  chainSequence := none
  accountSequence := none
  currentHash := none

def TransactionResult.submitted (row : SubmittedRow) : TransactionResult where
  success := true
  transactionId := some row.transactionId
  transactionReference := some row.transactionReference
  status := some "COMPLETED"
  message := some "Transaction submitted successfully"
  chainSequence := some row.chainSequence
  accountSequence := some row.accountSequence
  currentHash := some row.transactionHash

/-- The trigger, with the text of its error. -/
def checkIdempotency (log : SubmissionLog) :
    Option String → Except String String
  | none => .error
      "INVALID_IDEMPOTENCY_KEY: Idempotency key must be at least 8 characters"
  | some key =>
      if trimmedLength key < 8 then .error
        "INVALID_IDEMPOTENCY_KEY: Idempotency key must be at least 8 characters"
      else
        match log.lookup key with
        | some row => .error
            ("IDEMPOTENCY_VIOLATION: Transaction with key " ++ key ++
              " already exists (ID: " ++ toString row.transactionId ++
              ", UUID: " ++ row.transactionUuid ++
              ", Status: " ++ row.status ++ ")")
        | none => .ok key

section Submit

variable {Body : Type} (validate : Option Uuid → Body → Validation)
variable (chain : SubmissionLog → Submission Body → ChainValues)

def newSubmittedRow (log : SubmissionLog) (submission : Submission Body)
    (key : String) : SubmittedRow where
  transactionId := submission.newId
  transactionUuid := submission.newUuid
  applicationId := submission.applicationId
  idempotencyKey := key
  transactionReference := submission.newReference
  status := "COMPLETED"
  transactionHash := (chain log submission).transactionHash
  chainSequence := (chain log submission).chainSequence
  accountSequence := (chain log submission).accountSequence

def submitTransaction (log : SubmissionLog) (submission : Submission Body) :
    TransactionResult × SubmissionLog :=
  match ownRow log submission.applicationId submission.idempotencyKey with
  | some row => (.duplicate row, log)
  | none =>
      let validation := validate submission.applicationId submission.body
      if validation.valid = some false then
        (.refused "REJECTED" validation.errorMessage, log)
      else
        match checkIdempotency log submission.idempotencyKey with
        -- the exception handler
        | .error message => (.refused "FAILED" (some message), log)
        | .ok key =>
            let row := newSubmittedRow chain log submission key
            -- no row has the key, so that nothing is merged
            (.submitted row, log.upsert row id fun _ => rfl)

/-! ## Calls of one application -/

def submit (log : SubmissionLog) (submission : Submission Body) :
    SubmissionLog :=
  (submitTransaction validate chain log submission).2

/-- The flag, and whether a success returns a transaction that was there
before. -/
def outcome (log : SubmissionLog) (submission : Submission Body) :
    Bool × Bool :=
  let result := (submitTransaction validate chain log submission).1
  (result.success, result.success && result.message = some duplicateMessage)

def ofApplication (application : Uuid) (submission : Submission Body) : Bool :=
  submission.applicationId = some application

/-- A call of the application with a key. -/
def observed (application : Uuid) (submission : Submission Body) : Bool :=
  ofApplication application submission && submission.idempotencyKey.isSome

/-- The outcomes of the application's calls with a key. -/
def outcomes (application : Uuid) (history : List (Submission Body))
    (start : SubmissionLog) : List (Bool × Bool) :=
  outputs (submit validate chain) (outcome validate chain)
    (observed application) history start

/-- The payload and the key pass their checks. -/
def Admissible (submission : Submission Body) (key : String) : Prop :=
  (validate submission.applicationId submission.body).valid ≠ some false ∧
    8 ≤ trimmedLength key

instance (submission : Submission Body) (key : String) :
    Decidable (Admissible validate submission key) :=
  inferInstanceAs (Decidable (_ ∧ _))

/-- An admissible submission of the application, which has no transaction with
the key, finds no key in the log that was not there at the start. -/
def FindsFree (application : Uuid) (start log : SubmissionLog)
    (submission : Submission Body) (_later : List (Submission Body)) : Prop :=
  ofApplication application submission = true →
    ∀ key ∈ submission.idempotencyKey, Admissible validate submission key →
      ownRow log (some application) (some key) = none →
        log.lookup key ≠ none → start.lookup key ≠ none

/-- The condition at every step of a history. -/
def FindsFreeAlong (application : Uuid) (start : SubmissionLog)
    (history : List (Submission Body)) : Prop :=
  Along (submit validate chain) (FindsFree validate application start) history
    start

/-! ## What a submission does -/

variable {validate chain} {log : SubmissionLog}
  {submission : Submission Body} {key : String}

theorem ownRow_eq_some {application : Uuid} {row : SubmittedRow} :
    ownRow log (some application) (some key) = some row ↔
      log.lookup key = some row ∧ row.applicationId = some application := by
  change (log.lookup key).filter _ = some row ↔ _
  rw [Option.filter_eq_some_iff, decide_eq_true_eq]

theorem ownRow_eq_none_of_lookup {application : Option Uuid}
    (hlookup : log.lookup key = none) :
    ownRow log application (some key) = none := by
  cases application with
  | none => rfl
  | some application =>
      change (log.lookup key).filter _ = none
      rw [hlookup, Option.filter_none]

theorem checkIdempotency_eq_ok {given : Option String} :
    checkIdempotency log given = .ok key ↔
      given = some key ∧ 8 ≤ trimmedLength key ∧ log.lookup key = none := by
  cases given with
  | none =>
      constructor
      · intro hok
        cases hok
      · rintro ⟨hgiven, -⟩
        cases hgiven
  | some other =>
      rw [checkIdempotency, Option.some_inj]
      by_cases hlength : trimmedLength other < 8
      · rw [if_pos hlength]
        constructor
        · intro hok
          cases hok
        · rintro ⟨rfl, hlong, -⟩
          exact absurd hlength (not_lt.mpr hlong)
      · rw [if_neg hlength]
        cases hlookup : log.lookup other with
        | some row =>
            constructor
            · intro hok
              cases hok
            · rintro ⟨rfl, -, hnone⟩
              rw [hlookup] at hnone
              cases hnone
        | none =>
            constructor
            · intro hok
              cases hok
              exact ⟨rfl, not_lt.mp hlength, hlookup⟩
            · rintro ⟨rfl, -, -⟩
              rfl

/-- The submission is accepted as a new transaction. -/
def Accepted (validate : Option Uuid → Body → Validation) (log : SubmissionLog)
    (submission : Submission Body) (key : String) : Prop :=
  submission.idempotencyKey = some key ∧ Admissible validate submission key ∧
    log.lookup key = none

instance : Decidable (Accepted validate log submission key) :=
  have : Decidable (log.lookup key = none) :=
    decidable_of_iff _ Option.isNone_iff_eq_none
  inferInstanceAs (Decidable (_ ∧ _ ∧ _))

variable (validate chain) in
theorem submitTransaction_cases (log : SubmissionLog)
    (submission : Submission Body) :
    (∃ row, ownRow log submission.applicationId submission.idempotencyKey =
          some row ∧
        submitTransaction validate chain log submission =
          (.duplicate row, log)) ∨
      ownRow log submission.applicationId submission.idempotencyKey = none ∧
        ((∀ key, ¬ Accepted validate log submission key) ∧
            (∃ status message,
              submitTransaction validate chain log submission =
                (.refused status message, log)) ∨
          ∃ key, Accepted validate log submission key ∧
            submitTransaction validate chain log submission =
              (.submitted (newSubmittedRow chain log submission key),
                log.upsert (newSubmittedRow chain log submission key) id
                  fun _ => rfl)) := by
  cases hown : ownRow log submission.applicationId
      submission.idempotencyKey with
  | some row =>
      refine .inl ⟨row, rfl, ?_⟩
      simp only [submitTransaction, hown]
  | none =>
      refine .inr ⟨rfl, ?_⟩
      simp only [submitTransaction, hown]
      by_cases hvalid : (validate submission.applicationId
          submission.body).valid = some false
      · rw [if_pos hvalid]
        exact .inl ⟨fun _ haccepted => haccepted.2.1.1 hvalid, _, _, rfl⟩
      · rw [if_neg hvalid]
        cases hcheck : checkIdempotency log submission.idempotencyKey with
        | error message =>
            refine .inl ⟨fun key haccepted => ?_, _, _, rfl⟩
            rw [checkIdempotency_eq_ok.mpr ⟨haccepted.1, haccepted.2.1.2,
              haccepted.2.2⟩] at hcheck
            cases hcheck
        | ok key =>
            obtain ⟨hkey, hlength, hlookup⟩ := checkIdempotency_eq_ok.mp hcheck
            exact .inr ⟨key, ⟨hkey, ⟨hvalid, hlength⟩, hlookup⟩, rfl⟩

theorem idempotencyKey_newSubmittedRow :
    (newSubmittedRow chain log submission key).idempotencyKey = key := rfl

/-- A submission adds its own key, if it is accepted, and nothing else. -/
theorem lookup_submit (other : String) :
    (submit validate chain log submission).lookup other =
      if Accepted validate log submission other then
        some (newSubmittedRow chain log submission other)
      else log.lookup other := by
  rcases submitTransaction_cases validate chain log submission with
    ⟨row, hown, hsubmit⟩ | ⟨-, ⟨hrefused, status, message, hsubmit⟩ |
      ⟨key, haccepted, hsubmit⟩⟩
  · rw [submit, hsubmit, if_neg]
    intro haccepted
    rw [haccepted.1, ownRow_eq_none_of_lookup haccepted.2.2] at hown
    cases hown
  · rw [submit, hsubmit, if_neg (hrefused other)]
  · rw [submit, hsubmit, Table.lookup_upsert, idempotencyKey_newSubmittedRow]
    by_cases hother : other = key
    · subst hother
      rw [if_pos rfl, if_pos haccepted, haccepted.2.2]
      rfl
    · rw [if_neg hother, if_neg]
      intro hcontra
      exact hother (Option.some_inj.mp (hcontra.1.symm.trans haccepted.1))

theorem outcome_of_key (hkey : submission.idempotencyKey = some key) :
    outcome validate chain log submission =
      ((ownRow log submission.applicationId (some key)).isSome ||
          decide (Accepted validate log submission key),
        (ownRow log submission.applicationId (some key)).isSome) := by
  rw [← hkey]
  rcases submitTransaction_cases validate chain log submission with
    ⟨row, hown, hsubmit⟩ | ⟨hown, ⟨hrefused, status, message, hsubmit⟩ |
      ⟨other, haccepted, hsubmit⟩⟩
  · rw [outcome, hsubmit, hown]
    rfl
  · rw [outcome, hsubmit, hown, decide_eq_false (hrefused key)]
    rfl
  · obtain rfl : other = key :=
      Option.some_inj.mp (haccepted.1.symm.trans hkey)
    rw [outcome, hsubmit, hown, decide_eq_true haccepted]
    rfl

/-! ## The log with and without the other applications -/

variable {application : Uuid} {start log first second : SubmissionLog}
  {submission : Submission Body} {key : String}

theorem lookup_submit_ne_none :
    (submit validate chain log submission).lookup key ≠ none ↔
      log.lookup key ≠ none ∨ Accepted validate log submission key := by
  rw [lookup_submit]
  by_cases haccepted : Accepted validate log submission key
  · rw [if_pos haccepted]
    exact iff_of_true (Option.some_ne_none _) (.inr haccepted)
  · rw [if_neg haccepted, or_iff_left haccepted]

theorem ownRow_submit_ne_none :
    ownRow (submit validate chain log submission) (some application)
        (some key) ≠ none ↔
      ownRow log (some application) (some key) ≠ none ∨
        ofApplication application submission = true ∧
          Accepted validate log submission key := by
  change ((submit validate chain log submission).lookup key).filter _ ≠ none ↔ _
  rw [lookup_submit]
  by_cases haccepted : Accepted validate log submission key
  · rw [if_pos haccepted, ownRow_eq_none_of_lookup haccepted.2.2,
      and_iff_left haccepted]
    simp [Option.filter_some, newSubmittedRow, ofApplication]
  · rw [if_neg haccepted, or_iff_left fun hnew => haccepted hnew.2]
    rfl

/-- The log of a history and the log of the application's calls alone: the
application has the same keys in both, and the second has no other keys than
these and those of the start. -/
structure Agrees (application : Uuid) (start first second : SubmissionLog) :
    Prop where
  own : ∀ key, ownRow first (some application) (some key) ≠ none ↔
    ownRow second (some application) (some key) ≠ none
  taken : ∀ key, second.lookup key ≠ none ↔
    start.lookup key ≠ none ∨ ownRow second (some application) (some key) ≠ none
  kept : ∀ key, start.lookup key ≠ none → first.lookup key ≠ none

theorem ownRow_ne_none_lookup
    (hown : ownRow log (some application) (some key) ≠ none) :
    log.lookup key ≠ none :=
  fun hlookup => hown (ownRow_eq_none_of_lookup hlookup)

theorem agrees_self (application : Uuid) (start : SubmissionLog) :
    Agrees application start start start where
  own _ := Iff.rfl
  taken _ := (or_iff_left_of_imp ownRow_ne_none_lookup).symm
  kept _ := id

section Agreeing

variable (hagrees : Agrees application start first second)
include hagrees

/-- Both logs accept the same submissions of the application exactly if the
first has no key of another application in the way. -/
theorem Agrees.accepted_iff (hkey : submission.idempotencyKey = some key)
    (hown : ownRow first (some application) (some key) = none) :
    (Accepted validate first submission key ↔
        Accepted validate second submission key) ↔
      (Admissible validate submission key → first.lookup key ≠ none →
        start.lookup key ≠ none) := by
  have hsecond : second.lookup key = none ↔ start.lookup key = none := by
    have hnone := not_iff_not.mpr (hagrees.own key)
    have htaken := not_iff_not.mpr (hagrees.taken key)
    tauto
  have hkept := hagrees.kept key
  rw [Accepted, Accepted, hsecond]
  tauto

theorem Agrees.removed (hother : ofApplication application submission = false) :
    Agrees application start (submit validate chain first submission)
      second where
  own key := by
    rw [ownRow_submit_ne_none, hother, ← hagrees.own]
    exact or_iff_left fun hnew => Bool.false_ne_true hnew.1
  taken := hagrees.taken
  kept key hstart := lookup_submit_ne_none.mpr (.inl (hagrees.kept key hstart))

theorem Agrees.step
    (haccepted : ∀ key, Accepted validate first submission key ↔
      Accepted validate second submission key)
    (hof : ofApplication application submission = true) :
    Agrees application start (submit validate chain first submission)
      (submit validate chain second submission) where
  own key := by
    rw [ownRow_submit_ne_none, ownRow_submit_ne_none, hagrees.own, haccepted]
  taken key := by
    rw [lookup_submit_ne_none, ownRow_submit_ne_none, hagrees.taken, hof,
      or_assoc]
    simp
  kept key hstart := lookup_submit_ne_none.mpr (.inl (hagrees.kept key hstart))

theorem Agrees.isSome_ownRow (key : String) :
    (ownRow first (some application) (some key)).isSome =
      (ownRow second (some application) (some key)).isSome := by
  rw [Bool.eq_iff_iff, Option.isSome_iff_ne_none, Option.isSome_iff_ne_none]
  exact hagrees.own key

theorem Agrees.findsFree_iff (hof : ofApplication application submission = true)
    (hkey : submission.idempotencyKey = some key)
    (later : List (Submission Body)) :
    FindsFree validate application start first submission later ↔
      (ownRow first (some application) (some key) = none →
        (Accepted validate first submission key ↔
          Accepted validate second submission key)) := by
  constructor
  · intro hfinds hown
    rw [hagrees.accepted_iff hkey hown]
    intro hadmissible
    exact hfinds hof key hkey hadmissible hown
  · intro haccepted _ other hother hadmissible hown
    obtain rfl : key = other := Option.some_inj.mp (hkey.symm.trans hother)
    exact (hagrees.accepted_iff hkey hown).mp (haccepted hown) hadmissible

end Agreeing

/-- The calls of the application are answered as without the others exactly if
they find no key of another application in the way. -/
theorem exactUnwinding_submit (application : Uuid) (start : SubmissionLog) :
    ExactUnwinding (submit validate chain) (outcome validate chain)
      (observed application) (ofApplication application)
      (FindsFree validate application start) (Agrees application start) where
  observed_kept submission hobserved :=
    (Bool.and_eq_true_iff.mp hobserved).1
  unobserved := by
    intro log submission later hobserved hof key hkey
    rw [observed, hof, Option.mem_def.mp hkey] at hobserved
    cases hobserved
  removed hother hagrees := hagrees.removed hother
  exact := by
    intro submission later first second hobserved hagrees
    obtain ⟨hof, hsome⟩ := Bool.and_eq_true_iff.mp hobserved
    obtain ⟨key, hkey⟩ := Option.isSome_iff_exists.mp hsome
    have happlication : submission.applicationId = some application :=
      of_decide_eq_true hof
    rw [hagrees.findsFree_iff hof hkey, outcome_of_key hkey,
      outcome_of_key hkey, happlication, ← hagrees.isSome_ownRow key]
    cases ownRow first (some application) (some key) with
    | some row =>
        exact iff_of_true rfl fun hnone => absurd hnone (Option.some_ne_none _)
    | none =>
        rw [Prod.mk.injEq, and_iff_left rfl, Option.isSome_none, Bool.false_or,
          Bool.false_or, decide_eq_decide, imp_iff_right rfl]
  kept := by
    intro submission later first second hof hfinds hagrees
    refine hagrees.step (fun key => ?_) hof
    by_cases hkey : submission.idempotencyKey = some key
    · by_cases hown : ownRow first (some application) (some key) = none
      · exact (hagrees.findsFree_iff hof hkey later).mp hfinds hown
      · -- both logs hold the application's own row
        exact iff_of_false
          (fun haccepted => ownRow_ne_none_lookup hown haccepted.2.2)
          fun haccepted => ownRow_ne_none_lookup ((hagrees.own key).mp hown)
            haccepted.2.2
    · exact iff_of_false (fun haccepted => hkey haccepted.1)
        fun haccepted => hkey haccepted.1

theorem outcomes_filter_iff (application : Uuid) (start : SubmissionLog)
    (history : List (Submission Body)) :
    outcomes validate chain application history start =
        outcomes validate chain application
          (history.filter (ofApplication application)) start ↔
      FindsFreeAlong validate chain application start history :=
  (exactUnwinding_submit application start).outputs_filter_iff
    (agrees_self application start)

/-! ## Repeated calls -/

variable {application : Uuid} {log : SubmissionLog}
  {submission : Submission Body} {key : String} {row : SubmittedRow}

theorem submitTransaction_of_ownRow
    (hown : ownRow log submission.applicationId submission.idempotencyKey =
      some row) :
    submitTransaction validate chain log submission = (.duplicate row, log) := by
  simp only [submitTransaction, hown]

/-- No submission changes a row of the log. -/
theorem ownRow_submit (hown : ownRow log (some application) (some key) = some row) :
    ownRow (submit validate chain log submission) (some application)
      (some key) = some row := by
  obtain ⟨hlookup, happlication⟩ := ownRow_eq_some.mp hown
  refine ownRow_eq_some.mpr ⟨?_, happlication⟩
  rw [lookup_submit, if_neg, hlookup]
  intro haccepted
  rw [haccepted.2.2] at hlookup
  cases hlookup

theorem ownRow_foldl_submit (history : List (Submission Body))
    (hown : ownRow log (some application) (some key) = some row) :
    ownRow (history.foldl (submit validate chain) log) (some application)
      (some key) = some row := by
  induction history generalizing log with
  | nil => exact hown
  | cons submission history ih => exact ih (ownRow_submit hown)

/-- A success leaves the application's row with the key, and returns its
identifier. -/
theorem ownRow_of_success
    (happlication : submission.applicationId = some application)
    (hkey : submission.idempotencyKey = some key)
    (hsuccess : (submitTransaction validate chain log submission).1.success =
      true) :
    ∃ row, ownRow (submit validate chain log submission) (some application)
        (some key) = some row ∧
      (submitTransaction validate chain log submission).1.transactionId =
        some row.transactionId := by
  rcases submitTransaction_cases validate chain log submission with
    ⟨row, hown, hsubmit⟩ | ⟨-, ⟨-, status, message, hsubmit⟩ |
      ⟨other, haccepted, hsubmit⟩⟩
  · rw [happlication, hkey] at hown
    exact ⟨row, ownRow_submit hown, by rw [hsubmit]; rfl⟩
  · rw [hsubmit] at hsuccess
    cases hsuccess
  · obtain rfl : other = key :=
      Option.some_inj.mp (haccepted.1.symm.trans hkey)
    refine ⟨newSubmittedRow chain log submission other, ?_, by rw [hsubmit]; rfl⟩
    rw [ownRow_eq_some, lookup_submit, if_pos haccepted]
    exact ⟨rfl, happlication⟩

/-- `again` repeats the key of `first`, which succeeded before it in the
history. -/
structure Repeats (validate : Option Uuid → Body → Validation)
    (chain : SubmissionLog → Submission Body → ChainValues) (application : Uuid)
    (log : SubmissionLog) (first again : Submission Body) : Prop where
  ofFirst : ofApplication application first = true
  ofAgain : ofApplication application again = true
  key : first.idempotencyKey.isSome = true
  sameKey : again.idempotencyKey = first.idempotencyKey
  success : (submitTransaction validate chain log first).1.success = true

theorem Repeats.result {first again : Submission Body}
    (hrepeats : Repeats validate chain application log first again)
    (middle : List (Submission Body)) :
    ∃ row, submitTransaction validate chain
        (middle.foldl (submit validate chain)
          (submit validate chain log first)) again =
        (.duplicate row, middle.foldl (submit validate chain)
          (submit validate chain log first)) ∧
      (submitTransaction validate chain log first).1.transactionId =
        some row.transactionId := by
  obtain ⟨key, hkey⟩ := Option.isSome_iff_exists.mp hrepeats.key
  have hfirst : first.applicationId = some application :=
    of_decide_eq_true hrepeats.ofFirst
  have hagain : again.applicationId = some application :=
    of_decide_eq_true hrepeats.ofAgain
  obtain ⟨row, hown, hid⟩ := ownRow_of_success hfirst hkey hrepeats.success
  refine ⟨row, submitTransaction_of_ownRow ?_, hid⟩
  rw [hagain, hrepeats.sameKey, hkey]
  exact ownRow_foldl_submit middle hown

end Submit

/-- The answers to an application's calls with a key are those of its own calls
alone exactly if no admissible submission of a key that it has no transaction
with finds the key in a transaction that came after the start.  Two histories
that meet this and have the same calls of the application then answer them
alike.  In every history a call that repeats the key of a successful one returns
its transaction. -/
theorem application_outcomes_eq_iff {Body : Type}
    (validate : Option Uuid → Body → Validation)
    (chain : SubmissionLog → Submission Body → ChainValues) (application : Uuid)
    (start : SubmissionLog) (history : List (Submission Body)) :
    (outcomes validate chain application history start =
        outcomes validate chain application
          (history.filter (ofApplication application)) start ↔
      FindsFreeAlong validate chain application start history) ∧
    (∀ other : List (Submission Body),
      history.filter (ofApplication application) =
          other.filter (ofApplication application) →
        FindsFreeAlong validate chain application start history →
        FindsFreeAlong validate chain application start other →
        outcomes validate chain application history start =
          outcomes validate chain application other start) ∧
    ∀ earlier middle later first again,
      history = earlier ++ first :: (middle ++ again :: later) →
        let before := earlier.foldl (submit validate chain) start
        let between := (earlier ++ first :: middle).foldl
          (submit validate chain) start
        Repeats validate chain application before first again →
          (submitTransaction validate chain between again).1.success = true ∧
          (submitTransaction validate chain between again).1.message =
            some duplicateMessage ∧
          (submitTransaction validate chain between again).1.transactionId =
            (submitTransaction validate chain before
              first).1.transactionId := by
  refine ⟨outcomes_filter_iff application start history, ?_, ?_⟩
  · intro other hsame hhistory hother
    rw [(outcomes_filter_iff application start history).mpr hhistory,
      (outcomes_filter_iff application start other).mpr hother, hsame]
  · intro earlier middle later first again _ before between hrepeats
    obtain ⟨row, hresult, hid⟩ := hrepeats.result middle
    have hbetween : between = middle.foldl (submit validate chain)
        (submit validate chain before first) :=
      List.foldl_append
    rw [hbetween, hresult, hid]
    exact ⟨rfl, rfl, rfl⟩

namespace Sample

def validate (_ : Option Uuid) (_ : Unit) : Validation := ⟨some true, none⟩

def chain (_ : SubmissionLog) (_ : Submission Unit) : ChainValues :=
  ⟨"hash", 1, 1⟩

def payment (application : Uuid) (id : TransactionId) : Submission Unit where
  applicationId := some application
  idempotencyKey := some "order-0001"
  body := ()
  newId := id
  newUuid := "uuid"
  newReference := "TXN"

/-- Two histories with the same call of application 2: it is accepted, and it is
refused after application 1 has used the key. -/
theorem outcome_depends_on_other_application :
    [payment 1 10, payment 2 11].filter (ofApplication 2) =
        [payment 2 11].filter (ofApplication 2) ∧
      outcomes validate chain 2 [payment 2 11] Table.empty =
        [(true, false)] ∧
      outcomes validate chain 2 [payment 1 10, payment 2 11] Table.empty =
        [(false, false)] := by
  refine ⟨rfl, ?_, ?_⟩ <;> decide +kernel

end Sample

end UssdKernel.Ledger.Submissions
