import UssdKernel.Core.Runs

/-!
# Settlement instructions

An instruction is marked ready, executed, and completed or failed.  All
functions but `fail_settlement` name in their `WHERE` the status from which they
lead on.  `fail_settlement` writes to the row in every status, so that it takes
a completed instruction back to `PENDING`, from where it is executed and
completed again.  The lifecycle is kept exactly as long as only instructions in
execution are failed.
-/

namespace UssdKernel.Settlement

open Runs

inductive Status
  | pending
  | ready
  | executing
  | completed
  | failed
  | cancelled
  deriving DecidableEq

/-- The columns of `core.settlement_instructions` that the functions read or
write.  Times are in microseconds. -/
structure Instruction where
  status : Status
  retryCount : ℤ
  maxRetries : ℤ
  nextRetryAt : Option ℤ
  failureReason : Option String
  executedAt : Option ℤ
  confirmationReference : Option String
  confirmedAt : Option ℤ
  confirmedBy : Option (BitVec 128)
  completedAt : Option ℤ
  updatedAt : ℤ
  /-- `chk_completed_requires_confirmation` -/
  confirmed : status = .completed → confirmationReference ≠ none
  deriving DecidableEq

/-- A new instruction with this number of retries. -/
def created (maxRetries now : ℤ) : Instruction where
  status := .pending
  retryCount := 0
  maxRetries
  nextRetryAt := none
  failureReason := none
  executedAt := none
  confirmationReference := none
  confirmedAt := none
  confirmedBy := none
  completedAt := none
  updatedAt := now
  confirmed := by decide

inductive SettlementError
  | checkViolation
  deriving DecidableEq

/-! ## The functions -/

def markSettlementReady (now : ℤ) (row : Instruction) : Bool × Instruction :=
  if row.status = .pending then
    (true, { row with status := .ready, updatedAt := now, confirmed := by simp })
  else (false, row)

def executeSettlement (now : ℤ) (row : Instruction) : Bool × Instruction :=
  if row.status = .pending ∨ row.status = .ready then
    (true,
      { row with
        status := .executing
        executedAt := some now
        updatedAt := now
        confirmed := by simp })
  else (false, row)

/-- The reference may be `NULL`, which the check refuses.  It is taken to fit
`confirmation_reference`, a `VARCHAR(100)`. -/
def completeSettlement (now : ℤ) (reference : Option String)
    (confirmedBy : Option (BitVec 128)) (row : Instruction) :
    Except SettlementError (Bool × Instruction) :=
  if row.status = .executing then
    if hreference : reference = none then .error .checkViolation
    else
      .ok (true,
        { row with
          status := .completed
          confirmationReference := reference
          confirmedAt := some now
          confirmedBy := confirmedBy
          completedAt := some now
          updatedAt := now
          confirmed := fun _ => hreference })
  else .ok (false, row)

/-- Five minutes. -/
def retryInterval : ℤ := 5 * 60 * 1000000

/-- Neither `UPDATE` looks at the status. -/
def failSettlement (now : ℤ) (reason : Option String) (scheduleRetry : Bool)
    (row : Instruction) : Bool × Instruction :=
  if row.maxRetries ≤ row.retryCount then
    (true,
      { row with
        status := .failed
        failureReason := reason
        updatedAt := now
        confirmed := by simp })
  else
    (true,
      { row with
        retryCount := row.retryCount + 1
        failureReason := reason
        nextRetryAt :=
          if scheduleRetry then some (now + row.retryCount * retryInterval)
          else none
        status := if scheduleRetry then .pending else .failed
        updatedAt := now
        confirmed := by cases scheduleRetry <;> simp })

/-! ## Runs -/

inductive Call
  | markReady (now : ℤ)
  | execute (now : ℤ)
  | complete (now : ℤ) (reference : Option String)
      (confirmedBy : Option (BitVec 128))
  | fail (now : ℤ) (reason : Option String) (scheduleRetry : Bool)

def Call.answer (row : Instruction) :
    Call → Except SettlementError (Bool × Instruction)
  | .markReady now => .ok (markSettlementReady now row)
  | .execute now => .ok (executeSettlement now row)
  | .complete now reference confirmedBy =>
      completeSettlement now reference confirmedBy row
  | .fail now reason scheduleRetry =>
      .ok (failSettlement now reason scheduleRetry row)

/-- The row after the call; one that fails leaves it. -/
def Call.row (row : Instruction) (call : Call) : Instruction :=
  match call.answer row with
  | .ok answer => answer.2
  | .error _ => row

/-- The call is one of `complete_settlement` that returns `TRUE`. -/
def Call.completes (row : Instruction) : Call → Bool
  | .complete now reference confirmedBy =>
      match completeSettlement now reference confirmedBy row with
      | .ok answer => answer.1
      | .error _ => false
  | _ => false

/-- The row, how often it has entered `EXECUTING`, and how often
`complete_settlement` has returned `TRUE`. -/
structure History where
  row : Instruction
  entered : ℕ
  completions : ℕ
  deriving DecidableEq

def History.start (row : Instruction) : History :=
  ⟨row, 0, 0⟩

def step (history : History) (call : Call) : History where
  row := call.row history.row
  entered :=
    if (call.row history.row).status = .executing ∧
        history.row.status ≠ .executing then history.entered + 1
    else history.entered
  completions :=
    if call.completes history.row then history.completions + 1
    else history.completions

/-- What the call keeps of the lifecycle. -/
structure Sound (history : History) (call : Call) : Prop where
  final : history.row.status = .completed ∨ history.row.status = .failed →
    (step history call).row.status = history.row.status
  entered : (step history call).entered ≤ (history.row.maxRetries + 1).toNat
  completions : (step history call).completions ≤ 1
  failed : ∀ now reason scheduleRetry,
    call = .fail now reason scheduleRetry →
      (step history call).row ≠ history.row →
        history.row.status = .executing

/-- Only an instruction in execution is failed, apart from a repetition of the
failure that the row records at the same time; and none with a negative number
of retries is executed. -/
def Guarded (history : History) : Call → Prop
  | .fail now reason _ =>
      history.row.status = .executing ∨
        (history.row.status = .failed ∧
          history.row.maxRetries ≤ history.row.retryCount ∧
          history.row.failureReason = reason ∧ history.row.updatedAt = now)
  | .execute _ =>
      history.row.status = .pending ∨ history.row.status = .ready →
        0 ≤ history.row.maxRetries
  | _ => True

/-! ## What a call does -/

/-- The status, the retries and the counters after a call. -/
structure Leaves (history after : History) (status : Status)
    (retryCount : ℤ) (entered completions : ℕ) : Prop where
  status : after.row.status = status
  retryCount : after.row.retryCount = retryCount
  maxRetries : after.row.maxRetries = history.row.maxRetries
  entered : after.entered = entered
  completions : after.completions = completions

/-- The calls that write to the row, with what they find and leave. -/
inductive Moves (history after : History) : Call → Prop
  | markReady {now : ℤ} (hstatus : history.row.status = .pending)
      (hleaves : Leaves history after .ready history.row.retryCount
        history.entered history.completions) :
      Moves history after (.markReady now)
  | execute {now : ℤ}
      (hstatus : history.row.status = .pending ∨ history.row.status = .ready)
      (hleaves : Leaves history after .executing history.row.retryCount
        (history.entered + 1) history.completions) :
      Moves history after (.execute now)
  | complete {now : ℤ} {reference : Option String}
      {confirmedBy : Option (BitVec 128)}
      (hstatus : history.row.status = .executing)
      (hleaves : Leaves history after .completed history.row.retryCount
        history.entered (history.completions + 1)) :
      Moves history after (.complete now reference confirmedBy)
  | exhausted {now : ℤ} {reason : Option String} {scheduleRetry : Bool}
      (hretries : history.row.maxRetries ≤ history.row.retryCount)
      (hleaves : Leaves history after .failed history.row.retryCount
        history.entered history.completions) :
      Moves history after (.fail now reason scheduleRetry)
  | retried {now : ℤ} {reason : Option String} {scheduleRetry : Bool}
      (hretries : history.row.retryCount < history.row.maxRetries)
      (hleaves : Leaves history after
        (if scheduleRetry then .pending else .failed)
        (history.row.retryCount + 1) history.entered history.completions) :
      Moves history after (.fail now reason scheduleRetry)

section Step

variable {history : History}

/-- A call that leaves the row and completes nothing leaves the history. -/
theorem step_eq_self {call : Call} (hrow : call.row history.row = history.row)
    (hcompletes : call.completes history.row = false) :
    step history call = history := by
  simp [step, hrow, hcompletes]

theorem moves_fail (now : ℤ) (reason : Option String) (scheduleRetry : Bool) :
    Moves history (step history (.fail now reason scheduleRetry))
      (.fail now reason scheduleRetry) := by
  by_cases hretries : history.row.maxRetries ≤ history.row.retryCount
  · refine .exhausted hretries ?_
    constructor <;>
      simp [step, Call.row, Call.answer, Call.completes, failSettlement,
        hretries]
  · refine .retried (not_le.mp hretries) ?_
    constructor <;> cases scheduleRetry <;>
      simp [step, Call.row, Call.answer, Call.completes, failSettlement,
        hretries]

theorem moves_execute (now : ℤ)
    (hstatus : history.row.status = .pending ∨ history.row.status = .ready) :
    Moves history (step history (.execute now)) (.execute now) := by
  have hother : history.row.status ≠ .executing := by
    rcases hstatus with hstatus | hstatus <;> simp [hstatus]
  refine .execute hstatus ?_
  constructor <;>
    simp [step, Call.row, Call.answer, Call.completes, executeSettlement,
      hstatus, hother]

/-- Every call leaves the history or moves it. -/
theorem step_cases (history : History) (call : Call) :
    step history call = history ∨ Moves history (step history call) call := by
  cases call with
  | markReady now =>
      by_cases hstatus : history.row.status = .pending
      · refine Or.inr (.markReady hstatus ?_)
        constructor <;>
          simp [step, Call.row, Call.answer, Call.completes,
            markSettlementReady, hstatus]
      · refine Or.inl (step_eq_self ?_ rfl)
        simp [Call.row, Call.answer, markSettlementReady, hstatus]
  | execute now =>
      by_cases hstatus : history.row.status = .pending ∨
          history.row.status = .ready
      · exact Or.inr (moves_execute now hstatus)
      · refine Or.inl (step_eq_self ?_ rfl)
        simp only [Call.row, Call.answer, executeSettlement, if_neg hstatus]
  | complete now reference confirmedBy =>
      by_cases hstatus : history.row.status = .executing
      · cases reference with
        | none =>
            refine Or.inl (step_eq_self ?_ ?_)
            · simp [Call.row, Call.answer, completeSettlement, hstatus]
            · simp [Call.completes, completeSettlement, hstatus]
        | some reference =>
            refine Or.inr (.complete hstatus ?_)
            constructor <;>
              simp [step, Call.row, Call.answer, Call.completes,
                completeSettlement, hstatus]
      · refine Or.inl (step_eq_self ?_ ?_)
        · simp [Call.row, Call.answer, completeSettlement, hstatus]
        · simp [Call.completes, completeSettlement, hstatus]
  | fail now reason scheduleRetry =>
      exact Or.inr (moves_fail now reason scheduleRetry)

/-- A failure leaves the row only if it repeats the one that the row records. -/
theorem row_fail_eq_iff {now : ℤ} {reason : Option String}
    {scheduleRetry : Bool} :
    (step history (.fail now reason scheduleRetry)).row = history.row ↔
      history.row.status = .failed ∧
        history.row.maxRetries ≤ history.row.retryCount ∧
        history.row.failureReason = reason ∧ history.row.updatedAt = now := by
  by_cases hretries : history.row.maxRetries ≤ history.row.retryCount
  · have hrow : (step history (.fail now reason scheduleRetry)).row =
        { history.row with
          status := .failed
          failureReason := reason
          updatedAt := now
          confirmed := by simp } := by
      simp [step, Call.row, Call.answer, failSettlement, hretries]
    rw [hrow]
    constructor
    · intro hsame
      exact ⟨(congrArg Instruction.status hsame).symm, hretries,
        (congrArg Instruction.failureReason hsame).symm,
        (congrArg Instruction.updatedAt hsame).symm⟩
    · rintro ⟨hstatus, -, rfl, rfl⟩
      obtain ⟨row, entered, completions⟩ := history
      cases row
      cases hstatus
      rfl
  · have hcount : (step history (.fail now reason scheduleRetry)).row.retryCount
        = history.row.retryCount + 1 := by
      simp [step, Call.row, Call.answer, failSettlement, hretries]
    constructor
    · intro hsame
      rw [hsame] at hcount
      omega
    · intro hrepeats
      exact absurd hrepeats.2.1 hretries

end Step

/-! ## The lifecycle -/

/-- How the counters stand at a status. -/
structure Counted (status : Status) (retryCount maxRetries : ℤ)
    (entered completions : ℕ) : Prop where
  nonnegative : 0 ≤ retryCount
  retries : retryCount ≤ max maxRetries 0
  waiting : status = .pending ∨ status = .ready → (entered : ℤ) ≤ retryCount
  executing : status = .executing →
    0 ≤ maxRetries ∧ (entered : ℤ) ≤ retryCount + 1
  entered : (entered : ℤ) ≤ max (maxRetries + 1) 0
  completions : completions = if status = .completed then 1 else 0

def Invariant (history : History) : Prop :=
  Counted history.row.status history.row.retryCount history.row.maxRetries
    history.entered history.completions

theorem invariant_start (maxRetries now : ℤ) :
    Invariant (History.start (created maxRetries now)) where
  nonnegative := le_rfl
  retries := le_max_right _ _
  waiting _ := le_rfl
  executing hstatus := by cases hstatus
  entered := le_max_right _ _
  completions := rfl

section Lifecycle

variable {history : History} {call : Call} {after : History}
  {entered completions : ℕ}

/-- A failure under the guard that changes the row finds it in execution. -/
theorem executing_of_guarded {now : ℤ} {reason : Option String}
    {scheduleRetry : Bool}
    (hguarded : Guarded history (.fail now reason scheduleRetry))
    (hchanged : step history (.fail now reason scheduleRetry) ≠ history) :
    history.row.status = .executing := by
  rcases hguarded with hexecuting | hrepeats
  · exact hexecuting
  · have hrow : (Call.fail now reason scheduleRetry).row history.row =
        history.row :=
      row_fail_eq_iff.mpr hrepeats
    exact absurd (step_eq_self hrow rfl) hchanged

theorem Leaves.invariant {status : Status} {retryCount : ℤ}
    (hleaves : Leaves history after status retryCount entered completions)
    (hcounted : Counted status retryCount history.row.maxRetries entered
      completions) : Invariant after := by
  rw [Invariant, hleaves.status, hleaves.retryCount, hleaves.maxRetries,
    hleaves.entered, hleaves.completions]
  exact hcounted

/-- The executions of a failed instruction are bounded by those that its retries
allow. -/
theorem Counted.failed {retryCount maxRetries : ℤ}
    (hcounted : Counted .executing retryCount maxRetries entered completions) :
    Counted .failed retryCount maxRetries entered completions where
  nonnegative := hcounted.nonnegative
  retries := hcounted.retries
  waiting hstatus := by simp at hstatus
  executing hstatus := by cases hstatus
  entered := hcounted.entered
  completions := hcounted.completions

theorem Moves.invariant (hmoves : Moves history after call)
    (hhistory : Invariant history)
    (hexecute : ∀ now, call = .execute now → 0 ≤ history.row.maxRetries)
    (hfail : ∀ now reason scheduleRetry,
      call = .fail now reason scheduleRetry →
        history.row.status = .executing) :
    Invariant after := by
  have hnonnegative := hhistory.nonnegative
  have hretries := hhistory.retries
  have hentered := hhistory.entered
  have hcompletions := hhistory.completions
  cases hmoves with
  | markReady hstatus hleaves =>
      have hwaiting := hhistory.waiting (Or.inl hstatus)
      refine hleaves.invariant
        ⟨hnonnegative, hretries, fun _ => hwaiting, ?_, hentered, ?_⟩
      · intro hexecuting
        cases hexecuting
      · simpa [hstatus] using hcompletions
  | execute hstatus hleaves =>
      have hwaiting := hhistory.waiting hstatus
      have hmax := hexecute _ rfl
      refine hleaves.invariant ⟨hnonnegative, hretries, ?_, ?_, ?_, ?_⟩
      · intro hother
        simp at hother
      · intro _
        exact ⟨hmax, by push_cast; omega⟩
      · push_cast
        omega
      · rcases hstatus with hstatus | hstatus <;>
          simpa [hstatus] using hcompletions
  | complete hstatus hleaves =>
      refine hleaves.invariant ⟨hnonnegative, hretries, ?_, ?_, hentered, ?_⟩
      · intro hother
        simp at hother
      · intro hother
        cases hother
      · simp [hcompletions, hstatus]
  | exhausted _ hleaves =>
      have hstatus := hfail _ _ _ rfl
      rw [Invariant, hstatus] at hhistory
      exact hleaves.invariant hhistory.failed
  | @retried now reason scheduleRetry hmax hleaves =>
      have hstatus := hfail _ _ _ rfl
      have hexecuting := hhistory.executing hstatus
      refine hleaves.invariant
        ⟨by omega, by omega, ?_, ?_, hentered, ?_⟩
      · intro _
        exact hexecuting.2
      · intro hother
        cases scheduleRetry <;> cases hother
      · cases scheduleRetry <;> simpa [hstatus] using hcompletions

theorem invariant_step (history : History) (call : Call)
    (hhistory : Invariant history) (hguarded : Guarded history call) :
    Invariant (step history call) := by
  by_cases hchanged : step history call = history
  · rw [hchanged]
    exact hhistory
  · have hmoves := (step_cases history call).resolve_left hchanged
    refine hmoves.invariant hhistory ?_ ?_
    · rintro now rfl
      cases hmoves with
      | execute hstatus _ => exact hguarded hstatus
    · rintro now reason scheduleRetry rfl
      exact executing_of_guarded hguarded hchanged

/-- A terminal status is left only by a failure. -/
theorem Moves.status_eq (hmoves : Moves history after call)
    (hfail : ∀ now reason scheduleRetry,
      call = .fail now reason scheduleRetry →
        history.row.status = .executing)
    (hfinal : history.row.status = .completed ∨
      history.row.status = .failed) :
    after.row.status = history.row.status := by
  cases hmoves with
  | markReady hstatus _ => simp [hstatus] at hfinal
  | execute hstatus _ =>
      rcases hstatus with hstatus | hstatus <;> simp [hstatus] at hfinal
  | complete hstatus _ => simp [hstatus] at hfinal
  | exhausted _ _ | retried _ _ => simp [hfail _ _ _ rfl] at hfinal

theorem maxRetries_step (history : History) (call : Call) :
    (step history call).row.maxRetries = history.row.maxRetries := by
  rcases step_cases history call with hsame | hmoves
  · rw [hsame]
  · cases hmoves with
    | markReady _ hleaves | execute _ hleaves | complete _ hleaves
    | exhausted _ hleaves | retried _ hleaves => exact hleaves.maxRetries

theorem sound_of_guarded (hhistory : Invariant history)
    (hguarded : Guarded history call) : Sound history call := by
  have hafter := invariant_step history call hhistory hguarded
  have hmax := maxRetries_step history call
  have hfail : step history call ≠ history → ∀ now reason scheduleRetry,
      call = .fail now reason scheduleRetry →
        history.row.status = .executing := by
    rintro hchanged now reason scheduleRetry rfl
    exact executing_of_guarded hguarded hchanged
  refine ⟨fun hfinal => ?_, ?_, ?_, fun now reason scheduleRetry hcall hrow => ?_⟩
  · by_cases hchanged : step history call = history
    · rw [hchanged]
    · have hmoves := (step_cases history call).resolve_left hchanged
      exact hmoves.status_eq (hfail hchanged) hfinal
  · have hentered := hafter.entered
    rw [hmax] at hentered
    omega
  · rw [hafter.completions]
    split <;> decide
  · refine hfail (fun hsame => hrow ?_) now reason scheduleRetry hcall
    rw [hsame]

theorem guarded_of_sound (hsound : Sound history call) :
    Guarded history call := by
  cases call with
  | markReady now | complete now reference confirmedBy => trivial
  | execute now =>
      intro hstatus
      -- without retries one execution is already one too many
      by_contra hnegative
      have hentered := hsound.entered
      have hstep : (step history (.execute now)).entered =
          history.entered + 1 := by
        cases moves_execute now hstatus with
        | execute _ hleaves => exact hleaves.entered
      omega
  | fail now reason scheduleRetry =>
      by_cases hstatus : history.row.status = .executing
      · exact Or.inl hstatus
      · right
        have hrow : (step history (.fail now reason scheduleRetry)).row =
            history.row := by
          by_contra hchanged
          exact hstatus (hsound.failed now reason scheduleRetry rfl hchanged)
        exact row_fail_eq_iff.mp hrow

end Lifecycle

/-- The lifecycle of a new instruction is kept in a run exactly if every call is
guarded. -/
theorem lifecycle_kept_iff (maxRetries now : ℤ) (calls : List Call) :
    Throughout step Sound calls (History.start (created maxRetries now)) ↔
      Throughout step Guarded calls
        (History.start (created maxRetries now)) := by
  have hagree : ∀ history call, Invariant history → True →
      (Sound history call ↔ Guarded history call) :=
    fun _ _ hhistory _ => ⟨guarded_of_sound, sound_of_guarded hhistory⟩
  have hstep : ∀ history call, Invariant history → Sound history call →
      Invariant (step history call) :=
    fun history call hhistory hsound =>
      invariant_step history call hhistory (guarded_of_sound hsound)
  exact throughout_congr hagree hstep (invariant_start maxRetries now)
    (throughout_of_forall (fun _ _ => trivial) calls _)

namespace Sample

/-- The instruction is executed and completed, failed, and executed and
completed once more. -/
def calls : List Call :=
  [.execute 1, .complete 2 (some "REF-1") none, .fail 3 (some "late") true,
    .execute 4, .complete 5 (some "REF-2") none]

theorem settlement_completed_twice :
    ((calls.take 2).foldl step (History.start (created 3 0))).row.status =
        .completed ∧
      ((calls.take 3).foldl step (History.start (created 3 0))).row.status =
        .pending ∧
      (calls.foldl step (History.start (created 3 0))).completions = 2 ∧
      ¬ Throughout step Sound calls (History.start (created 3 0)) := by
  have hreopened : (step ((calls.take 2).foldl step
      (History.start (created 3 0))) (.fail 3 (some "late") true)).row.status ≠
      .completed := by
    decide +kernel
  refine ⟨by decide +kernel, by decide +kernel, by decide +kernel, ?_⟩
  intro hsound
  exact hreopened (hsound.2.2.1.final (Or.inl rfl))

end Sample

end UssdKernel.Settlement
