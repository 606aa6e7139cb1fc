import UssdKernel.Orchestrator.SagaEngine

/-!
# How a saga ends

Engine and callers of `CancelSaga` log what they do to the saga.  Under every
behaviour of handlers and repository, and with any number of `CancelSaga` calls
in between, the log of an engine that has returned has one of three shapes: all
steps done, a failed step followed by the compensations, or a cancellation seen
before a step.
-/

namespace UssdKernel.Orchestrator

open UssdKernel.Programs UssdKernel.Interleaving

/-! ## The log -/

inductive Event
  | executed (index : ℕ) (succeeded : Bool)
  | compensated (index : ℕ) (succeeded : Bool)
  | assigned (status : SagaStatus)
  /-- `ctx.Done()` was closed. -/
  | seenDone
  /-- The cancel function was called. -/
  | requested
  deriving DecidableEq

inductive Role
  | engine
  | canceller
  deriving DecidableEq

structure Note where
  role : Role
  log : List Event

def Note.add (note : Note) (event : Event) : Note :=
  { note with log := note.log ++ [event] }

section Engine

variable {Data : Type}

/-- A caller of `CancelSaga` assigns no status but `cancelled`, and the engine
does not cancel its own context. -/
def sagaContract : Prog.Contract (Op Data) Op.Res Note where
  allowed note
    | .assignStatus status => note.role = .canceller → status = .cancelled
    | .cancel => note.role = .canceller
    | _ => True
  observe note
    | .execute index, result => note.add (.executed index result.isOk)
    | .compensate index, result => note.add (.compensated index result.isOk)
    | .assignStatus status, _ => note.add (.assigned status)
    | .ctxDone, cancelled => if cancelled then note.add .seenDone else note
    | .cancel, _ => note.add .requested
    | _, _ => note

/-- The step has something to compensate. -/
def Compensable (steps : List (SagaStep Data)) (index : ℕ) : Prop :=
  (steps[index]?.map SagaStep.compensationAction).getD "" ≠ ""

/-- The calls of `compensate` for the steps below `count`, last step first. -/
inductive Undone (steps : List (SagaStep Data)) : ℕ → List Event → Prop
  | nil : Undone steps 0 []
  | skip {index : ℕ} {log : List Event} (hskip : ¬ Compensable steps index)
      (hrest : Undone steps index log) : Undone steps (index + 1) log
  | call {index : ℕ} {log : List Event} (hcall : Compensable steps index)
      (succeeded : Bool) (hrest : Undone steps index log) :
      Undone steps (index + 1) (.compensated index succeeded :: log)

/-- The successful calls of the steps below `count`. -/
def done (count : ℕ) : List Event :=
  (List.range count).map fun index => .executed index true

/-- The logs with which the engine returns. -/
inductive Outcome (steps : List (SagaStep Data)) : List Event → Prop
  | completed : Outcome steps (done steps.length ++ [.assigned .completed])
  | cancelled {index : ℕ} (hindex : index < steps.length) :
      Outcome steps (done index ++ [.seenDone, .assigned .cancelled])
  | failed {index : ℕ} (hindex : index < steps.length) {undone : List Event}
      (hundone : Undone steps (index + 1) undone) :
      Outcome steps (done index ++ [.executed index false,
        .assigned .compensating] ++ undone ++ [.assigned .failed])

theorem done_succ (count : ℕ) :
    done (count + 1) = done count ++ [.executed count true] := by
  simp [done, List.range_succ]

/-! ## The engine meets its outcomes -/

/-- Operations that leave no trace in the log. -/
def Op.silent : Op Data → Bool
  | .execute _ | .compensate _ | .assignStatus _ | .ctxDone | .cancel => false
  | _ => true

theorem ignores_of_silent {op : Op Data} (hsilent : op.silent = true) :
    sagaContract.Ignores op := by
  intro note
  cases op <;> first | exact ⟨trivial, fun _ => rfl⟩ | cases hsilent

variable {A : Type} {note : Note} {next : Unit → Task Data A}
  {post : Note → Except String A → Prop} {status : SagaStatus}

theorem meets_silent_bind {op : Op Data} (hsilent : op.silent = true)
    (hnext : (next ()).Meets sagaContract post note) :
    (act op >>= next).Meets sagaContract post note :=
  Prog.meets_perform_of_ignores (ignores_of_silent hsilent) fun _ => hnext

theorem meets_assignStatus_bind (hrole : note.role = .engine)
    (hnext : (next ()).Meets sagaContract post
      (note.add (.assigned status))) :
    (act (.assignStatus status) >>= next).Meets sagaContract post note := by
  refine ⟨fun hcanceller => ?_, fun _ => hnext⟩
  rw [hrole] at hcanceller
  cases hcanceller

theorem meets_finish (hrole : note.role = .engine)
    {post : Note → Except String Unit → Prop}
    (hpost : post (note.add (.assigned status)) (.ok ())) :
    (finish status : Task Data Unit).Meets sagaContract post note := by
  refine meets_assignStatus_bind hrole (meets_silent_bind rfl ?_)
  exact Prog.meets_perform_of_ignores (ignores_of_silent rfl) fun _ => hpost

theorem meets_compensateLoop (steps : List (SagaStep Data)) (count : ℕ)
    (note : Note) {post : Note → Except String Unit → Prop}
    (hpost : ∀ undone, Undone steps count undone →
      post { note with log := note.log ++ undone } (.ok ())) :
    (compensateLoop steps count).Meets sagaContract post note := by
  induction count generalizing note with
  | zero =>
      have hnil := hpost [] .nil
      rw [List.append_nil] at hnil
      exact hnil
  | succ index ih =>
      rw [compensateLoop]
      split
      · next hskip =>
          exact ih note fun undone hundone =>
            hpost undone (.skip (not_not.mpr hskip) hundone)
      · next hcall =>
          refine ⟨trivial, fun result => meets_silent_bind rfl ?_⟩
          apply ih
          intro undone hundone
          have hcalled := hpost _ (.call hcall result.isOk hundone)
          rw [← List.singleton_append, ← List.append_assoc] at hcalled
          exact hcalled

theorem meets_compensate (steps : List (SagaStep Data)) {index : ℕ}
    (hindex : index < steps.length) (hrole : note.role = .engine)
    (hlog : note.log = done index ++ [.executed index false]) :
    (compensate steps index).Meets sagaContract
      (fun later _ => later.role = .engine ∧ Outcome steps later.log) note := by
  refine meets_assignStatus_bind hrole (meets_silent_bind rfl ?_)
  rw [Prog.meets_bind]
  apply meets_compensateLoop
  intro undone hundone
  have hfailed := Outcome.failed hindex hundone
  have hfinal : Outcome steps ((note.add (.assigned .compensating)).log ++
      undone ++ [.assigned .failed]) := by
    simpa [Note.add, hlog] using hfailed
  apply meets_finish
  · exact hrole
  · exact ⟨hrole, hfinal⟩

theorem meets_executeLoop (steps remaining : List (SagaStep Data)) (index : ℕ)
    (hlength : index + remaining.length = steps.length)
    (hrole : note.role = .engine) (hlog : note.log = done index) :
    (executeLoop steps remaining index).Meets sagaContract
      (fun later _ => later.role = .engine ∧ Outcome steps later.log) note := by
  induction remaining generalizing index note with
  | nil =>
      refine meets_finish hrole ⟨hrole, ?_⟩
      have hindex : index = steps.length := by simpa using hlength
      rw [Note.add, hlog, hindex]
      exact .completed
  | cons step remaining ih =>
      have hindex : index < steps.length := by
        rw [← hlength, List.length_cons]
        omega
      refine ⟨trivial, fun cancelled => ?_⟩
      cases cancelled with
      | true =>
          have hcancelled := Outcome.cancelled hindex
          have hfinal : Outcome steps
              ((note.add .seenDone).add (.assigned .cancelled)).log := by
            simpa [Note.add, hlog] using hcancelled
          apply meets_finish
          · exact hrole
          · exact ⟨hrole, hfinal⟩
      | false =>
          refine meets_silent_bind rfl (meets_silent_bind rfl
            (meets_silent_bind rfl ⟨trivial, fun result => ?_⟩))
          cases result with
          | error message =>
              refine meets_silent_bind rfl (meets_silent_bind rfl
                (meets_silent_bind rfl ?_))
              refine meets_compensate steps hindex hrole ?_
              rw [← hlog]
              rfl
          | ok output =>
              refine meets_silent_bind rfl (meets_silent_bind rfl
                (meets_silent_bind rfl ?_))
              have hlater : index + 1 + remaining.length = steps.length := by
                rw [← hlength, List.length_cons]
                omega
              refine ih (index + 1) hlater hrole ?_
              rw [done_succ, ← hlog]
              rfl

/-- Whatever the handlers and the repository answer, and whenever the context is
cancelled, the engine returns with one of the outcomes. -/
theorem meets_executeSaga (saga : Saga Data) :
    (executeSaga saga).Meets sagaContract
      (fun later _ => Outcome saga.steps later.log) ⟨.engine, []⟩ := by
  unfold executeSaga
  rw [Prog.meets_bind]
  refine Prog.Meets.mono (fun later result houtcome => ?_)
    (meets_executeLoop saga.steps saga.steps 0 (Nat.zero_add _) rfl rfl)
  cases result with
  | error error => exact houtcome.2
  | ok value =>
      exact Prog.meets_perform_of_ignores (ignores_of_silent rfl)
        fun _ => houtcome.2

theorem meets_markCancelled (note : Note) :
    (markCancelled : Task Data Unit).Meets sagaContract (fun _ _ => True)
      note := by
  refine ⟨trivial, fun found => ?_⟩
  cases found with
  | error error => trivial
  | ok value =>
      exact ⟨fun _ => rfl, fun _ => ⟨trivial, fun _ => ⟨trivial,
        fun _ => trivial⟩⟩⟩

theorem meets_cancelSaga :
    (cancelSaga : Task Data Unit).Meets sagaContract (fun _ _ => True)
      ⟨.canceller, []⟩ := by
  refine ⟨trivial, fun running => ?_⟩
  cases running with
  | true => exact ⟨rfl, fun _ => meets_markCancelled _⟩
  | false => exact meets_markCancelled _

/-! ## The engine among callers of `CancelSaga` -/

/-- The engine (`none`) on a started saga, and calls of `CancelSaga`. -/
def sagaPool {ι : Type} (saga : Saga Data) :
    Pool (Option ι) (Op Data) Op.Res String Unit (Shared Data) Note where
  state := started saga
  notes
    | none => ⟨.engine, []⟩
    | some _ => ⟨.canceller, []⟩
  threads
    | none => executeSaga saga
    | some _ => cancelSaga

/-- What holds of a thread that has returned. -/
def Returned {ι : Type} (saga : Saga Data) :
    Option ι → Note → Except String Unit → Prop
  | none, note, _ => Outcome saga.steps note.log
  | some _, _, _ => True

theorem allMeet_sagaPool {ι : Type} (saga : Saga Data) :
    (sagaPool saga).AllMeet sagaContract
      (Returned saga : Option ι → Note → Except String Unit → Prop) := by
  rintro (_ | i)
  · exact meets_executeSaga saga
  · exact meets_cancelSaga

/-- The status that the engine assigned last. -/
def lastAssigned (log : List Event) : SagaStatus :=
  log.foldl (fun status event =>
    match event with
    | .assigned later => later
    | _ => status) .running

theorem lastAssigned_append_assigned (log : List Event) (status : SagaStatus) :
    lastAssigned (log ++ [.assigned status]) = status := by
  simp [lastAssigned]

variable {event : Event}

theorem lastAssigned_append_of_ne (log : List Event)
    (hevent : ∀ status, event ≠ .assigned status) :
    lastAssigned (log ++ [event]) = lastAssigned log := by
  rw [lastAssigned, List.foldl_append, ← lastAssigned]
  cases event with
  | assigned status => exact absurd rfl (hevent status)
  | _ => rfl

theorem Note.mem_of_mem_add {added : Event} (hne : event ≠ added)
    (hmem : event ∈ (note.add added).log) :
    event ∈ note.log := by
  rcases List.mem_append.mp hmem with hbefore | hadded
  · exact hbefore
  · exact absurd (List.mem_singleton.mp hadded) hne

/-- The record holds the engine's last status unless a caller of `CancelSaga`
has overwritten it, and the context is cancelled by callers only. -/
structure Shares {ι : Type}
    (pool : Pool (Option ι) (Op Data) Op.Res String Unit (Shared Data) Note) :
    Prop where
  engine : (pool.notes none).role = .engine
  canceller : ∀ i, (pool.notes (some i)).role = .canceller
  status : pool.state.saga.status = lastAssigned (pool.notes none).log ∨
    pool.state.saga.status = .cancelled ∧
      ∃ i, .assigned .cancelled ∈ (pool.notes (some i)).log
  seen : .seenDone ∈ (pool.notes none).log → pool.state.cancelled = true
  requested : pool.state.cancelled = true →
    ∃ i, .requested ∈ (pool.notes (some i)).log

section Operation

variable {note : Note} {op : Op Data}

theorem role_observe (response : op.Res) :
    (sagaContract.observe note op response).role = note.role := by
  cases op with
  | ctxDone => cases response <;> rfl
  | _ => rfl

theorem log_subset_observe (response : op.Res) :
    note.log ⊆ (sagaContract.observe note op response).log := by
  cases op with
  | ctxDone =>
      cases response with
      | false => exact List.Subset.refl _
      | true => exact List.subset_append_left _ _
  | execute index | compensate index | assignStatus status | cancel =>
      exact List.subset_append_left _ _
  | _ => exact List.Subset.refl _

/-- An operation leaves the status and the last status of its log, or makes them
equal. -/
theorem status_respond (choice : Choice Data) (shared : Shared Data) :
    let answer := op.respond choice shared
    let later := sagaContract.observe note op answer.1
    answer.2.saga.status = lastAssigned later.log ∨
      answer.2.saga.status = shared.saga.status ∧
        lastAssigned later.log = lastAssigned note.log := by
  cases op with
  | assignStatus status => exact Or.inl (lastAssigned_append_assigned _ _).symm
  | ctxDone =>
      refine Or.inr ⟨rfl, ?_⟩
      change lastAssigned
        (if shared.cancelled then note.add .seenDone else note).log = _
      split
      · exact lastAssigned_append_of_ne _ fun _ => Event.noConfusion
      · rfl
  | execute index | compensate index | cancel =>
      exact Or.inr ⟨rfl, lastAssigned_append_of_ne _ fun _ =>
        Event.noConfusion⟩
  | _ => exact Or.inr ⟨rfl, rfl⟩

/-- An operation of a caller of `CancelSaga` leaves the status or cancels. -/
theorem status_respond_canceller (hrole : note.role = .canceller)
    (hallowed : sagaContract.allowed note op) (choice : Choice Data)
    (shared : Shared Data) :
    let answer := op.respond choice shared
    answer.2.saga.status = shared.saga.status ∨
      answer.2.saga.status = .cancelled ∧
        .assigned .cancelled ∈ (sagaContract.observe note op answer.1).log := by
  cases op with
  | assignStatus status =>
      cases hallowed hrole
      exact Or.inr ⟨rfl, List.mem_append_right _ List.mem_cons_self⟩
  | _ => exact Or.inl rfl

theorem cancelled_respond_engine (hrole : note.role = .engine)
    (hallowed : sagaContract.allowed note op) (choice : Choice Data)
    (shared : Shared Data) :
    (op.respond choice shared).2.cancelled = shared.cancelled := by
  cases op with
  | cancel =>
      have hcanceller : note.role = .canceller := hallowed
      rw [hrole] at hcanceller
      cases hcanceller
  | _ => rfl

/-- Only a logged call of the cancel function changes the context. -/
theorem cancelled_respond (note : Note) (op : Op Data) (choice : Choice Data)
    (shared : Shared Data) :
    let answer := op.respond choice shared
    answer.2.cancelled = shared.cancelled ∨ answer.2.cancelled = true ∧
      .requested ∈ (sagaContract.observe note op answer.1).log := by
  cases op with
  | cancel => exact Or.inr ⟨rfl, List.mem_append_right _ List.mem_cons_self⟩
  | _ => exact Or.inl rfl

/-- The engine sees `ctx.Done()` closed only when it is. -/
theorem cancelled_of_seenDone {choice : Choice Data} {shared : Shared Data}
    (hseen : .seenDone ∈
      (sagaContract.observe note op (op.respond choice shared).1).log) :
    .seenDone ∈ note.log ∨ shared.cancelled = true := by
  cases op with
  | ctxDone =>
      cases hcancelled : shared.cancelled with
      | true => exact Or.inr rfl
      | false =>
          change .seenDone ∈
            (if shared.cancelled then note.add .seenDone else note).log at hseen
          rw [hcancelled] at hseen
          exact Or.inl hseen
  | execute index | compensate index | assignStatus status =>
      exact Or.inl (Note.mem_of_mem_add Event.noConfusion hseen)
  | cancel => exact Or.inl (Note.mem_of_mem_add Event.noConfusion hseen)
  | _ => exact Or.inl hseen

end Operation

section Step

variable {ι : Type} [DecidableEq ι] {saga : Saga Data}
  {pool : Pool (Option ι) (Op Data) Op.Res String Unit (Shared Data) Note}

section Shares

variable (hmeet : pool.AllMeet sagaContract (Returned saga))
  (hshares : Shares pool)

include hmeet hshares

theorem Shares.step_engine (choice : Choice Data) :
    Shares (pool.step Op.respond sagaContract (none, choice)) := by
  refine Pool.step_cases Shares hshares
    fun op next hthread after hstate hself hothers => ?_
  have hother : ∀ i, after.notes (some i) = pool.notes (some i) :=
    fun i => hothers _ (Option.some_ne_none i)
  have hcancelled := cancelled_respond_engine hshares.engine
    (hmeet.allowed hthread) choice pool.state
  constructor
  · rw [hself, role_observe]
    exact hshares.engine
  · intro i
    rw [hother]
    exact hshares.canceller i
  · simp only [hself, hstate, hother]
    rcases status_respond choice pool.state with hsame | ⟨hstatus, hlast⟩
    · exact Or.inl hsame
    · rw [hstatus, hlast]
      exact hshares.status
  · intro hseen
    rw [hself] at hseen
    rw [hstate, hcancelled]
    rcases cancelled_of_seenDone hseen with hbefore | hcontext
    · exact hshares.seen hbefore
    · exact hcontext
  · intro hcontext
    rw [hstate, hcancelled] at hcontext
    simp only [hother]
    exact hshares.requested hcontext

theorem Shares.step_canceller (mover : ι) (choice : Choice Data) :
    Shares (pool.step Op.respond sagaContract (some mover, choice)) := by
  refine Pool.step_cases Shares hshares
    fun op next hthread after hstate hself hothers => ?_
  have hengine : after.notes none = pool.notes none :=
    hothers _ (Option.some_ne_none mover).symm
  -- what a caller has logged stays logged
  have hlogged : ∀ {event}, (∃ i, event ∈ (pool.notes (some i)).log) →
      ∃ i, event ∈ (after.notes (some i)).log := by
    rintro event ⟨i, hmem⟩
    refine ⟨i, ?_⟩
    by_cases hi : some i = some mover
    · rw [hi] at hmem ⊢
      rw [hself]
      exact log_subset_observe _ hmem
    · rw [hothers _ hi]
      exact hmem
  have hcontext := cancelled_respond (pool.notes (some mover)) op choice
    pool.state
  constructor
  · rw [hengine]
    exact hshares.engine
  · intro i
    by_cases hi : some i = some mover
    · rw [hi, hself, role_observe]
      exact hshares.canceller mover
    · rw [hothers _ hi]
      exact hshares.canceller i
  · rw [hengine, hstate]
    rcases status_respond_canceller (hshares.canceller mover)
      (hmeet.allowed hthread) choice pool.state with hsame | hnow
    · rw [hsame]
      exact hshares.status.imp_right fun hbefore =>
        ⟨hbefore.1, hlogged hbefore.2⟩
    · refine Or.inr ⟨hnow.1, mover, ?_⟩
      rw [hself]
      exact hnow.2
  · intro hseen
    rw [hengine] at hseen
    rw [hstate]
    rcases hcontext with hsame | hnow
    · exact hsame.trans (hshares.seen hseen)
    · exact hnow.1
  · intro hcancelled
    rw [hstate] at hcancelled
    rcases hcontext with hsame | hnow
    · exact hlogged (hshares.requested (hsame.symm.trans hcancelled))
    · refine ⟨mover, ?_⟩
      rw [hself]
      exact hnow.2

theorem Shares.step (turn : Option ι × Choice Data) :
    Shares (pool.step Op.respond sagaContract turn) := by
  rcases turn with ⟨_ | j, choice⟩
  · exact hshares.step_engine hmeet choice
  · exact hshares.step_canceller hmeet j choice

end Shares

end Step

theorem shares_sagaPool {ι : Type} (saga : Saga Data) :
    Shares (sagaPool saga : Pool (Option ι) (Op Data) Op.Res String Unit
      (Shared Data) Note) where
  engine := rfl
  canceller _ := rfl
  status := Or.inl rfl
  seen hseen := by cases hseen
  requested hcontext := by cases hcontext

/-! ## What the outcomes say -/

variable {count : ℕ} {steps : List (SagaStep Data)} {log : List Event}

theorem Undone.exists_compensated_iff (hundone : Undone steps count log)
    (index : ℕ) :
    (∃ succeeded, .compensated index succeeded ∈ log) ↔
      index < count ∧ Compensable steps index := by
  induction hundone with
  | nil => simp
  | @skip current log hskip hrest ih =>
      rw [ih]
      constructor
      · rintro ⟨hlt, hcompensable⟩
        exact ⟨by omega, hcompensable⟩
      · rintro ⟨hlt, hcompensable⟩
        have hne : index ≠ current := by
          rintro rfl
          exact hskip hcompensable
        exact ⟨by omega, hcompensable⟩
  | @call current log hcall succeeded hrest ih =>
      constructor
      · rintro ⟨other, hmem⟩
        rcases List.mem_cons.mp hmem with heq | hmem
        · cases heq
          exact ⟨by omega, hcall⟩
        · obtain ⟨hlt, hcompensable⟩ := ih.mp ⟨other, hmem⟩
          exact ⟨by omega, hcompensable⟩
      · rintro ⟨hlt, hcompensable⟩
        by_cases heq : index = current
        · subst heq
          exact ⟨succeeded, List.mem_cons_self⟩
        · obtain ⟨other, hmem⟩ := ih.mpr ⟨by omega, hcompensable⟩
          exact ⟨other, List.mem_cons_of_mem _ hmem⟩

theorem Undone.executed_not_mem (hundone : Undone steps count log) (index : ℕ)
    (succeeded : Bool) : .executed index succeeded ∉ log := by
  induction hundone with
  | nil => exact List.not_mem_nil
  | skip _ _ ih => exact ih
  | call _ _ _ ih => simpa using ih

@[simp]
theorem mem_done :
    event ∈ done count ↔ ∃ index < count, event = .executed index true := by
  simp [done, eq_comm]

/-- Every step was executed with success. -/
structure AllDone (steps : List (SagaStep Data)) (log : List Event) : Prop where
  executed : ∀ index, .executed index true ∈ log ↔ index < steps.length
  uncompensated : ∀ index succeeded, .compensated index succeeded ∉ log
  assigned : lastAssigned log = .completed

/-- A step failed, and `Compensate` was called, with whatever result, for the
compensable steps up to it. -/
structure RolledBack (steps : List (SagaStep Data)) (failed : ℕ)
    (log : List Event) : Prop where
  failed_lt : failed < steps.length
  failed_mem : .executed failed false ∈ log
  executed : ∀ index, .executed index true ∈ log ↔ index < failed
  compensated : ∀ index, (∃ succeeded, .compensated index succeeded ∈ log) ↔
    index < failed + 1 ∧ Compensable steps index
  assigned : lastAssigned log = .failed

/-- The cancellation was seen before a step, and nothing was compensated. -/
structure Stopped (steps : List (SagaStep Data)) (next : ℕ) (log : List Event) :
    Prop where
  next_lt : next < steps.length
  seen : .seenDone ∈ log
  executed : ∀ index, .executed index true ∈ log ↔ index < next
  uncompensated : ∀ index succeeded, .compensated index succeeded ∉ log
  assigned : lastAssigned log = .cancelled

theorem Outcome.cases (houtcome : Outcome steps log) :
    AllDone steps log ∨ (∃ failed, RolledBack steps failed log) ∨
      ∃ next, Stopped steps next log := by
  cases houtcome with
  | completed =>
      exact Or.inl ⟨by simp, by simp, lastAssigned_append_assigned _ _⟩
  | @cancelled index hindex =>
      exact Or.inr (Or.inr ⟨index, hindex, by simp, by simp, by simp,
        by simp [lastAssigned]⟩)
  | @failed index hindex undone hundone =>
      refine Or.inr (Or.inl ⟨index, hindex, by simp, fun other => ?_,
        fun other => ?_, lastAssigned_append_assigned _ _⟩)
      · simp [hundone.executed_not_mem]
      · rw [← hundone.exists_compensated_iff other]
        simp

/-- When the engine returns, with any handlers, any repository answers and
`CancelSaga` called at any moments, the saga is all done, rolled back up to
errors of `Compensate`, or stopped without any compensation after a caller
cancelled its context.  The record holds the status that the engine assigned
last, unless a caller of `CancelSaga` wrote `cancelled` over it. -/
theorem saga_returns {ι : Type} [DecidableEq ι] (saga : Saga Data)
    (schedule : List (Option ι × Choice Data)) {result : Except String Unit}
    (hreturned : ((sagaPool saga).run Op.respond sagaContract
      schedule).threads none = .done result) :
    let final := (sagaPool saga).run Op.respond sagaContract schedule
    let log := (final.notes none).log
    (AllDone saga.steps log ∨ (∃ failed, RolledBack saga.steps failed log) ∨
        (∃ next, Stopped saga.steps next log) ∧
          ∃ i, .requested ∈ (final.notes (some i)).log) ∧
      (final.state.saga.status = lastAssigned log ∨
        final.state.saga.status = .cancelled ∧
          ∃ i, .assigned .cancelled ∈ (final.notes (some i)).log) := by
  have hrun : ((sagaPool saga).run Op.respond sagaContract schedule).AllMeet
        sagaContract (Returned saga) ∧
      Shares ((sagaPool saga).run Op.respond sagaContract schedule) :=
    Pool.run_invariant
      (fun pool => pool.AllMeet sagaContract (Returned saga) ∧ Shares pool)
      (fun _ turn hpool _ =>
        ⟨hpool.1.step turn, hpool.2.step hpool.1 turn⟩)
      ⟨allMeet_sagaPool saga, shares_sagaPool saga⟩ Pool.admissible_true
  obtain ⟨hmeet, hshares⟩ := hrun
  have houtcome : Outcome saga.steps _ := hmeet.post hreturned
  refine ⟨?_, hshares.status⟩
  rcases houtcome.cases with hdone | hback | ⟨next, hstopped⟩
  · exact Or.inl hdone
  · exact Or.inr (Or.inl hback)
  · exact Or.inr (Or.inr ⟨⟨next, hstopped⟩,
      hshares.requested (hshares.seen hstopped.seen)⟩)

end Engine

namespace Samples

def step (number : ℕ) : SagaStep Unit where
  id := 0
  sagaId := 0
  stepNumber := number
  service := "payment"
  action := "charge"
  status := .pending
  compensationAction := "refund"
  input := none
  output := none
  error := ""

def saga : Saga Unit where
  id := 0
  tenantId := 0
  status := .pending
  currentStep := 0
  totalSteps := 2
  steps := [step 1, step 2]
  createdAt := 0
  completedAt := none

/-- Every call succeeds. -/
def working : Choice Unit where
  executed _ := .ok ()
  compensated _ := .ok ()
  saved := .ok ()
  found := .ok ()
  now := 0

/-- The handler fails. -/
def failing : Choice Unit where
  executed _ := .error "unavailable"
  compensated _ := .error "unavailable"
  saved := .ok ()
  found := .ok ()
  now := 0

/-- The run of the sample saga under a schedule with one caller of
`CancelSaga`. -/
def run (schedule : List (Option Unit × Choice Unit)) :
    Pool (Option Unit) (Op Unit) Op.Res String Unit (Shared Unit) Note :=
  (sagaPool saga).run Op.respond sagaContract schedule

/-- The handler fails from the second step on. -/
def outage : List (Option Unit × Choice Unit) :=
  List.replicate 12 (none, working) ++ List.replicate 14 (none, failing)

/-- The context is cancelled after the first step. -/
def cancellation : List (Option Unit × Choice Unit) :=
  List.replicate 8 (none, working) ++ List.replicate 2 (some (), working) ++
    List.replicate 5 (none, working)

end Samples

theorem outage_rolls_back :
    ∃ failed, RolledBack Samples.saga.steps failed
      ((Samples.run Samples.outage).notes none).log := by
  have hreturned :
      (Samples.run Samples.outage).threads none = .done (.ok ()) := rfl
  rcases (saga_returns Samples.saga Samples.outage hreturned).1 with
    hdone | hback | ⟨⟨next, hstopped⟩, _⟩
  · exact absurd ((hdone.executed 1).mpr (by decide)) (by decide)
  · exact hback
  · exact absurd hstopped.seen (by decide)

/-- All steps done and the saga completed, or every completed step undone. -/
def Atomic {Data : Type} (steps : List (SagaStep Data)) (status : SagaStatus)
    (log : List Event) : Prop :=
  (∀ index < steps.length, .executed index true ∈ log) ∧ status = .completed ∨
    ∀ index, .executed index true ∈ log → Compensable steps index →
      .compensated index true ∈ log

theorem not_atomic {Data : Type} {steps : List (SagaStep Data)}
    {status : SagaStatus} {log : List Event} {index : ℕ}
    (hstatus : status ≠ .completed) (hexecuted : .executed index true ∈ log)
    (hcompensable : Compensable steps index)
    (hkept : .compensated index true ∉ log) : ¬ Atomic steps status log := by
  rintro (⟨_, hcompleted⟩ | hundone)
  · exact hstatus hcompleted
  · exact hkept (hundone index hexecuted hcompensable)

/-- The engine returns from a run that is not atomic. -/
def Samples.BreaksAtomicity (schedule : List (Option Unit × Choice Unit)) : Prop :=
  (run schedule).threads none = .done (.ok ()) ∧
    ¬ Atomic saga.steps (run schedule).state.saga.status
      ((run schedule).notes none).log

/-- A completed step keeps its effect when its compensation fails, and when the
saga is cancelled before the next step. -/
theorem returned_not_atomic :
    Samples.BreaksAtomicity Samples.outage ∧
      Samples.BreaksAtomicity Samples.cancellation := by
  have hcompensable : Compensable Samples.saga.steps 0 := by
    unfold Compensable
    decide
  constructor
  · exact ⟨rfl, not_atomic (by decide) (by decide) hcompensable (by decide)⟩
  · exact ⟨rfl, not_atomic (by decide) (by decide) hcompensable (by decide)⟩

end UssdKernel.Orchestrator
