import UssdKernel.Orchestrator.SagaOutcomes

/-!
# The status of a saga among its writers

The engine and the callers of `CancelSaga` assign the status of one record
without looking at it.  The engine on its own never leaves `completed`,
`failed` or `cancelled`, and neither do callers on their own; this file says
for which orders of their assignments the status stays.
-/

namespace UssdKernel.Orchestrator

open UssdKernel.Programs UssdKernel.Interleaving

def SagaStatus.isTerminal : SagaStatus → Bool
  | completed | failed | cancelled => true
  | pending | running | compensating => false

/-- The statuses that the engine assigns after its last one. -/
inductive Follows : SagaStatus → SagaStatus → Prop
  | completed : Follows .running .completed
  | cancelled : Follows .running .cancelled
  | compensating : Follows .running .compensating
  | failed : Follows .compensating .failed

theorem Follows.not_isTerminal {last next : SagaStatus}
    (hfollows : Follows last next) : last.isTerminal = false := by
  cases hfollows <;> rfl

section Writers

variable {Data : Type}

/-- The status that an operation assigns. -/
def Op.assigns : Op Data → Option SagaStatus
  | .assignStatus status => some status
  | _ => none

/-- The engine assigns in its own order; a caller of `CancelSaga` assigns only
`cancelled`.  The log is that of `sagaContract`. -/
def orderContract : Prog.Contract (Op Data) Op.Res Note where
  allowed note op := ∀ status, op.assigns = some status →
    match note.role with
    | .engine => Follows (lastAssigned note.log) status
    | .canceller => status = .cancelled
  observe := sagaContract.observe

variable {op : Op Data}

theorem orderContract_allowed (hassigns : op.assigns = none) (note : Note) :
    orderContract.allowed note op := by
  intro status hstatus
  rw [hassigns] at hstatus
  cases hstatus

/-! ## The engine's own order -/

/-- The engine, when the last status it assigned is this one. -/
def EngineAt (status : SagaStatus) (note : Note) : Prop :=
  note.role = .engine ∧ lastAssigned note.log = status

theorem lastAssigned_observe (hassigns : op.assigns = none) (note : Note)
    (response : op.Res) :
    lastAssigned (sagaContract.observe note op response).log =
      lastAssigned note.log := by
  cases op with
  | assignStatus status => cases hassigns
  | ctxDone =>
      cases response with
      | false => rfl
      | true => exact lastAssigned_append_of_ne _ fun _ => Event.noConfusion
  | execute index | compensate index =>
      exact lastAssigned_append_of_ne _ fun _ => Event.noConfusion
  | cancel => exact lastAssigned_append_of_ne _ fun _ => Event.noConfusion
  | _ => rfl

variable {status : SagaStatus} {note : Note}

section Order

variable {A : Type} {post : Note → Except String A → Prop}
  {next : Unit → Task Data A}

theorem meets_perform_of_assigns_none {op : Op Data}
    {next : op.Res → Task Data A} (hassigns : op.assigns = none)
    (hnote : EngineAt status note)
    (hnext : ∀ response later, EngineAt status later →
      (next response).Meets orderContract post later) :
    (Prog.perform op next).Meets orderContract post note := by
  constructor
  · exact orderContract_allowed hassigns note
  · intro response
    apply hnext
    constructor
    · exact (role_observe response).trans hnote.1
    · exact (lastAssigned_observe hassigns note response).trans hnote.2

theorem meets_act_bind {op : Op Data} (hassigns : op.assigns = none)
    (hnote : EngineAt status note)
    (hnext : ∀ later, EngineAt status later →
      (next ()).Meets orderContract post later) :
    (act op >>= next).Meets orderContract post note :=
  meets_perform_of_assigns_none hassigns hnote fun _ => hnext

theorem meets_assign_bind {assigned : SagaStatus}
    (hfollows : Follows status assigned) (hnote : EngineAt status note)
    (hnext : ∀ later, EngineAt assigned later →
      (next ()).Meets orderContract post later) :
    (act (.assignStatus assigned) >>= next).Meets orderContract post note := by
  obtain ⟨hrole, hlast⟩ := hnote
  constructor
  · intro other hother
    obtain rfl : assigned = other := Option.some.inj hother
    rw [hrole]
    exact hlast ▸ hfollows
  · intro _
    exact hnext _ ⟨hrole, lastAssigned_append_assigned _ _⟩

end Order

theorem order_finish {last : SagaStatus} (hfollows : Follows last status)
    (hnote : EngineAt last note) :
    (finish status : Task Data Unit).Meets orderContract (fun _ _ => True)
      note := by
  refine meets_assign_bind hfollows hnote fun assigned hassigned => ?_
  refine meets_act_bind rfl hassigned fun saved hsaved => ?_
  exact meets_perform_of_assigns_none rfl hsaved fun _ _ _ => trivial

variable (steps : List (SagaStep Data))

theorem order_compensateLoop (count : ℕ) (hnote : EngineAt .compensating note) :
    (compensateLoop steps count).Meets orderContract
      (fun later _ => EngineAt .compensating later) note := by
  induction count generalizing note with
  | zero => exact hnote
  | succ index ih =>
      rw [compensateLoop]
      split
      · exact ih hnote
      · refine meets_act_bind rfl hnote fun called hcalled => ?_
        exact meets_act_bind rfl hcalled fun saved hsaved => ih hsaved

theorem order_compensate (index : ℕ) (hnote : EngineAt .running note) :
    (compensate steps index).Meets orderContract (fun _ _ => True) note := by
  refine meets_assign_bind .compensating hnote fun assigned hassigned => ?_
  refine meets_act_bind rfl hassigned fun saved hsaved => ?_
  rw [Prog.meets_bind]
  refine Prog.Meets.mono (fun later result hlater => ?_)
    (order_compensateLoop steps (index + 1) hsaved)
  cases result with
  | error error => trivial
  | ok value => exact order_finish .failed hlater

theorem order_executeLoop (steps remaining : List (SagaStep Data)) (index : ℕ)
    (hnote : EngineAt .running note) :
    (executeLoop steps remaining index).Meets orderContract
      (fun _ _ => True) note := by
  induction remaining generalizing index note with
  | nil => exact order_finish .completed hnote
  | cons step remaining ih =>
      refine meets_perform_of_assigns_none rfl hnote fun cancelled seen hseen => ?_
      cases cancelled with
      | true => exact order_finish .cancelled hseen
      | false =>
          refine meets_act_bind rfl hseen fun current hcurrent => ?_
          refine meets_act_bind rfl hcurrent fun started hstarted => ?_
          refine meets_act_bind rfl hstarted fun saved hsaved => ?_
          refine meets_perform_of_assigns_none rfl hsaved
            fun result called hcalled => ?_
          cases result with
          | error message =>
              refine meets_act_bind rfl hcalled fun failed hfailed => ?_
              refine meets_act_bind rfl hfailed fun noted hnoted => ?_
              refine meets_act_bind rfl hnoted fun stored hstored => ?_
              exact order_compensate steps index hstored
          | ok output =>
              refine meets_act_bind rfl hcalled fun done hdone => ?_
              refine meets_act_bind rfl hdone fun noted hnoted => ?_
              refine meets_act_bind rfl hnoted fun stored hstored => ?_
              exact ih (index + 1) hstored

theorem order_executeSaga (saga : Saga Data) :
    (executeSaga saga).Meets orderContract (fun _ _ => True)
      ⟨.engine, []⟩ := by
  unfold executeSaga
  rw [Prog.meets_bind]
  refine Prog.Meets.mono (fun later result _ => ?_)
    (order_executeLoop saga.steps saga.steps 0 ⟨rfl, rfl⟩)
  cases result with
  | error error => trivial
  | ok value => exact ⟨orderContract_allowed rfl _, fun _ => trivial⟩

theorem order_markCancelled (note : Note) (hrole : note.role = .canceller) :
    (markCancelled : Task Data Unit).Meets orderContract (fun _ _ => True)
      note := by
  refine ⟨orderContract_allowed rfl _, fun found => ?_⟩
  cases found with
  | error error => trivial
  | ok value =>
      constructor
      · intro status hstatus
        have hcanceller : (sagaContract.observe note
            (.getSaga : Op Data) (.ok value)).role = .canceller := hrole
        simp only [orderContract, hcanceller]
        exact (Option.some.inj hstatus).symm
      · exact fun _ => ⟨orderContract_allowed rfl _, fun _ =>
          ⟨orderContract_allowed rfl _, fun _ => trivial⟩⟩

theorem order_cancelSaga :
    (cancelSaga : Task Data Unit).Meets orderContract (fun _ _ => True)
      ⟨.canceller, []⟩ := by
  refine ⟨orderContract_allowed rfl _, fun running => ?_⟩
  cases running with
  | true =>
      exact ⟨orderContract_allowed rfl _,
        fun _ => order_markCancelled _ rfl⟩
  | false => exact order_markCancelled _ rfl

/-! ## Turns that keep the status -/

abbrev SagaPool (ι Data : Type) :=
  Pool (Option ι) (Op Data) Op.Res String Unit (Shared Data) Note

/-- The status in the record. -/
def recorded {ι : Type} (pool : SagaPool ι Data) : SagaStatus :=
  pool.state.saga.status

/-- A caller of `CancelSaga` assigns only before the engine has assigned
`completed` or `failed`, and after a caller the engine assigns only
`cancelled`. -/
def InOrder {ι : Type} (pool : SagaPool ι Data)
    (turn : Option ι × Choice Data) : Prop :=
  ∀ status, (pool.threads turn.1).operation = some (.assignStatus status) →
    match turn.1 with
    | some _ => .assigned .completed ∉ (pool.notes none).log ∧
        .assigned .failed ∉ (pool.notes none).log
    | none => status = .cancelled ∨
        ∀ i, .assigned .cancelled ∉ (pool.notes (some i)).log

/-- As long as no turn has left a terminal status, the record holds every
terminal status that was assigned. -/
structure Orderly {ι : Type} (saga : Saga Data) (pool : SagaPool ι Data) :
    Prop where
  order : pool.AllMeet orderContract fun _ _ _ => True
  meet : pool.AllMeet sagaContract (Returned saga)
  shares : Shares pool
  logged : ∀ id status, status.isTerminal = true →
    .assigned status ∈ (pool.notes id).log → recorded pool = status

theorem mem_of_lastAssigned {log : List Event}
    (hlast : lastAssigned log = status) (hstatus : status ≠ .running) :
    .assigned status ∈ log := by
  induction log using List.reverseRecOn with
  | nil => exact absurd hlast.symm hstatus
  | append_singleton log event ih =>
      rw [List.mem_append, List.mem_singleton]
      cases event with
      | assigned other =>
          rw [lastAssigned_append_assigned] at hlast
          exact Or.inr (by rw [hlast])
      | _ =>
          rw [lastAssigned, List.foldl_append] at hlast
          exact Or.inl (ih hlast)

theorem status_respond_getD (op : Op Data) (choice : Choice Data)
    (shared : Shared Data) :
    (op.respond choice shared).2.saga.status =
      op.assigns.getD shared.saga.status := by
  cases op <;> rfl

theorem assigned_mem_observe {response : op.Res}
    (hmem : .assigned status ∈ (sagaContract.observe note op response).log) :
    .assigned status ∈ note.log ∨ op.assigns = some status := by
  cases op with
  | assignStatus other =>
      rcases List.mem_append.mp hmem with hbefore | hnow
      · exact Or.inl hbefore
      · have hsame : Event.assigned status = .assigned other := by
          simpa using hnow
        exact Or.inr (by rw [Event.assigned.inj hsame]; rfl)
  | ctxDone =>
      left
      cases response with
      | false => exact hmem
      | true => exact Note.mem_of_mem_add Event.noConfusion hmem
  | execute index => exact Or.inl (Note.mem_of_mem_add Event.noConfusion hmem)
  | compensate index =>
      exact Or.inl (Note.mem_of_mem_add Event.noConfusion hmem)
  | cancel => exact Or.inl (Note.mem_of_mem_add Event.noConfusion hmem)
  | _ => exact Or.inl hmem

theorem operation_eq_assignStatus (hassigns : op.assigns = some status) :
    op = .assignStatus status := by
  cases op with
  | assignStatus other => rw [Option.some.inj hassigns]
  | _ => cases hassigns

section Turn

variable {ι : Type} {saga : Saga Data} {pool : SagaPool ι Data}

/-- A caller of `CancelSaga` keeps a terminal status exactly if the engine has
not assigned `completed` or `failed`. -/
theorem Orderly.cancelled_keeps_iff (horderly : Orderly saga pool) :
    ((recorded pool).isTerminal = true → .cancelled = recorded pool) ↔
      .assigned .completed ∉ (pool.notes none).log ∧
        .assigned .failed ∉ (pool.notes none).log := by
  constructor
  · intro hkeeps
    constructor
    · intro hcompleted
      have hrecorded := horderly.logged none .completed rfl hcompleted
      rw [hrecorded] at hkeeps
      cases hkeeps rfl
    · intro hfailed
      have hrecorded := horderly.logged none .failed rfl hfailed
      rw [hrecorded] at hkeeps
      cases hkeeps rfl
  · rintro ⟨hcompleted, hfailed⟩ hterminal
    rcases horderly.shares.status with hlast | ⟨hcancelled, _⟩
    · cases hstatus : recorded pool with
      | completed =>
          exact absurd (mem_of_lastAssigned (hlast.symm.trans hstatus)
            (by simp)) hcompleted
      | failed =>
          exact absurd (mem_of_lastAssigned (hlast.symm.trans hstatus)
            (by simp)) hfailed
      | cancelled => rfl
      | _ => rw [hstatus] at hterminal; cases hterminal
    · exact hcancelled.symm

/-- The engine keeps a terminal status with `cancelled`, and with its other
statuses exactly if no caller has assigned. -/
theorem Orderly.engine_keeps_iff (horderly : Orderly saga pool)
    (hfollows : Follows (lastAssigned (pool.notes none).log) status) :
    ((recorded pool).isTerminal = true → status = recorded pool) ↔
      status = .cancelled ∨
        ∀ i, .assigned .cancelled ∉ (pool.notes (some i)).log := by
  constructor
  · intro hkeeps
    refine Classical.or_iff_not_imp_right.mpr fun hlogged => ?_
    push Not at hlogged
    obtain ⟨i, hcancelled⟩ := hlogged
    have hrecorded := horderly.logged (some i) .cancelled rfl hcancelled
    rw [hrecorded] at hkeeps
    exact hkeeps rfl
  · intro hcondition hterminal
    rcases horderly.shares.status with hlast | ⟨hrecorded, i, hcancelled⟩
    · have hrecorded : recorded pool = lastAssigned (pool.notes none).log :=
        hlast
      rw [hrecorded, hfollows.not_isTerminal] at hterminal
      cases hterminal
    · rcases hcondition with hstatus | hnone
      · exact hstatus.trans hrecorded.symm
      · exact absurd hcancelled (hnone i)

variable [DecidableEq ι]

/-- The turn leaves a terminal status as it is. -/
def Keeps (pool : SagaPool ι Data) (turn : Option ι × Choice Data) : Prop :=
  (recorded pool).isTerminal = true →
    recorded (pool.step Op.respond sagaContract turn) = recorded pool

variable {turn : Option ι × Choice Data}

theorem recorded_step {next : op.Res → Task Data Unit}
    (hthread : pool.threads turn.1 = .perform op next) :
    recorded (pool.step Op.respond sagaContract turn) =
      op.assigns.getD (recorded pool) := by
  have hstate : (pool.step Op.respond sagaContract turn).state = _ :=
    Pool.state_step hthread
  rw [recorded, hstate]
  exact status_respond_getD op turn.2 pool.state

theorem Orderly.keeps_iff (horderly : Orderly saga pool)
    (turn : Option ι × Choice Data) : Keeps pool turn ↔ InOrder pool turn := by
  cases hthread : pool.threads turn.1 with
  | done result =>
      refine iff_of_true (fun _ => ?_) fun status hstatus => ?_
      · rw [Pool.step_of_done hthread]
      · rw [hthread] at hstatus
        cases hstatus
  | perform op next =>
      have hoperation : (pool.threads turn.1).operation = some op := by
        rw [hthread]
        rfl
      cases hassigns : op.assigns with
      | none =>
          refine iff_of_true (fun _ => ?_) fun status hstatus => ?_
          · rw [recorded_step hthread, hassigns, Option.getD_none]
          · rw [hoperation] at hstatus
            obtain rfl : op = .assignStatus status := Option.some.inj hstatus
            cases hassigns
      | some status =>
          have hallowed := horderly.order.allowed hthread status hassigns
          rw [Keeps, recorded_step hthread, hassigns, Option.getD_some]
          have hinOrder : InOrder pool turn ↔
              match turn.1 with
              | some _ => .assigned .completed ∉ (pool.notes none).log ∧
                  .assigned .failed ∉ (pool.notes none).log
              | none => status = .cancelled ∨
                  ∀ i, .assigned .cancelled ∉ (pool.notes (some i)).log := by
            constructor
            · intro hturn
              apply hturn
              rw [hoperation, operation_eq_assignStatus hassigns]
            · intro hcondition other hother
              rw [hoperation, operation_eq_assignStatus hassigns] at hother
              cases hother
              exact hcondition
          rw [hinOrder]
          rcases turn with ⟨_ | i, choice⟩
          · rw [horderly.shares.engine] at hallowed
            exact horderly.engine_keeps_iff hallowed
          · rw [horderly.shares.canceller] at hallowed
            subst hallowed
            exact horderly.cancelled_keeps_iff

/-- A turn that keeps the status keeps the invariant. -/
theorem Orderly.step (horderly : Orderly saga pool) (hkeeps : Keeps pool turn) :
    Orderly saga (pool.step Op.respond sagaContract turn) where
  order := horderly.order.step turn
  meet := horderly.meet.step turn
  shares := horderly.shares.step horderly.meet turn
  logged := by
    intro id status hterminal hmem
    by_cases hbefore : .assigned status ∈ (pool.notes id).log
    · have hrecorded := horderly.logged id status hterminal hbefore
      rw [← hrecorded]
      exact hkeeps (hrecorded ▸ hterminal)
    · cases hthread : pool.threads turn.1 with
      | done result =>
          rw [Pool.step_of_done hthread] at hmem
          exact absurd hmem hbefore
      | perform op next =>
          by_cases hid : id = turn.1
          · have hself : (pool.step Op.respond sagaContract turn).notes
                turn.1 = _ := Pool.notes_step_self hthread
            rw [hid, hself] at hmem
            rw [hid] at hbefore
            rcases assigned_mem_observe hmem with hlogged | hassigns
            · exact absurd hlogged hbefore
            · rw [recorded_step hthread, hassigns, Option.getD_some]
          · rw [Pool.notes_step_of_ne hid] at hmem
            exact absurd hmem hbefore

end Turn

theorem orderly_sagaPool {ι : Type} (saga : Saga Data) :
    Orderly saga (sagaPool saga : SagaPool ι Data) where
  order := by
    rintro (_ | i)
    · exact order_executeSaga saga
    · exact order_cancelSaga
  meet := allMeet_sagaPool saga
  shares := shares_sagaPool saga
  logged := by
    rintro (_ | i) status _ hmem <;> cases hmem

/-- In every interleaving of the engine with callers of `CancelSaga`, the
status stays once it is `completed`, `failed` or `cancelled` exactly if no
caller assigns after the engine has assigned `completed` or `failed`, and the
engine assigns only `cancelled` after a caller. -/
theorem terminal_saga_status_stays_iff {ι : Type} [DecidableEq ι]
    (saga : Saga Data) (schedule : List (Option ι × Choice Data)) :
    Pool.Stays recorded (fun status => status.isTerminal = true) Op.respond
        sagaContract schedule (sagaPool saga) ↔
      Pool.Admissible Op.respond sagaContract InOrder schedule
        (sagaPool saga) := by
  rw [Pool.stays_iff]
  exact Pool.admissible_iff_of_invariant (Orderly saga)
    (fun pool turn horderly => horderly.keeps_iff turn)
    (fun pool turn horderly hkeeps => horderly.step hkeeps)
    (orderly_sagaPool saga)

end Writers

namespace Samples

/-- The saga completes, then a caller cancels it. -/
def cancelAfter : List (Option Unit × Choice Unit) :=
  List.replicate 20 (none, working) ++ List.replicate 5 (some (), working)

/-- A caller cancels the saga during its last step. -/
def cancelDuring : List (Option Unit × Choice Unit) :=
  List.replicate 13 (none, working) ++ List.replicate 5 (some (), working) ++
    List.replicate 7 (none, working)

/-- The status changes after it was terminal. -/
def LeavesTerminal (schedule : List (Option Unit × Choice Unit)) : Prop :=
  ¬ Pool.Stays recorded (fun status => status.isTerminal = true) Op.respond
    sagaContract schedule (sagaPool saga)

end Samples

/-- `cancelled` is written over `completed`, and `completed` over
`cancelled`. -/
theorem terminal_status_overwritten :
    Samples.LeavesTerminal Samples.cancelAfter ∧
      Samples.LeavesTerminal Samples.cancelDuring := by
  constructor
  · intro hstays
    have hlast := hstays (List.replicate 20 (none, Samples.working))
      (List.replicate 5 (some (), Samples.working)) [] rfl rfl
    cases hlast
  · intro hstays
    have hlast := hstays (List.replicate 13 (none, Samples.working) ++
      List.replicate 5 (some (), Samples.working))
      (List.replicate 7 (none, Samples.working)) [] rfl rfl
    cases hlast

end UssdKernel.Orchestrator
