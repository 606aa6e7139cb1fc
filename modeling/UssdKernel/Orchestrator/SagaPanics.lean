import UssdKernel.Orchestrator.SagaPayments
import UssdKernel.Orchestrator.SagaServer
import UssdKernel.Orchestrator.StepAssertions

/-!
# Panics of a saga

A failed assertion of the step handler panics in the goroutine of the engine,
where nothing recovers it.  `ExecuteSaga` itself panics on a `saga_id` that does
not parse.

No request panics exactly if it is refused for its `tenant_id`, or its `saga_id`
is empty or parses and every payload has the fields its action asserts.
-/

namespace UssdKernel.SagaServer

open Programs Interleaving Orchestrator

/-! ## The process of the engine -/

/-- The saga that is executed; a panic of the goroutine ends the process. -/
structure Process where
  shared : Shared StepMap
  crashed : Bool

/-- What clients, repository and clock answer in one turn. -/
structure ClientChoice where
  clients : Clients Unit
  saved : Except String Unit
  found : Except String Unit
  now : Time

def ClientChoice.answers (choice : ClientChoice) : Choice StepMap where
  executed step := handlerResult (choice.clients.execute step ()).1
  compensated := compensateWith choice.clients.refundPayment
  saved := choice.saved
  found := choice.found
  now := choice.now

/-- The operation panics. -/
def panics (clients : Clients Unit) (saga : Saga StepMap) : Op StepMap → Bool
  | .execute index =>
      match saga.steps[index]? with
      | some step => (clients.execute step ()).1 = .error .panic
      | none => false
  | _ => false

/-- An operation of the process; one that has ended does nothing, and no
response of it is read. -/
def Process.respond (choice : ClientChoice) (op : Op StepMap)
    (process : Process) : op.Res × Process :=
  let answer := op.respond choice.answers process.shared
  (answer.1,
    if process.crashed then process
    else
      { shared := answer.2
        crashed := panics choice.clients process.shared.saga op })

abbrev ProcessPool (ι : Type) :=
  Pool (Option ι) (Op StepMap) Op.Res String Unit Process Note

/-- The engine on a started saga, and calls of `CancelSaga`. -/
def processPool {ι : Type} (saga : Saga StepMap) : ProcessPool ι where
  state := { shared := started saga, crashed := false }
  notes := (sagaPool saga).notes
  threads := (sagaPool saga).threads

variable (ι : Type) [DecidableEq ι]

/-- The request is answered with an error, or starts a saga that never ends the
process, whatever the services answer. -/
def NeverPanics (parse : String → Option Uuid)
    (request : ExecuteSagaRequest) : Prop :=
  ∀ env,
    match executeSaga parse env request with
    | .error .panic => False
    | .error (.invalidArgument _) => True
    | .ok saga => ∀ schedule : List (Option ι × ClientChoice),
        ((processPool saga).run Process.respond sagaContract
          schedule).state.crashed = false

def StepRequest.asserted (step : StepRequest) : Asserted where
  service := step.service
  action := step.action
  input := step.payload

/-- The request is refused for its tenant id, or its saga id is one, if it has
any, and its payloads have the asserted fields. -/
def WellFormed (parse : String → Option Uuid)
    (request : ExecuteSagaRequest) : Prop :=
  parse request.tenantId = none ∨
    (request.sagaId = "" ∨ (parse request.sagaId).isSome) ∧
      ∀ step ∈ request.steps, step.asserted.wellTyped = true

/-! ## What the engine keeps -/

section Keeps

/-- The inputs of the steps, which the engine does not change. -/
def inputs (saga : Saga StepMap) : List Asserted :=
  saga.steps.map asserted

theorem inputs_modifyStep (saga : Saga StepMap) (index : ℕ)
    {assign : SagaStep StepMap → SagaStep StepMap}
    (hassign : ∀ step, asserted (assign step) = asserted step) :
    inputs (saga.modifyStep index assign) = inputs saga := by
  apply List.ext_getElem?
  intro position
  simp only [inputs, Saga.modifyStep, List.getElem?_map, List.getElem?_modify]
  cases saga.steps[position]? with
  | none => rfl
  | some step =>
      by_cases hposition : index = position <;> simp [hposition, hassign]

theorem inputs_respond (choice : Choice StepMap) (op : Op StepMap)
    (shared : Shared StepMap) :
    inputs (op.respond choice shared).2.saga = inputs shared.saga := by
  cases op with
  | assignStepStatus index status
  | assignStepError index message
  | assignStepOutput index output =>
      exact inputs_modifyStep shared.saga index fun _ => rfl
  | _ => rfl

theorem panics_eq_false {clients : Clients Unit} {saga : Saga StepMap}
    (htyped : ∀ step ∈ inputs saga, step.wellTyped = true) (op : Op StepMap) :
    panics clients saga op = false := by
  cases op with
  | execute index =>
      rw [panics]
      cases hstep : saga.steps[index]? with
      | none => rfl
      | some step =>
          have hmem : asserted step ∈ inputs saga :=
            List.mem_map_of_mem (List.mem_of_getElem? hstep)
          apply decide_eq_false
          rw [execute_eq_panic_iff, htyped _ hmem]
          exact Bool.noConfusion
  | _ => rfl

end Keeps

/-- The inputs stay, and a process whose steps are well typed goes on. -/
theorem crashed_run {saga : Saga StepMap}
    (htyped : ∀ step ∈ inputs saga, step.wellTyped = true)
    (schedule : List (Option ι × ClientChoice)) :
    ((processPool saga).run Process.respond sagaContract
      schedule).state.crashed = false := by
  have hrun : ((processPool saga).run Process.respond sagaContract
        schedule).state.crashed = false ∧
      inputs ((processPool saga).run Process.respond sagaContract
        schedule).state.shared.saga = inputs saga := by
    apply Pool.run_invariant (fun pool : ProcessPool ι =>
      pool.state.crashed = false ∧
        inputs pool.state.shared.saga = inputs saga) _ ⟨rfl, rfl⟩
      Pool.admissible_true
    rintro pool ⟨thread, choice⟩ ⟨hcrashed, hinputs⟩ _
    cases hthread : pool.threads thread with
    | done result =>
        rw [Pool.step_of_done hthread]
        exact ⟨hcrashed, hinputs⟩
    | perform op next =>
        have hstate : (pool.step Process.respond sagaContract
            (thread, choice)).state = _ := Pool.state_step hthread
        rw [hstate, Process.respond, hcrashed]
        constructor
        · apply panics_eq_false
          rw [hinputs]
          exact htyped
        · exact (inputs_respond _ op pool.state.shared).trans hinputs
  exact hrun.1

/-! ## A step that lacks a field -/

section Crash

/-- Clients and repository that succeed. -/
def willing : ClientChoice where
  clients :=
    { initiatePayment := fun _ _ => (.ok
        { paymentId := "", status := .pending, providerReference := "" }, ())
      getPaymentStatus := fun request _ => .ok
        { paymentId := request.paymentId, status := none }
      refundPayment := fun _ => .ok ()
      reconstructSession := fun _ _ => .ok .other }
  saved := .ok ()
  found := .ok ()
  now := 0

/-- A process that has ended stays so. -/
theorem crashed_exec {A : Type} (choice : ClientChoice)
    (program : Task StepMap A) {process : Process}
    (hcrashed : process.crashed = true) :
    (Prog.exec (Process.respond choice) program process).2.crashed = true := by
  induction program generalizing process with
  | done result => exact hcrashed
  | perform op next ih =>
      apply ih
      rw [Process.respond, hcrashed]
      exact hcrashed

/-- The process goes on, and its steps have these inputs. -/
structure Ready (steps : List Asserted) (process : Process) : Prop where
  running : process.crashed = false
  uncancelled : process.shared.cancelled = false
  inputs_eq : inputs process.shared.saga = steps

/-- Operations that neither cancel the saga nor execute a step. -/
def plain : Op StepMap → Bool
  | .cancel | .execute _ => false
  | _ => true

variable {steps : List Asserted} {process : Process}

theorem Ready.respond (hready : Ready steps process) {op : Op StepMap}
    (hplain : plain op = true) :
    Ready steps (Process.respond willing op process).2 := by
  have hinputs : inputs (op.respond willing.answers process.shared).2.saga =
      steps := (inputs_respond _ op process.shared).trans hready.inputs_eq
  rw [Process.respond, hready.running]
  cases op <;> first
    | exact ⟨rfl, hready.uncancelled, hinputs⟩
    | cases hplain

/-- An operation before a crash does not prevent it. -/
theorem crashed_act_bind {A : Type} {op : Op StepMap}
    {rest : Unit → Task StepMap A} (hready : Ready steps process)
    (hplain : plain op = true)
    (hrest : ∀ later, Ready steps later →
      (Prog.exec (Process.respond willing) (rest ()) later).2.crashed =
        true) :
    (Prog.exec (Process.respond willing) (act op >>= rest)
      process).2.crashed = true :=
  hrest _ (hready.respond hplain)

theorem panics_execute_willing (step : SagaStep StepMap) :
    PanicsUnless (asserted step).wellTyped
      (willing.clients.execute step ()).1 := by
  apply execute_rel willing.clients () PanicsUnless
  · rw [fst_executeInitiatePayment]
    apply (panics_initiateRequest step.input).bind_ok
    intro request
    exact ⟨_, rfl⟩
  · apply (panics_textOf step.input "payment_id").bind_ok
    intro paymentId
    exact ⟨_, rfl⟩
  · apply (panics_textOf step.input "session_id").bind
    intro sessionId
    apply (panics_textOf step.input "tenant_id").bind_ok
    intro tenantId
    exact ⟨_, rfl⟩
  · exact ⟨success, rfl⟩

variable {index : ℕ} {step : Asserted}

section Step

variable (hready : Ready steps process) (hstep : steps[index]? = some step)

include hready hstep

theorem exists_step :
    ∃ stored, process.shared.saga.steps[index]? = some stored ∧
      asserted stored = step := by
  rw [← hready.inputs_eq, inputs, List.getElem?_map] at hstep
  exact Option.map_eq_some_iff.mp hstep

theorem respond_execute_of_typed (htyped : step.wellTyped = true) :
    (∃ output, (Process.respond willing (.execute index) process).1 =
        .ok output) ∧
      Ready steps (Process.respond willing (.execute index) process).2 := by
  obtain ⟨stored, hstored, rfl⟩ := exists_step hready hstep
  have hresult := panics_execute_willing stored
  rw [htyped] at hresult
  obtain ⟨output, houtput⟩ :
      ∃ output, (willing.clients.execute stored ()).1 = .ok output := hresult
  have hpanics : panics willing.clients process.shared.saga
      (.execute index) = false := by
    simp [panics, hstored, houtput]
  rw [Process.respond, hready.running, hpanics]
  constructor
  · refine ⟨output, ?_⟩
    simp [Op.respond, Saga.callOn, hstored, ClientChoice.answers, houtput,
      handlerResult]
  · exact ⟨rfl, hready.uncancelled, hready.inputs_eq⟩

theorem respond_execute_of_not_typed (htyped : step.wellTyped = false) :
    (Process.respond willing (.execute index) process).2.crashed = true := by
  obtain ⟨stored, hstored, rfl⟩ := exists_step hready hstep
  have hpanic := (execute_eq_panic_iff willing.clients () stored).mpr htyped
  rw [Process.respond, hready.running]
  simp [panics, hstored, hpanic]

end Step

theorem crashed_executeLoop (all remaining : List (SagaStep StepMap))
    (index : ℕ) (hready : Ready steps process)
    (hsteps : steps.drop index = remaining.map asserted)
    (hbad : ∃ step ∈ remaining, (asserted step).wellTyped = false) :
    (Prog.exec (Process.respond willing) (executeLoop all remaining index)
      process).2.crashed = true := by
  induction remaining generalizing index process with
  | nil =>
      obtain ⟨step, hmem, _⟩ := hbad
      cases hmem
  | cons step remaining ih =>
      have hstep : steps[index]? = some (asserted step) := by
        rw [← List.head?_drop, hsteps]
        rfl
      have hrest : steps.drop (index + 1) = remaining.map asserted := by
        rw [← List.tail_drop, hsteps]
        rfl
      have hcancelled : (Process.respond willing .ctxDone process).1 = false :=
        hready.uncancelled
      rw [executeLoop, ctxDone, Prog.exec_call_bind, hcancelled]
      have hready : Ready steps
          (Process.respond willing .ctxDone process).2 := hready.respond rfl
      refine crashed_act_bind hready rfl fun later hready => ?_
      refine crashed_act_bind hready rfl fun later hready => ?_
      refine crashed_act_bind hready rfl fun later hready => ?_
      rw [execute, Prog.exec_call_bind]
      cases htyped : (asserted step).wellTyped with
      | false =>
          exact crashed_exec willing _
            (respond_execute_of_not_typed hready hstep htyped)
      | true =>
          obtain ⟨⟨output, houtput⟩, hready⟩ :=
            respond_execute_of_typed hready hstep htyped
          rw [houtput]
          refine crashed_act_bind hready rfl fun later hready => ?_
          refine crashed_act_bind hready rfl fun later hready => ?_
          refine crashed_act_bind hready rfl fun later hready => ?_
          apply ih (index + 1) hready hrest
          obtain ⟨other, hmem, hother⟩ := hbad
          rcases List.mem_cons.mp hmem with rfl | hmem
          · rw [htyped] at hother
            cases hother
          · exact ⟨other, hmem, hother⟩

/-- A saga with a step that lacks an asserted field can end the process. -/
theorem exists_crashed_run {saga : Saga StepMap}
    (hbad : ∃ step ∈ saga.steps, (asserted step).wellTyped = false) :
    ∃ schedule : List (Option ι × ClientChoice),
      ((processPool saga).run Process.respond sagaContract
        schedule).state.crashed = true := by
  let start : Process := { shared := started saga, crashed := false }
  obtain ⟨schedule, hschedule⟩ : ∃ schedule : List (Option ι × ClientChoice),
      ((processPool saga).run Process.respond sagaContract schedule).state =
        (Prog.exec (Process.respond willing) (Orchestrator.executeSaga saga)
          start).2 :=
    Pool.exists_run_exec willing none (processPool saga)
  refine ⟨schedule, ?_⟩
  have hready : Ready (inputs saga) start := ⟨rfl, rfl, rfl⟩
  have hloop : (Prog.exec (Process.respond willing)
      (executeLoop saga.steps saga.steps 0) start).2.crashed = true :=
    crashed_executeLoop saga.steps saga.steps 0 hready rfl hbad
  rw [hschedule, Orchestrator.executeSaga, Prog.exec_bind]
  cases hexec : Prog.exec (Process.respond willing)
      (executeLoop saga.steps saga.steps 0) start with
  | mk result later =>
      rw [hexec] at hloop
      cases result with
      | error error => exact hloop
      | ok value => exact crashed_exec willing _ hloop

end Crash

/-! ## Requests -/

theorem inputs_mapIdx (env : RequestEnv) (steps : List StepRequest) :
    (steps.mapIdx (sagaStep env)).map asserted =
      steps.map StepRequest.asserted := by
  apply List.ext_getElem?
  intro position
  simp only [List.getElem?_map, List.getElem?_mapIdx]
  cases steps[position]? <;> rfl

theorem requestedId_isSome_iff {parse : String → Option Uuid}
    {env : RequestEnv} {request : ExecuteSagaRequest} :
    (requestedId parse env request).isSome ↔
      request.sagaId = "" ∨ (parse request.sagaId).isSome := by
  rw [requestedId]
  by_cases hempty : request.sagaId = "" <;> simp [hempty]

/-- A saga never ends the process exactly if its steps are well typed. -/
theorem crashed_eq_false_iff (saga : Saga StepMap) :
    (∀ schedule : List (Option ι × ClientChoice),
      ((processPool saga).run Process.respond sagaContract
        schedule).state.crashed = false) ↔
      ∀ step ∈ inputs saga, step.wellTyped = true := by
  constructor
  · intro hruns
    by_contra hbad
    simp only [inputs, List.mem_map, forall_exists_index, and_imp,
      forall_apply_eq_imp_iff₂, not_forall, Bool.not_eq_true] at hbad
    obtain ⟨step, hmem, htyped⟩ := hbad
    obtain ⟨schedule, hcrashed⟩ := exists_crashed_run ι ⟨step, hmem, htyped⟩
    rw [hruns schedule] at hcrashed
    cases hcrashed
  · intro htyped schedule
    exact crashed_run ι htyped schedule

/-- No panic, in the call or in the goroutine and whatever the services answer,
exactly for the well-formed requests. -/
theorem neverPanics_iff (parse : String → Option Uuid)
    (request : ExecuteSagaRequest) :
    NeverPanics ι parse request ↔ WellFormed parse request := by
  unfold NeverPanics WellFormed executeSaga
  cases parse request.tenantId with
  | none => exact iff_of_true (fun _ => trivial) (Or.inl rfl)
  | some tenantId =>
      rw [or_iff_right (Option.some_ne_none tenantId)]
      constructor
      · intro hnever
        let env : RequestEnv :=
          { newSagaId := 0, stepIds := fun _ => 0, now := 0 }
        have hanswer := hnever env
        cases hid : requestedId parse env request with
        | none =>
            simp only [hid] at hanswer
        | some id =>
            simp only [hid, crashed_eq_false_iff, inputs, inputs_mapIdx]
              at hanswer
            refine ⟨requestedId_isSome_iff.mp (by rw [hid]; rfl), ?_⟩
            intro step hmem
            exact hanswer step.asserted (List.mem_map_of_mem hmem)
      · rintro ⟨hid, htyped⟩ env
        obtain ⟨id, hid⟩ : ∃ id, requestedId parse env request = some id :=
          Option.isSome_iff_exists.mp (requestedId_isSome_iff.mpr hid)
        simp only [hid, crashed_eq_false_iff, inputs, inputs_mapIdx]
        intro step hmem
        obtain ⟨request, hrequest, rfl⟩ := List.mem_map.mp hmem
        exact htyped request hrequest

namespace Samples

/-- A request with one step. -/
def requestOf (sagaId action : String) (payload : Option StepMap) :
    ExecuteSagaRequest where
  sagaId
  tenantId := Text.uuid 2
  steps :=
    [{ service := "payment"
       action
       payload
       compensationAction := "" }]

def env : RequestEnv where
  newSagaId := 1
  stepIds _ := 0
  now := 0

/-- How the call ends if it starts no saga. -/
def failure (request : ExecuteSagaRequest) : Option RequestFailure :=
  match executeSaga parse env request with
  | .error failure => some failure
  | .ok _ => none

/-- Whether the process has ended after five turns of the engine that the call
has started. -/
def startedBy (request : ExecuteSagaRequest) : Option Bool :=
  (executeSaga parse env request).toOption.map fun saga =>
    ((processPool saga : ProcessPool Unit).run Process.respond sagaContract
      (List.replicate 5 (none, willing))).state.crashed

end Samples

/-- A `saga_id` that is no id, a step without payload, and an amount given as a
text, each in a request whose `tenant_id` parses. -/
theorem malformed_request_panics :
    Samples.failure (Samples.requestOf "order-1" "charge" none) =
        some .panic ∧
      Samples.startedBy (Samples.requestOf "" "InitiatePayment" none) =
        some true ∧
        Samples.startedBy (Samples.requestOf "" "InitiatePayment"
          (some [("amount_cents", .string "100"),
            ("tenant_id", .string (Text.uuid 2)), ("session_id", .string "s-1"),
            ("phone_number", .string "2637123456789"),
            ("reference", .string "REF-001"),
            ("idempotency_key", .string "idem-123")])) = some true := by
  decide +kernel

end UssdKernel.SagaServer
