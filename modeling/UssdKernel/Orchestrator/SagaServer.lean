import UssdKernel.Orchestrator.StepHandler

/-!
# Requests to execute a saga

`ExecuteSaga` builds a saga from its request, and `StartSaga` saves it, enters
its cancel function in the `running` map and launches `executeSaga`.  Both maps
are keyed by the saga id, which the request may name, and neither is looked at
before it is written.  Requests and calls of `CancelSaga` run interleaved, each
request on a record of its own.

A step is executed with success at most once, and a saga has at most one active
run, exactly if no two accepted requests name the same saga.
-/

namespace UssdKernel.SagaServer

open Programs Interleaving Orchestrator

/-! ## `ExecuteSaga` -/

structure StepRequest where
  service : String
  action : String
  payload : Option StepMap
  compensationAction : String

structure ExecuteSagaRequest where
  sagaId : String
  tenantId : String
  steps : List StepRequest

/-- The ids that one call draws, and its clock. -/
structure RequestEnv where
  newSagaId : Uuid
  stepIds : ℕ → Uuid
  now : Time

/-- A call that starts no saga. -/
inductive RequestFailure
  | panic
  | invalidArgument (message : String)
  deriving DecidableEq

def sagaStep (env : RequestEnv) (index : ℕ) (step : StepRequest) :
    SagaStep StepMap where
  id := env.stepIds index
  sagaId := 0
  stepNumber := index + 1
  service := step.service
  action := step.action
  status := .pending
  compensationAction := step.compensationAction
  input := step.payload
  output := none
  error := ""

section Requests

variable (parse : String → Option Uuid) (env : RequestEnv)
  (request : ExecuteSagaRequest)

/-- The id of the requested saga; an id drawn for an empty `saga_id` parses
back to itself. -/
def requestedId : Option Uuid :=
  if request.sagaId = "" then some env.newSagaId else parse request.sagaId

/-- The saga that `ExecuteSaga` hands to the engine. -/
def executeSaga : Except RequestFailure (Saga StepMap) :=
  match parse request.tenantId with
  | none => .error (.invalidArgument "invalid tenant_id")
  | some tenantId =>
      match requestedId parse env request with
      -- `uuid.Must`
      | none => .error .panic
      | some id => .ok {
          id
          tenantId
          status := .pending
          currentStep := 0
          totalSteps := request.steps.length
          steps := request.steps.mapIdx (sagaStep env)
          createdAt := env.now
          completedAt := none }

end Requests

/-! ## The server -/

/-- The records that the requests allocate, with their contexts, and the two
maps, which hold the record or the cancel function of a request.  `launched` and
`executed` are observations: the runs of the engine, and the request and the
index of each step executed with success. -/
structure Server (ι : Type) where
  record : ι → Saga StepMap
  cancelled : ι → Bool
  sagas : Uuid → Option ι
  running : Uuid → Option ι
  launched : ι → Bool
  executed : List (ι × ℕ)

inductive ServerOp (ι : Type)
  | setRunning (run : ι)
  | launch (run : ι)
  /-- An operation of the engine on the record of a request. -/
  | onRecord (run : ι) (op : Op StepMap)
  | lookupRunning (sagaId : Uuid)
  | getSaga (sagaId : Uuid)

abbrev ServerOp.Res {ι : Type} : ServerOp ι → Type
  | setRunning _ | launch _ => Unit
  | onRecord _ op => op.Res
  | lookupRunning _ | getSaga _ => Option ι

section Server

variable {ι : Type} [DecidableEq ι]

/-- What an operation of the engine sees. -/
def Server.shared (server : Server ι) (run : ι) : Shared StepMap where
  saga := server.record run
  cancelled := server.cancelled run
  running := (server.running (server.record run).id).isSome

/-- The assignments of an operation to the record and its context. -/
def Server.assign (server : Server ι) (run : ι) (shared : Shared StepMap) :
    Server ι :=
  { server with
    record := Function.update server.record run shared.saga
    cancelled := Function.update server.cancelled run shared.cancelled }

/-- What an operation with this response writes elsewhere. -/
def Server.perform (server : Server ι) (run : ι) :
    (op : Op StepMap) → op.Res → Server ι
  | .saveSaga, .ok () =>
      { server with
        sagas :=
          Function.update server.sagas (server.record run).id (some run) }
  | .deleteRunning, _ =>
      { server with
        running :=
          Function.update server.running (server.record run).id none }
  | .execute index, .ok _ =>
      { server with executed := server.executed ++ [(run, index)] }
  | _, _ => server

def ServerOp.respond (choice : Choice StepMap) :
    (op : ServerOp ι) → Server ι → op.Res × Server ι
  | .setRunning run, server =>
      ((), { server with
        running :=
          Function.update server.running (server.record run).id (some run) })
  | .launch run, server =>
      ((), { server with launched := Function.update server.launched run true })
  | .onRecord run op, server =>
      let answer := op.respond choice (server.shared run)
      (answer.1, (server.perform run op answer.1).assign run answer.2)
  | .lookupRunning sagaId, server => (server.running sagaId, server)
  | .getSaga sagaId, server => (server.sagas sagaId, server)

/-! ## `StartSaga` and `CancelSaga` -/

abbrev ServerTask (ι : Type) := Prog (ServerOp ι) ServerOp.Res String Unit

/-- An engine on the record of a request. -/
def ofEngine {A : Type} (run : ι) :
    Task StepMap A → Prog (ServerOp ι) ServerOp.Res String A
  | .done result => .done result
  | .perform op next =>
      .perform (.onRecord run op) fun response => ofEngine run (next response)

/-- `StartSaga`, after its assignments, and the engine that it launches. -/
def startSaga (run : ι) (saga : Saga StepMap) : ServerTask ι :=
  .perform (.onRecord run .saveSaga) fun
    | .error message => Prog.raise ("save saga: " ++ message)
    | .ok () => do
        Prog.call (ServerOp.setRunning run)
        Prog.call (ServerOp.launch run)
        ofEngine run (Orchestrator.executeSaga saga)

/-- The rest of `CancelSaga`, after the call of the cancel function. -/
def markSaga (sagaId : Uuid) : ServerTask ι :=
  .perform (.getSaga sagaId) fun
    | none => Prog.raise "not found"
    | some run => do
        ofEngine run (act (.assignStatus .cancelled))
        ofEngine run (act .assignCompletedAt)
        .perform (.onRecord run .saveSaga) fun result => .done result

def cancelSaga (sagaId : Uuid) : ServerTask ι :=
  .perform (.lookupRunning sagaId) fun
    | none => markSaga sagaId
    | some run => do
        ofEngine run (act .cancel)
        markSaga sagaId

/-! ## Requests side by side -/

/-- The note of a thread: the request whose engine it may launch, and the index
from which it may execute steps. -/
structure RunNote (ι : Type) where
  owner : Option ι
  next : ℕ

/-- Only the thread of a request executes steps for it, each index once. -/
def runContract : Prog.Contract (ServerOp ι) ServerOp.Res (RunNote ι) where
  allowed note
    | .launch run => note.owner = some run
    | .onRecord run (.execute index) =>
        note.owner = some run ∧ note.next ≤ index
    | _ => True
  observe note
    | .onRecord _ (.execute index), _ => { note with next := index + 1 }
    | _, _ => note

/-- Requests to execute a saga, and ids of sagas to be cancelled. -/
structure Requests (ι κ : Type) where
  execute : ι → RequestEnv × ExecuteSagaRequest
  cancel : κ → Uuid

variable {κ : Type} (parse : String → Option Uuid) (requests : Requests ι κ)

/-- What `ExecuteSaga` makes of the request. -/
def Requests.saga (run : ι) : Except RequestFailure (Saga StepMap) :=
  executeSaga parse (requests.execute run).1 (requests.execute run).2

/-- The saga that the request starts. -/
def Requests.sagaId (run : ι) : Option Uuid :=
  (requests.saga parse run).toOption.map Saga.id

abbrev SagaPool (ι κ : Type) :=
  Pool (ι ⊕ κ) (ServerOp ι) ServerOp.Res String Unit (Server ι) (RunNote ι)

/-- The zero value of a saga. -/
def zeroSaga : Saga StepMap where
  id := 0
  tenantId := 0
  status := .pending
  currentStep := 0
  totalSteps := 0
  steps := []
  createdAt := 0
  completedAt := none

/-- All requests before their first step; one that is refused has ended. -/
def sagaRequests : SagaPool ι κ where
  state :=
    { record := fun run =>
        match requests.saga parse run with
        | .ok saga => (started saga).saga
        | .error _ => zeroSaga
      cancelled := fun _ => false
      sagas := fun _ => none
      running := fun _ => none
      launched := fun _ => false
      executed := [] }
  notes
    | .inl run =>
        { owner := (requests.saga parse run).toOption.map fun _ => run
          next := 0 }
    | .inr _ => { owner := none, next := 0 }
  threads
    | .inl run =>
        match requests.saga parse run with
        | .ok saga => startSaga run saga
        | .error (.invalidArgument message) => Prog.raise message
        | .error .panic => Prog.raise "panic"
    | .inr call => cancelSaga (requests.cancel call)

/-- The pool after these turns. -/
def after (schedule : List ((ι ⊕ κ) × Choice StepMap)) [DecidableEq κ] :
    SagaPool ι κ :=
  (sagaRequests parse requests).run ServerOp.respond runContract schedule

omit [DecidableEq ι] in
/-- The engine launched for the request has not returned. -/
def Active (pool : SagaPool ι κ) (run : ι) : Prop :=
  pool.state.launched run = true ∧ (pool.threads (.inl run)).result = none

/-- Every step of a saga has been executed with success at most once, and at
most one engine is active for a saga. -/
structure Exclusive (pool : SagaPool ι κ) : Prop where
  once : (pool.state.executed.map fun call =>
    (requests.sagaId parse call.1, call.2)).Nodup
  single : ∀ first second, Active pool first → Active pool second →
    requests.sagaId parse first = requests.sagaId parse second →
      first = second

/-- No two accepted requests name the same saga. -/
def DistinctSagas : Prop :=
  ∀ first second id, requests.sagaId parse first = some id →
    requests.sagaId parse second = some id → first = second

end Server

/-! ## The steps of one run -/

section Order

/-- Steps are executed with increasing index. -/
def orderContract : Prog.Contract (Op StepMap) Op.Res ℕ where
  allowed next
    | .execute index => next ≤ index
    | _ => True
  observe next
    | .execute index, _ => index + 1
    | _, _ => next

/-- The operation executes no step. -/
def idle : Op StepMap → Bool
  | .execute _ => false
  | _ => true

variable {op : Op StepMap}

theorem ignores_of_idle (hidle : idle op = true) :
    orderContract.Ignores op := by
  intro next
  cases op <;> first | exact ⟨trivial, fun _ => rfl⟩ | cases hidle

variable {next : ℕ}

theorem meets_idle_bind {A : Type} {rest : Unit → Task StepMap A}
    (hidle : idle op = true)
    (hrest : (rest ()).Meets orderContract (fun _ _ => True) next) :
    (act op >>= rest).Meets orderContract (fun _ _ => True) next :=
  Prog.meets_perform_of_ignores (ignores_of_idle hidle) fun _ => hrest

theorem meets_idle (hidle : idle op = true) :
    (act op).Meets orderContract (fun _ _ => True) next :=
  Prog.meets_perform_of_ignores (ignores_of_idle hidle) fun _ => trivial

theorem order_finish (status : SagaStatus) :
    (finish status).Meets orderContract (fun _ _ => True) next := by
  refine meets_idle_bind rfl ?_
  refine meets_idle_bind rfl ?_
  exact meets_idle rfl

variable (steps : List (SagaStep StepMap))

/-- Compensations execute no step, whatever comes after them. -/
theorem order_compensateLoop (count : ℕ) {rest : Unit → Task StepMap Unit}
    (hrest : (rest ()).Meets orderContract (fun _ _ => True) next) :
    (compensateLoop steps count >>= rest).Meets orderContract
      (fun _ _ => True) next := by
  induction count with
  | zero => exact hrest
  | succ index ih =>
      rw [compensateLoop]
      split
      · exact ih
      · refine Prog.meets_perform_of_ignores (ignores_of_idle rfl) fun _ => ?_
        exact Prog.meets_perform_of_ignores (ignores_of_idle rfl) fun _ => ih

theorem order_compensate (failedStep : ℕ) :
    (compensate steps failedStep).Meets orderContract (fun _ _ => True)
      next := by
  refine meets_idle_bind rfl ?_
  refine meets_idle_bind rfl ?_
  exact order_compensateLoop steps (failedStep + 1) (order_finish .failed)

theorem order_executeLoop (steps remaining : List (SagaStep StepMap))
    (index : ℕ) (hnext : next ≤ index) :
    (executeLoop steps remaining index).Meets orderContract (fun _ _ => True)
      next := by
  induction remaining generalizing index next with
  | nil => exact order_finish .completed
  | cons step remaining ih =>
      refine ⟨trivial, fun cancelled => ?_⟩
      cases cancelled with
      | true => exact order_finish .cancelled
      | false =>
          refine meets_idle_bind rfl ?_
          refine meets_idle_bind rfl ?_
          refine meets_idle_bind rfl ?_
          refine ⟨hnext, fun result => ?_⟩
          cases result with
          | error message =>
              refine meets_idle_bind rfl ?_
              refine meets_idle_bind rfl ?_
              refine meets_idle_bind rfl ?_
              exact order_compensate steps index
          | ok output =>
              refine meets_idle_bind rfl ?_
              refine meets_idle_bind rfl ?_
              refine meets_idle_bind rfl ?_
              exact ih (index + 1) (Nat.le_refl _)

theorem order_executeSaga (saga : Saga StepMap) :
    (Orchestrator.executeSaga saga).Meets orderContract (fun _ _ => True)
      0 := by
  unfold Orchestrator.executeSaga
  rw [Prog.meets_bind]
  apply Prog.Meets.mono _ (order_executeLoop saga.steps saga.steps 0 le_rfl)
  intro next result _
  cases result with
  | error error => trivial
  | ok value => exact meets_idle rfl

end Order

/-! ## The threads meet their contract -/

section Threads

variable {ι : Type} {run : ι} {note : RunNote ι}

/-- An engine that executes its steps in order does so on its record. -/
theorem meets_ofEngine {program : Task StepMap Unit}
    (hmeets : program.Meets orderContract (fun _ _ => True) note.next)
    (howner : note.owner = some run) :
    (ofEngine run program).Meets runContract (fun _ _ => True) note := by
  induction program generalizing note with
  | done result => trivial
  | perform op next ih =>
      cases op with
      | execute index =>
          exact ⟨⟨howner, hmeets.1⟩, fun response =>
            ih response (hmeets.2 response) howner⟩
      | _ =>
          exact ⟨trivial, fun response =>
            ih response (hmeets.2 response) howner⟩

theorem meets_startSaga (saga : Saga StepMap) :
    (startSaga run saga).Meets runContract (fun _ _ => True)
      { owner := some run, next := 0 } := by
  refine ⟨trivial, fun saved => ?_⟩
  cases saved with
  | error message => trivial
  | ok value =>
      refine ⟨trivial, fun _ => ⟨rfl, fun _ => ?_⟩⟩
      exact meets_ofEngine (order_executeSaga saga) rfl

theorem meets_markSaga (sagaId : Uuid) :
    (markSaga sagaId : ServerTask ι).Meets runContract (fun _ _ => True)
      note := by
  refine ⟨trivial, fun found => ?_⟩
  cases found with
  | none => trivial
  | some run =>
      exact ⟨trivial, fun _ => ⟨trivial, fun _ => ⟨trivial, fun _ => trivial⟩⟩⟩

theorem meets_cancelSaga (sagaId : Uuid) :
    (cancelSaga sagaId : ServerTask ι).Meets runContract (fun _ _ => True)
      note := by
  refine ⟨trivial, fun found => ?_⟩
  cases found with
  | none => exact meets_markSaga sagaId
  | some run => exact ⟨trivial, fun _ => meets_markSaga sagaId⟩

variable {κ : Type} (parse : String → Option Uuid) (requests : Requests ι κ)

theorem allMeet_sagaRequests :
    (sagaRequests parse requests).AllMeet runContract fun _ _ _ => True := by
  rintro (run | call)
  · cases hsaga : requests.saga parse run with
    | ok saga =>
        simp only [sagaRequests, hsaga]
        exact meets_startSaga saga
    | error failure =>
        simp only [sagaRequests, hsaga]
        cases failure <;> trivial
  · exact meets_cancelSaga (requests.cancel call)

end Threads

/-! ## What a turn adds to the observations -/

section Operation

variable {ι : Type}

/-- An operation launches an engine, executes a step with success, or leaves
both observations. -/
theorem observed_respond [DecidableEq ι] (choice : Choice StepMap)
    (op : ServerOp ι) (server : Server ι) :
    let later := (op.respond choice server).2
    later.launched = server.launched ∧ later.executed = server.executed ∨
      (∃ run, op = .launch run ∧
        later.launched = Function.update server.launched run true ∧
          later.executed = server.executed) ∨
        ∃ run index, op = .onRecord run (.execute index) ∧
          later.launched = server.launched ∧
            later.executed = server.executed ++ [(run, index)] := by
  cases op with
  | launch run => exact Or.inr (Or.inl ⟨run, rfl, rfl, rfl⟩)
  | onRecord run op =>
      cases op with
      | execute index =>
          dsimp only [ServerOp.respond]
          cases (Op.respond choice (.execute index) (server.shared run)).1 with
          | error message => exact Or.inl ⟨rfl, rfl⟩
          | ok output => exact Or.inr (Or.inr ⟨run, index, rfl, rfl, rfl⟩)
      | saveSaga =>
          left
          dsimp only [ServerOp.respond]
          cases (Op.respond choice .saveSaga (server.shared run)).1 with
          | error message => exact ⟨rfl, rfl⟩
          | ok value => exact ⟨rfl, rfl⟩
      | _ => exact Or.inl ⟨rfl, rfl⟩
  | _ => exact Or.inl ⟨rfl, rfl⟩

theorem owner_observe (note : RunNote ι) (op : ServerOp ι)
    (response : op.Res) :
    (runContract.observe note op response).owner = note.owner := by
  cases op with
  | onRecord run op => cases op <;> rfl
  | _ => rfl

theorem next_le_observe {note : RunNote ι} {op : ServerOp ι}
    (hallowed : runContract.allowed note op) (response : op.Res) :
    note.next ≤ (runContract.observe note op response).next := by
  cases op with
  | onRecord run op =>
      cases op with
      | execute index => exact Nat.le_succ_of_le hallowed.2
      | _ => exact Nat.le_refl _
  | _ => exact Nat.le_refl _

end Operation

section Steps

variable {ι κ : Type} {parse : String → Option Uuid} {requests : Requests ι κ}
  {pool : SagaPool ι κ}

theorem eq_inl_of_owner {id : ι ⊕ κ} {run : ι}
    (howner : ((sagaRequests parse requests).notes id).owner = some run) :
    id = .inl run ∧ (requests.sagaId parse run).isSome := by
  cases id with
  | inr call => cases howner
  | inl other =>
      simp only [sagaRequests] at howner
      cases hsaga : requests.saga parse other with
      | error failure =>
          rw [hsaga] at howner
          cases howner
      | ok saga =>
          rw [hsaga] at howner
          cases howner
          refine ⟨rfl, ?_⟩
          rw [Requests.sagaId, hsaga]
          rfl

/-- Engines are launched for accepted requests, and each executes its steps
with increasing index. -/
structure Tracks (parse : String → Option Uuid) (requests : Requests ι κ)
    (pool : SagaPool ι κ) : Prop where
  owner : ∀ id,
    (pool.notes id).owner = ((sagaRequests parse requests).notes id).owner
  launched : ∀ run, pool.state.launched run = true →
    (requests.sagaId parse run).isSome
  below : ∀ run index, (run, index) ∈ pool.state.executed →
    (requests.sagaId parse run).isSome ∧ index < (pool.notes (.inl run)).next
  nodup : pool.state.executed.Nodup

theorem tracks_sagaRequests :
    Tracks parse requests (sagaRequests parse requests) where
  owner _ := rfl
  launched _ hlaunched := by cases hlaunched
  below _ _ hmem := by cases hmem
  nodup := List.nodup_nil

/-- Requests for different sagas keep out of each other's way. -/
theorem Tracks.exclusive (htracks : Tracks parse requests pool)
    (hdistinct : DistinctSagas parse requests) :
    Exclusive parse requests pool := by
  have hinjective : ∀ first second, (requests.sagaId parse first).isSome →
      requests.sagaId parse first = requests.sagaId parse second →
        first = second := by
    intro first second hsome heq
    obtain ⟨id, hid⟩ := Option.isSome_iff_exists.mp hsome
    exact hdistinct first second id hid (heq.symm.trans hid)
  constructor
  · apply htracks.nodup.map_on
    rintro ⟨first, index⟩ hfirst ⟨second, other⟩ _ heq
    obtain ⟨hid, rfl⟩ := Prod.mk.inj heq
    rw [hinjective first second (htracks.below first index hfirst).1 hid]
  · intro first second hfirst _ hid
    exact hinjective first second (htracks.launched first hfirst.1) hid

variable [DecidableEq ι] [DecidableEq κ]

theorem Tracks.step (hmeet : pool.AllMeet runContract fun _ _ _ => True)
    (htracks : Tracks parse requests pool) (turn : (ι ⊕ κ) × Choice StepMap) :
    Tracks parse requests (pool.step ServerOp.respond runContract turn) := by
  refine Pool.step_cases (Tracks parse requests) htracks
    fun op next hthread after hstate hself hothers => ?_
  have hallowed := hmeet.allowed hthread
  have hnext : ∀ id, (pool.notes id).next ≤ (after.notes id).next := by
    intro id
    by_cases hid : id = turn.1
    · rw [hid, hself]
      exact next_le_observe hallowed _
    · rw [hothers id hid]
  have hbelow : ∀ run index, (run, index) ∈ pool.state.executed →
      (requests.sagaId parse run).isSome ∧
        index < (after.notes (.inl run)).next := by
    intro run index hmem
    obtain ⟨haccepted, hlt⟩ := htracks.below run index hmem
    exact ⟨haccepted, Nat.lt_of_lt_of_le hlt (hnext _)⟩
  have howner : ∀ id, (after.notes id).owner =
      ((sagaRequests parse requests).notes id).owner := by
    intro id
    by_cases hid : id = turn.1
    · rw [hid, hself, owner_observe]
      exact htracks.owner turn.1
    · rw [hothers id hid]
      exact htracks.owner id
  have hobserved := observed_respond turn.2 op pool.state
  rw [← hstate] at hobserved
  rcases hobserved with
    ⟨hlaunched, hexecuted⟩ | ⟨run, hop, hlaunched, hexecuted⟩ |
      ⟨run, index, hop, hlaunched, hexecuted⟩
  · refine ⟨howner, ?_, ?_, ?_⟩
    · rw [hlaunched]
      exact htracks.launched
    · rw [hexecuted]
      exact hbelow
    · rw [hexecuted]
      exact htracks.nodup
  · refine ⟨howner, ?_, ?_, ?_⟩
    · rw [hlaunched]
      intro other hother
      by_cases heq : other = run
      · subst hop
        rw [heq]
        exact (eq_inl_of_owner
          ((htracks.owner turn.1).symm.trans hallowed)).2
      · rw [Function.update_of_ne heq] at hother
        exact htracks.launched other hother
    · rw [hexecuted]
      exact hbelow
    · rw [hexecuted]
      exact htracks.nodup
  · subst hop
    obtain ⟨hid, haccepted⟩ := eq_inl_of_owner
      ((htracks.owner turn.1).symm.trans hallowed.1)
    refine ⟨howner, ?_, ?_, ?_⟩
    · rw [hlaunched]
      exact htracks.launched
    · rw [hexecuted]
      intro other number hmem
      rcases List.mem_append.mp hmem with hmem | hmem
      · exact hbelow other number hmem
      · obtain ⟨rfl, rfl⟩ := Prod.mk.inj (List.mem_singleton.mp hmem)
        refine ⟨haccepted, ?_⟩
        rw [← hid, hself]
        exact Nat.lt_succ_self _
    · rw [hexecuted]
      apply List.Nodup.append htracks.nodup (List.nodup_singleton _)
      intro call hmem hnew
      rw [List.mem_singleton.mp hnew] at hmem
      have hlt := (htracks.below run index hmem).2
      rw [← hid] at hlt
      exact absurd hallowed.2 (Nat.not_le.mpr hlt)

theorem tracks_after (schedule : List ((ι ⊕ κ) × Choice StepMap)) :
    Tracks parse requests (after parse requests schedule) := by
  have hrun : (after parse requests schedule).AllMeet runContract
        (fun _ _ _ => True) ∧
      Tracks parse requests (after parse requests schedule) :=
    Pool.run_invariant
      (fun pool => pool.AllMeet runContract (fun _ _ _ => True) ∧
        Tracks parse requests pool)
      (fun _ turn hpool _ =>
        ⟨hpool.1.step turn, hpool.2.step hpool.1 turn⟩)
      ⟨allMeet_sagaRequests parse requests, tracks_sagaRequests⟩
      Pool.admissible_true
  exact hrun.2

/-! ## Two requests for one saga -/

/-- Handlers and repository that succeed. -/
def succeeding : Choice StepMap where
  executed _ := .ok success
  compensated _ := .ok ()
  saved := .ok ()
  found := .ok ()
  now := 0

/-- The turns in which a request saves its saga and launches the engine. -/
def launchTurns (run : ι) : List ((ι ⊕ κ) × Choice StepMap) :=
  List.replicate 3 (.inl run, succeeding)

omit [DecidableEq ι] in
theorem result_ofEngine_executeSaga (run : ι) (saga : Saga StepMap) :
    (ofEngine run (Orchestrator.executeSaga saga)).result = none := by
  rw [Orchestrator.executeSaga]
  cases saga.steps <;> rfl

theorem run_launchTurns {run : ι} {saga : Saga StepMap}
    (hthread : pool.threads (.inl run) = startSaga run saga) :
    let later := pool.run ServerOp.respond runContract (launchTurns run)
    later.state.launched = Function.update pool.state.launched run true ∧
      later.threads = Function.update pool.threads (.inl run)
        (ofEngine run (Orchestrator.executeSaga saga)) := by
  let turn : (ι ⊕ κ) × Choice StepMap := (.inl run, succeeding)
  let saved := pool.step ServerOp.respond runContract turn
  let entered := saved.step ServerOp.respond runContract turn
  let launching : ServerTask ι :=
    .perform (.launch run) fun _ =>
      ofEngine run (Orchestrator.executeSaga saga)
  let entering : ServerTask ι := .perform (.setRunning run) fun _ => launching
  intro later
  have hsaved : saved.threads =
      Function.update pool.threads (.inl run) entering := by
    have hstep : saved.threads = _ := Pool.threads_step hthread
    exact hstep
  have hsavedRun : saved.threads (.inl run) = entering := by
    rw [hsaved, Function.update_self]
  have hentered : entered.threads =
      Function.update saved.threads (.inl run) launching := by
    have hstep : entered.threads = _ := Pool.threads_step hsavedRun
    exact hstep
  have henteredRun : entered.threads (.inl run) = launching := by
    rw [hentered, Function.update_self]
  have hlater : later.threads = Function.update entered.threads (.inl run)
      (ofEngine run (Orchestrator.executeSaga saga)) := by
    have hstep : (entered.step ServerOp.respond runContract turn).threads =
      _ := Pool.threads_step henteredRun
    exact hstep
  constructor
  · have hsavedState : saved.state =
        (ServerOp.respond succeeding (.onRecord run .saveSaga) pool.state).2 :=
      Pool.state_step hthread
    have henteredState : entered.state =
        (ServerOp.respond succeeding (.setRunning run) saved.state).2 :=
      Pool.state_step hsavedRun
    have hlaterState : later.state =
        (ServerOp.respond succeeding (.launch run) entered.state).2 :=
      Pool.state_step henteredRun
    rw [hlaterState, henteredState, hsavedState]
    rfl
  · rw [hlater, hentered, hsaved, Function.update_idem, Function.update_idem]

omit [DecidableEq ι] [DecidableEq κ] in
theorem threads_of_sagaId {run : ι} {id : Uuid}
    (hid : requests.sagaId parse run = some id) :
    ∃ saga, (sagaRequests parse requests).threads (.inl run) =
      startSaga run saga := by
  cases hsaga : requests.saga parse run with
  | error failure =>
      rw [Requests.sagaId, hsaga] at hid
      cases hid
  | ok saga =>
      refine ⟨saga, ?_⟩
      simp only [sagaRequests, hsaga]

/-- Two requests for one saga can both have an active engine. -/
theorem active_launchTurns {first second : ι} {firstId secondId : Uuid}
    (hfirst : requests.sagaId parse first = some firstId)
    (hsecond : requests.sagaId parse second = some secondId)
    (hne : first ≠ second) :
    let pool := after parse requests (launchTurns first ++ launchTurns second)
    Active pool first ∧ Active pool second := by
  intro pool
  obtain ⟨firstSaga, hfirstThread⟩ := threads_of_sagaId hfirst
  obtain ⟨secondSaga, hsecondThread⟩ := threads_of_sagaId hsecond
  let middle := after parse requests (launchTurns first)
  obtain ⟨hfirstLaunched, hfirstThreads⟩ :
      middle.state.launched = _ ∧ middle.threads = _ :=
    run_launchTurns hfirstThread
  have hmiddle : middle.threads (.inl second) = startSaga second secondSaga := by
    rw [hfirstThreads, Function.update_of_ne, hsecondThread]
    exact fun heq => hne (Sum.inl.inj heq).symm
  have hpool : pool = middle.run ServerOp.respond runContract
      (launchTurns second) := Pool.run_append _ _ _
  obtain ⟨hlaunched, hthreads⟩ :
      pool.state.launched = _ ∧ pool.threads = _ := by
    rw [hpool]
    exact run_launchTurns hmiddle
  constructor
  · constructor
    · rw [hlaunched, Function.update_of_ne hne, hfirstLaunched,
        Function.update_self]
    · rw [hthreads, Function.update_of_ne (fun heq => hne (Sum.inl.inj heq)),
        hfirstThreads, Function.update_self]
      exact result_ofEngine_executeSaga first firstSaga
  · constructor
    · rw [hlaunched, Function.update_self]
    · rw [hthreads, Function.update_self]
      exact result_ofEngine_executeSaga second secondSaga

/-- A step is executed with success at most once and at most one engine is
active for a saga, whatever handlers and repository answer and in every
interleaving, exactly if no two accepted requests name the same saga. -/
theorem saga_runs_exclusive_iff (requests : Requests ι κ) :
    (∀ schedule, Exclusive parse requests (after parse requests schedule)) ↔
      DistinctSagas parse requests := by
  constructor
  · intro hexclusive first second id hfirst hsecond
    by_contra hne
    obtain ⟨hfirstActive, hsecondActive⟩ :=
      active_launchTurns hfirst hsecond hne
    apply hne
    apply (hexclusive _).single first second hfirstActive hsecondActive
    rw [hfirst, hsecond]
  · intro hdistinct schedule
    exact (tracks_after schedule).exclusive hdistinct

end Steps

namespace Samples

/-- `uuid.Parse` on the ids of the sample. -/
def parse (text : String) : Option Uuid :=
  [1, 2].find? fun id => Text.uuid id = text

/-- A saga of two steps under a given id, and a retry of the request. -/
def retried : Requests Bool Empty where
  execute _ :=
    ({ newSagaId := 9, stepIds := fun _ => 0, now := 0 },
      { sagaId := Text.uuid 1
        tenantId := Text.uuid 2
        steps :=
          [{ service := "payment"
             action := "charge"
             payload := none
             compensationAction := "" },
          { service := "payment"
            action := "charge"
            payload := none
            compensationAction := "" }] })
  cancel call := call.elim

def turns (run : Bool) (count : ℕ) :
    List ((Bool ⊕ Empty) × Choice StepMap) :=
  List.replicate count (.inl run, succeeding)

/-- The retry comes when the engine of the first request has returned. -/
def afterwards : SagaPool Bool Empty :=
  after parse retried (turns true 23 ++ turns false 23)

/-- The retry comes when the first request has been answered. -/
def meanwhile : SagaPool Bool Empty :=
  after parse retried (turns true 3 ++ turns false 3)

end Samples

/-- A retry executes every step once more, and its engine can be active beside
that of the first request; the `running` map then holds the cancel function of
the retry only. -/
theorem retry_executes_again :
    Samples.afterwards.state.executed =
        [(true, 0), (true, 1), (false, 0), (false, 1)] ∧
      Samples.retried.sagaId Samples.parse true = some 1 ∧
        Samples.retried.sagaId Samples.parse false = some 1 ∧
          Active Samples.meanwhile true ∧ Active Samples.meanwhile false ∧
            Samples.meanwhile.state.running 1 = some false ∧
              ¬ Exclusive Samples.parse Samples.retried Samples.afterwards ∧
                ¬ Exclusive Samples.parse Samples.retried
                  Samples.meanwhile := by
  have hexecuted : Samples.afterwards.state.executed =
      [(true, 0), (true, 1), (false, 0), (false, 1)] := by
    decide +kernel
  have hfirst : Samples.retried.sagaId Samples.parse true = some 1 := by
    decide +kernel
  have hretry : Samples.retried.sagaId Samples.parse false = some 1 := by
    decide +kernel
  have hbefore : Active Samples.meanwhile true :=
    ⟨by decide +kernel, rfl⟩
  have hbeside : Active Samples.meanwhile false :=
    ⟨by decide +kernel, rfl⟩
  refine ⟨hexecuted, hfirst, hretry, hbefore, hbeside, by decide +kernel,
    fun hexclusive => ?_, fun hexclusive => ?_⟩
  · have hnodup := hexclusive.once
    rw [hexecuted] at hnodup
    simp [hfirst, hretry] at hnodup
  · have heq := hexclusive.single true false hbefore hbeside
      (hfirst.trans hretry.symm)
    cases heq

end UssdKernel.SagaServer
