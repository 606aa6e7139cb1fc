import UssdKernel.Orchestrator.Router

/-!
# The calls of a router

`RouteRequest` as the list of the calls that it makes to the rate limiter, the
repository, the session reconstructor, the application of the tenant and the
payment engine, with their answers.  Over a history of requests, handled one at
a time, the errors of `InitiatePayment` since its last success determine the
state of the circuit breaker.  After five of them every payment comes more than
30 seconds after the last error.
-/

namespace UssdKernel.Routing

open Orchestrator CircuitBreakers
open PaymentEngine (InitiatePaymentRequest InitiatePaymentResponse)

/-! ## Calls -/

def Attempt.failed (attempt : Attempt) : Bool :=
  match attempt.answer with
  | .error _ => true
  | .ok _ => false

def ExternalCall.attempt : ExternalCall → Option Attempt
  | .initiatePayment attempt => some attempt
  | _ => none

def ExternalCall.isHandleMenu : ExternalCall → Bool
  | .handleMenu _ _ => true
  | _ => false

/-- A request with what surrounds it.  The payment engine gives any answer. -/
structure RouterCall where
  env : RouteEnv
  request : RouteRequest
  initiate : InitiatePaymentRequest → Except String InitiatePaymentResponse
  initiatedAt : Time
  returnedAt : Time

/-- The readings of the clock in their order. -/
def RouterCall.times (call : RouterCall) : List Time :=
  [call.env.allowAt, call.env.recheckAt, call.initiatedAt, call.returnedAt,
    call.env.failedAt]

def RouterCall.attempt (call : RouterCall) (message : InitiatePaymentRequest) :
    Attempt :=
  ⟨message, call.initiate message, call.initiatedAt, call.returnedAt⟩

/-! ## `RouteRequest` -/

structure Routed where
  reply : Except String RouteResponse
  calls : List ExternalCall
  breaker : CircuitBreaker

/-- `RouteRequest`, with a payment client that adds its calls to the others. -/
def routeCalls (paymentCli : Bool) (call : RouterCall)
    (breaker : CircuitBreaker) : Routed :=
  let initiate message calls :=
    (call.initiate message,
      calls ++ [.initiatePayment (call.attempt message)])
  let answer := routeWith call.env breaker (menuCalls call.env call.request).2
    (if paymentCli then some initiate else none) call.request
  ⟨answer.1, answer.2.2, answer.2.1⟩

/-! ## Histories -/

/-- The breaker, and the requests so far with their calls. -/
structure RouterRun where
  breaker : CircuitBreaker
  served : List (RouterCall × List ExternalCall)

def RouterRun.initial : RouterRun where
  breaker := newCircuitBreaker
  served := []

def serveCall (paymentCli : Bool) (run : RouterRun) (call : RouterCall) :
    RouterRun :=
  let routed := routeCalls paymentCli call run.breaker
  { breaker := routed.breaker
    served := run.served ++ [(call, routed.calls)] }

/-- The calls of `InitiatePayment` in their order. -/
def RouterRun.attempts (run : RouterRun) : List Attempt :=
  run.served.flatMap fun served => served.2.filterMap ExternalCall.attempt

/-! ## The calls and the answers of one request -/

variable {paymentCli : Bool} {breaker : CircuitBreaker}

section Menu

variable {env : RouteEnv} {request : RouteRequest}

/-- The calls before `HandleMenu`, of an active tenant and with the answers that
let the request through. -/
def MenuGuards (request : RouteRequest) (before : List ExternalCall) : Prop :=
  ∃ tenant state, tenant.active = true ∧
    before =
      [.allow request.phoneNumber 60 true,
        .getByServiceCode request.serviceCode (.ok tenant),
        .allowTenant (Text.uuid tenant.id) (tenantLimit tenant) true,
        .reconstructSession request.sessionId (Text.uuid tenant.id) (.ok state),
        .getClient tenant.endpoint (.ok ())]

/-- Neither the menu nor a payment. -/
def Early (calls : List ExternalCall) : Prop :=
  ∀ call ∈ calls, call.isHandleMenu = false ∧ call.attempt = none

/-! ### The order of the calls -/

/-- After these calls the request fails before `HandleMenu`, or `HandleMenu` is
its last call and the calls before it are the guards. -/
def Guarded (request : RouteRequest) (prior : List ExternalCall)
    (found : Traced (Tenant × MenuResponse)) : Prop :=
  (∃ error, found.1 = .error error) ∧ Early found.2 ∨
    ∃ before message answer, MenuGuards request (prior ++ before) ∧
      found.2 = before ++ [.handleMenu message answer] ∧
      ((∃ menu, found.1 = .ok menu) → ∃ menu, answer = .ok menu)

section Guarded

variable {prior : List ExternalCall} {call : ExternalCall}
  {found : Traced (Tenant × MenuResponse)}

theorem guarded_error (error : String) :
    Guarded request prior (.error error, []) :=
  .inl ⟨⟨error, rfl⟩, fun _ hcall => absurd hcall List.not_mem_nil⟩

theorem Guarded.require {condition : Bool} (error : String)
    (hfound : condition = true → Guarded request prior found) :
    Guarded request prior (require condition error found) := by
  cases condition with
  | false => exact guarded_error error
  | true => exact hfound rfl

theorem Guarded.onOk {Answer : Type} {answer : Except String Answer}
    {next : Answer → Traced (Tenant × MenuResponse)} (wrap : String → String)
    (hnext : ∀ value, answer = .ok value →
      Guarded request prior (next value)) :
    Guarded request prior (onOk wrap answer next) := by
  cases answer with
  | error error => exact guarded_error (wrap error)
  | ok value => exact hnext value rfl

theorem Guarded.record
    (hcall : call.isHandleMenu = false ∧ call.attempt = none)
    (hfound : Guarded request (prior ++ [call]) found) :
    Guarded request prior (record call found) := by
  rcases hfound with ⟨herror, hearly⟩ |
    ⟨before, message, answer, hbefore, hcalls, hok⟩
  · exact .inl ⟨herror, List.forall_mem_cons.mpr ⟨hcall, hearly⟩⟩
  · refine .inr ⟨call :: before, message, answer, ?_, ?_, hok⟩
    · rw [List.append_assoc] at hbefore
      exact hbefore
    · rw [Routing.record, hcalls, List.cons_append]

theorem guarded_handleMenu {tenant : Tenant}
    {answer : Except String MenuResponse} (message : MenuRequest)
    (wrap : String → String) (hprior : MenuGuards request prior) :
    Guarded request prior (Routing.record (.handleMenu message answer)
      (Routing.onOk wrap answer fun menu => (.ok (tenant, menu), []))) := by
  rw [← List.append_nil prior] at hprior
  cases answer with
  | error error =>
      refine .inr ⟨[], message, .error error, hprior, rfl, ?_⟩
      rintro ⟨found, hfound⟩
      cases hfound
  | ok menu =>
      exact .inr ⟨[], message, .ok menu, hprior, rfl, fun _ => ⟨menu, rfl⟩⟩

end Guarded

/-- `HandleMenu` is called only after the guards. -/
theorem guarded_menuCalls (env : RouteEnv) (request : RouteRequest) :
    Guarded request [] (menuCalls env request) := by
  apply Guarded.require
  intro _
  apply Guarded.record ⟨rfl, rfl⟩
  apply Guarded.require
  intro hallowed
  apply Guarded.record ⟨rfl, rfl⟩
  apply Guarded.onOk
  intro tenant htenant
  apply Guarded.require
  intro hactive
  apply Guarded.record ⟨rfl, rfl⟩
  apply Guarded.require
  intro hlimit
  apply Guarded.onOk
  intro sessionState _
  apply Guarded.record ⟨rfl, rfl⟩
  apply Guarded.onOk
  intro state hstate
  apply Guarded.record ⟨rfl, rfl⟩
  apply Guarded.onOk
  intro client hclient
  apply guarded_handleMenu
  refine ⟨tenant, state, hactive, ?_⟩
  rw [hallowed, htenant, hlimit, hstate, hclient]
  rfl

/-! ### The whole request -/

/-- A request makes no payment and leaves the breaker, or it makes one after its
menu that the breaker allows. -/
inductive Routes (call : RouterCall) (breaker : CircuitBreaker) :
    List ExternalCall → CircuitBreaker → Prop
  | early {calls} (hcalls : Early calls) : Routes call breaker calls breaker
  | menu {before message answer} (hbefore : MenuGuards call.request before) :
      Routes call breaker (before ++ [.handleMenu message answer]) breaker
  | payment {before message menu payment}
      (hbefore : MenuGuards call.request before)
      (hallowed : (breaker.allow call.env.allowAt call.env.recheckAt).1 =
        true) :
      Routes call breaker
        (before ++ [.handleMenu message (.ok menu),
          .initiatePayment (call.attempt payment)])
        (breakerAfter call.env
          (breaker.allow call.env.allowAt call.env.recheckAt).2
          (call.initiate payment))

theorem routes_routeCalls (paymentCli : Bool) (call : RouterCall)
    (breaker : CircuitBreaker) :
    Routes call breaker (routeCalls paymentCli call breaker).calls
      (routeCalls paymentCli call breaker).breaker := by
  simp only [routeCalls, routeWith, menuFor]
  rcases guarded_menuCalls call.env call.request with
    ⟨⟨error, herror⟩, hearly⟩ |
      ⟨before, message, answer, hbefore, hcalls, hok⟩
  · rw [herror]
    exact .early hearly
  · rw [hcalls]
    cases hfound : (menuCalls call.env call.request).1 with
    | error error => exact .menu hbefore
    | ok found =>
        obtain ⟨tenant, menu⟩ := found
        obtain ⟨shown, rfl⟩ := hok ⟨_, hfound⟩
        dsimp only
        cases menu.payment with
        | none => exact .menu hbefore
        | some payment =>
            cases paymentCli with
            | false => exact .menu hbefore
            | true =>
                simp only [if_true]
                cases hallowed : (breaker.allow call.env.allowAt
                    call.env.recheckAt).1 with
                | false =>
                    rw [payWith_of_refused hallowed]
                    exact .menu hbefore
                | true =>
                    rw [payWith_of_allowed hallowed, List.append_assoc]
                    exact .payment hbefore hallowed

/-- With the answers of the payment engine of `routeRequest` the reply and the
breaker are the same. -/
theorem routeCalls_eq_routeRequest [PaymentEngine.DecimalText]
    {parseStr : String → Option Uuid} {call : RouterCall} {state : RouterState}
    (hinitiate : ∀ message, call.initiate message =
      (callInitiatePayment parseStr call.env.services message state.world).1) :
    (routeCalls true call state.breaker).reply =
        (routeRequest parseStr call.env call.request state).1 ∧
      (routeCalls true call state.breaker).breaker =
        (routeRequest parseStr call.env call.request state).2.breaker := by
  simp only [routeCalls, routeRequest, routeWith, if_true]
  cases menuFor call.env call.request with
  | error error => exact ⟨rfl, rfl⟩
  | ok found =>
      dsimp only
      cases found.2.payment with
      | none => exact ⟨rfl, rfl⟩
      | some payment =>
          simp only [payWith, hinitiate]
          split <;> exact ⟨rfl, rfl⟩

end Menu

/-! ## The order of the calls -/

variable {calls : List ExternalCall}

section Order

variable {call : RouterCall} {breaker breaker' : CircuitBreaker}
/-- `HandleMenu` comes after the guards, and `InitiatePayment` last, once, and
after a menu of the tenant's application. -/
structure Ordered (request : RouteRequest) (calls : List ExternalCall) :
    Prop where
  menu : ∀ before message answer after,
    calls = before ++ .handleMenu message answer :: after →
      MenuGuards request before
  payment : ∀ before attempt after,
    calls = before ++ .initiatePayment attempt :: after →
      ∃ guards message menu, MenuGuards request guards ∧
        before = guards ++ [.handleMenu message (.ok menu)] ∧ after = []
  once : (calls.filterMap ExternalCall.attempt).length ≤ 1

variable {before : List ExternalCall}

/-- The only call of a kind stands in one place. -/
theorem eq_of_append_cons_eq (kind : ExternalCall → Bool)
    {before' after after' : List ExternalCall} {found found' : ExternalCall}
    (hsame : before ++ found :: after = before' ++ found' :: after')
    (hbefore : ∀ call ∈ before, kind call = false)
    (hafter : ∀ call ∈ after, kind call = false) (hfound : kind found' = true) :
    before' = before ∧ found' = found ∧ after' = after := by
  have hmissing : ∀ calls : List ExternalCall,
      (∀ call ∈ calls, kind call = false) → found' ∉ calls := by
    intro calls hcalls hmem
    rw [hcalls found' hmem] at hfound
    cases hfound
  obtain ⟨rfl, rfl, rfl⟩ := (List.append_cons_inj_of_notMem
    (hmissing before hbefore) (hmissing after hafter)).mp hsame
  exact ⟨rfl, rfl, rfl⟩

variable {request : RouteRequest}

theorem MenuGuards.early (hbefore : MenuGuards request before) :
    Early before := by
  obtain ⟨tenant, state, -, rfl⟩ := hbefore
  simp [Early, ExternalCall.isHandleMenu, ExternalCall.attempt]

theorem Early.attempts_eq_nil (hearly : Early calls) :
    calls.filterMap ExternalCall.attempt = [] :=
  List.filterMap_eq_nil_iff.mpr fun call hcall => (hearly call hcall).2

theorem Early.ordered (hearly : Early calls) :
    Ordered request calls where
  menu := by
    rintro before message answer after rfl
    have hcall := (hearly (.handleMenu message answer) (by simp)).1
    cases hcall
  payment := by
    rintro before attempt after rfl
    have hcall := (hearly (.initiatePayment attempt) (by simp)).2
    cases hcall
  once := by
    rw [hearly.attempts_eq_nil]
    exact Nat.zero_le 1

variable {message : MenuRequest} {answer : Except String MenuResponse}

theorem attempts_menu (hbefore : Early before) :
    (before ++ [ExternalCall.handleMenu message answer]).filterMap
      ExternalCall.attempt = [] := by
  rw [List.filterMap_append, hbefore.attempts_eq_nil]
  rfl

/-- The only menu stands after the guards. -/
theorem guards_of_split {after before' after' : List ExternalCall}
    {message' : MenuRequest} {answer' : Except String MenuResponse}
    (hbefore : MenuGuards request before)
    (hafter : ∀ call ∈ after, call.isHandleMenu = false)
    (hsame : before ++ .handleMenu message answer :: after =
      before' ++ .handleMenu message' answer' :: after') :
    MenuGuards request before' := by
  have hplace := eq_of_append_cons_eq ExternalCall.isHandleMenu hsame
    (fun call hcall => (hbefore.early call hcall).1) hafter rfl
  rw [hplace.1]
  exact hbefore

theorem ordered_menu (hbefore : MenuGuards request before) :
    Ordered request (before ++ [.handleMenu message answer]) where
  menu := fun _ _ _ _ => guards_of_split hbefore (by simp)
  payment := by
    intro before' attempt after' hsame
    have hmem : .initiatePayment attempt ∈
        before ++ [.handleMenu message answer] := by
      rw [hsame]
      simp
    rcases List.mem_append.mp hmem with hguard | hmenu
    · have hcall := (hbefore.early _ hguard).2
      cases hcall
    · cases List.mem_singleton.mp hmenu
  once := by
    rw [attempts_menu hbefore.early]
    exact Nat.zero_le 1

theorem attempts_payment {menu : MenuResponse} {attempt : Attempt}
    (hbefore : Early before) :
    (before ++ [ExternalCall.handleMenu message (.ok menu),
      .initiatePayment attempt]).filterMap ExternalCall.attempt = [attempt] := by
  rw [List.filterMap_append, hbefore.attempts_eq_nil]
  rfl

theorem ordered_payment {shown : MenuResponse} {attempt : Attempt}
    (hbefore : MenuGuards request before) :
    Ordered request (before ++ [.handleMenu message (.ok shown),
      .initiatePayment attempt]) where
  menu := fun _ _ _ _ =>
    guards_of_split hbefore (by simp [ExternalCall.isHandleMenu])
  payment := by
    intro before' attempt' after' hsame
    have hsplit : (before ++ [.handleMenu message (.ok shown)]) ++
        .initiatePayment attempt :: [] =
          before' ++ .initiatePayment attempt' :: after' := by
      rw [← hsame, List.append_assoc]
      rfl
    have hplace := eq_of_append_cons_eq
      (fun call => call.attempt.isSome) hsplit
      (fun call hcall => by
        rcases List.mem_append.mp hcall with hguard | hmenu
        · rw [(hbefore.early call hguard).2]
          rfl
        · rw [List.mem_singleton.mp hmenu]
          rfl)
      (fun call hcall => absurd hcall List.not_mem_nil) rfl
    exact ⟨before, message, shown, hbefore, hplace.1, hplace.2.2⟩
  once := by
    rw [attempts_payment hbefore.early]
    exact le_refl 1

theorem Routes.ordered (hroutes : Routes call breaker calls breaker') :
    Ordered call.request calls := by
  cases hroutes with
  | early hcalls => exact hcalls.ordered
  | menu hbefore => exact ordered_menu hbefore
  | payment hbefore hallowed => exact ordered_payment hbefore

end Order

/-! ## Errors since the last success -/

section Errors

variable {attempts earlier errors : List Attempt} {attempt : Attempt}

/-- The number of errors since the last success. -/
def recentErrors (attempts : List Attempt) : ℕ :=
  (attempts.reverse.takeWhile Attempt.failed).length

theorem recentErrors_concat :
    recentErrors (attempts ++ [attempt]) =
      if attempt.failed then recentErrors attempts + 1 else 0 := by
  rw [recentErrors, List.reverse_append, List.reverse_singleton,
    List.singleton_append, List.takeWhile_cons]
  cases attempt.failed with
  | true => rfl
  | false => rfl

theorem length_le_recentErrors
    (herrors : ∀ attempt ∈ errors, attempt.failed = true) :
    errors.length ≤ recentErrors (earlier ++ errors) := by
  rw [recentErrors, List.reverse_append, List.takeWhile_append_of_pos fun
    attempt hattempt => herrors attempt (List.mem_reverse.mp hattempt),
    List.length_append, List.length_reverse]
  exact Nat.le_add_right _ _

/-- After five errors in a row every payment comes more than 30 seconds after
the last of them. -/
def Spaced (attempts : List Attempt) : Prop :=
  ∀ earlier errors later, attempts = earlier ++ errors ++ later →
    5 ≤ errors.length → (∀ attempt ∈ errors, attempt.failed = true) →
      ∀ last ∈ errors.getLast?, ∀ next ∈ later,
        last.returnedAt + 30 * 1000000000 < next.initiatedAt

theorem spaced_nil : Spaced [] := by
  intro earlier errors later hsplit hfive
  have hnil := List.append_eq_nil_iff.mp hsplit.symm
  rw [(List.append_eq_nil_iff.mp hnil.1).2] at hfive
  exact absurd hfive (by decide)

/-- A payment keeps this if it comes long enough after five errors that end the
list, and not before a payment that is in it. -/
theorem Spaced.concat (hspaced : Spaced attempts)
    (hrecent : 5 ≤ recentErrors attempts → ∀ last ∈ attempts.getLast?,
      last.returnedAt + 30 * 1000000000 < attempt.initiatedAt)
    (htimes : ∀ other ∈ attempts, other.initiatedAt ≤ attempt.initiatedAt) :
    Spaced (attempts ++ [attempt]) := by
  intro earlier errors later hsplit hfive herrors last hlast next hnext
  cases later using List.reverseRecOn with
  | nil => cases hnext
  | append_singleton later final =>
      rw [← List.append_assoc] at hsplit
      obtain ⟨hattempts, hfinal⟩ := List.append_inj' hsplit rfl
      rw [List.singleton_inj] at hfinal
      subst hfinal
      rcases List.mem_append.mp hnext with hbefore | hnew
      · exact hspaced earlier errors later hattempts hfive herrors last hlast
          next hbefore
      · rw [List.mem_singleton.mp hnew]
        cases later with
        | nil =>
            rw [List.append_nil] at hattempts
            subst hattempts
            refine hrecent (hfive.trans (length_le_recentErrors herrors)) last ?_
            rw [List.getLast?_append, Option.mem_def.mp hlast]
            rfl
        | cons other later =>
            have hother := hspaced earlier errors (other :: later) hattempts
              hfive herrors last hlast other List.mem_cons_self
            have hmem : other ∈ attempts := by
              rw [hattempts]
              exact List.mem_append_right _ List.mem_cons_self
            exact hother.trans_le (htimes other hmem)

end Errors

/-! ## Runs -/

section Runs

variable {history : List RouterCall} {run : RouterRun}
variable {call : RouterCall}

/-- What holds of a router after a history. -/
structure Tracked (history : List RouterCall) (run : RouterRun) : Prop where
  requests : run.served.map Prod.fst = history
  ordered : ∀ served ∈ run.served, Ordered served.1.request served.2
  counts : Counts (recentErrors run.attempts) run.breaker
  /-- The last error was recorded after it was returned. -/
  recorded : 5 ≤ recentErrors run.attempts → ∀ last ∈ run.attempts.getLast?,
    last.returnedAt ≤ run.breaker.lastFailureTime
  times : ∀ attempt ∈ run.attempts,
    attempt.initiatedAt ∈ history.flatMap RouterCall.times
  spaced : Spaced run.attempts

theorem tracked_initial : Tracked [] RouterRun.initial where
  requests := rfl
  ordered := fun _ hserved => absurd hserved List.not_mem_nil
  counts := counts_newCircuitBreaker
  recorded := fun hfive => absurd hfive (by decide)
  times := fun _ hattempt => absurd hattempt List.not_mem_nil
  spaced := spaced_nil

/-- A run with one more request. -/
def RouterRun.after (run : RouterRun) (call : RouterCall)
    (calls : List ExternalCall) (breaker : CircuitBreaker) : RouterRun :=
  ⟨breaker, run.served ++ [(call, calls)]⟩

theorem attempts_after :
    (run.after call calls breaker).attempts =
      run.attempts ++ calls.filterMap ExternalCall.attempt := by
  rw [RouterRun.attempts, RouterRun.after, List.flatMap_append]
  simp [RouterRun.attempts]

section After

theorem Tracked.requests_after (htracked : Tracked history run) :
    (run.after call calls breaker).served.map Prod.fst = history ++ [call] := by
  rw [RouterRun.after, List.map_append, htracked.requests]
  rfl

theorem Tracked.ordered_after (htracked : Tracked history run)
    (hordered : Ordered call.request calls) :
    ∀ served ∈ (run.after call calls breaker).served,
      Ordered served.1.request served.2 :=
  List.forall_mem_append.mpr
    ⟨htracked.ordered, List.forall_mem_singleton.mpr hordered⟩

end After

/-- A request that makes no payment. -/
theorem Tracked.without_payment (htracked : Tracked history run)
    (hordered : Ordered call.request calls)
    (hnone : calls.filterMap ExternalCall.attempt = []) :
    Tracked (history ++ [call]) (run.after call calls run.breaker) := by
  have hattempts : (run.after call calls run.breaker).attempts =
      run.attempts := by
    rw [attempts_after, hnone, List.append_nil]
  refine ⟨htracked.requests_after, htracked.ordered_after hordered, ?_, ?_, ?_,
    ?_⟩
  · rw [hattempts]
    exact htracked.counts
  · rw [hattempts]
    exact htracked.recorded
  · rw [hattempts, List.flatMap_append]
    exact fun attempt hattempt =>
      List.mem_append_left _ (htracked.times attempt hattempt)
  · rw [hattempts]
    exact htracked.spaced

/-- The readings of the clock do not decrease. -/
def Monotonic (history : List RouterCall) : Prop :=
  (history.flatMap RouterCall.times).Pairwise (· ≤ ·)

instance (history : List RouterCall) : Decidable (Monotonic history) :=
  inferInstanceAs (Decidable (List.Pairwise _ _))

theorem Monotonic.of_append {later : List RouterCall}
    (hmonotonic : Monotonic (history ++ later)) : Monotonic history := by
  rw [Monotonic, List.flatMap_append, List.pairwise_append] at hmonotonic
  exact hmonotonic.1

theorem initiatedAt_mem_times : call.initiatedAt ∈ call.times := by
  simp [RouterCall.times]

/-- The readings around the payment of the last request. -/
theorem Monotonic.clock (hmonotonic : Monotonic (history ++ [call])) :
    call.env.recheckAt ≤ call.initiatedAt ∧
      call.returnedAt ≤ call.env.failedAt ∧
      ∀ time ∈ history.flatMap RouterCall.times, time ≤ call.initiatedAt := by
  rw [Monotonic, List.flatMap_append, List.flatMap_singleton,
    List.pairwise_append] at hmonotonic
  obtain ⟨-, hown, hlater⟩ := hmonotonic
  have hpayment : call.env.recheckAt ≤ call.initiatedAt ∧
      call.returnedAt ≤ call.env.failedAt := by
    simp [RouterCall.times] at hown
    tauto
  exact ⟨hpayment.1, hpayment.2, fun time htime =>
    hlater time htime _ initiatedAt_mem_times⟩

/-- The count of the errors after a payment that the breaker allows. -/
theorem counts_breakerAfter {errors : ℕ} (hcounts : Counts errors breaker)
    (hallowed : (breaker.allow call.env.allowAt call.env.recheckAt).1 = true)
    (attempt : Attempt) :
    Counts (if attempt.failed then errors + 1 else 0)
      (breakerAfter call.env
        (breaker.allow call.env.allowAt call.env.recheckAt).2
        attempt.answer) := by
  rw [Attempt.failed]
  cases attempt.answer with
  | error error => exact hcounts.recordFailure hallowed _
  | ok response => exact hcounts.recordSuccess hallowed

/-- A request whose payment the breaker allows. -/
theorem Tracked.with_payment {payment : InitiatePaymentRequest}
    (htracked : Tracked history run) (hordered : Ordered call.request calls)
    (hone : calls.filterMap ExternalCall.attempt = [call.attempt payment])
    (hallowed : (run.breaker.allow call.env.allowAt
      call.env.recheckAt).1 = true)
    (hmonotonic : Monotonic (history ++ [call])) :
    Tracked (history ++ [call])
      (run.after call calls (breakerAfter call.env
        (run.breaker.allow call.env.allowAt call.env.recheckAt).2
        (call.initiate payment))) := by
  obtain ⟨hrechecked, hreturned, hlater⟩ := hmonotonic.clock
  refine ⟨htracked.requests_after, htracked.ordered_after hordered, ?_, ?_, ?_,
    ?_⟩
  · rw [attempts_after, hone, recentErrors_concat]
    exact counts_breakerAfter htracked.counts hallowed (call.attempt payment)
  · rw [attempts_after, hone, recentErrors_concat, List.getLast?_concat]
    cases hanswer : call.initiate payment with
    | error error =>
        intro _ last hlast
        obtain rfl := Option.some_inj.mp (Option.mem_def.mp hlast)
        exact hreturned
    | ok response =>
        simp only [Attempt.failed, RouterCall.attempt, hanswer,
          Bool.false_eq_true, if_false]
        exact fun hfive => absurd hfive (by decide)
  · rw [attempts_after, hone, List.flatMap_append, List.flatMap_singleton]
    intro attempt hattempt
    rcases List.mem_append.mp hattempt with hbefore | hnew
    · exact List.mem_append_left _ (htracked.times attempt hbefore)
    · rw [List.mem_singleton.mp hnew]
      exact List.mem_append_right _ initiatedAt_mem_times
  · rw [attempts_after, hone]
    apply htracked.spaced.concat
    · intro hfive last hlast
      have helapsed := (htracked.counts.allow_of_open hallowed hfive).2
      have hrecorded := htracked.recorded hfive last hlast
      calc
        last.returnedAt + 30 * 1000000000 ≤
            run.breaker.lastFailureTime + 30 * 1000000000 :=
          Int.add_le_add_right hrecorded _
        _ < call.env.recheckAt := helapsed
        _ ≤ call.initiatedAt := hrechecked
    · intro other hother
      exact hlater _ (htracked.times other hother)

theorem Tracked.step (htracked : Tracked history run)
    (hmonotonic : Monotonic (history ++ [call])) :
    Tracked (history ++ [call]) (serveCall paymentCli run call) := by
  have hroutes := routes_routeCalls paymentCli call run.breaker
  have hordered := hroutes.ordered
  change Tracked (history ++ [call])
    (run.after call (routeCalls paymentCli call run.breaker).calls
      (routeCalls paymentCli call run.breaker).breaker)
  generalize (routeCalls paymentCli call run.breaker).calls = calls at *
  generalize (routeCalls paymentCli call run.breaker).breaker = breaker at *
  cases hroutes with
  | early hcalls =>
      exact htracked.without_payment hordered hcalls.attempts_eq_nil
  | menu hbefore =>
      exact htracked.without_payment hordered (attempts_menu hbefore.early)
  | payment hbefore hallowed =>
      exact htracked.with_payment hordered (attempts_payment hbefore.early)
        hallowed hmonotonic

theorem tracked_foldl (paymentCli : Bool) (history : List RouterCall)
    (hmonotonic : Monotonic history) :
    Tracked history
      (history.foldl (serveCall paymentCli) RouterRun.initial) := by
  induction history using List.reverseRecOn with
  | nil => exact tracked_initial
  | append_singleton history call ih =>
      rw [List.foldl_append]
      exact (ih hmonotonic.of_append).step hmonotonic

/-- In every history with a clock that does not run back: after five or more
errors of `InitiatePayment` in a row it is not called until more than 30 seconds
after the last of them; and each request calls it at most once and only after
`HandleMenu`, which it calls only for an active tenant, within both rate limits
and with the session reconstructed. -/
theorem payments_spaced_and_ordered (paymentCli : Bool)
    (history : List RouterCall) (hmonotonic : Monotonic history) :
    let run := history.foldl (serveCall paymentCli) RouterRun.initial
    run.served.map Prod.fst = history ∧ Spaced run.attempts ∧
      ∀ served ∈ run.served, Ordered served.1.request served.2 := by
  have htracked := tracked_foldl paymentCli history hmonotonic
  exact ⟨htracked.requests, htracked.spaced, htracked.ordered⟩

end Runs

namespace Samples

/-- A payment at this second that the payment engine does not answer. -/
def unanswered (second : ℕ) : RouterCall where
  env := (payment false 2 "ecocash" second).env
  request := (payment false 2 "ecocash" second).request
  initiate := fun _ => .error "unavailable"
  initiatedAt := second * 1000000000
  returnedAt := second * 1000000000

/-- Five errors, a request within 30 seconds of the last one, and two after. -/
def outage : List RouterCall :=
  [1, 2, 3, 4, 5, 20, 40, 45].map unanswered

def outageRun : RouterRun :=
  outage.foldl (serveCall true) RouterRun.initial

theorem payments_spaced_and_ordered_outage :
    Monotonic outage ∧
      outageRun.attempts.map (·.initiatedAt / 1000000000) =
        [1, 2, 3, 4, 5, 40] ∧
      outageRun.served.map Prod.fst = outage ∧ Spaced outageRun.attempts ∧
      ∀ served ∈ outageRun.served, Ordered served.1.request served.2 := by
  have hmonotonic : Monotonic outage := by decide +kernel
  exact ⟨hmonotonic, by decide +kernel,
    payments_spaced_and_ordered true outage hmonotonic⟩

end Samples

end UssdKernel.Routing
