import UssdKernel.Orchestrator.AppendOutcome

/-!
# The appends of a session's requests

`ForwardUSSD` and `EndSession` leave `ExpectedVersion` out, and `Handle` reads
the omitted field as the version 0.  Every append after the first of a stream
is therefore refused, the errors of `ForwardUSSD` are only logged, and a
request that initiates a payment never leaves its `PaymentInitiated` event.
-/

namespace UssdKernel.SessionAppends

open EventStore SessionHistory AppendOutcome Runs

/-- An append that the server makes, with what happens around it. -/
abbrev Append := CallEnv × AppendEventCommand

/-- The appends of a request whose routing succeeds. -/
def appendsOf : Operation → List Append
  | .forwardUSSD request (.ok route) traceId unixTime processed payment =>
      if request.sessionUuid = 0 then []
      else
        (processed, sessionProcessed request route traceId unixTime) ::
          if route.paymentInitiated then
            [(payment, paymentInitiated request route traceId)]
          else []
  | .endSession sessionId tenantId reason env =>
      [(env, sessionEnded sessionId tenantId reason)]
  | _ => []

/-- A request to the session; the routing of a forwarded one succeeds. -/
def RequestOn (session : Uuid) : Operation → Prop
  | .forwardUSSD request (.ok _) _ _ _ _ => request.sessionUuid = session
  | .endSession sessionId _ _ _ => sessionId = session
  | _ => False

/-- The routing of the request initiates a payment. -/
def InitiatesPayment : Operation → Prop
  | .forwardUSSD _ (.ok route) _ _ _ _ => route.paymentInitiated = true
  | _ => False

section Serving

variable (sha256 : Bytes → Bytes) (marshal : Payload → Except String Bytes)

def serve (world : World) (request : Operation) : World :=
  (request.run sha256 marshal world).2

def appendOnce (db : Database) (append : Append) : Database :=
  (handleAlone sha256 marshal append.1 append.2 db).2

/-- What `Handle` answers to appends made one after the other. -/
def answers : List Append → Database →
    List (Except AppendError AppendEventResult)
  | [], _ => []
  | append :: appends, db =>
      (handleAlone sha256 marshal append.1 append.2 db).1 ::
        answers appends (appendOnce sha256 marshal db append)

/-- Every append of the request is accepted. -/
def AllAccepted (world : World) (request : Operation) : Prop :=
  ∀ answer ∈ answers sha256 marshal (appendsOf request) world.db,
    answer.isOk = true

/-- A payment initiated by the request leaves its event in the session's
stream. -/
def LeavesPayment (session : Uuid) (world : World) (request : Operation) :
    Prop :=
  InitiatesPayment request →
    ∃ row ∈ (serve sha256 marshal world request).db.events.drop
        world.db.events.length,
      row.streamId = session ∧ row.eventType = "PaymentInitiated"

variable {sha256 marshal} {session : Uuid} {request : Operation}
  {db : Database} {appends : List Append}

theorem requestOn_cases (hrequest : RequestOn session request) :
    (∃ ussd route traceId unixTime processed payment,
      request = .forwardUSSD ussd (.ok route) traceId unixTime processed payment ∧
        ussd.sessionUuid = session) ∨
      ∃ tenantId reason env,
        request = .endSession session tenantId reason env := by
  cases request with
  | forwardUSSD ussd route =>
      cases route with
      | error message => cases hrequest
      | ok route => exact .inl ⟨ussd, route, _, _, _, _, rfl, hrequest⟩
  | endSession sessionId =>
      cases hrequest
      exact .inr ⟨_, _, _, rfl⟩
  | _ => cases hrequest

variable (sha256 marshal) in
/-- The server makes the appends of a request in order and drops their
errors. -/
theorem db_serve (hrequest : RequestOn session request) (world : World) :
    (serve sha256 marshal world request).db =
      (appendsOf request).foldl (appendOnce sha256 marshal) world.db := by
  obtain ⟨ussd, route, _, _, _, _, rfl, -⟩ | ⟨_, _, _, rfl⟩ :=
    requestOn_cases hrequest
  · simp only [serve, Operation.run, forward, appendsOf]
    split
    · rfl
    · split <;> rfl
  · rfl

theorem answers_append (first second : List Append) (db : Database) :
    answers sha256 marshal (first ++ second) db =
      answers sha256 marshal first db ++
        answers sha256 marshal second
          (first.foldl (appendOnce sha256 marshal) db) := by
  induction first generalizing db with
  | nil => rfl
  | cons append first ih =>
      rw [List.cons_append, answers, ih, answers, List.cons_append,
        List.foldl_cons]

/-- The appends of all requests together decide whether every request is
accepted. -/
theorem throughout_allAccepted_iff {requests : List Operation}
    (hrequests : ∀ request ∈ requests, RequestOn session request)
    (world : World) :
    Throughout (serve sha256 marshal) (AllAccepted sha256 marshal) requests
        world ↔
      ∀ answer ∈ answers sha256 marshal (requests.flatMap appendsOf) world.db,
        answer.isOk = true := by
  induction requests generalizing world with
  | nil => simp [Throughout, answers]
  | cons request requests ih =>
      have hrest := ih (fun other hother =>
        hrequests other (List.mem_cons_of_mem _ hother))
        (serve sha256 marshal world request)
      rw [db_serve sha256 marshal
        (hrequests request List.mem_cons_self)] at hrest
      rw [Throughout, hrest, List.flatMap_cons, answers_append,
        List.forall_mem_append]
      rfl

/-- What the server's appends to a session have in common. -/
theorem command_of_mem_appendsOf (hrequest : RequestOn session request)
    {append : Append} (happend : append ∈ appendsOf request) :
    append.2.aggregateId = session ∧ append.2.expectedVersion = 0 := by
  obtain ⟨ussd, route, _, _, _, _, rfl, hsession⟩ | ⟨_, _, _, rfl⟩ :=
    requestOn_cases hrequest
  · simp only [appendsOf] at happend
    split at happend
    · cases happend
    · rcases List.mem_cons.mp happend with rfl | happend
      · exact ⟨hsession, rfl⟩
      · split at happend
        · rw [List.mem_singleton.mp happend]
          exact ⟨hsession, rfl⟩
        · cases happend
  · rw [List.mem_singleton.mp happend]
    exact ⟨rfl, rfl⟩

/-- An append that works is accepted on the version 0 only, and it leaves the
version 1. -/
theorem appendOnce_cases {append : Append}
    (hsession : append.2.aggregateId = session)
    (hexpected : append.2.expectedVersion = 0) :
    (handleAlone sha256 marshal append.1 append.2 db).1.isOk = true →
      latestVersion db session = 0 ∧
        latestVersion (appendOnce sha256 marshal db append) session = 1 := by
  intro hok
  by_cases haccepts : Accepts marshal append.1 append.2 db
  · obtain ⟨row, after, hanswer, happended⟩ :=
      handleAlone_of_accepts sha256 haccepts
    have hzero := haccepts.expected (by rw [hexpected])
    rw [hsession, hexpected] at hzero
    refine ⟨hzero, ?_⟩
    rw [appendOnce, hanswer, happended.latestVersion_eq, hzero,
      if_pos hsession, zero_add]
  · obtain ⟨error, hanswer⟩ := handleAlone_of_not_accepts sha256 haccepts
    rw [hanswer] at hok
    cases hok

/-- Of two appends at least one is refused. -/
theorem not_isOk_of_two {first second : Append}
    (hcommands : ∀ append ∈ first :: second :: appends,
      append.2.aggregateId = session ∧ append.2.expectedVersion = 0) :
    ¬ ∀ answer ∈ answers sha256 marshal (first :: second :: appends) db,
      answer.isOk = true := by
  intro hok
  obtain ⟨hfirst, hfirstExpected⟩ := hcommands first List.mem_cons_self
  obtain ⟨hsecond, hsecondExpected⟩ := hcommands second (by simp)
  simp only [answers, List.forall_mem_cons] at hok
  have hone := (appendOnce_cases hfirst hfirstExpected hok.1).2
  have hzero := (appendOnce_cases hsecond hsecondExpected hok.2.1).1
  rw [hone] at hzero
  exact absurd hzero one_ne_zero

/-- All of them are accepted exactly if there is none, or a single one on a
stream without a version. -/
theorem answers_isOk_iff
    (hcommands : ∀ append ∈ appends,
      append.2.aggregateId = session ∧ append.2.expectedVersion = 0)
    (hworks : ∀ append ∈ appends, Works marshal append.1 append.2 db)
    (hunused : ∀ append ∈ appends, append.2.idempotencyKey ≠ "" →
      append.2.idempotencyKey ∉ keys db) :
    (∀ answer ∈ answers sha256 marshal appends db, answer.isOk = true) ↔
      appends = [] ∨ latestVersion db session = 0 ∧ appends.length = 1 := by
  match appends with
  | [] => simp [answers]
  | [append] =>
      obtain ⟨hsession, hexpected⟩ := hcommands append List.mem_cons_self
      have hsingle : (∀ answer ∈ answers sha256 marshal [append] db,
          answer.isOk = true) ↔
            (handleAlone sha256 marshal append.1 append.2 db).1.isOk = true := by
        simp [answers]
      rw [hsingle]
      constructor
      · intro hok
        exact Or.inr ⟨(appendOnce_cases hsession hexpected hok).1, rfl⟩
      · rintro (hnil | ⟨hzero, -⟩)
        · cases hnil
        · have haccepts : Accepts marshal append.1 append.2 db :=
            { toWorks := hworks append List.mem_cons_self
              unused := hunused append List.mem_cons_self
              expected := fun _ => by rw [hsession, hexpected, hzero] }
          obtain ⟨row, after, hanswer, -⟩ :=
            handleAlone_of_accepts sha256 haccepts
          rw [hanswer]
          rfl
  | first :: second :: appends =>
      exact iff_of_false (not_isOk_of_two hcommands) (by simp)

/-- The appends of a request are accepted and its payment is recorded exactly
if they are accepted and there is no payment: the event of a payment is
always the second append of its request. -/
theorem leavesPayment_iff (hrequest : RequestOn session request) (world : World)
    :
    AllAccepted sha256 marshal world request ∧
        LeavesPayment sha256 marshal session world request ↔
      ¬ InitiatesPayment request ∧
        AllAccepted sha256 marshal world request := by
  refine ⟨fun ⟨haccepted, hleaves⟩ => ⟨fun hpayment => ?_, haccepted⟩,
    fun ⟨hpayment, haccepted⟩ => ⟨haccepted, fun h => absurd h hpayment⟩⟩
  have hdb := db_serve sha256 marshal hrequest world
  have hcommands : ∀ append ∈ appendsOf request,
      append.2.aggregateId = session ∧ append.2.expectedVersion = 0 :=
    fun _ happend => command_of_mem_appendsOf hrequest happend
  obtain ⟨ussd, route, _, _, _, _, rfl, -⟩ | ⟨_, _, _, rfl⟩ :=
    requestOn_cases hrequest
  · have hroute : route.paymentInitiated = true := hpayment
    by_cases hnil : ussd.sessionUuid = 0
    · -- without a session id the server appends nothing
      obtain ⟨row, hrow, -⟩ := hleaves hpayment
      rw [hdb, appendsOf, if_pos hnil, List.foldl_nil,
        List.drop_length] at hrow
      cases hrow
    · rw [AllAccepted] at haccepted
      rw [appendsOf, if_neg hnil, if_pos hroute] at haccepted hcommands
      exact not_isOk_of_two hcommands haccepted
  · cases hpayment

/-- For requests to one session whose statements work and whose keys are
unused, all appends are accepted and all payments recorded exactly if no
request initiates a payment and the requests make no append, or a single one
on a stream without a version. -/
theorem session_appends_accepted_iff {requests : List Operation}
    (hrequests : ∀ request ∈ requests, RequestOn session request)
    {world : World}
    (hworks : ∀ append ∈ requests.flatMap appendsOf,
      Works marshal append.1 append.2 world.db)
    (hunused : ∀ append ∈ requests.flatMap appendsOf,
      append.2.idempotencyKey ≠ "" →
        append.2.idempotencyKey ∉ keys world.db) :
    Throughout (serve sha256 marshal) (fun world request =>
        AllAccepted sha256 marshal world request ∧
          LeavesPayment sha256 marshal session world request) requests world ↔
      (∀ request ∈ requests, ¬ InitiatesPayment request) ∧
        (requests.flatMap appendsOf = [] ∨ latestVersion world.db session = 0 ∧
          (requests.flatMap appendsOf).length = 1) := by
  have hcommands : ∀ append ∈ requests.flatMap appendsOf,
      append.2.aggregateId = session ∧ append.2.expectedVersion = 0 := by
    intro append happend
    obtain ⟨request, hrequest, happend⟩ := List.mem_flatMap.mp happend
    exact command_of_mem_appendsOf (hrequests request hrequest) happend
  rw [throughout_iff_forall_and fun world request hrequest =>
      leavesPayment_iff (hrequests request hrequest) world,
    throughout_allAccepted_iff hrequests,
    answers_isOk_iff hcommands hworks hunused]

end Serving

namespace Samples

open SessionHistory.Samples (request balance sha256 marshal calls)
open EventStore.Samples (midnight)

/-- A forwarded request without a payment. -/
def browsing : Operation :=
  .forwardUSSD request (.ok balance) "" 1728000000 (calls midnight 1)
    (calls midnight 2)

/-- The same request one second later. -/
def browsingAgain : Operation :=
  .forwardUSSD request (.ok balance) "" 1728000001 (calls midnight 3)
    (calls midnight 4)

/-- A request whose routing initiates a payment. -/
def paying : Operation :=
  .forwardUSSD request
    (.ok { balance with paymentInitiated := true, paymentId := "7" }) ""
    1728000000 (calls midnight 1) (calls midnight 2)

/-- Whether the appends of the requests are accepted, from the start of
session 9. -/
def accepted (requests : List Operation) : List Bool :=
  (answers sha256 marshal (requests.flatMap appendsOf)
    EventStore.Samples.empty).map Except.isOk

end Samples

theorem session_appends_accepted_browsing :
    Throughout (serve SessionHistory.Samples.sha256
        SessionHistory.Samples.marshal) (fun world request =>
      AllAccepted SessionHistory.Samples.sha256
          SessionHistory.Samples.marshal world request ∧
        LeavesPayment SessionHistory.Samples.sha256
          SessionHistory.Samples.marshal 9 world request)
      [Samples.browsing] SessionHistory.Samples.initial := by
  have hrequests : ∀ request ∈ [Samples.browsing], RequestOn 9 request := by
    intro request hrequest
    rw [List.mem_singleton.mp hrequest]
    rfl
  have happends : [Samples.browsing].flatMap appendsOf =
      [(SessionHistory.Samples.calls EventStore.Samples.midnight 1,
        sessionProcessed SessionHistory.Samples.request
          SessionHistory.Samples.balance "" 1728000000)] := rfl
  refine (session_appends_accepted_iff hrequests ?_ ?_).mpr ⟨?_, ?_⟩
  · rw [happends]
    intro append happend
    rw [List.mem_singleton.mp happend]
    exact ⟨fun _ => rfl, rfl, rfl, by decide +kernel⟩
  · intro append _ _
    exact List.not_mem_nil
  · intro request hrequest
    rw [List.mem_singleton.mp hrequest]
    exact Bool.false_ne_true
  · exact Or.inr ⟨rfl, rfl⟩

/-- The second request of a session is refused, and so is the event of a
payment, whose request the server answers all the same. -/
theorem later_appends_refused :
    Samples.accepted [Samples.browsing, Samples.browsingAgain] =
        [true, false] ∧
      Samples.accepted [Samples.paying] = [true, false] ∧
      (Samples.paying.run SessionHistory.Samples.sha256
          SessionHistory.Samples.marshal
          SessionHistory.Samples.initial).1 = true ∧
      (sessionRows (serve SessionHistory.Samples.sha256
          SessionHistory.Samples.marshal SessionHistory.Samples.initial
          Samples.paying).db 9).map EventRow.eventType =
        ["SessionProcessed"] := by
  decide +kernel

end UssdKernel.SessionAppends
