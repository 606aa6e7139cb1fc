import UssdKernel.PaymentEngine.Events

/-!
# Sequences of callbacks

Callbacks that arrive one after the other are calls of
`ProcessCallbackHandler::handle`, each with an environment of its own.  An
event of a terminal type should tell that the payment has just got the status
it names.  The handler discards a refused transition and appends the event all
the same, so this holds exactly if every reported terminal status is one that
the stored status admits.
-/

namespace UssdKernel.PaymentEngine

namespace ProcessCallbackHandler

/-- The status that an event of a terminal type names. -/
def terminalStatus : String → Option PaymentStatus
  | "PaymentCompleted" => some .completed
  | "PaymentFailed" => some .failed
  | "PaymentCancelled" => some .cancelled
  | "PaymentRefunded" => some .refunded
  | _ => none

/-- The status that a provider status asks for, if it is terminal. -/
def requestedStatus : ProviderStatus → Option PaymentStatus
  | .completed => some .completed
  | .failed => some .failed
  | .cancelled => some .cancelled
  | .refunded => some .refunded
  | .pending | .processing | .unknown => none

theorem terminalStatus_eventType (status : ProviderStatus) :
    terminalStatus (eventType status) = requestedStatus status := by
  cases status <;> rfl

theorem isTerminal_of_requestedStatus {reported : ProviderStatus}
    {status : PaymentStatus} (hstatus : requestedStatus reported = some status) :
    status.isTerminal = true := by
  cases reported <;> cases hstatus <;> rfl

/-- The reported status can be entered from the stored one. -/
def Admits (stored : PaymentStatus) (reported : ProviderStatus) : Bool :=
  match reported with
  | .completed | .failed | .cancelled => stored.isOpen
  | .refunded => stored = .completed
  | .pending | .processing | .unknown => true

/-- The transition to the requested status happens exactly if the stored status
admits it. -/
theorem admits_iff (stored : PaymentStatus) (reported : ProviderStatus) :
    Admits stored reported = true ↔
      ∀ status, requestedStatus reported = some status →
        stored ≠ status ∧ stored.next reported = status := by
  cases stored <;> cases reported <;>
    simp [Admits, requestedStatus, PaymentStatus.next, PaymentStatus.isOpen]

section Runs

variable [DecimalText] (verify : List UInt8 → String → Bool)

/-- A condition on every call of a sequence, in the world the call starts
in. -/
def EachCall (condition : Env → ProcessCallbackCommand → World → Prop) :
    List (Env × ProcessCallbackCommand) → World → Prop
  | [], _ => True
  | (env, cmd) :: calls, world =>
      condition env cmd world ∧
        EachCall condition calls (worldAfter verify env cmd world)

/-- The rows that the calls of a sequence append, in order. -/
def emitted : List (Env × ProcessCallbackCommand) → World → List OutboxRow
  | [], _ => []
  | (env, cmd) :: calls, world =>
      appended world (worldAfter verify env cmd world) ++
        emitted calls (worldAfter verify env cmd world)

/-- Every terminal event that the call appends tells of a change, in this call,
from a different status to the one it names. -/
def TellsChange (env : Env) (cmd : ProcessCallbackCommand) (world : World) :
    Prop :=
  ∀ row ∈ appended world (worldAfter verify env cmd world), ∀ status,
    terminalStatus row.eventType = some status →
      ∃ previous, world.statusOf row.aggregateId = some previous ∧
        previous ≠ status ∧
          (worldAfter verify env cmd world).statusOf row.aggregateId =
            some status

/-- A call that saves and appends reports a status that the stored one
admits. -/
def ReportsAdmitted (env : Env) (cmd : ProcessCallbackCommand)
    (world : World) : Prop :=
  ∀ payment, Reaches verify env cmd world payment →
    env.Succeeds (found world.db.payments cmd).2 5 →
      Admits payment.status cmd.status = true

variable {verify} {env : Env} {cmd : ProcessCallbackCommand} {world : World}

/-- A call appends at most its own event, and only after a save. -/
theorem mem_appended {row : OutboxRow}
    (hrow : row ∈ appended world (worldAfter verify env cmd world)) :
    ∃ payment, Reaches verify env cmd world payment ∧
      env.Succeeds (found world.db.payments cmd).2 5 ∧
        row = updatedRow env cmd world payment := by
  rcases worldAfter_cases verify env cmd world with ⟨payment, hreaches⟩ | hsame
  · rw [appended_worldAfter hreaches] at hrow
    split at hrow
    · next hall => exact ⟨payment, hreaches, hall, List.mem_singleton.mp hrow⟩
    · cases hrow
  · rw [hsame] at hrow
    simp [appended] at hrow

omit [DecimalText] in
/-- The event of a call names the requested status. -/
theorem terminalStatus_updatedRow (payment : Payment) :
    terminalStatus (updatedRow env cmd world payment).eventType =
      requestedStatus cmd.status :=
  terminalStatus_eventType cmd.status

/-- The stored status of the payment that the event of a call is about, before
and after the call. -/
theorem statusOf_aggregateId_updatedRow {payment : Payment}
    (hreaches : Reaches verify env cmd world payment)
    (hall : env.Succeeds (found world.db.payments cmd).2 5) :
    world.statusOf (updatedRow env cmd world payment).aggregateId =
        some payment.status ∧
      (worldAfter verify env cmd world).statusOf
          (updatedRow env cmd world payment).aggregateId =
        some (payment.status.next cmd.status) := by
  have hsave : env.Succeeds (found world.db.payments cmd).2 2 :=
    hall.mono (by decide)
  rw [aggregateId_updatedRow]
  constructor
  · exact statusOf_found hreaches.eq_ok
  · rw [statusOf_worldAfter hreaches, if_pos ⟨hsave, rfl⟩]

theorem tellsChange_iff :
    TellsChange verify env cmd world ↔ ReportsAdmitted verify env cmd world := by
  constructor
  · intro htells payment hreaches hall
    rw [admits_iff]
    intro status hstatus
    have hrow : updatedRow env cmd world payment ∈
        appended world (worldAfter verify env cmd world) := by
      rw [appended_worldAfter hreaches, if_pos hall]
      exact List.mem_singleton_self _
    obtain ⟨previous, hprevious, hne, hafter⟩ := htells _ hrow status
      ((terminalStatus_updatedRow payment).trans hstatus)
    obtain ⟨hbefore, hnext⟩ := statusOf_aggregateId_updatedRow hreaches hall
    rw [hbefore, Option.some.injEq] at hprevious
    rw [hnext, Option.some.injEq] at hafter
    rw [hprevious] at hafter ⊢
    exact ⟨hne, hafter⟩
  · intro hadmitted row hrow status hstatus
    obtain ⟨payment, hreaches, hall, rfl⟩ := mem_appended hrow
    obtain ⟨hbefore, hafter⟩ := statusOf_aggregateId_updatedRow hreaches hall
    rw [terminalStatus_updatedRow] at hstatus
    obtain ⟨hne, hnext⟩ := (admits_iff _ _).mp
      (hadmitted payment hreaches hall) status hstatus
    rw [hnext] at hafter
    exact ⟨payment.status, hbefore, hne, hafter⟩

variable {paymentId : Uuid} {status : PaymentStatus}

/-- Along a call, a stored status settles. -/
theorem settles_worldAfter (hstored : world.statusOf paymentId = some status) :
    ∃ later, (worldAfter verify env cmd world).statusOf paymentId =
      some later ∧ status.Settles later := by
  rcases worldAfter_cases verify env cmd world with ⟨payment, hreaches⟩ | hsame
  · rw [statusOf_worldAfter hreaches]
    split
    · next hsaved =>
        rw [← hsaved.2, World.statusOf, statusOf_found hreaches.eq_ok,
          Option.some.injEq] at hstored
        rw [← hstored]
        exact ⟨_, rfl, PaymentStatus.settles_next _ _⟩
    · exact ⟨status, hstored, .refl status⟩
  · rw [hsame]
    exact ⟨status, hstored, .refl status⟩

/-- An event of a terminal type for the payment that names the status. -/
def names (paymentId : Uuid) (status : PaymentStatus) (row : OutboxRow) :
    Bool :=
  row.aggregateId = paymentId && terminalStatus row.eventType = some status

/-- What a terminal event of an admitted call says about the payment. -/
theorem statusOf_of_names (hadmitted : ReportsAdmitted verify env cmd world)
    {row : OutboxRow}
    (hrow : row ∈ appended world (worldAfter verify env cmd world))
    (hnames : names paymentId status row = true) :
    status.isTerminal = true ∧
      (∃ previous, world.statusOf paymentId = some previous ∧
        previous ≠ status ∧ previous.Settles status) ∧
      (worldAfter verify env cmd world).statusOf paymentId = some status := by
  simp only [names, Bool.and_eq_true, decide_eq_true_eq] at hnames
  obtain ⟨rfl, hstatus⟩ := hnames
  obtain ⟨previous, hprevious, hne, hafter⟩ :=
    tellsChange_iff.mpr hadmitted row hrow status hstatus
  obtain ⟨later, hlater, hsettles⟩ := settles_worldAfter hprevious
  rw [hafter, Option.some.injEq] at hlater
  subst hlater
  obtain ⟨payment, -, -, rfl⟩ := mem_appended hrow
  rw [terminalStatus_updatedRow] at hstatus
  exact ⟨isTerminal_of_requestedStatus hstatus,
    ⟨previous, hprevious, hne, hsettles⟩, hafter⟩

/-- Once the payment has settled to or beyond a terminal status, no further
event names that status. -/
theorem countP_names_eq_zero {stored : PaymentStatus}
    (hsettles : status.Settles stored)
    (calls : List (Env × ProcessCallbackCommand))
    (hadmitted : EachCall verify (ReportsAdmitted verify) calls world)
    (hstored : world.statusOf paymentId = some stored) :
    (emitted verify calls world).countP (names paymentId status) = 0 := by
  induction calls generalizing world stored with
  | nil => rfl
  | cons call calls ih =>
      obtain ⟨env, cmd⟩ := call
      obtain ⟨hcall, hcalls⟩ := hadmitted
      obtain ⟨later, hlater, hsettlesLater⟩ := settles_worldAfter hstored
      rw [emitted, List.countP_append,
        ih (hsettles.trans hsettlesLater) hcalls hlater, Nat.add_zero,
        List.countP_eq_zero]
      intro row hrow hnames
      obtain ⟨hterminal, ⟨previous, hprevious, hne, hback⟩, -⟩ :=
        statusOf_of_names hcall hrow hnames
      rw [hstored, Option.some.injEq] at hprevious
      subst hprevious
      rcases hsettles hterminal with heq | ⟨rfl, rfl⟩
      · exact hne heq
      · simpa using hback rfl

theorem countP_names_le_one (paymentId : Uuid) (status : PaymentStatus)
    (calls : List (Env × ProcessCallbackCommand))
    (hadmitted : EachCall verify (ReportsAdmitted verify) calls world) :
    (emitted verify calls world).countP (names paymentId status) ≤ 1 := by
  induction calls generalizing world with
  | nil => exact Nat.zero_le 1
  | cons call calls ih =>
      obtain ⟨env, cmd⟩ := call
      obtain ⟨hcall, hcalls⟩ := hadmitted
      rw [emitted, List.countP_append]
      by_cases hfirst : ∃ row ∈ appended world (worldAfter verify env cmd world),
          names paymentId status row = true
      · obtain ⟨row, hrow, hnames⟩ := hfirst
        obtain ⟨-, -, hafter⟩ := statusOf_of_names hcall hrow hnames
        rw [countP_names_eq_zero (.refl status) calls hcalls hafter,
          Nat.add_zero]
        obtain ⟨payment, hreaches, hall, -⟩ := mem_appended hrow
        rw [appended_worldAfter hreaches, if_pos hall]
        exact List.countP_le_length
      · have hnone : (appended world (worldAfter verify env cmd world)).countP
            (names paymentId status) = 0 := by
          rw [List.countP_eq_zero]
          exact fun row hrow hnames => hfirst ⟨row, hrow, hnames⟩
        rw [hnone, Nat.zero_add]
        exact ih hcalls

theorem eachCall_congr {first second : Env → ProcessCallbackCommand → World → Prop}
    (hcongr : ∀ env cmd world, first env cmd world ↔ second env cmd world)
    (calls : List (Env × ProcessCallbackCommand)) :
    EachCall verify first calls world ↔ EachCall verify second calls world := by
  induction calls generalizing world with
  | nil => rfl
  | cons call calls ih => exact and_congr (hcongr _ _ _) ih

/-- In a sequence of callbacks every terminal event tells of a change to the
status it names, and each terminal type is emitted at most once per payment,
exactly if every call that appends an event reports a status which the stored
one admits: Completed, Failed and Cancelled for an open payment, Refunded for a
Completed one. -/
theorem terminal_events_iff (verify : List UInt8 → String → Bool)
    (calls : List (Env × ProcessCallbackCommand)) (world : World) :
    (EachCall verify (TellsChange verify) calls world ∧
      ∀ paymentId status,
        (emitted verify calls world).countP (names paymentId status) ≤ 1) ↔
      EachCall verify (ReportsAdmitted verify) calls world := by
  rw [eachCall_congr fun _ _ _ => tellsChange_iff]
  constructor
  · rintro ⟨hadmitted, -⟩
    exact hadmitted
  · intro hadmitted
    exact ⟨hadmitted, fun paymentId status =>
      countP_names_le_one paymentId status calls hadmitted⟩

end Runs

open Samples in
/-- The provider repeats its Completed callback: two PaymentCompleted events for
one payment. -/
theorem completed_twice :
    let calls := List.replicate 2 (reliable, callback .completed)
    (emitted (fun _ _ => true) calls (world (onePayment Samples.payment))).map
        (fun row => (row.eventType, row.aggregateId)) =
      [("PaymentCompleted", 1), ("PaymentCompleted", 1)] := by
  decide

end ProcessCallbackHandler

end UssdKernel.PaymentEngine
