import UssdKernel.PaymentEngine.Outcomes

/-!
# Status changes and their events

The outbox is meant to mirror the payments table: an event for every change
of a stored status, and no event without a change.  The handlers write the two
tables in separate statements, and the callback handler takes the event type
from the reported status and not from the change it made.  This module states
both halves of the intent and the exact conditions under which they hold.
-/

namespace UssdKernel.PaymentEngine

/-- The rows that were appended between two worlds. -/
def appended (before after : World) : List OutboxRow :=
  after.db.outbox.drop before.db.outbox.length

/-- The stored status of a payment. -/
def World.statusOf (world : World) (paymentId : Uuid) : Option PaymentStatus :=
  world.db.payments.statusOf paymentId

namespace OutboxRow

def text (row : OutboxRow) (field : String) : Option String :=
  match row.payload.lookup field with
  | some (.text value) => some value
  | _ => none

/-- The status that the event reports as the current one. -/
def newStatus (row : OutboxRow) : Option String :=
  (row.text "new_status").or (row.text "status")

def previousStatus (row : OutboxRow) : Option String :=
  row.text "previous_status"

/-- The row is an event for the change of a payment's status from `before` to
`after`.  A row that names a previous status equal to the new one reports that
nothing changed. -/
structure ReportsChange (row : OutboxRow) (paymentId : Uuid)
    (before after : Option PaymentStatus) : Prop where
  aggregateId : row.aggregateId = paymentId
  newStatus : row.newStatus = after.map PaymentStatus.asStr
  previousStatus : ∀ previous ∈ row.previousStatus,
    before.map PaymentStatus.asStr = some previous ∧
      row.newStatus ≠ some previous

end OutboxRow

/-- The stored status of the payment changed between the two worlds if and only
if an event for that change was appended. -/
def MirrorsChange (before after : World) (paymentId : Uuid) : Prop :=
  before.statusOf paymentId ≠ after.statusOf paymentId ↔
    ∃ row ∈ appended before after,
      row.ReportsChange paymentId (before.statusOf paymentId)
        (after.statusOf paymentId)

section Mirror

variable [DecimalText] {env : Env} {world : World} {earlier : World}

theorem appended_recorded (houtbox : world.db.outbox = earlier.db.outbox)
    (first : ℕ) (payment : Payment) (row : OutboxRow) :
    appended earlier (env.recorded first world payment row) =
      if env.Succeeds first 5 then [row] else [] := by
  rw [appended, outbox_recorded, houtbox, List.drop_left]

omit [DecimalText] in
theorem mirrorsChange_self (world : World) (paymentId : Uuid) :
    MirrorsChange world world paymentId := by
  simp [MirrorsChange, appended]

/-- Payments that a recording does not concern are mirrored. -/
theorem mirrorsChange_recorded_of_ne
    (houtbox : world.db.outbox = earlier.db.outbox) {first : ℕ}
    {payment : Payment} {row : OutboxRow} {paymentId : Uuid}
    (hstatus : world.statusOf paymentId = earlier.statusOf paymentId)
    (hid : payment.paymentId ≠ paymentId)
    (hrow : row.aggregateId = payment.paymentId) :
    MirrorsChange earlier (env.recorded first world payment row) paymentId := by
  have hsame : (env.recorded first world payment row).statusOf paymentId =
      earlier.statusOf paymentId := by
    rw [World.statusOf, statusOf_recorded, if_neg (fun h => hid h.2)]
    exact hstatus
  rw [MirrorsChange, appended_recorded houtbox, hsame]
  constructor
  · intro hne
    exact absurd rfl hne
  · rintro ⟨found, hfound, hreports⟩
    split at hfound
    · rw [List.mem_singleton.mp hfound] at hreports
      exact absurd (hrow.symm.trans hreports.aggregateId) hid
    · cases hfound

namespace ProcessCallbackHandler

variable {verify : List UInt8 → String → Bool} {cmd : ProcessCallbackCommand}

omit [DecimalText] in
theorem paymentId_updated (payment : Payment) :
    (updated env cmd payment).paymentId = payment.paymentId :=
  (Payment.SameIdentity.moves (.refl payment)
    (Payment.moves_applyProviderStatus _ _ _ payment)).paymentId

omit [DecimalText] in
theorem status_updated (payment : Payment) :
    (updated env cmd payment).status = payment.status.next cmd.status :=
  Payment.status_applyProviderStatus _ _ _ payment

/-- The row that a callback appends. -/
def updatedRow (env : Env) (cmd : ProcessCallbackCommand) (world : World)
    (payment : Payment) : OutboxRow :=
  world.eventRow (eventType cmd.status) (updated env cmd payment)
    (eventPayload cmd payment.status (updated env cmd payment))

omit [DecimalText] in
theorem aggregateId_updatedRow (payment : Payment) :
    (updatedRow env cmd world payment).aggregateId = payment.paymentId :=
  paymentId_updated payment

omit [DecimalText] in
/-- The event of a callback reports a change exactly if the status changed. -/
theorem reportsChange_updatedRow_iff (payment : Payment) :
    (updatedRow env cmd world payment).ReportsChange payment.paymentId
        (some payment.status) (some (payment.status.next cmd.status)) ↔
      payment.status ≠ payment.status.next cmd.status := by
  have hnew : (updatedRow env cmd world payment).newStatus =
      some (payment.status.next cmd.status).asStr := by
    rw [← status_updated]
    rfl
  constructor
  · intro hreports heq
    have hprevious := (hreports.previousStatus payment.status.asStr rfl).2
    rw [hnew, ← heq] at hprevious
    exact hprevious rfl
  · intro hne
    refine ⟨aggregateId_updatedRow payment, hnew, ?_⟩
    intro previous hprevious
    obtain rfl : payment.status.asStr = previous := Option.some.inj hprevious
    refine ⟨rfl, ?_⟩
    rw [hnew, ne_eq, Option.some.injEq]
    exact fun heq => hne (PaymentStatus.asStr_injective heq).symm

variable {payment : Payment}

section Reached

variable (hreaches : Reaches verify env cmd world payment)
include hreaches

theorem appended_worldAfter :
    appended world (worldAfter verify env cmd world) =
      if env.Succeeds (found world.db.payments cmd).2 5 then
        [updatedRow env cmd world payment] else [] := by
  rw [worldAfter_of_reaches hreaches]
  exact appended_recorded rfl _ _ _

theorem statusOf_worldAfter (paymentId : Uuid) :
    (worldAfter verify env cmd world).statusOf paymentId =
      if env.Succeeds (found world.db.payments cmd).2 2 ∧
          payment.paymentId = paymentId then
        some (payment.status.next cmd.status)
      else world.statusOf paymentId := by
  rw [worldAfter_of_reaches hreaches, World.statusOf, statusOf_recorded,
    paymentId_updated, status_updated]
  rfl

/-- A callback that gets as far as the save loses the event of a change exactly
if the save succeeds and one of the three append statements fails. -/
theorem mirrorsChange_iff_of_reaches :
    MirrorsChange world (worldAfter verify env cmd world) payment.paymentId ↔
      (payment.status ≠ payment.status.next cmd.status →
        env.Succeeds (found world.db.payments cmd).2 2 →
        env.Succeeds (found world.db.payments cmd).2 5) := by
  have hbefore : world.statusOf payment.paymentId = some payment.status :=
    statusOf_found hreaches.eq_ok
  have hsave : env.Succeeds (found world.db.payments cmd).2 5 →
      env.Succeeds (found world.db.payments cmd).2 2 :=
    fun h => h.mono (by decide)
  rw [MirrorsChange, statusOf_worldAfter hreaches, appended_worldAfter hreaches,
    hbefore]
  by_cases hall : env.Succeeds (found world.db.payments cmd).2 5
  · simp [hall, hsave hall, reportsChange_updatedRow_iff]
  · by_cases hsaved : env.Succeeds (found world.db.payments cmd).2 2 <;>
      simp [hall, hsaved]

end Reached

theorem mirrorsChange_iff :
    (∀ paymentId, MirrorsChange world (worldAfter verify env cmd world)
        paymentId) ↔
      ∀ payment, Reaches verify env cmd world payment →
        payment.status ≠ payment.status.next cmd.status →
        env.Succeeds (found world.db.payments cmd).2 2 →
        env.Succeeds (found world.db.payments cmd).2 5 := by
  constructor
  · intro hmirrors payment hreaches
    exact (mirrorsChange_iff_of_reaches hreaches).mp (hmirrors payment.paymentId)
  · intro hevents paymentId
    rcases worldAfter_cases verify env cmd world with
      ⟨payment, hreaches⟩ | hsame
    · by_cases hid : payment.paymentId = paymentId
      · rw [← hid, mirrorsChange_iff_of_reaches hreaches]
        exact hevents payment hreaches
      · rw [worldAfter_of_reaches hreaches]
        apply mirrorsChange_recorded_of_ne rfl rfl
        · rw [paymentId_updated]
          exact hid
        · rfl
    · rw [hsame]
      exact mirrorsChange_self world paymentId

end ProcessCallbackHandler

namespace InitiatePaymentHandler

variable {cmd : InitiatePaymentCommand}

theorem outbox_save_charge (payment : Payment) (charges : ℕ) :
    ((world.save payment).charge charges).db.outbox = world.db.outbox := rfl

variable {response : ProviderResponse} {payment : Payment}

omit [DecimalText] in
theorem reportsChange_settledRow (hanswer : answer env = .ok response)
    (hid : payment.paymentId = cmd.paymentId)
    (hstatus : payment.status = .processing) (before : Option PaymentStatus) :
    (settledRow env world payment).ReportsChange cmd.paymentId before
      (some .processing) := by
  unfold settledRow
  rw [hanswer]
  refine ⟨hid, ?_, ?_⟩
  · rw [← hstatus]
    rfl
  · intro previous hprevious
    cases hprevious

/-- What has to be stored before an accepted initiation, for its event to
mirror the change: with all statements after the request succeeding, anything
but Processing; otherwise what the call leaves anyway. -/
def MirroredBefore (env : Env) (before : Option PaymentStatus) : Prop :=
  if env.Succeeds 4 5 then before ≠ some .processing
  else if env.Succeeds 4 2 then before = some .processing
  else before = some .pending

theorem mirrorsChange_iff_of_reaches (hanswer : answer env = .ok response)
    (hreaches : Reaches env cmd world payment) :
    MirrorsChange world (worldAfter env cmd world) cmd.paymentId ↔
      MirroredBefore env (world.statusOf cmd.paymentId) := by
  have hid : (settled env payment).paymentId = cmd.paymentId :=
    paymentId_settled hreaches.valid
  have hstatus : (settled env payment).status = .processing := by
    rw [settled, hanswer]
  have hafter : (worldAfter env cmd world).statusOf cmd.paymentId =
      some (if env.Succeeds 4 2 then .processing else .pending) := by
    rw [World.statusOf, statusOf_worldAfter hreaches, hstatus]
  have happended : appended world (worldAfter env cmd world) =
      if env.Succeeds 4 5 then
        [settledRow env world (settled env payment)] else [] := by
    rw [worldAfter_of_reaches hreaches]
    exact appended_recorded (outbox_save_charge payment _) _ _ _
  have hsave : env.Succeeds 4 5 → env.Succeeds 4 2 :=
    fun h => h.mono (by decide)
  rw [MirrorsChange, hafter, happended, MirroredBefore]
  by_cases hall : env.Succeeds 4 5
  · simp [hall, hsave hall, reportsChange_settledRow hanswer hid hstatus]
  · by_cases hsaved : env.Succeeds 4 2 <;> simp [hall, hsaved]

theorem mirrorsChange_iff (hanswer : answer env = .ok response) :
    (∀ paymentId, MirrorsChange world (worldAfter env cmd world) paymentId) ↔
      ∀ payment, Reaches env cmd world payment →
        MirroredBefore env (world.statusOf cmd.paymentId) := by
  constructor
  · intro hmirrors payment hreaches
    exact (mirrorsChange_iff_of_reaches hanswer hreaches).mp
      (hmirrors cmd.paymentId)
  · intro hbefore paymentId
    rcases worldAfter_cases env cmd world with ⟨payment, hreaches⟩ | hsame
    · by_cases hid : cmd.paymentId = paymentId
      · rw [← hid, mirrorsChange_iff_of_reaches hanswer hreaches]
        exact hbefore payment hreaches
      · rw [worldAfter_of_reaches hreaches]
        apply mirrorsChange_recorded_of_ne (outbox_save_charge payment _)
        · rw [World.statusOf, World.payments_charge, statusOf_save,
            paymentId_of_newPayment hreaches.valid, if_neg hid]
          rfl
        · rw [paymentId_settled hreaches.valid]
          exact hid
        · rw [settledRow, hanswer]
          rfl
    · rw [hsame]
      exact mirrorsChange_self world paymentId

end InitiatePaymentHandler

/-- When a status changes if and only if its event is appended.  A callback must
not fail in the append of a change it has saved.  An accepted initiation that
reaches the provider must not fail after it, unless the stored status was
already the one it leaves; without a failure that status must not have been
Processing. -/
theorem status_change_iff_event (verify : List UInt8 → String → Bool)
    (env : Env) (callback : ProcessCallbackCommand)
    (initiation : InitiatePaymentCommand) (world : World) :
    ((∀ paymentId, MirrorsChange world
        (ProcessCallbackHandler.worldAfter verify env callback world)
        paymentId) ↔
      ∀ payment,
        ProcessCallbackHandler.Reaches verify env callback world payment →
        payment.status ≠ payment.status.next callback.status →
        env.Succeeds
          (ProcessCallbackHandler.found world.db.payments callback).2 2 →
        env.Succeeds
          (ProcessCallbackHandler.found world.db.payments callback).2 5) ∧
    ∀ response, InitiatePaymentHandler.answer env = .ok response →
      ((∀ paymentId, MirrorsChange world
          (InitiatePaymentHandler.worldAfter env initiation world)
          paymentId) ↔
        ∀ payment, InitiatePaymentHandler.Reaches env initiation world payment →
          InitiatePaymentHandler.MirroredBefore env
            (world.statusOf initiation.paymentId)) :=
  ⟨ProcessCallbackHandler.mirrorsChange_iff,
    fun _ hanswer => InitiatePaymentHandler.mirrorsChange_iff hanswer⟩

end Mirror

open Samples in
/-- The last statement of a callback, the insert into the outbox, fails: the
payment is stored as Completed without an event. -/
theorem completed_without_event :
    let env : Env :=
      { reliable with
        failure := fun n => if n = 8 then some "connection closed" else none }
    let before := world (onePayment Samples.payment)
    let after := ProcessCallbackHandler.worldAfter (fun _ _ => true) env
      (callback .completed) before
    before.statusOf 1 = some .pending ∧ after.statusOf 1 = some .completed ∧
      appended before after = [] := by
  decide

end UssdKernel.PaymentEngine
