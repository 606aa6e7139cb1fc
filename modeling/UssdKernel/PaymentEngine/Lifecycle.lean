import UssdKernel.PaymentEngine.Rows

/-!
# Lifecycle of one payment

Every method of the aggregate makes one of six moves.  The relation between
the status and the optional fields, the identity of the payment and the
history of a refund are invariants of those moves, and they survive saving the
payment and reading it back.
-/

namespace UssdKernel.PaymentEngine

/-! ## Moves -/

/-- Everything a method of the aggregate can do to a payment. -/
inductive Payment.Moves : Payment → Payment → Prop
  | keep (payment : Payment) : Moves payment payment
  | process (payment : Payment) (hopen : payment.status.isOpen = true) :
      Moves payment { payment with status := .processing }
  | complete (payment : Payment) (reference : String) (now : DateTime)
      (hopen : payment.status.isOpen = true) :
      Moves payment
        { payment with
          status := .completed
          providerReference := some reference
          completedAt := some now }
  | fail (payment : Payment) (reason : String) (now : DateTime)
      (hopen : payment.status.isOpen = true) :
      Moves payment
        { payment with
          status := .failed
          failureReason := some reason
          completedAt := some now }
  | cancel (payment : Payment) (now : DateTime)
      (hopen : payment.status.isOpen = true) :
      Moves payment
        { payment with status := .cancelled, completedAt := some now }
  | refund (payment : Payment) (now : DateTime)
      (hcompleted : payment.status = .completed) :
      Moves payment
        { payment with status := .refunded, completedAt := some now }

namespace Payment

/-- A transition whose result is discarded moves the payment or keeps it. -/
theorem moves_orKeep_transition {permitted : PaymentStatus → Bool}
    {target : PaymentStatus} {update : Payment → Payment} {payment : Payment}
    (hmove : permitted payment.status = true →
      Moves payment (update { payment with status := target })) :
    Moves payment
      (payment.orKeep (payment.transition permitted target update)) := by
  unfold transition
  split
  · next hpermitted => exact hmove hpermitted
  · exact .keep payment

theorem moves_markProcessing (payment : Payment) :
    Moves payment (payment.orKeep payment.markProcessing) :=
  moves_orKeep_transition (.process payment)

variable (now : DateTime) {before after : Payment}

theorem moves_markCompleted (reference : String) (payment : Payment) :
    Moves payment (payment.orKeep (payment.markCompleted now reference)) :=
  moves_orKeep_transition (.complete payment reference now)

theorem moves_markFailed (reason : String) (payment : Payment) :
    Moves payment (payment.orKeep (payment.markFailed now reason)) :=
  moves_orKeep_transition (.fail payment reason now)

theorem moves_markRefunded (payment : Payment) :
    Moves payment (payment.orKeep (payment.markRefunded now)) := by
  apply moves_orKeep_transition
  intro hpermitted
  exact .refund payment now (by simpa using hpermitted)

theorem moves_applyProviderStatus (reported : ProviderStatus)
    (providerRef : Option String) (payment : Payment) :
    Moves payment (payment.applyProviderStatus now reported providerRef) := by
  cases reported with
  | pending => exact .keep payment
  | processing => exact moves_markProcessing payment
  | completed => exact moves_markCompleted now _ payment
  | failed => exact moves_markFailed now _ payment
  | cancelled =>
      simp only [applyProviderStatus]
      split
      · next hopen =>
          apply Moves.cancel
          rcases hopen with hopen | hopen <;> rw [hopen] <;> rfl
      · exact .keep payment
  | refunded => exact moves_markRefunded now payment
  | unknown => exact .keep payment

/-! ## Invariants of the moves -/

/-- The optional fields agree with the status. -/
structure Consistent (payment : Payment) : Prop where
  completedAt_iff :
    payment.completedAt.isSome = true ↔ payment.status.isTerminal = true
  failureReason_iff :
    payment.failureReason.isSome = true ↔ payment.status = .failed
  providerReference_isSome :
    payment.status = .completed ∨ payment.status = .refunded →
      payment.providerReference.isSome = true

theorem Consistent.moves (hconsistent : before.Consistent)
    (hmoves : Moves before after) :
    after.Consistent := by
  obtain ⟨hcompletedAt, hfailure, hreference⟩ := hconsistent
  have hopenFailure : before.status.isOpen = true →
      before.failureReason.isSome = false := by
    intro hopen
    rw [Bool.eq_false_iff, ne_eq, hfailure]
    intro hfailed
    rw [hfailed] at hopen
    cases hopen
  cases hmoves with
  | keep => exact ⟨hcompletedAt, hfailure, hreference⟩
  | process hopen =>
      have hterminal : before.status.isTerminal = false := by
        rw [PaymentStatus.isTerminal, hopen]
        rfl
      refine ⟨?_, by simp [hopenFailure hopen], by simp⟩
      rw [hcompletedAt, hterminal]
      simp [PaymentStatus.isTerminal, PaymentStatus.isOpen]
  | complete reference now hopen =>
      exact ⟨by simp [PaymentStatus.isTerminal, PaymentStatus.isOpen],
        by simp [hopenFailure hopen], by simp⟩
  | fail reason now hopen =>
      exact ⟨by simp [PaymentStatus.isTerminal, PaymentStatus.isOpen],
        by simp, by simp⟩
  | cancel now hopen =>
      exact ⟨by simp [PaymentStatus.isTerminal, PaymentStatus.isOpen],
        by simp [hopenFailure hopen], by simp⟩
  | refund now hcompleted =>
      refine ⟨by simp [PaymentStatus.isTerminal, PaymentStatus.isOpen], ?_,
        fun _ => hreference (Or.inl hcompleted)⟩
      rw [hfailure, hcompleted]
      simp

/-- The fields that no method and no storage round trip changes. -/
structure SameIdentity (left right : Payment) : Prop where
  paymentId : right.paymentId = left.paymentId
  tenantId : right.tenantId = left.tenantId
  idempotencyKey : right.idempotencyKey = left.idempotencyKey
  provider : right.provider = left.provider
  phoneNumber : right.phoneNumber = left.phoneNumber
  amount : right.amount = left.amount
  currency : right.currency = left.currency
  reference : right.reference = left.reference
  description : right.description = left.description
  initiatedAt : right.initiatedAt = left.initiatedAt

theorem SameIdentity.refl (payment : Payment) : SameIdentity payment payment :=
  ⟨rfl, rfl, rfl, rfl, rfl, rfl, rfl, rfl, rfl, rfl⟩

theorem SameIdentity.moves {origin before after : Payment}
    (hsame : SameIdentity origin before) (hmoves : Moves before after) :
    SameIdentity origin after := by
  cases hmoves <;> exact { hsame with }

theorem completed_or_refunded_of_moves (hmoves : Moves before after)
    (hrefunded : after.status = .refunded) :
    before.status = .refunded ∨ before.status = .completed := by
  cases hmoves <;> simp_all

end Payment

/-- A payment and its own row, if it has been saved. -/
structure Holder where
  payment : Payment
  row : Option PaymentRow

inductive Call
  | markProcessing
  | markCompleted (now : DateTime) (reference : String)
  | markFailed (now : DateTime) (reason : String)
  | markRefunded (now : DateTime)
  | applyProviderStatus (now : DateTime) (reported : ProviderStatus)
      (providerRef : Option String)
  | save
  | reload

section Storage

variable [DecimalText] {earlier later : Prop} {refundable : Prop}
  {origin : Payment} {holder : Holder}

def Holder.call (holder : Holder) : Call → Holder
  | .markProcessing =>
      { holder with
        payment := holder.payment.orKeep holder.payment.markProcessing }
  | .markCompleted now reference =>
      { holder with
        payment :=
          holder.payment.orKeep (holder.payment.markCompleted now reference) }
  | .markFailed now reason =>
      { holder with
        payment := holder.payment.orKeep (holder.payment.markFailed now reason) }
  | .markRefunded now =>
      { holder with
        payment := holder.payment.orKeep (holder.payment.markRefunded now) }
  | .applyProviderStatus now reported providerRef =>
      { holder with
        payment :=
          holder.payment.applyProviderStatus now reported providerRef }
  | .save =>
      { holder with
        row := some (PaymentRow.upserted holder.row
          (PaymentRow.ofPayment holder.payment)) }
  | .reload =>
      match holder.row with
      | none => holder
      | some row =>
          { holder with payment := holder.payment.orKeep (Payment.tryFrom row) }

def Holder.calls (holder : Holder) (calls : List Call) : Holder :=
  calls.foldl Holder.call holder

/-- A call moves the payment, writes the row, or reads the row. -/
theorem Holder.call_cases (holder : Holder) (call : Call) :
    (∃ after, Payment.Moves holder.payment after ∧
        holder.call call = { holder with payment := after }) ∨
      holder.call call =
          { holder with
            row := some (PaymentRow.upserted holder.row
              (PaymentRow.ofPayment holder.payment)) } ∨
        ∃ row, holder.row = some row ∧
          holder.call call =
            { holder with
              payment := holder.payment.orKeep (Payment.tryFrom row) } := by
  cases call with
  | markProcessing =>
      exact Or.inl ⟨_, Payment.moves_markProcessing _, rfl⟩
  | markCompleted now reference =>
      exact Or.inl ⟨_, Payment.moves_markCompleted now reference _, rfl⟩
  | markFailed now reason =>
      exact Or.inl ⟨_, Payment.moves_markFailed now reason _, rfl⟩
  | markRefunded now => exact Or.inl ⟨_, Payment.moves_markRefunded now _, rfl⟩
  | applyProviderStatus now reported providerRef =>
      exact Or.inl
        ⟨_, Payment.moves_applyProviderStatus now reported providerRef _, rfl⟩
  | save => exact Or.inr (Or.inl rfl)
  | reload =>
      cases hrow : holder.row with
      | none =>
          have hkeep : holder.call .reload = { holder with row := none } := by
            cases holder
            cases hrow
            rfl
          exact Or.inl ⟨_, .keep holder.payment, hkeep⟩
      | some row =>
          refine Or.inr (Or.inr ⟨row, rfl, ?_⟩)
          simp [Holder.call, hrow]

/-- Overwriting the saved row of a payment with a later state of the same
payment stores that later state. -/
theorem overwrite_ofPayment {saved payment : Payment}
    (hsame : Payment.SameIdentity saved payment) :
    (PaymentRow.ofPayment saved).overwrite (PaymentRow.ofPayment payment) =
      PaymentRow.ofPayment payment := by
  simp [PaymentRow.overwrite, PaymentRow.ofPayment, hsame.paymentId,
    hsame.tenantId, hsame.idempotencyKey, hsame.provider, hsame.phoneNumber,
    hsame.amount, hsame.currency, hsame.reference, hsame.description,
    hsame.initiatedAt]

/-! ## Reached states -/

/-- Some earlier state of the payment was Completed. -/
def Holder.CompletedBefore (start : Holder) (calls : List Call) : Prop :=
  ∃ first second, calls = first ++ second ∧
    (start.calls first).payment.status = .completed

/-- What is true of every state of a payment; `refundable` says that the
payment has been Completed before. -/
structure Payment.Sound (payment origin : Payment) (refundable : Prop) :
    Prop where
  consistent : payment.Consistent
  sameIdentity : Payment.SameIdentity origin payment
  refunded : payment.status = .refunded → refundable

omit [DecimalText] in
theorem Payment.Sound.mono {origin payment : Payment}
    (hsound : payment.Sound origin earlier) (hlater : earlier → later) :
    payment.Sound origin later :=
  ⟨hsound.consistent, hsound.sameIdentity, fun h => hlater (hsound.refunded h)⟩

omit [DecimalText] in
theorem Payment.Sound.moves {origin before after : Payment}
    (hsound : before.Sound origin refundable)
    (hcompleted : before.status = .completed → refundable)
    (hmoves : Payment.Moves before after) :
    after.Sound origin refundable where
  consistent := hsound.consistent.moves hmoves
  sameIdentity := hsound.sameIdentity.moves hmoves
  refunded hrefunded := by
    rcases Payment.completed_or_refunded_of_moves hmoves hrefunded with
      hbefore | hbefore
    · exact hsound.refunded hbefore
    · exact hcompleted hbefore

/-- The payment is sound, and so is the payment its row stores. -/
structure Holder.Sound (holder : Holder) (origin : Payment)
    (refundable : Prop) : Prop where
  payment : holder.payment.Sound origin refundable
  row : ∀ row, holder.row = some row →
    ∃ saved, row = PaymentRow.ofPayment saved ∧
      saved.Sound origin refundable

theorem Holder.Sound.mono (hsound : holder.Sound origin earlier)
    (hlater : earlier → later) :
    holder.Sound origin later where
  payment := hsound.payment.mono hlater
  row row hrow := by
    obtain ⟨saved, hsaved, hsavedSound⟩ := hsound.row row hrow
    exact ⟨saved, hsaved, hsavedSound.mono hlater⟩

/-- One call keeps a holder sound. -/
theorem Holder.Sound.call (hexact : origin.amount.ExactText)
    (hsound : holder.Sound origin refundable)
    (hcompleted : holder.payment.status = .completed → refundable) (call : Call) :
    (holder.call call).Sound origin refundable := by
  rcases holder.call_cases call with ⟨after, hmoves, hcall⟩ | hcall |
    ⟨row, hrow, hcall⟩
  · rw [hcall]
    exact ⟨hsound.payment.moves hcompleted hmoves, hsound.row⟩
  · rw [hcall]
    refine ⟨hsound.payment, ?_⟩
    intro row hrow
    obtain rfl := Option.some.inj hrow
    refine ⟨holder.payment, ?_, hsound.payment⟩
    cases hstored : holder.row with
    | none => rfl
    | some stored =>
        obtain ⟨saved, rfl, hsaved⟩ := hsound.row stored hstored
        have hsaved := hsaved.sameIdentity
        have hcurrent := hsound.payment.sameIdentity
        apply overwrite_ofPayment
        constructor <;> simp [hsaved.paymentId, hsaved.tenantId,
          hsaved.idempotencyKey, hsaved.provider, hsaved.phoneNumber,
          hsaved.amount, hsaved.currency, hsaved.reference,
          hsaved.description, hsaved.initiatedAt, hcurrent.paymentId,
          hcurrent.tenantId, hcurrent.idempotencyKey, hcurrent.provider,
          hcurrent.phoneNumber, hcurrent.amount, hcurrent.currency,
          hcurrent.reference, hcurrent.description, hcurrent.initiatedAt]
  · rw [hcall]
    refine ⟨?_, hsound.row⟩
    obtain ⟨saved, rfl, hsaved⟩ := hsound.row row hrow
    have hexactSaved : saved.amount.ExactText := by
      rw [hsaved.sameIdentity.amount]
      exact hexact
    rw [tryFrom_ofPayment hexactSaved]
    exact hsaved

theorem Holder.calls_append (start : Holder) (first second : List Call) :
    start.calls (first ++ second) = (start.calls first).calls second :=
  List.foldl_append

/-- Every state reached from a sound start without a row is sound. -/
theorem Holder.sound_calls {start : Holder}
    (hexact : start.payment.amount.ExactText)
    (hstart : start.Sound start.payment False) (calls : List Call) :
    (start.calls calls).Sound start.payment (start.CompletedBefore calls) := by
  induction calls using List.reverseRecOn with
  | nil => exact hstart.mono False.elim
  | append_singleton calls call ih =>
      have hlater : start.CompletedBefore calls →
          start.CompletedBefore (calls ++ [call]) := by
        rintro ⟨first, second, rfl, hfirst⟩
        exact ⟨first, second ++ [call], by simp, hfirst⟩
      rw [Holder.calls_append]
      refine (ih.mono hlater).call hexact ?_ call
      intro hcompleted
      exact ⟨calls, [call], rfl, hcompleted⟩

/-- From every accepted payment, after any sequence of method calls, saves and
reloads, the optional fields agree with the status, a refund was preceded by
completion, and the identity of the payment is unchanged. -/
theorem reached_payment_sound {paymentId tenantId : Uuid}
    {idempotencyKey : String} {provider : MobileMoneyProvider}
    {phoneNumber : String} {amount : Decimal}
    {currency reference description : String} {now : DateTime}
    {payment : Payment} (hexact : amount.ExactText)
    (hnew : Payment.new paymentId tenantId idempotencyKey provider phoneNumber
      amount currency reference description now = .ok payment)
    (calls : List Call) :
    ((Holder.mk payment none).calls calls).payment.Sound payment
      ((Holder.mk payment none).CompletedBefore calls) := by
  have hpayment := Payment.eq_of_new_eq_ok hnew
  have hstart : (Holder.mk payment none).Sound payment False := by
    subst hpayment
    exact ⟨⟨⟨by simp [PaymentStatus.isTerminal, PaymentStatus.isOpen], by simp,
      by simp⟩, .refl _, by simp⟩, by simp⟩
  have hexactPayment : payment.amount.ExactText := by
    subst hpayment
    exact hexact
  exact (Holder.sound_calls hexactPayment hstart calls).payment

end Storage

open Samples in
/-- The theorem at a payment that is completed, stored, reloaded and
refunded. -/
theorem refunded_payment_sound :
    let start := Holder.mk Samples.payment none
    let calls := [Call.markCompleted 5 "MP-1", .save, .reload, .markRefunded 9]
    (start.calls calls).payment.status = .refunded ∧
      (start.calls calls).payment.Sound Samples.payment
        (start.CompletedBefore calls) :=
  ⟨by decide, reached_payment_sound exactText_hundred new_eq_payment _⟩

end UssdKernel.PaymentEngine
