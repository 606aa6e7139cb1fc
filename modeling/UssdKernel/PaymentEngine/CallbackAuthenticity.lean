import UssdKernel.PaymentEngine.Port

/-!
# What the signature of a callback covers

The provider signs `raw_payload`, and the handler verifies the signature and
reads nothing else of the signed bytes.  Which payment is looked up and which
status is applied to it is taken from `provider_reference`, `payment_id` and
`status`, which nobody signs.

Two callbacks with the same signed bytes have the same effect on every payments
table exactly if the port reads the same report from their unsigned fields.
-/

namespace UssdKernel.PaymentEngine

section Effects

variable [DecimalText] (parseStr : String → Option Uuid)
  (verify : List UInt8 → String → Bool)

/-- The call applies the status to the payment and saves it. -/
def Applies (env : CallbackEnv) (request : ProcessCallbackRequest)
    (world : World) (paymentId : Uuid) (status : ProviderStatus) : Prop :=
  ∃ command, requestedCommand parseStr env request world = some command ∧
    command.status = status ∧ ∃ stored,
      ProcessCallbackHandler.Reaches verify env.handler command world stored ∧
        stored.paymentId = paymentId ∧
          env.handler.Succeeds
            (ProcessCallbackHandler.found world.db.payments command).2 2

/-- The two calls apply the same status to the same payment, and leave every
payment with the same status. -/
structure SameEffect (first second : ProcessCallbackRequest) : Prop where
  applies : ∀ env world paymentId status,
    Applies parseStr verify env first world paymentId status ↔
      Applies parseStr verify env second world paymentId status
  statusOf : ∀ env world paymentId,
    (processCallback parseStr verify env first world).2.statusOf paymentId =
      (processCallback parseStr verify env second world).2.statusOf paymentId

/-- What the port reads from the unsigned fields. -/
structure Report where
  providerReference : String
  paymentId : Option Uuid
  status : ProviderStatus
  deriving DecidableEq

/-- The report of a request, unless the port refuses it. -/
def report (request : ProcessCallbackRequest) : Option Report :=
  match callbackPaymentId parseStr request,
    mapCallbackStatus request.status with
  | .ok paymentId, .ok status =>
      some
        { providerReference := request.providerReference
          paymentId
          status }
  | _, _ => none

variable {parseStr verify} {env : CallbackEnv} {world : World}

variable {request : ProcessCallbackRequest}

/-- Only the report of a request and the signed bytes reach the handler. -/
theorem requestedCommand_eq :
    requestedCommand parseStr env request world =
      (report parseStr request).bind fun report =>
        ((callbackPayment env request report.paymentId world).toOption.map
          (callbackCommand request report.status)) := by
  unfold requestedCommand report
  cases callbackPaymentId parseStr request with
  | error refusal => rfl
  | ok paymentId =>
      cases mapCallbackStatus request.status with
      | error refusal => rfl
      | ok status =>
          dsimp only [Option.bind_some]
          cases callbackPayment env request paymentId world <;> rfl

omit [DecimalText] in
theorem providerReference_of_report {result : Report}
    (hreport : report parseStr request = some result) :
    request.providerReference = result.providerReference := by
  unfold report at hreport
  split at hreport
  · cases hreport
    rfl
  · cases hreport

variable {first second : ProcessCallbackRequest}
  (hpayload : first.rawPayload = second.rawPayload)
  (hsignature : first.signature = second.signature)
  (hreport : report parseStr first = report parseStr second)

include hpayload hsignature hreport

theorem requestedCommand_congr :
    requestedCommand parseStr env first world =
      requestedCommand parseStr env second world := by
  rw [requestedCommand_eq, requestedCommand_eq, hreport]
  cases hresult : report parseStr second with
  | none => rfl
  | some result =>
      have hreference : first.providerReference = second.providerReference :=
        (providerReference_of_report (hreport.trans hresult)).trans
          (providerReference_of_report hresult).symm
      have hpayment : callbackPayment env first result.paymentId world =
          callbackPayment env second result.paymentId world := by
        simp only [callbackPayment, hreference]
      have hcommand : callbackCommand first result.status =
          callbackCommand second result.status := by
        funext payment
        simp only [callbackCommand, hreference, hpayload, hsignature]
      rw [Option.bind_some, Option.bind_some, hpayment, hcommand]

theorem sameEffect_of_report_eq :
    SameEffect parseStr verify first second where
  applies env world paymentId status := by
    rw [Applies, Applies, requestedCommand_congr hpayload hsignature hreport]
  statusOf env world paymentId := by
    rw [world_processCallback, world_processCallback,
      requestedCommand_congr hpayload hsignature hreport]

end Effects

/-! ## Tables that tell two reports apart -/

section Probes

variable [DecimalText] {parseStr : String → Option Uuid}
  {verify : List UInt8 → String → Bool}

/-- Statements succeed. -/
def undisturbed : CallbackEnv where
  byReference := none
  byId := none
  handler :=
    { failure := fun _ => none
      charged := fun _ => false
      reply := fun _ => .error .idempotencyViolation
      clock := fun _ => 0 }

section Probes

variable (amount : String) (paymentId : Uuid)
  (providerReference : Option String)

/-- A row with an amount in this text form. -/
def probeRow : PaymentRow where
  paymentId
  tenantId := 0
  idempotencyKey := ""
  provider := "ecocash"
  phoneNumber := ""
  amount
  currency := "USD"
  reference := ""
  description := ""
  status := "pending"
  providerReference
  failureReason := none
  initiatedAt := 0
  completedAt := none

/-- A table with one row. -/
def probe : World where
  db :=
    { payments :=
        { rows := [probeRow amount paymentId providerReference]
          ids_nodup := List.nodup_singleton _ }
      topics := []
      outbox := [] }
  charges := 0

end Probes

/-- The payment of the row. -/
def probePayment (amount : Decimal) (paymentId : Uuid)
    (providerReference : Option String) : Payment where
  paymentId
  tenantId := 0
  idempotencyKey := ""
  provider := .ecoCash
  phoneNumber := ""
  amount
  currency := "USD"
  reference := ""
  description := ""
  status := .pending
  providerReference
  failureReason := none
  initiatedAt := 0
  completedAt := none

variable {request : ProcessCallbackRequest} {text : String} {amount : Decimal}
  {paymentId : Uuid} {providerReference : Option String}

variable (hparse : DecimalText.parse text = .ok amount)

include hparse

theorem tryFrom_probeRow :
    Payment.tryFrom (probeRow text paymentId providerReference) =
      .ok (probePayment amount paymentId providerReference) := by
  have hamount : parseAmount text = .ok amount := by
    rw [parseAmount, hparse]
  simp only [Payment.tryFrom, probeRow, hamount]
  rfl

/-- A lookup on a table with one row. -/
theorem lookupPayment_probe (filter : PaymentFilter) :
    lookupPayment none filter (probe text paymentId providerReference) =
      .ok (if filter.admits (probeRow text paymentId providerReference) then
        some (probePayment amount paymentId providerReference) else none) := by
  simp only [lookupPayment, probe]
  cases hadmits : filter.admits (probeRow text paymentId providerReference) with
  | false => simp [hadmits, convert]
  | true =>
      simp [hadmits, convert, tryFrom_probeRow hparse, bind, Except.bind]

/-- The report leads to the row. -/
def Finds (result : Report) (paymentId : Uuid)
    (providerReference : Option String) : Prop :=
  providerReference = some result.providerReference ∨
    result.paymentId = some paymentId

theorem callbackPayment_probe_eq_ok_iff {result : Report}
    (hreference : request.providerReference = result.providerReference)
    {payment : Payment} :
    callbackPayment undisturbed request result.paymentId
        (probe text paymentId providerReference) = .ok payment ↔
      Finds result paymentId providerReference ∧
        payment = probePayment amount paymentId providerReference := by
  simp only [Finds, callbackPayment, undisturbed, lookupPayment_probe hparse,
    PaymentFilter.admits, probeRow, hreference]
  by_cases hfound : providerReference = some result.providerReference
  · simp [hfound, eq_comm]
  · cases result.paymentId with
    | none => simp [hfound]
    | some id =>
        by_cases hsame : paymentId = id
        · simp [hfound, hsame, eq_comm]
        · simp [hfound, hsame, eq_comm]

/-- The handler finds the row by the payment id that the port has found. -/
theorem found_probe {command : ProcessCallbackCommand}
    (hid : command.paymentId = some paymentId) :
    (ProcessCallbackHandler.found
      (probe text paymentId providerReference).db.payments command).1 =
        .ok (probePayment amount paymentId providerReference) := by
  have hmem : probeRow text paymentId providerReference ∈
      (probe text paymentId providerReference).db.payments.rows :=
    List.mem_cons_self
  have hbyId : (probe text paymentId providerReference).db.payments.byId
      paymentId = some (probeRow text paymentId providerReference) :=
    PaymentTable.byId_of_mem hmem
  rw [ProcessCallbackHandler.found]
  split
  · next row hrow =>
    have hrow : row = probeRow text paymentId providerReference :=
      List.mem_singleton.mp (List.mem_of_find?_eq_some hrow)
    rw [hrow]
    exact tryFrom_probeRow hparse
  · simp only [ProcessCallbackHandler.foundById, hid, hbyId]
    exact tryFrom_probeRow hparse

/-- On a table with one row, a verified request applies the reported status
exactly if its report leads to the row. -/
theorem applies_probe_iff
    (hverified : verify request.rawPayload request.signature = true)
    {applied : Uuid} {status : ProviderStatus} :
    Applies parseStr verify undisturbed request
        (probe text paymentId providerReference) applied status ↔
      ∃ result, report parseStr request = some result ∧
        Finds result paymentId providerReference ∧ paymentId = applied ∧
          result.status = status := by
  constructor
  · rintro ⟨command, hcommand, hstatus, stored, hreaches, hstored, -⟩
    rw [requestedCommand_eq] at hcommand
    cases hreport : report parseStr request with
    | none =>
        rw [hreport] at hcommand
        cases hcommand
    | some result =>
        rw [hreport, Option.bind_some] at hcommand
        cases hpayment : callbackPayment undisturbed request result.paymentId
            (probe text paymentId providerReference) with
        | error response =>
            rw [hpayment] at hcommand
            cases hcommand
        | ok payment =>
            obtain ⟨hfinds, rfl⟩ := (callbackPayment_probe_eq_ok_iff hparse
              (providerReference_of_report hreport)).mp hpayment
            rw [hpayment] at hcommand
            cases hcommand
            have hfound := hreaches.eq_ok.symm.trans (found_probe hparse rfl)
            rw [← hstored, Except.ok.inj hfound]
            exact ⟨result, rfl, hfinds, rfl, hstatus⟩
  · rintro ⟨result, hreport, hfinds, rfl, rfl⟩
    have hpayment := (callbackPayment_probe_eq_ok_iff hparse
      (providerReference_of_report hreport)).mpr ⟨hfinds, rfl⟩
    refine ⟨callbackCommand request result.status
      (probePayment amount paymentId providerReference), ?_, rfl,
      probePayment amount paymentId providerReference,
      ⟨hverified, fun _ _ => rfl, found_probe hparse rfl⟩, rfl, fun _ _ => rfl⟩
    rw [requestedCommand_eq, hreport, Option.bind_some, hpayment]
    rfl

section Separation

variable {first second : ProcessCallbackRequest}
  (hfirst : verify first.rawPayload first.signature = true)
  (hsecond : verify second.rawPayload second.signature = true)

include hfirst hsecond

/-- If the second request applies whatever the first one does, it reports the
same reference and status, and the payment id that the first one reports. -/
theorem report_of_applies
    (happlies : ∀ world paymentId status,
      Applies parseStr verify undisturbed first world paymentId status →
        Applies parseStr verify undisturbed second world paymentId status)
    {result : Report} (hreport : report parseStr first = some result) :
    ∃ other, report parseStr second = some other ∧
      other.providerReference = result.providerReference ∧
        other.status = result.status ∧
          ∀ id, result.paymentId = some id → other.paymentId = some id := by
  have hprobe : ∀ id reference, Finds result id reference →
      ∃ other, report parseStr second = some other ∧
        Finds other id reference ∧ other.status = result.status := by
    intro id reference hfinds
    obtain ⟨other, hother, hfound, -, hstatus⟩ :=
      (applies_probe_iff hparse hsecond).mp (happlies _ id result.status
        ((applies_probe_iff hparse hfirst).mpr
          ⟨result, hreport, hfinds, rfl, rfl⟩))
    exact ⟨other, hother, hfound, hstatus⟩
  obtain ⟨other, hother, hzero, hstatus⟩ :=
    hprobe 0 (some result.providerReference) (Or.inl rfl)
  have hfinds : ∀ id reference, Finds result id reference →
      Finds other id reference := by
    intro id reference hfinds
    obtain ⟨another, hanother, hfound, -⟩ := hprobe id reference hfinds
    rw [hother, Option.some.injEq] at hanother
    rw [hanother]
    exact hfound
  refine ⟨other, hother, ?_, hstatus, ?_⟩
  · -- A row that no payment id of the report leads to.
    have hone := hfinds 1 (some result.providerReference) (Or.inl rfl)
    rcases hzero with hreference | hid
    · exact (Option.some.inj hreference).symm
    · rcases hone with hreference | hother
      · exact (Option.some.inj hreference).symm
      · rw [hid] at hother
        exact absurd (Option.some.inj hother) (by decide)
  · intro id hid
    rcases hfinds id none (Or.inr hid) with hreference | hfound
    · cases hreference
    · exact hfound

theorem report_eq_of_sameEffect
    (hsame : SameEffect parseStr verify first second) :
    report parseStr first = report parseStr second := by
  have hforward : ∀ result, report parseStr first = some result → _ :=
    fun _ => report_of_applies hparse hfirst hsecond
      fun world paymentId status =>
        (hsame.applies undisturbed world paymentId status).mp
  have hbackward : ∀ result, report parseStr second = some result → _ :=
    fun _ => report_of_applies hparse hsecond hfirst
      fun world paymentId status =>
        (hsame.applies undisturbed world paymentId status).mpr
  cases hresult : report parseStr first with
  | none =>
      cases hother : report parseStr second with
      | none => rfl
      | some other =>
          obtain ⟨result, hreport, -⟩ := hbackward other hother
          rw [hresult] at hreport
          cases hreport
  | some result =>
      obtain ⟨other, hother, hreference, hstatus, hid⟩ :=
        hforward result hresult
      obtain ⟨again, hagain, -, -, hback⟩ := hbackward other hother
      rw [hresult, Option.some.injEq] at hagain
      subst hagain
      have hids : result.paymentId = other.paymentId := by
        cases hfound : result.paymentId with
        | some id => exact (hid id hfound).symm
        | none =>
            cases hmissing : other.paymentId with
            | none => rfl
            | some id =>
                rw [hback id hmissing] at hfound
                cases hfound
      rw [hother, Option.some.injEq]
      cases result
      cases other
      simp_all

end Separation

end Probes

/-- Two callbacks with the same bytes and the same valid signature have the same
effect on every table exactly if the port reads the same report from their
unsigned fields, or refuses both.  `rust_decimal` reads at least one amount. -/
theorem callback_effect_iff [DecimalText] (parseStr : String → Option Uuid)
    {verify : List UInt8 → String → Bool}
    {first second : ProcessCallbackRequest}
    (hdecimal : ∃ text amount, DecimalText.parse text = .ok amount)
    (hpayload : first.rawPayload = second.rawPayload)
    (hsignature : first.signature = second.signature)
    (hverified : verify first.rawPayload first.signature = true) :
    SameEffect parseStr verify first second ↔
      report parseStr first = report parseStr second := by
  obtain ⟨text, amount, hparse⟩ := hdecimal
  have hsecond : verify second.rawPayload second.signature = true := by
    rw [← hpayload, ← hsignature]
    exact hverified
  exact ⟨report_eq_of_sameEffect hparse hverified hsecond,
    sameEffect_of_report_eq hpayload hsignature⟩

namespace Samples

/-- A callback with bytes that the provider has signed. -/
def notice (providerReference : String) (status : CallbackStatus) :
    ProcessCallbackRequest where
  providerReference
  paymentId := ""
  status
  signature := "signed"
  rawPayload := [1]

/-- The provider's key signs the bytes of `notice`. -/
def verifyNotice (payload : List UInt8) (signature : String) : Bool :=
  payload = [1] && signature = "signed"

/-- Payments 1 and 3, both in progress at the provider. -/
def twoPayments : PaymentTable where
  rows :=
    [.ofPayment { payment with
      status := .processing, providerReference := some "MP-1" },
    .ofPayment { payment with
      paymentId := 3, idempotencyKey := "idem-124"
      status := .processing, providerReference := some "MP-2" }]
  ids_nodup := by decide

/-- The statuses of payments 1 and 3 after the callback. -/
def statusesAfter (request : ProcessCallbackRequest) :
    Option PaymentStatus × Option PaymentStatus :=
  let final := (processCallback (fun _ => none) verifyNotice undisturbed request
    (world twoPayments)).2
  (final.statusOf 1, final.statusOf 3)

end Samples

open scoped Samples in
/-- `FAILED` and `TIMEOUT` are read as one report. -/
theorem callback_effect_iff_timeout :
    SameEffect (fun _ => none) Samples.verifyNotice
      (Samples.notice "MP-1" .failed) (Samples.notice "MP-1" .timeout) := by
  have hreport : report (fun _ => none) (Samples.notice "MP-1" .failed) =
      report (fun _ => none) (Samples.notice "MP-1" .timeout) := by
    decide
  have hverified : Samples.verifyNotice
      (Samples.notice "MP-1" .failed).rawPayload
      (Samples.notice "MP-1" .failed).signature = true := by
    decide
  have hiff : SameEffect (fun _ => none) Samples.verifyNotice
      (Samples.notice "MP-1" .failed) (Samples.notice "MP-1" .timeout) ↔ _ :=
    callback_effect_iff (fun _ => none) ⟨"100", Samples.hundred, rfl⟩ rfl rfl
      hverified
  exact hiff.mpr hreport

open scoped Samples in
/-- One signature over one payload fails payment 1 or completes payment 3. -/
theorem unsigned_fields_decide :
    (Samples.notice "MP-1" .failed).rawPayload =
        (Samples.notice "MP-2" .success).rawPayload ∧
      (Samples.notice "MP-1" .failed).signature =
        (Samples.notice "MP-2" .success).signature ∧
        Samples.verifyNotice (Samples.notice "MP-1" .failed).rawPayload
          (Samples.notice "MP-1" .failed).signature = true ∧
          Samples.statusesAfter (Samples.notice "MP-1" .failed) =
              (some .failed, some .processing) ∧
            Samples.statusesAfter (Samples.notice "MP-2" .success) =
              (some .processing, some .completed) := by
  decide +kernel

end UssdKernel.PaymentEngine
