import UssdKernel.PaymentEngine.Handlers

/-!
# What the handlers do under every response

A contract that watches only payment rows and provider requests sees of
`InitiatePaymentHandler::handle` a lookup, a first save, requests and saves of
the outcome, and of `ProcessCallbackHandler::handle` lookups and one save.
These rules say once what such a contract has to provide for in each phase;
the responses stay arbitrary, so other handlers may run in between.
-/

namespace UssdKernel.PaymentEngine

open UssdKernel.Programs

section Watching

variable {Note : Type} {contract : Prog.Contract Op Op.Res Note} {A : Type}

/-- The contract looks at payment rows and provider requests only, and a
failed statement tells it nothing. -/
structure WatchesPayments (contract : Prog.Contract Op Op.Res Note) :
    Prop where
  setLocalTenant :
    ∀ tenantId, contract.Ignores (.statement (.setLocalTenant tenantId))
  selectActiveTopic : contract.Ignores (.statement .selectActiveTopic)
  insertOutbox : ∀ row, contract.Ignores (.statement (.insertOutbox row))
  utcNow : contract.Ignores .utcNow
  failed : ∀ note stmt message,
    contract.observe note (.statement stmt) (.error message) = note

variable (hwatches : WatchesPayments contract)

include hwatches

variable {note : Note}

section Queries

variable {stmt : Stmt} {post : Note → Except DomainError stmt.Rows → Prop}

theorem meets_query (hallowed : contract.allowed note (.statement stmt))
    (hrows : ∀ rows,
      post (contract.observe note (.statement stmt) (.ok rows)) (.ok rows))
    (hfailed : ∀ error, post note (.error error)) :
    (query stmt).Meets contract post note := by
  refine ⟨hallowed, fun response => ?_⟩
  cases response with
  | ok rows => exact hrows rows
  | error message =>
      rw [hwatches.failed]
      exact hfailed _

theorem meets_query_of_ignores (hignores : contract.Ignores (.statement stmt))
    (hpost : ∀ result, post note result) :
    (query stmt).Meets contract post note := by
  apply meets_query hwatches (hignores note).1
  · intro rows
    rw [(hignores note).2]
    exact hpost _
  · intro error
    exact hpost _

end Queries

theorem meets_setTenant {tenantId : Uuid}
    {post : Note → Except DomainError Unit → Prop}
    (hpost : ∀ result, post note result) :
    (setTenant tenantId).Meets contract post note :=
  meets_query_of_ignores hwatches (hwatches.setLocalTenant tenantId) hpost

theorem meets_utcNow_bind {next : DateTime → Handler A}
    {post : Note → Except DomainError A → Prop}
    (hnext : ∀ now, (next now).Meets contract post note) :
    (utcNow >>= next).Meets contract post note :=
  Prog.meets_perform_of_ignores hwatches.utcNow hnext

theorem meets_appendOutbox {eventType : String} {aggregateId : Uuid}
    {payload : Payload} {key : String} {tenantId : Uuid}
    {post : Note → Except DomainError Unit → Prop}
    (hpost : ∀ result, post note result) :
    (appendOutbox eventType aggregateId payload key tenantId).Meets contract
      post note := by
  unfold appendOutbox
  rw [Prog.meets_bind]
  apply meets_setTenant hwatches
  rintro (error | _)
  · exact hpost _
  rw [Prog.meets_bind]
  apply meets_query_of_ignores hwatches hwatches.selectActiveTopic
  rintro (error | topicId)
  · exact hpost _
  exact meets_query_of_ignores hwatches (hwatches.insertOutbox _) hpost

section Storage

variable [DecimalText] {row : Option PaymentRow}

theorem meets_savePayment {payment : Payment} {note : Note}
    {post : Note → Except DomainError Unit → Prop}
    (hallowed : contract.allowed note
      (.statement (.upsertPayment (.ofPayment payment))))
    (hsaved : post (contract.observe note
      (.statement (.upsertPayment (.ofPayment payment))) (.ok ())) (.ok ()))
    (hfailed : ∀ error, post note (.error error)) :
    (savePayment payment).Meets contract post note := by
  unfold savePayment
  rw [Prog.meets_bind]
  apply meets_setTenant hwatches
  rintro (error | _)
  · exact hfailed error
  · exact meets_query hwatches hallowed (fun _ => hsaved) hfailed

omit hwatches in
theorem convert_eq_ok_none (hconvert : convert row = .ok none) :
    row = none := by
  cases row with
  | none => rfl
  | some row =>
      obtain ⟨found, -, hsome⟩ := Results.bind_eq_ok.mp hconvert
      cases hsome

omit hwatches in
theorem convert_eq_ok_some {payment : Payment}
    (hconvert : convert row = .ok (some payment)) :
    ∃ found, row = some found ∧ Payment.tryFrom found = .ok payment := by
  cases row with
  | none => simp [convert] at hconvert
  | some row =>
      obtain ⟨found, hpayment, hsome⟩ := Results.bind_eq_ok.mp hconvert
      cases hsome
      exact ⟨row, rfl, hpayment⟩

theorem meets_fetchPayment {filter : PaymentFilter} {note : Note}
    {post : Note → Except DomainError (Option Payment) → Prop}
    (hallowed : contract.allowed note (.statement (.selectPayment filter)))
    (hnone : post (contract.observe note (.statement (.selectPayment filter))
      (.ok none)) (.ok none))
    (hsome : ∀ row payment, Payment.tryFrom row = .ok payment →
      post (contract.observe note (.statement (.selectPayment filter))
        (.ok (some row))) (.ok (some payment)))
    (herror : ∀ later error, post later (.error error)) :
    (fetchPayment filter).Meets contract post note := by
  unfold fetchPayment
  rw [Prog.meets_bind]
  refine meets_query hwatches hallowed (fun rows => ?_) (fun _ => herror _ _)
  change post _ (convert rows)
  cases hconvert : convert rows with
  | error error => exact herror _ _
  | ok found =>
      cases found with
      | none =>
          obtain rfl := convert_eq_ok_none hconvert
          exact hnone
      | some payment =>
          obtain ⟨row, rfl, hpayment⟩ := convert_eq_ok_some hconvert
          exact hsome row payment hpayment

namespace InitiatePaymentHandler

omit hwatches [DecimalText] in
theorem meets_attemptsLoop {payment : Payment} {Stays : Note → Prop}
    (hstays : ∀ note, Stays note →
      contract.allowed note (.initiate payment) ∧
        ∀ response, Stays (contract.observe note (.initiate payment) response))
    (remaining : ℕ) (lastError : Option DomainError) {note : Note}
    (hnote : Stays note) :
    (attemptsLoop payment remaining lastError).Meets contract
      (fun later _ => Stays later) note := by
  induction remaining generalizing lastError note with
  | zero => exact hnote
  | succ remaining ih =>
      refine ⟨(hstays note hnote).1, fun response => ?_⟩
      have hlater := (hstays note hnote).2 response
      cases response with
      | ok response => exact hlater
      | error error => exact ih (some error) hlater

/-- The phases a contract distinguishes in `handle`: `Looking` holds of the
note before the first save, `Saved` after it. -/
structure Phases (contract : Prog.Contract Op Op.Res Note)
    (cmd : InitiatePaymentCommand) (Looking Saved : Note → Prop) : Prop where
  find : ∀ note, Looking note →
    contract.allowed note
        (.statement (.selectPayment (.idempotencyKey cmd.idempotencyKey))) ∧
      Looking (contract.observe note
        (.statement (.selectPayment (.idempotencyKey cmd.idempotencyKey)))
        (.ok none))
  save : ∀ note now payment, Looking note → newPayment cmd now = .ok payment →
    contract.allowed note (.statement (.upsertPayment (.ofPayment payment))) ∧
      Saved (contract.observe note
        (.statement (.upsertPayment (.ofPayment payment))) (.ok ()))
  request : ∀ note payment, Saved note →
    contract.allowed note (.initiate payment) ∧
      ∀ response, Saved (contract.observe note (.initiate payment) response)
  result : ∀ note payment, Saved note →
    contract.allowed note (.statement (.upsertPayment (.ofPayment payment)))

section Phases

variable {cmd : InitiatePaymentCommand} {Looking Saved : Note → Prop}
variable (hphases : Phases contract cmd Looking Saved)

include hphases

theorem meets_checkIdempotency (hnote : Looking note)
    {post : Note → Except DomainError Unit → Prop}
    (hok : ∀ later, Looking later → post later (.ok ()))
    (herror : ∀ later error, post later (.error error)) :
    (checkIdempotency cmd).Meets contract post note := by
  have hfind := hphases.find note hnote
  unfold checkIdempotency findByIdempotencyKey
  rw [Prog.meets_bind, Prog.meets_bind]
  apply meets_setTenant hwatches
  rintro (error | _)
  · exact herror _ _
  · exact meets_fetchPayment hwatches hfind.1 (hok _ hfind.2)
      (fun _ _ _ => herror _ _) herror

theorem meets_recordInitiated {payment : Payment} {response : ProviderResponse}
    (hnote : Saved note) :
    (recordInitiated cmd payment response).Meets contract (fun _ _ => True)
      note := by
  unfold recordInitiated
  cases payment.markProcessing with
  | error error => trivial
  | ok processing =>
      rw [Prog.bind_done_ok, Prog.meets_bind]
      refine meets_savePayment hwatches (hphases.result _ _ hnote) ?_
        (fun _ => trivial)
      rw [Prog.meets_bind]
      apply meets_appendOutbox hwatches
      rintro (error | _) <;> trivial

theorem meets_recordFailed {payment : Payment} {error : DomainError}
    (hnote : Saved note) :
    (recordFailed cmd payment error).Meets contract (fun _ _ => True) note := by
  unfold recordFailed
  apply meets_utcNow_bind hwatches
  intro now
  rw [Prog.meets_bind]
  refine meets_savePayment hwatches (hphases.result _ _ hnote) ?_
    (fun _ => trivial)
  rw [Prog.meets_bind, Prog.meets_attempt]
  apply meets_appendOutbox hwatches
  intro result
  trivial

/-- A contract that provides for every phase is met by the whole handler. -/
theorem meets_handle (hnote : Looking note) :
    (handle cmd).Meets contract (fun _ _ => True) note := by
  unfold handle
  rw [Prog.meets_bind]
  refine meets_checkIdempotency hwatches hphases hnote (fun later hlater => ?_)
    (fun _ _ => trivial)
  apply meets_utcNow_bind hwatches
  intro now
  cases hnew : newPayment cmd now with
  | error error => trivial
  | ok payment =>
      have hsave := hphases.save later now payment hlater hnew
      rw [Prog.bind_done_ok, Prog.meets_bind]
      refine meets_savePayment hwatches hsave.1 ?_ (fun _ => trivial)
      rw [Prog.meets_bind, Prog.meets_attempt]
      refine Prog.Meets.mono (fun later result hsaved => ?_)
        (meets_attemptsLoop (fun note => hphases.request note payment)
          maxAttempts none hsave.2)
      cases result with
      | ok response => exact meets_recordInitiated hwatches hphases hsaved
      | error error => exact meets_recordFailed hwatches hphases hsaved

end Phases

end InitiatePaymentHandler

namespace ProcessCallbackHandler

/-- The phases of a callback: `Looking` before a payment is found, and
`Found payment` from then on. -/
structure Phases (contract : Prog.Contract Op Op.Res Note)
    (Looking : Note → Prop) (Found : Payment → Note → Prop) : Prop where
  find : ∀ note filter, Looking note →
    contract.allowed note (.statement (.selectPayment filter)) ∧
      Looking (contract.observe note (.statement (.selectPayment filter))
        (.ok none)) ∧
      ∀ row payment, Payment.tryFrom row = .ok payment →
        Found payment (contract.observe note
          (.statement (.selectPayment filter)) (.ok (some row)))
  save : ∀ note payment now reported providerRef, Found payment note →
    contract.allowed note (.statement (.upsertPayment
      (.ofPayment (payment.applyProviderStatus now reported providerRef))))

section Phases

variable {Looking : Note → Prop} {Found : Payment → Note → Prop}
variable (hphases : Phases contract Looking Found)

include hphases

variable {cmd : ProcessCallbackCommand}

section Lookup

variable (hnote : Looking note)
  {post : Note → Except DomainError Payment → Prop}
  (hok : ∀ later payment, Found payment later → post later (.ok payment))
  (herror : ∀ later error, post later (.error error))

include hnote hok herror

theorem meets_lookupById : (lookupById cmd).Meets contract post note := by
  unfold lookupById getPaymentById
  cases cmd.paymentId with
  | none => exact herror _ _
  | some paymentId =>
      dsimp only
      rw [Prog.meets_bind, Prog.meets_bind]
      apply meets_setTenant hwatches
      rintro (error | _)
      · exact herror _ _
      have hbyId := hphases.find note (.paymentId paymentId) hnote
      exact meets_fetchPayment hwatches hbyId.1 (herror _ _)
        (fun row payment hpayment => hok _ _ (hbyId.2.2 row payment hpayment))
        herror

theorem meets_lookup : (lookup cmd).Meets contract post note := by
  unfold lookup getPaymentByProviderRef
  rw [Prog.meets_bind, Prog.meets_bind]
  apply meets_setTenant hwatches
  rintro (error | _)
  · exact herror _ _
  have hbyRef := hphases.find note (.providerReference cmd.providerReference) hnote
  exact meets_fetchPayment hwatches hbyRef.1
    (meets_lookupById hwatches hphases hbyRef.2.1 hok herror)
    (fun row payment hpayment => hok _ _ (hbyRef.2.2 row payment hpayment)) herror

end Lookup

theorem meets_handle {verify : List UInt8 → String → Bool}
    (hnote : Looking note) :
    (handle verify cmd).Meets contract (fun _ _ => True) note := by
  unfold handle
  split
  · rw [Prog.meets_bind]
    refine meets_lookup hwatches hphases hnote (fun later payment hfound => ?_)
      (fun _ _ => trivial)
    apply meets_utcNow_bind hwatches
    intro now
    rw [Prog.meets_bind]
    refine meets_savePayment hwatches (hphases.save _ _ _ _ _ hfound) ?_
      (fun _ => trivial)
    unfold appendEvent
    rw [Prog.meets_bind]
    apply meets_appendOutbox hwatches
    rintro (error | _) <;> trivial
  · trivial

end Phases

end ProcessCallbackHandler

end Storage

end Watching

end UssdKernel.PaymentEngine
