import UssdKernel.PaymentEngine.Lifecycle
import UssdKernel.PaymentEngine.Sequential

/-!
# What one call of a handler leaves behind

Both handlers end by saving a payment and appending an event for it, with two
and three statements of their own.  Which of the three possible worlds is left
depends only on where the first failure is.
-/

namespace UssdKernel.PaymentEngine

open UssdKernel.Programs

section Outcomes

variable [DecimalText] {env : Env} {world : World}

/-- A save and an append whose statements start at number `first`. -/
def Env.recorded (env : Env) (first : ℕ) (world : World) (payment : Payment)
    (row : OutboxRow) : World :=
  if env.Succeeds first 2 then
    if env.Succeeds (first + 2) 3 then (world.save payment).append row
    else world.save payment
  else world

/-- The row that `append_outbox` inserts for a payment. -/
def World.eventRow (world : World) (eventType : String) (payment : Payment)
    (payload : Payload) : OutboxRow where
  topicId := world.topicId
  eventType
  aggregateType := "payment"
  aggregateId := payment.paymentId
  payload

theorem statusOf_save (payment : Payment) (paymentId : Uuid) :
    (world.save payment).db.payments.statusOf paymentId =
      if payment.paymentId = paymentId then some payment.status
      else world.db.payments.statusOf paymentId := by
  rw [World.save, PaymentTable.statusOf_upsert]
  simp [PaymentRow.ofPayment, Except.toOption]

variable {payment : Payment}

section Recorded

variable (payment) (first : ℕ) (row : OutboxRow)

@[simp]
theorem charges_recorded :
    (env.recorded first world payment row).charges = world.charges := by
  unfold Env.recorded
  split
  · split <;> rfl
  · rfl

theorem statusOf_recorded (paymentId : Uuid) :
    (env.recorded first world payment row).db.payments.statusOf paymentId =
      if env.Succeeds first 2 ∧ payment.paymentId = paymentId then
        some payment.status
      else world.db.payments.statusOf paymentId := by
  have hsave : (world.save payment).db.payments.statusOf paymentId = _ :=
    statusOf_save payment paymentId
  unfold Env.recorded
  by_cases hok : env.Succeeds first 2
  · by_cases happend : env.Succeeds (first + 2) 3
    · simpa [hok, happend] using hsave
    · simpa [hok, happend] using hsave
  · simp [hok]

theorem outbox_recorded :
    (env.recorded first world payment row).db.outbox =
      world.db.outbox ++ if env.Succeeds first 5 then [row] else [] := by
  have hsplit := env.succeeds_add first 2 3
  unfold Env.recorded
  by_cases hok : env.Succeeds first 2
  · by_cases happend : env.Succeeds (first + 2) 3
    · rw [if_pos hok, if_pos happend, if_pos (hsplit.mpr ⟨hok, happend⟩)]
      rfl
    · have hnot : ¬ env.Succeeds first 5 := fun h => happend (hsplit.mp h).2
      rw [if_pos hok, if_neg happend, if_neg hnot, List.append_nil]
      rfl
  · have hnot : ¬ env.Succeeds first 5 := fun h => hok (h.mono (by decide))
    rw [if_neg hok, if_neg hnot, List.append_nil]

end Recorded

variable {session : Session}

omit [DecimalText] in
theorem Env.Aborts.world_eq {A : Type} {program : Handler A}
    (haborts : env.Aborts program session) :
    (program.exec env.respond session).2.world = session.world := by
  obtain ⟨error, count, hexec⟩ := haborts
  rw [hexec]
  rfl

section Outbox

variable {eventType : String} {payload : Payload} {key : String}
  {tenantId : Uuid}

omit [DecimalText] in
theorem world_exec_appendOutbox :
    ((appendOutbox eventType payment.paymentId payload key tenantId).exec
        env.respond session).2.world =
      if env.Succeeds session.statements 3 then
        session.world.append (session.world.eventRow eventType payment payload)
      else session.world := by
  split
  · next hok =>
      rw [Env.exec_appendOutbox hok]
      rfl
  · next hfailed => exact (Env.aborts_appendOutbox hfailed).world_eq

/-- A save followed by anything that leaves what an append leaves. -/
theorem world_exec_record {A : Type} {ending : Handler A}
    (hending : ∀ later, (ending.exec env.respond later).2 =
      ((appendOutbox eventType payment.paymentId payload key tenantId).exec
        env.respond later).2) :
    ((savePayment payment >>= fun _ => ending).exec env.respond
        session).2.world =
      env.recorded session.statements session.world payment
        (session.world.eventRow eventType payment payload) := by
  unfold Env.recorded
  split
  · next hsave =>
      rw [Prog.exec_bind_of_ok (Env.exec_savePayment hsave), hending,
        world_exec_appendOutbox]
      rfl
  · next hfailed => exact ((Env.aborts_savePayment hfailed).bind _).world_eq

end Outbox

/-! ## Callbacks -/

namespace ProcessCallbackHandler

/-- The result of `lookupById` when its statements succeed, and their
number. -/
def foundById (table : PaymentTable) (cmd : ProcessCallbackCommand) :
    Except DomainError Payment × ℕ :=
  match cmd.paymentId with
  | none => (.error (notFound cmd), 0)
  | some paymentId =>
      match table.byId paymentId with
      | none => (.error (notFound cmd), 2)
      | some row => (Payment.tryFrom row, 2)

/-- The result of `lookup` when its statements succeed, and their number. -/
def found (table : PaymentTable) (cmd : ProcessCallbackCommand) :
    Except DomainError Payment × ℕ :=
  match table.rows.find?
      (PaymentFilter.providerReference cmd.providerReference).admits with
  | some row => (Payment.tryFrom row, 2)
  | none => ((foundById table cmd).1, 2 + (foundById table cmd).2)

variable {cmd : ProcessCallbackCommand}

theorem exec_lookupById
    (hok : env.Succeeds session.statements
      (foundById session.world.db.payments cmd).2) :
    (lookupById cmd).exec env.respond session =
      ((foundById session.world.db.payments cmd).1,
        session.passed (foundById session.world.db.payments cmd).2) := by
  unfold lookupById getPaymentById
  unfold foundById at hok ⊢
  cases hid : cmd.paymentId with
  | none => rfl
  | some paymentId =>
      rw [hid] at hok
      dsimp only at hok ⊢
      cases hrow : session.world.db.payments.byId paymentId with
      | none =>
          rw [hrow] at hok
          exact Env.exec_find_none hok hrow
      | some row =>
          rw [hrow] at hok
          dsimp only at hok ⊢
          have hfind : session.world.db.payments.rows.find?
              (PaymentFilter.paymentId paymentId).admits = some row := hrow
          rw [Env.exec_find_some hok hfind]
          cases Payment.tryFrom row <;> rfl

theorem aborts_lookupById
    (hfailed : ¬ env.Succeeds session.statements
      (foundById session.world.db.payments cmd).2) :
    env.Aborts (lookupById cmd) session := by
  unfold lookupById getPaymentById
  unfold foundById at hfailed
  cases hid : cmd.paymentId with
  | none => exact Env.aborts_raise _
  | some paymentId =>
      rw [hid] at hfailed
      apply Env.Aborts.bind
      apply Env.aborts_find
      cases hrow : session.world.db.payments.byId paymentId <;>
        simpa only [hrow] using hfailed

theorem exec_lookup
    (hok : env.Succeeds session.statements
      (found session.world.db.payments cmd).2) :
    (lookup cmd).exec env.respond session =
      ((found session.world.db.payments cmd).1,
        session.passed (found session.world.db.payments cmd).2) := by
  unfold lookup getPaymentByProviderRef
  unfold found at hok ⊢
  cases hrow : session.world.db.payments.rows.find?
      (PaymentFilter.providerReference cmd.providerReference).admits with
  | some row =>
      rw [hrow] at hok
      dsimp only at hok ⊢
      rw [Env.exec_find_some hok hrow]
      cases Payment.tryFrom row <;> rfl
  | none =>
      rw [hrow] at hok
      dsimp only at hok ⊢
      rw [Env.succeeds_add] at hok
      rw [Env.exec_find_none hok.1 hrow, exec_lookupById hok.2,
        Session.passed_passed]
      rfl

theorem aborts_lookup
    (hfailed : ¬ env.Succeeds session.statements
      (found session.world.db.payments cmd).2) :
    env.Aborts (lookup cmd) session := by
  unfold lookup getPaymentByProviderRef
  by_cases hfirst : env.Succeeds session.statements 2
  · unfold found at hfailed
    cases hrow : session.world.db.payments.rows.find?
        (PaymentFilter.providerReference cmd.providerReference).admits with
    | some row =>
        rw [hrow] at hfailed
        exact absurd hfirst hfailed
    | none =>
        rw [hrow] at hfailed
        dsimp only at hfailed
        rw [Env.succeeds_add] at hfailed
        have hbyId : env.Aborts (lookupById cmd) (session.passed 2) :=
          aborts_lookupById fun hlater => hfailed ⟨hfirst, hlater⟩
        obtain ⟨error, count, hexec⟩ := hbyId
        exact ⟨error, 2 + count, by
          rw [Env.exec_find_none hfirst hrow, hexec, Session.passed_passed]⟩
  · exact (Env.aborts_find hfirst).bind _

variable {table : PaymentTable}

theorem found_eq_ok (hfound : (found table cmd).1 = .ok payment) :
    ∃ row ∈ table.rows, Payment.tryFrom row = .ok payment := by
  unfold found foundById at hfound
  split at hfound
  · next row hrow => exact ⟨row, List.mem_of_find?_eq_some hrow, hfound⟩
  · split at hfound
    · cases hfound
    · split at hfound
      · cases hfound
      · next row hrow => exact ⟨row, List.mem_of_find?_eq_some hrow, hfound⟩

/-- A found payment has the stored status. -/
theorem statusOf_found (hfound : (found table cmd).1 = .ok payment) :
    table.statusOf payment.paymentId = some payment.status := by
  obtain ⟨row, hmem, hrow⟩ := found_eq_ok hfound
  obtain ⟨hstatus, hid, -⟩ := tryFrom_eq_ok hrow
  rw [PaymentTable.statusOf, hid, PaymentTable.byId_of_mem hmem]
  simp [hstatus, Except.toOption]

/-- The payment that a callback saves. -/
def updated (env : Env) (cmd : ProcessCallbackCommand) (payment : Payment) :
    Payment :=
  payment.applyProviderStatus (env.clock 0) cmd.status
    (some cmd.providerReference)

variable {verify : List UInt8 → String → Bool}

section Reached

variable (verify) (env : Env) (cmd : ProcessCallbackCommand) (world : World)

/-- The world that a callback leaves. -/
def worldAfter : World :=
  ((handle verify cmd).exec env.respond (.start world)).2.world

/-- A verified callback that finds `payment` gets as far as saving it. -/
structure Reaches (payment : Payment) :
    Prop where
  verified : verify cmd.rawPayload cmd.signature = true
  looked : env.Succeeds 0 (found world.db.payments cmd).2
  eq_ok : (found world.db.payments cmd).1 = .ok payment

end Reached

theorem worldAfter_of_reaches
    (hreaches : Reaches verify env cmd world payment) :
    worldAfter verify env cmd world =
      env.recorded (found world.db.payments cmd).2 world
        (updated env cmd payment)
        (world.eventRow (eventType cmd.status) (updated env cmd payment)
          (eventPayload cmd payment.status (updated env cmd payment))) := by
  have hlookup : (lookup cmd).exec env.respond (.start world) =
      (.ok payment, ⟨world, (found world.db.payments cmd).2, 0, 0⟩) := by
    rw [← hreaches.eq_ok, ← Session.start_passed]
    exact exec_lookup hreaches.looked
  unfold worldAfter handle
  rw [if_pos hreaches.verified, Prog.exec_bind_of_ok hlookup,
    Env.exec_utcNow_bind]
  exact world_exec_record fun later => Prog.exec_bind_done_snd _ _ _ later

theorem worldAfter_of_not_reaches
    (hnone : ∀ payment, ¬ Reaches verify env cmd world payment) :
    worldAfter verify env cmd world = world := by
  unfold worldAfter handle
  split
  · next hverified =>
      by_cases hlooked : env.Succeeds 0 (found world.db.payments cmd).2
      · have hlookup : (lookup cmd).exec env.respond (.start world) = _ :=
          exec_lookup hlooked
        cases hfound : (found world.db.payments cmd).1 with
        | ok payment => exact absurd ⟨hverified, hlooked, hfound⟩ (hnone payment)
        | error error =>
            rw [Prog.exec_bind, hlookup]
            simp only [Session.start, hfound]
            rfl
      · have hlookup : env.Aborts (lookup cmd) (.start world) :=
          aborts_lookup hlooked
        exact (hlookup.bind _).world_eq
  · rfl

/-- A callback gets as far as its save or leaves the world as it was. -/
theorem worldAfter_cases (verify : List UInt8 → String → Bool) (env : Env)
    (cmd : ProcessCallbackCommand) (world : World) :
    (∃ payment, Reaches verify env cmd world payment) ∨
      worldAfter verify env cmd world = world := by
  by_cases hreach : ∃ payment, Reaches verify env cmd world payment
  · exact Or.inl hreach
  · exact Or.inr (worldAfter_of_not_reaches (not_exists.mp hreach))

end ProcessCallbackHandler

/-! ## Initiations -/

namespace InitiatePaymentHandler

variable {cmd : InitiatePaymentCommand}

/-- The initiation gets as far as the provider, with this Pending payment. -/
structure Reaches (env : Env) (cmd : InitiatePaymentCommand) (world : World)
    (payment : Payment) : Prop where
  statements : env.Succeeds 0 4
  newKey : world.db.payments.rows.find?
    (PaymentFilter.idempotencyKey cmd.idempotencyKey).admits = none
  valid : newPayment cmd (env.clock 0) = .ok payment

/-- What the environment makes `call_provider_with_retry` answer. -/
def answer (env : Env) : Except DomainError ProviderResponse :=
  env.answer 0 maxAttempts none

/-- The charges that the environment makes for the requests of
`call_provider_with_retry`. -/
def charges (env : Env) : ℕ :=
  env.charges 0 (env.requestsMade 0 maxAttempts)

/-- The payment that is saved after the provider has answered. -/
def settled (env : Env) (payment : Payment) : Payment :=
  match answer env with
  | .ok response =>
      { payment with
        status := .processing
        providerReference := some response.providerReference }
  | .error error =>
      { payment with
        status := .failed
        failureReason := some error.toText
        completedAt := some (env.clock 1) }

/-- The event that is appended after the provider has answered. -/
def settledRow (env : Env) (world : World) (payment : Payment) : OutboxRow :=
  match answer env with
  | .ok response =>
      world.eventRow "PaymentInitiated" payment
        (initiatedPayload payment response)
  | .error error =>
      world.eventRow "PaymentFailed" payment (failedPayload payment error)

/-- The world that an initiation leaves. -/
def worldAfter (env : Env) (cmd : InitiatePaymentCommand) (world : World) :
    World :=
  ((handle cmd).exec env.respond (.start world)).2.world

theorem world_exec_recordInitiated {session : Session}
    {response : ProviderResponse} (hpending : payment.status = .pending)
    (hanswer : answer env = .ok response) :
    ((recordInitiated cmd payment response).exec env.respond session).2.world =
      env.recorded session.statements session.world (settled env payment)
        (settledRow env session.world (settled env payment)) := by
  have hprocessing : payment.markProcessing =
      .ok { payment with status := .processing } := by
    simp [Payment.markProcessing, Payment.transition, hpending,
      PaymentStatus.isOpen]
  unfold recordInitiated settledRow settled
  rw [hprocessing, Prog.bind_done_ok, hanswer]
  exact world_exec_record fun later => Prog.exec_bind_done_snd _ _ _ later

theorem world_exec_recordFailed {session : Session} {error : DomainError}
    (hpending : payment.status = .pending) (hreadings : session.readings = 1)
    (hanswer : answer env = .error error) :
    ((recordFailed cmd payment error).exec env.respond session).2.world =
      env.recorded session.statements session.world (settled env payment)
        (settledRow env session.world (settled env payment)) := by
  have hfailed : payment.orKeep (payment.markFailed (env.clock 1) error.toText) =
      { payment with
        status := .failed
        failureReason := some error.toText
        completedAt := some (env.clock 1) } := by
    simp [Payment.markFailed, Payment.transition, Payment.orKeep, hpending,
      PaymentStatus.isOpen]
  unfold recordFailed settledRow settled
  rw [Env.exec_utcNow_bind, hreadings, hanswer]
  dsimp only
  rw [hfailed]
  apply world_exec_record
  intro later
  rw [Prog.raise, Prog.exec_bind_done_snd, Prog.exec_attempt]

section

variable {now : DateTime}

theorem pending_of_newPayment
    (hvalid : newPayment cmd now = .ok payment) : payment.status = .pending := by
  rw [Payment.eq_of_new_eq_ok hvalid]

theorem paymentId_of_newPayment (hvalid : newPayment cmd now = .ok payment) :
    payment.paymentId = cmd.paymentId := by
  rw [Payment.eq_of_new_eq_ok hvalid]

theorem paymentId_settled (hvalid : newPayment cmd now = .ok payment) :
    (settled env payment).paymentId = cmd.paymentId := by
  rw [← paymentId_of_newPayment hvalid, settled]
  split <;> rfl

end

theorem exec_checkIdempotency (hok : env.Succeeds 0 2)
    (hkey : world.db.payments.rows.find?
      (PaymentFilter.idempotencyKey cmd.idempotencyKey).admits = none) :
    (checkIdempotency cmd).exec env.respond (.start world) =
      (.ok (), ⟨world, 2, 0, 0⟩) :=
  Env.exec_find_none hok hkey

theorem worldAfter_of_reaches (hreaches : Reaches env cmd world payment) :
    worldAfter env cmd world =
      env.recorded 4 ((world.save payment).charge (charges env))
        (settled env payment)
        (settledRow env world (settled env payment)) := by
  obtain ⟨hstatements, hkey, hvalid⟩ := hreaches
  have hpending := pending_of_newPayment hvalid
  rw [env.succeeds_add 0 2 2] at hstatements
  have hsave : (savePayment payment).exec env.respond ⟨world, 2, 0, 1⟩ =
      (.ok (), ⟨world.save payment, 4, 0, 1⟩) :=
    Env.exec_savePayment hstatements.2
  have hcall : (callProviderWithRetry payment).attempt.exec env.respond
      ⟨world.save payment, 4, 0, 1⟩ =
      (.ok (answer env),
        env.requested ⟨world.save payment, 4, 0, 1⟩
          (env.requestsMade 0 maxAttempts)) := by
    rw [Prog.exec_attempt, callProviderWithRetry, Env.exec_attemptsLoop]
    rfl
  unfold worldAfter handle
  rw [Prog.exec_bind_of_ok (exec_checkIdempotency hstatements.1 hkey),
    Env.exec_utcNow_bind]
  dsimp only
  rw [hvalid, Prog.bind_done_ok, Prog.exec_bind_of_ok hsave,
    Prog.exec_bind_of_ok hcall]
  cases hanswer : answer env with
  | ok response => exact world_exec_recordInitiated hpending hanswer
  | error error => exact world_exec_recordFailed hpending rfl hanswer

/-- The stored status after a call that reached the provider. -/
theorem statusOf_worldAfter (hreaches : Reaches env cmd world payment) :
    (worldAfter env cmd world).db.payments.statusOf cmd.paymentId =
      some (if env.Succeeds 4 2 then (settled env payment).status
        else .pending) := by
  have hid : (settled env payment).paymentId = cmd.paymentId :=
    paymentId_settled hreaches.valid
  rw [worldAfter_of_reaches hreaches, statusOf_recorded, World.payments_charge,
    statusOf_save, hid, paymentId_of_newPayment hreaches.valid,
    pending_of_newPayment hreaches.valid]
  split <;> simp_all

theorem aborts_checkIdempotency
    (hnone : ¬ (env.Succeeds 0 2 ∧ world.db.payments.rows.find?
      (PaymentFilter.idempotencyKey cmd.idempotencyKey).admits = none)) :
    env.Aborts (checkIdempotency cmd) (.start world) := by
  by_cases hok : env.Succeeds 0 2
  · cases hrow : world.db.payments.rows.find?
        (PaymentFilter.idempotencyKey cmd.idempotencyKey).admits with
    | none => exact absurd ⟨hok, hrow⟩ hnone
    | some row =>
        have hexec : (checkIdempotency cmd).exec env.respond (.start world) = _ :=
          Env.exec_find_some hok hrow
        cases hpayment : Payment.tryFrom row with
        | ok payment | error error =>
            rw [hpayment] at hexec
            exact ⟨_, _, hexec⟩
  · have hfind : env.Aborts
        (findByIdempotencyKey cmd.tenantId cmd.idempotencyKey)
        (.start world) :=
      Env.aborts_find hok
    exact hfind.bind _

/-- An initiation that does not get as far as the provider ends with an error
and leaves the world as it was. -/
theorem exec_of_not_reaches
    (hnone : ∀ payment, ¬ Reaches env cmd world payment) :
    ∃ error after, (handle cmd).exec env.respond (.start world) =
      (.error error, after) ∧ after.world = world := by
  unfold handle
  by_cases hcheck : env.Succeeds 0 2 ∧ world.db.payments.rows.find?
      (PaymentFilter.idempotencyKey cmd.idempotencyKey).admits = none
  · rw [Prog.exec_bind_of_ok (exec_checkIdempotency hcheck.1 hcheck.2),
      Env.exec_utcNow_bind]
    dsimp only
    cases hvalid : newPayment cmd (env.clock 0) with
    | error error => exact ⟨error, _, rfl, rfl⟩
    | ok payment =>
        have hsave : ¬ env.Succeeds 2 2 := fun hsave =>
          hnone payment ⟨(env.succeeds_add 0 2 2).mpr ⟨hcheck.1, hsave⟩,
            hcheck.2, hvalid⟩
        have haborts : env.Aborts (savePayment payment) ⟨world, 2, 0, 1⟩ :=
          Env.aborts_savePayment hsave
        obtain ⟨error, count, hexec⟩ := haborts.bind _
        exact ⟨error, _, hexec, rfl⟩
  · obtain ⟨error, count, hexec⟩ := (aborts_checkIdempotency hcheck).bind _
    exact ⟨error, _, hexec, rfl⟩

theorem worldAfter_of_not_reaches
    (hnone : ∀ payment, ¬ Reaches env cmd world payment) :
    worldAfter env cmd world = world := by
  obtain ⟨error, after, hexec, hafter⟩ := exec_of_not_reaches hnone
  rw [worldAfter, hexec, hafter]

/-- An initiation gets as far as the provider or leaves the world as it was. -/
theorem worldAfter_cases (env : Env) (cmd : InitiatePaymentCommand)
    (world : World) :
    (∃ payment, Reaches env cmd world payment) ∨
      worldAfter env cmd world = world := by
  by_cases hreach : ∃ payment, Reaches env cmd world payment
  · exact Or.inl hreach
  · exact Or.inr (worldAfter_of_not_reaches (not_exists.mp hreach))

/-- An initiation stores no payment but its own. -/
theorem statusOf_worldAfter_of_ne {paymentId : Uuid}
    (hne : cmd.paymentId ≠ paymentId) :
    (worldAfter env cmd world).db.payments.statusOf paymentId =
      world.db.payments.statusOf paymentId := by
  rcases worldAfter_cases env cmd world with ⟨payment, hreaches⟩ | hsame
  · rw [worldAfter_of_reaches hreaches, statusOf_recorded,
      paymentId_settled hreaches.valid, if_neg (fun hsaved => hne hsaved.2),
      World.payments_charge, statusOf_save,
      paymentId_of_newPayment hreaches.valid, if_neg hne]
  · rw [hsame]

/-- A payment that has reached the provider is not stored as Completed. -/
theorem statusOf_worldAfter_ne_completed
    (hreaches : Reaches env cmd world payment) :
    (worldAfter env cmd world).db.payments.statusOf cmd.paymentId ≠
      some .completed := by
  rw [statusOf_worldAfter hreaches, Ne, Option.some.injEq]
  split
  · unfold settled
    split <;> exact nofun
  · exact nofun

end InitiatePaymentHandler

end Outcomes

end UssdKernel.PaymentEngine
