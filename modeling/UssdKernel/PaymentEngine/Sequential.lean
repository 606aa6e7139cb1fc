import UssdKernel.PaymentEngine.Handlers

/-!
# One handler running alone

An environment decides in advance which database statements of a call fail,
how each provider request is answered and whether it creates a charge, and
what the clock shows.  A failed statement has no effect.  Each repository
method then either takes its whole effect or ends the call with the world as
it was, and the outcome of a handler is a short list of cases.
-/

namespace UssdKernel.PaymentEngine

open UssdKernel.Programs

/-- The behaviour of database, provider and clock during one call; statements,
requests and readings are numbered from 0. -/
structure Env where
  failure : ℕ → Option String
  charged : ℕ → Bool
  reply : ℕ → Except DomainError ProviderResponse
  clock : ℕ → DateTime

/-! ## Effects on the world -/

namespace World

def save [DecimalText] (world : World) (payment : Payment) : World :=
  { world with db.payments := world.db.payments.upsert (.ofPayment payment) }

/-- The topic id that `append_outbox` uses. -/
def topicId (world : World) : Uuid :=
  ((world.db.topics.find? fun topic => topic.isActive).map
    CdcTopic.topicId).getD nilUuid

def append (world : World) (row : OutboxRow) : World :=
  { world with db.outbox := world.db.outbox ++ [row] }

def charge (world : World) (charges : ℕ) : World :=
  { world with charges := world.charges + charges }

@[simp]
theorem payments_append (world : World) (row : OutboxRow) :
    (world.append row).db.payments = world.db.payments := rfl

@[simp]
theorem payments_charge (world : World) (charges : ℕ) :
    (world.charge charges).db.payments = world.db.payments := rfl

end World

/-- A call in progress. -/
structure Session where
  world : World
  statements : ℕ
  requests : ℕ
  readings : ℕ

namespace Session

def start (world : World) : Session where
  world
  statements := 0
  requests := 0
  readings := 0

def count (session : Session) : Op → Session
  | .statement _ => { session with statements := session.statements + 1 }
  | .initiate _ => { session with requests := session.requests + 1 }
  | .utcNow => { session with readings := session.readings + 1 }

/-- The session after `count` statements without effect. -/
def passed (session : Session) (count : ℕ) : Session :=
  { session with statements := session.statements + count }

@[simp]
theorem passed_passed (session : Session) (first second : ℕ) :
    (session.passed first).passed second = session.passed (first + second) := by
  simp [passed, Nat.add_assoc]

theorem start_passed (world : World) (count : ℕ) :
    (start world).passed count = ⟨world, count, 0, 0⟩ := by
  simp [start, passed]

end Session

namespace Env

def choice (env : Env) (session : Session) : Choice where
  failure := env.failure session.statements
  charged := env.charged session.requests
  reply := env.reply session.requests
  now := env.clock session.readings

def respond (env : Env) (op : Op) (session : Session) : op.Res × Session :=
  let answer := op.respond (env.choice session) session.world
  (answer.1, { session.count op with world := answer.2 })

/-- The `count` statements from number `first` on succeed. -/
def Succeeds (env : Env) (first count : ℕ) : Prop :=
  ∀ n < count, env.failure (first + n) = none

instance (env : Env) (first count : ℕ) : Decidable (env.Succeeds first count) :=
  inferInstanceAs (Decidable (∀ n < count, env.failure (first + n) = none))

theorem Succeeds.mono {env : Env} {first count less : ℕ}
    (hsucceeds : env.Succeeds first count) (hle : less ≤ count) :
    env.Succeeds first less :=
  fun n hn => hsucceeds n (hn.trans_le hle)

theorem succeeds_add (env : Env) (first count more : ℕ) :
    env.Succeeds first (count + more) ↔
      env.Succeeds first count ∧ env.Succeeds (first + count) more := by
  constructor
  · intro hsucceeds
    refine ⟨hsucceeds.mono (Nat.le_add_right count more), fun n hn => ?_⟩
    have hlater := hsucceeds (count + n) (by omega)
    rwa [← Nat.add_assoc] at hlater
  · rintro ⟨hfirst, hmore⟩ n hn
    by_cases hearly : n < count
    · exact hfirst n hearly
    · have hlate := hmore (n - count) (by omega)
      rwa [show first + count + (n - count) = first + n by omega] at hlate

theorem succeeds_one (env : Env) (first : ℕ) :
    env.Succeeds first 1 ↔ env.failure first = none := by
  simp [Succeeds]

/-- The program ends with an error and no effect. -/
def Aborts (env : Env) {A : Type} (program : Handler A)
    (session : Session) : Prop :=
  ∃ error count,
    program.exec env.respond session = (.error error, session.passed count)

section Programs

variable {env : Env} {A B : Type} {session : Session} {program : Handler A}

theorem Aborts.bind (haborts : env.Aborts program session)
    (next : A → Handler B) : env.Aborts (program >>= next) session := by
  obtain ⟨error, count, hexec⟩ := haborts
  exact ⟨error, count, Prog.exec_bind_of_error hexec⟩

theorem aborts_bind {next : A → Handler B} {value : A} {count : ℕ}
    (hexec : program.exec env.respond session =
      (.ok value, session.passed count))
    (hnext : env.Aborts (next value) (session.passed count)) :
    env.Aborts (program >>= next) session := by
  obtain ⟨error, more, hmore⟩ := hnext
  refine ⟨error, count + more, ?_⟩
  rw [Prog.exec_bind_of_ok hexec, hmore, Session.passed_passed]

theorem aborts_raise (error : DomainError) :
    env.Aborts (Prog.raise error : Handler A) session :=
  ⟨error, 0, rfl⟩

/-! ## Repository methods -/

variable {stmt : Stmt}

theorem exec_query (hok : env.failure session.statements = none) :
    (query stmt).exec env.respond session =
      (.ok (stmt.autocommit session.world.db).1,
        { session.passed 1 with
          world.db := (stmt.autocommit session.world.db).2 }) := by
  simp [query, respond, choice, Op.respond, hok, Session.count, Session.passed]

theorem exec_query_failed {message : String}
    (hfailed : env.failure session.statements = some message) :
    (query stmt).exec env.respond session =
      (.error (.databaseError message), session.passed 1) := by
  simp [query, respond, choice, Op.respond, hfailed, Session.count,
    Session.passed]

theorem aborts_query (hfailed : env.failure session.statements ≠ none) :
    env.Aborts (query stmt) session := by
  obtain ⟨message, hmessage⟩ := Option.ne_none_iff_exists'.mp hfailed
  exact ⟨.databaseError message, 1, exec_query_failed hmessage⟩

variable {tenantId : Uuid} {eventType : String} {aggregateId : Uuid}
  {payload : Payload} {key : String}

theorem exec_setTenant (hok : env.failure session.statements = none) :
    (setTenant tenantId).exec env.respond session =
      (.ok (), session.passed 1) :=
  exec_query hok

theorem exec_utcNow_bind {next : DateTime → Handler A} :
    (utcNow >>= next).exec env.respond session =
      (next (env.clock session.readings)).exec env.respond
        { session with readings := session.readings + 1 } := rfl

/-- A method that starts with the tenant setting aborts if any of its
statements fails, provided that the rest of it does. -/
theorem aborts_setTenant_bind {next : Unit → Handler A} (count : ℕ)
    (hfailed : ¬ env.Succeeds session.statements (1 + count))
    (hnext : ¬ env.Succeeds (session.passed 1).statements count →
      env.Aborts (next ()) (session.passed 1)) :
    env.Aborts (setTenant tenantId >>= next) session := by
  rw [succeeds_add, succeeds_one] at hfailed
  by_cases hok : env.failure session.statements = none
  · apply aborts_bind (exec_setTenant hok)
    exact hnext fun hlater => hfailed ⟨hok, hlater⟩
  · have htenant : env.Aborts (setTenant tenantId) session := aborts_query hok
    exact htenant.bind next

theorem exec_appendOutbox (hok : env.Succeeds session.statements 3) :
    (appendOutbox eventType aggregateId payload key tenantId).exec env.respond
        session =
      (.ok (),
        { session.passed 3 with
          world := session.world.append
            { topicId := session.world.topicId
              eventType
              aggregateType := "payment"
              aggregateId
              payload } }) := by
  rw [succeeds_add env _ 1 2, succeeds_add env _ 1 1, succeeds_one,
    succeeds_one, succeeds_one] at hok
  rw [appendOutbox, Prog.exec_bind_of_ok (exec_setTenant hok.1),
    Prog.exec_bind_of_ok (exec_query hok.2.1)]
  exact exec_query hok.2.2

theorem aborts_appendOutbox (hfailed : ¬ env.Succeeds session.statements 3) :
    env.Aborts (appendOutbox eventType aggregateId payload key tenantId)
      session := by
  apply aborts_setTenant_bind 2 hfailed
  intro hlater
  rw [succeeds_add env _ 1 1, succeeds_one, succeeds_one] at hlater
  by_cases hok : env.failure (session.passed 1).statements = none
  · apply aborts_bind (exec_query hok)
    exact aborts_query fun hinsert => hlater ⟨hok, hinsert⟩
  · have htopic : env.Aborts (query .selectActiveTopic) (session.passed 1) :=
      aborts_query hok
    exact htopic.bind _

section Storage

variable [DecimalText]

variable {filter : PaymentFilter}

theorem exec_fetchPayment (hok : env.failure session.statements = none) :
    (fetchPayment filter).exec env.respond session =
      (convert (session.world.db.payments.rows.find? filter.admits),
        session.passed 1) := by
  rw [fetchPayment, Prog.exec_bind_of_ok (exec_query hok)]
  rfl

variable {tenantId : Uuid} {next : Option Payment → Handler A}
  {payment : Payment}

/-- Each lookup is the tenant setting followed by one select. -/
theorem exec_find (hok : env.Succeeds session.statements 2) :
    (setTenant tenantId >>= fun _ => fetchPayment filter).exec env.respond
        session =
      (convert (session.world.db.payments.rows.find? filter.admits),
        session.passed 2) := by
  rw [succeeds_add env _ 1 1, succeeds_one, succeeds_one] at hok
  rw [Prog.exec_bind_of_ok (exec_setTenant hok.1)]
  exact exec_fetchPayment hok.2

theorem exec_find_some {row : PaymentRow}
    (hok : env.Succeeds session.statements 2)
    (hrow : session.world.db.payments.rows.find? filter.admits = some row) :
    ((setTenant tenantId >>= fun _ => fetchPayment filter) >>= next).exec
        env.respond session =
      match Payment.tryFrom row with
      | .ok payment =>
          (next (some payment)).exec env.respond (session.passed 2)
      | .error error => (.error error, session.passed 2) := by
  rw [Prog.exec_bind, exec_find hok, hrow]
  cases hpayment : Payment.tryFrom row <;>
    simp [convert, hpayment, bind, Except.bind]

theorem exec_find_none (hok : env.Succeeds session.statements 2)
    (hrow : session.world.db.payments.rows.find? filter.admits = none) :
    ((setTenant tenantId >>= fun _ => fetchPayment filter) >>= next).exec
        env.respond session =
      (next none).exec env.respond (session.passed 2) := by
  rw [Prog.exec_bind, exec_find hok, hrow]
  rfl

theorem aborts_find (hfailed : ¬ env.Succeeds session.statements 2) :
    env.Aborts (setTenant tenantId >>= fun _ => fetchPayment filter)
      session := by
  apply aborts_setTenant_bind 1 hfailed
  intro hlater
  rw [succeeds_one] at hlater
  have hselect : env.Aborts (query (.selectPayment filter)) (session.passed 1) :=
    aborts_query hlater
  exact hselect.bind _

theorem exec_savePayment (hok : env.Succeeds session.statements 2) :
    (savePayment payment).exec env.respond session =
      (.ok (),
        { session.passed 2 with world := session.world.save payment }) := by
  rw [succeeds_add env _ 1 1, succeeds_one, succeeds_one] at hok
  rw [savePayment, Prog.exec_bind_of_ok (exec_setTenant hok.1)]
  exact exec_query hok.2

theorem aborts_savePayment (hfailed : ¬ env.Succeeds session.statements 2) :
    env.Aborts (savePayment payment) session := by
  apply aborts_setTenant_bind 1 hfailed
  intro hlater
  rw [succeeds_one] at hlater
  exact aborts_query hlater

end Storage

/-! ## The provider -/

/-- The answer of the retry loop: the first `Ok`, else the last error. -/
def answer (env : Env) (first : ℕ) :
    ℕ → Option DomainError → Except DomainError ProviderResponse
  | 0, lastError =>
      .error (lastError.getD
        (.providerError "Unknown provider error after retries"))
  | remaining + 1, _ =>
      match env.reply first with
      | .ok response => .ok response
      | .error error => env.answer (first + 1) remaining (some error)

/-- The requests the retry loop makes: up to the first `Ok`. -/
def requestsMade (env : Env) (first : ℕ) : ℕ → ℕ
  | 0 => 0
  | remaining + 1 =>
      match env.reply first with
      | .ok _ => 1
      | .error _ => 1 + env.requestsMade (first + 1) remaining

/-- The charges created by the `count` requests from number `first` on. -/
def charges (env : Env) (first count : ℕ) : ℕ :=
  (List.range' first count).countP env.charged

theorem charges_one (env : Env) (first : ℕ) :
    env.charges first 1 = (env.charged first).toNat := by
  cases hcharged : env.charged first <;> simp [charges, hcharged]

theorem charges_add (env : Env) (first count more : ℕ) :
    env.charges first (count + more) =
      env.charges first count + env.charges (first + count) more := by
  rw [charges, ← List.range'_append_1, List.countP_append]
  rfl

/-- The session after `count` requests. -/
def requested (env : Env) (session : Session) (count : ℕ) : Session :=
  { session with
    world := session.world.charge (env.charges session.requests count)
    requests := session.requests + count }

theorem requested_requested (env : Env) (session : Session)
    (count more : ℕ) :
    env.requested (env.requested session count) more =
      env.requested session (count + more) := by
  simp [requested, World.charge, charges_add, Nat.add_assoc]

theorem respond_initiate (payment : Payment) :
    env.respond (.initiate payment) session =
      (env.reply session.requests, env.requested session 1) := by
  simp [respond, choice, Op.respond, requested, charges_one, World.charge,
    Session.count]

theorem exec_attemptsLoop {payment : Payment} (remaining : ℕ)
    (lastError : Option DomainError) :
    (InitiatePaymentHandler.attemptsLoop payment remaining lastError).exec
        env.respond session =
      (env.answer session.requests remaining lastError,
        env.requested session
          (env.requestsMade session.requests remaining)) := by
  induction remaining generalizing session lastError with
  | zero => rfl
  | succ remaining ih =>
      rw [InitiatePaymentHandler.attemptsLoop, Prog.exec_perform,
        respond_initiate, answer, requestsMade]
      cases env.reply session.requests with
      | ok response => rfl
      | error error =>
          dsimp only
          rw [ih, requested_requested]
          rfl

end Programs

end Env

/-- Statements succeed, and the provider refuses without charging. -/
def Samples.reliable : Env where
  failure _ := none
  charged _ := false
  reply _ := .error (.providerError "declined")
  clock _ := 5

end UssdKernel.PaymentEngine
