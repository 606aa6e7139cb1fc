import UssdKernel.Core.Programs
import UssdKernel.PaymentEngine.Rows

/-!
# The repositories and their database

`PgPaymentRepository` and `OutboxRepository` send every statement to the pool,
so each statement is a transaction of its own.  A `SET LOCAL` changes the
setting of its own transaction only; row filtering by
`app.current_tenant_id` applies to a statement whose transaction has the
setting.  Both facts are consequences of `Stmt.autocommit` here, not built
into the single statements.

The methods are programs over three kinds of operations: a statement, a
request to the mobile money provider, and a reading of the clock.
-/

namespace UssdKernel.PaymentEngine

open UssdKernel.Programs

/-! ## The database -/

/-- The values that the event payloads hold. -/
inductive PayloadValue
  | text (value : String)
  | uuid (value : Uuid)
  deriving DecidableEq

abbrev Payload := List (String × PayloadValue)

/-- A row of `events.cdc_outbox`. -/
structure OutboxRow where
  topicId : Uuid
  eventType : String
  aggregateType : String
  aggregateId : Uuid
  payload : Payload
  deriving DecidableEq

/-- A row of `events.cdc_topics`. -/
structure CdcTopic where
  topicId : Uuid
  isActive : Bool
  deriving DecidableEq

structure Db where
  payments : PaymentTable
  topics : List CdcTopic
  outbox : List OutboxRow

/-- The `WHERE` clauses of the lookups: one column each, and never the
tenant. -/
inductive PaymentFilter
  | idempotencyKey (key : String)
  | providerReference (text : String)
  | paymentId (id : Uuid)

def PaymentFilter.admits : PaymentFilter → PaymentRow → Bool
  | idempotencyKey key, row => row.idempotencyKey = key
  | providerReference text, row => row.providerReference = some text
  | paymentId id, row => row.paymentId = id

inductive Stmt
  | setLocalTenant (tenantId : Uuid)
  | selectPayment (filter : PaymentFilter)
  | upsertPayment (row : PaymentRow)
  | selectActiveTopic
  | insertOutbox (row : OutboxRow)

/-- What `fetch_optional` or `execute` returns for a statement. -/
abbrev Stmt.Rows : Stmt → Type
  | selectPayment _ => Option PaymentRow
  | selectActiveTopic => Option Uuid
  | setLocalTenant _ | upsertPayment _ | insertOutbox _ => Unit

/-- A transaction: the database, and `app.current_tenant_id` where the
transaction has set it. -/
structure Tx where
  db : Db
  currentTenantId : Option Uuid

/-- The payment rows that a statement of the transaction sees. -/
def Tx.visible (tx : Tx) : List PaymentRow :=
  match tx.currentTenantId with
  | none => tx.db.payments.rows
  | some tenantId =>
      tx.db.payments.rows.filter fun row => row.tenantId = tenantId

def Stmt.inTx : (stmt : Stmt) → Tx → stmt.Rows × Tx
  | setLocalTenant tenantId, tx =>
      ((), { tx with currentTenantId := some tenantId })
  | selectPayment filter, tx => (tx.visible.find? filter.admits, tx)
  | upsertPayment row, tx =>
      ((), { tx with db.payments := tx.db.payments.upsert row })
  | selectActiveTopic, tx =>
      ((tx.db.topics.find? fun topic => topic.isActive).map CdcTopic.topicId, tx)
  | insertOutbox row, tx =>
      ((), { tx with db.outbox := tx.db.outbox ++ [row] })

/-- A statement executed on the pool. -/
def Stmt.autocommit (stmt : Stmt) (db : Db) : stmt.Rows × Db :=
  ((stmt.inTx ⟨db, none⟩).1, (stmt.inTx ⟨db, none⟩).2.db)

section Autocommit

variable (db : Db)

/-- On the pool, `SET LOCAL` does nothing. -/
@[simp]
theorem autocommit_setLocalTenant (tenantId : Uuid) :
    (Stmt.setLocalTenant tenantId).autocommit db = ((), db) := rfl

/-- On the pool, a lookup sees the rows of every tenant. -/
@[simp]
theorem autocommit_selectPayment (filter : PaymentFilter) :
    (Stmt.selectPayment filter).autocommit db =
      (db.payments.rows.find? filter.admits, db) := rfl

@[simp]
theorem autocommit_upsertPayment (row : PaymentRow) :
    (Stmt.upsertPayment row).autocommit db =
      ((), { db with payments := db.payments.upsert row }) := rfl

@[simp]
theorem autocommit_selectActiveTopic :
    Stmt.selectActiveTopic.autocommit db =
      ((db.topics.find? fun topic => topic.isActive).map CdcTopic.topicId,
        db) := rfl

@[simp]
theorem autocommit_insertOutbox (row : OutboxRow) :
    (Stmt.insertOutbox row).autocommit db =
      ((), { db with outbox := db.outbox ++ [row] }) := rfl

end Autocommit

/-! ## Operations -/

inductive Op
  | statement (stmt : Stmt)
  | initiate (payment : Payment)
  | utcNow

abbrev Op.Res : Op → Type
  | statement stmt => Except String stmt.Rows
  | initiate _ => Except DomainError ProviderResponse
  | utcNow => DateTime

/-- The database and the number of charges made at the provider. -/
structure World where
  db : Db
  charges : ℕ

/-- What the environment decides about one operation. -/
structure Choice where
  /-- A statement fails with this message and has no effect. -/
  failure : Option String
  /-- A request creates a charge. -/
  charged : Bool
  /-- The reply to a request, whether or not it created a charge. -/
  reply : Except DomainError ProviderResponse
  now : DateTime

def Op.respond (choice : Choice) : (op : Op) → World → op.Res × World
  | statement stmt, world =>
      match choice.failure with
      | some message => (.error message, world)
      | none =>
          let answer := stmt.autocommit world.db
          (.ok answer.1, { world with db := answer.2 })
  | initiate _, world =>
      (choice.reply,
        { world with charges := world.charges + choice.charged.toNat })
  | utcNow, world => (choice.now, world)

abbrev Handler (A : Type) := Prog Op Op.Res DomainError A

def utcNow : Handler DateTime :=
  .perform .utcNow fun now => .done (.ok now)

/-- Send one statement to the pool; its error becomes a `DatabaseError`. -/
def query (stmt : Stmt) : Handler stmt.Rows :=
  .perform (.statement stmt) fun
    | .ok rows => .done (.ok rows)
    | .error message => .done (.error (.databaseError message))

def setTenant (tenantId : Uuid) : Handler Unit :=
  query (.setLocalTenant tenantId)

/-! ## `PgPaymentRepository` -/

section Payments

variable [DecimalText]

/-- `row.map(TryInto::try_into).transpose()`. -/
def convert : Option PaymentRow → Except DomainError (Option Payment)
  | none => .ok none
  | some row => do
      let payment ← Payment.tryFrom row
      .ok (some payment)

/-- The select of a lookup, after its tenant setting. -/
def fetchPayment (filter : PaymentFilter) : Handler (Option Payment) := do
  let row ← query (.selectPayment filter)
  Prog.done (convert row)

def findByIdempotencyKey (tenantId : Uuid) (key : String) :
    Handler (Option Payment) := do
  setTenant tenantId
  fetchPayment (.idempotencyKey key)

def savePayment (payment : Payment) : Handler Unit := do
  setTenant payment.tenantId
  query (.upsertPayment (.ofPayment payment))

def getPaymentByProviderRef (tenantId : Option Uuid) (providerRef : String) :
    Handler (Option Payment) := do
  match tenantId with
  | some tenantId => setTenant tenantId
  | none => pure ()
  fetchPayment (.providerReference providerRef)

def getPaymentById (tenantId paymentId : Uuid) : Handler (Option Payment) := do
  setTenant tenantId
  fetchPayment (.paymentId paymentId)

end Payments

/-! ## `OutboxRepository` -/

def nilUuid : Uuid := 0

/-- The idempotency key is accepted and not stored. -/
def appendOutbox (eventType : String) (aggregateId : Uuid) (payload : Payload)
    (_idempotencyKey : String) (tenantId : Uuid) : Handler Unit := do
  setTenant tenantId
  let topicId ← query .selectActiveTopic
  query (.insertOutbox
    { topicId := topicId.getD nilUuid
      eventType
      aggregateType := "payment"
      aggregateId
      payload })

end UssdKernel.PaymentEngine
