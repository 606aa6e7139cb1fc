import UssdKernel.Core.Data
import UssdKernel.Core.KeyedTables
import UssdKernel.Core.SortedOrders
import UssdKernel.Core.Text

/-!
# The tenant API

The endpoints of the REST gateway that read the database.  Each of them compares
the tenant of the key with the tenant in the path, and then selects rows:
`list_events`, `list_webhooks` and `get_metrics` by the tenant, but
`get_session_state` and `get_payment` only by the id in the path.

What a key of one tenant is answered should not depend on the rows of the others.
`isolated_iff` says for which requests and databases it does not.
-/

namespace UssdKernel.Gateway

open KeyedTables SortedOrders

/-! ## Python values -/

/-- A value in a row or in a response. -/
inductive Value
  | null
  | bool (value : Bool)
  | number (value : ℚ)
  | str (text : String)
  | list (items : List Value)
  | dict (members : List (String × Value))
  | datetime (time : ℤ)

namespace Value

def truthy : Value → Bool
  | null => false
  | bool value => value
  | number value => value ≠ 0
  | str text => text ≠ ""
  | list items => !items.isEmpty
  | dict members => !members.isEmpty
  | datetime _ => true

/-- `value or {}`. -/
def orEmpty (value : Value) : Value :=
  if value.truthy then value else dict []

/-- `value.get(key, default)`, which only a `dict` has. -/
def get (value : Value) (key : String) (default : Value) : Option Value :=
  match value with
  | dict members => some ((members.lookup key).getD default)
  | _ => none

end Value

/-! ## The database -/

structure SessionRow where
  sessionId : Uuid
  applicationId : Option Uuid
  state : Value
  version : Option ℤ
  createdAt : Option ℤ

structure EventRow where
  tenantId : Uuid
  eventType : String
  aggregateType : String
  aggregateId : Uuid
  payload : Value
  occurredAt : ℤ

structure WebhookRow where
  subscriptionId : Uuid
  tenantId : Uuid
  url : String
  eventTypes : Value
  isActive : Option Bool
  createdAt : ℤ

structure RequestLogRow where
  applicationId : Uuid

structure Database where
  sessions : Table SessionRow.sessionId
  events : List EventRow
  webhooks : List WebhookRow
  requestLog : List RequestLogRow

/-- The order of the rows where a statement leaves it open. -/
structure RowOrder where
  events : List EventRow → List EventRow
  events_ordered : ∀ rows,
    OrderedBy (fun row => OrderDual.toDual row.occurredAt) rows (events rows)
  webhooks : List WebhookRow → List WebhookRow
  webhooks_perm : ∀ rows, (webhooks rows).Perm rows

/-- The statements of the endpoints. -/
inductive Statement
  | sessionState
  | latestPayment
  | events
  | eventCount
  | webhooks
  | sessionCount
  | paymentCount
  | requestCount
  deriving DecidableEq

/-- What surrounds one request.  A statement is not executed if there is no
database, or if it raises an error whatever rows there are. -/
structure ApiEnv where
  executes : Statement → Bool
  order : RowOrder
  parseUuid : String → Option Uuid
  isoformat : ℤ → String
  loads : String → Option Value
  rateLimited : Bool

/-- `_db_query`; `none` stands for a statement that its parameters make fail. -/
def dbQuery {Row : Type} (env : ApiEnv) (statement : Statement)
    (rows : Option (List Row)) : List Row :=
  if env.executes statement then rows.getD [] else []

/-! ## The endpoints -/

structure TenantContext where
  tenantId : String
  given : Option (List String)

def TenantContext.permissions (ctx : TenantContext) : List String :=
  match ctx.given with
  | none | some [] => ["read"]
  | some permissions => permissions

def TenantContext.can (ctx : TenantContext) (action : String) : Bool :=
  ctx.permissions.contains action || ctx.permissions.contains "admin"

structure ApiResponse where
  success : Bool := true
  data : List (String × Value)
  error : String := ""
  requestId : String := ""

section Endpoints

variable (env : ApiEnv) (db : Database)

/-- The rows `WHERE tenant_id = %s`. -/
def ofTenant {Row : Type} (tenant : Row → Uuid) (rows : List Row)
    (tenantId : String) : Option (List Row) := do
  let id ← env.parseUuid tenantId
  return rows.filter fun row => tenant row = id

/-- A JSON document that has come as text is parsed. -/
def ApiEnv.loaded : Value → Option Value
  | .str text => env.loads text
  | value => some value

def sessionRows (sessionId : String) : List SessionRow :=
  dbQuery env .sessionState do
    let id ← env.parseUuid sessionId
    return db.sessions.rows.filter fun row => row.sessionId = id

def getSessionState (sessionId : String) : ApiResponse :=
  match sessionRows env db sessionId with
  | [] =>
      { data :=
          [("session_id", .str sessionId), ("state", .dict []),
            ("version", .number 0)] }
  | row :: _ =>
      { data :=
          [("session_id", .str (Text.uuid row.sessionId)),
            ("state", row.state.orEmpty),
            ("version", row.version.elim .null fun version => .number version),
            ("created_at", row.createdAt.elim .null fun time =>
              .str (env.isoformat time))] }

def paymentRows (paymentId : String) : List EventRow :=
  dbQuery env .latestPayment do
    let id ← env.parseUuid paymentId
    return (env.order.events (db.events.filter fun row =>
      row.aggregateId = id ∧ row.aggregateType = "PAYMENT")).take 1

/-- `none` if an exception is raised. -/
def getPayment (paymentId : String) : Option ApiResponse :=
  match paymentRows env db paymentId with
  | [] => some
      { data := [("payment_id", .str paymentId), ("status", .str "unknown")] }
  | row :: _ => do
      let payload ← env.loaded row.payload.orEmpty
      let status ← payload.get "status" (.str row.eventType)
      let receiptNumber ← payload.get "provider_reference" (.str "")
      return {
        data :=
          [("payment_id", .str paymentId), ("status", status),
            ("receipt_number", receiptNumber),
            ("last_updated", .str (env.isoformat row.occurredAt))] }

/-- A number that the database takes after `LIMIT` or `OFFSET`. -/
def rowNumber (number : ℤ) : Option ℕ :=
  if 0 ≤ number ∧ number < 2 ^ 63 then some number.toNat else none

def eventItem (row : EventRow) : Option Value := do
  let payload ← env.loaded row.payload
  return .dict
    [("event_type", .str row.eventType),
      ("aggregate_type", .str row.aggregateType),
      ("aggregate_id", .str (Text.uuid row.aggregateId)),
      ("payload", payload), ("occurred_at", .datetime row.occurredAt)]

def listEvents (tenantId : String) (limit offset : ℤ) : Option ApiResponse := do
  let rows := dbQuery env .events do
    let selected ← ofTenant env EventRow.tenantId db.events tenantId
    let take ← rowNumber limit
    let drop ← rowNumber offset
    return ((env.order.events selected).drop drop).take take
  let items ← rows.mapM (eventItem env)
  let total := dbQuery env .eventCount do
    let selected ← ofTenant env EventRow.tenantId db.events tenantId
    return [selected.length]
  return {
    data :=
      [("events", .list items), ("total_count", .number (total.headD 0)),
        ("limit", .number limit), ("offset", .number offset)] }

def webhookItem (row : WebhookRow) : Option Value := do
  let events ← env.loaded row.eventTypes
  return .dict
    [("webhook_id", .str (Text.uuid row.subscriptionId)), ("url", .str row.url),
      ("events", events), ("is_active", row.isActive.elim .null .bool),
      ("created_at", .datetime row.createdAt)]

def listWebhooks (tenantId : String) : Option ApiResponse := do
  let rows := dbQuery env .webhooks do
    let selected ← ofTenant env WebhookRow.tenantId db.webhooks tenantId
    return env.order.webhooks (selected.filter fun row => row.isActive = some true)
  let items ← rows.mapM (webhookItem env)
  return { data := [("webhooks", .list items)] }

/-- `COUNT(*)` of the events of one type. -/
def eventsOfType (statement : Statement) (tenantId eventType : String) : ℕ :=
  (dbQuery env statement do
    let selected ← ofTenant env EventRow.tenantId db.events tenantId
    return [selected.countP fun row => row.eventType = eventType]).headD 0

def getMetrics (tenantId : String) : ApiResponse :=
  let apiRequests := dbQuery env .requestCount do
    let selected ← ofTenant env RequestLogRow.applicationId db.requestLog tenantId
    return [selected.length]
  { data :=
      [("tenant_id", .str tenantId), ("period", .str "24h"),
        ("sessions",
          .number (eventsOfType env db .sessionCount tenantId "SessionCreated")),
        ("payments",
          .number (eventsOfType env db .paymentCount tenantId "PaymentInitiated")),
        ("messages", .number 0),
        ("api_requests", .dict [("count", .number (apiRequests.headD 0))])] }

/-- The endpoints, with the rest of the path and the query. -/
inductive Endpoint
  | getSessionState (sessionId : String)
  | getPayment (paymentId : String)
  | listEvents (limit offset : ℤ)
  | listWebhooks
  | getMetrics

/-- A request whose key has been authenticated. -/
structure ApiRequest where
  tenantId : String
  ctx : TenantContext
  endpoint : Endpoint

def endpointBody (tenantId : String) : Endpoint → Option ApiResponse
  | .getSessionState sessionId => some (getSessionState env db sessionId)
  | .getPayment paymentId => getPayment env db paymentId
  | .listEvents limit offset => listEvents env db tenantId limit offset
  | .listWebhooks => listWebhooks env db tenantId
  | .getMetrics => some (getMetrics env db tenantId)

inductive Reply
  | response (body : ApiResponse)
  | httpException (statusCode : ℕ) (detail : String)
  | serverError

def answer (request : ApiRequest) : Reply :=
  if env.rateLimited then .httpException 429 "Rate limit exceeded"
  else if request.ctx.tenantId ≠ request.tenantId ∧
      request.ctx.can "admin" = false then
    .httpException 403 "Tenant mismatch"
  else (endpointBody env db request.tenantId request.endpoint).elim
    .serverError .response

/-! ## Isolation -/

/-- The tenant of the key. -/
def owns (ctx : TenantContext) (id : Uuid) : Bool :=
  env.parseUuid ctx.tenantId = some id

/-- The databases hold the same rows of the tenant. -/
structure AgreeOn (own : Uuid → Bool) (first second : Database) : Prop where
  sessions : first.sessions.rows.filter (·.applicationId.any own) =
    second.sessions.rows.filter (·.applicationId.any own)
  events : first.events.filter (fun row => own row.tenantId) =
    second.events.filter fun row => own row.tenantId
  webhooks : first.webhooks.filter (fun row => own row.tenantId) =
    second.webhooks.filter fun row => own row.tenantId
  requestLog : first.requestLog.filter (fun row => own row.applicationId) =
    second.requestLog.filter fun row => own row.applicationId

/-- The answer does not depend on the rows of other tenants. -/
def Isolated (request : ApiRequest) : Prop :=
  ∀ other, AgreeOn (owns env request.ctx) db other →
    answer env db request = answer env other request

/-- The endpoint selects rows by the tenant; or it selects them by an id alone, but
the statement fails, or the id is that of one of the tenant's own sessions. -/
def Shielded (ctx : TenantContext) : Endpoint → Prop
  | .getSessionState sessionId =>
      env.executes .sessionState = true → ∀ id ∈ env.parseUuid sessionId,
        ∃ row ∈ db.sessions.rows,
          row.sessionId = id ∧ row.applicationId.any (owns env ctx) = true
  | .getPayment paymentId =>
      env.executes .latestPayment = true → env.parseUuid paymentId = none
  | .listEvents .. | .listWebhooks | .getMetrics => True

end Endpoints

variable {ctx : TenantContext}

section Answers

variable {env : ApiEnv} {request : ApiRequest} {db first second : Database}

theorem answer_of_admitted (hlimit : env.rateLimited = false)
    (htenant : request.ctx.tenantId = request.tenantId) :
    answer env db request =
      (endpointBody env db request.ctx.tenantId request.endpoint).elim
        .serverError .response := by
  simp [answer, hlimit, htenant]

/-- A refused request does not come to the database. -/
theorem answer_of_refused (hkey : request.ctx.can "admin" = false)
    (hrefused : env.rateLimited = true ∨
      request.ctx.tenantId ≠ request.tenantId) :
    answer env first request = answer env second request := by
  unfold answer
  rcases hrefused with hlimit | htenant
  · rw [if_pos hlimit, if_pos hlimit]
  · simp only [if_pos (And.intro htenant hkey)]

theorem elim_reply_injective :
    Function.Injective fun body : Option ApiResponse =>
      body.elim Reply.serverError .response := by
  intro left right heq
  cases left with
  | none =>
      cases right with
      | none => rfl
      | some body => cases heq
  | some body =>
      cases right with
      | none => cases heq
      | some other => exact congrArg some (Reply.response.inj heq)

/-! ## Rows of the tenant -/

theorem ofTenant_eq {Row : Type} {tenant : Row → Uuid} {left right : List Row}
    (hagree : left.filter (fun row => owns env ctx (tenant row)) =
      right.filter fun row => owns env ctx (tenant row)) :
    ofTenant env tenant left ctx.tenantId =
      ofTenant env tenant right ctx.tenantId := by
  unfold ofTenant
  cases hparse : env.parseUuid ctx.tenantId with
  | none => rfl
  | some id =>
      have howns : (fun row => owns env ctx (tenant row)) =
          fun row => decide (tenant row = id) := by
        funext row
        simp [owns, hparse, eq_comm]
      rw [howns] at hagree
      exact congrArg some hagree

/-- The tenant's own session is the only one with its id. -/
theorem sessionRows_of_own {row : SessionRow} {sessionId : String}
    (hagree : AgreeOn (owns env ctx) first second)
    (hrow : row ∈ first.sessions.rows)
    (hown : row.applicationId.any (owns env ctx) = true)
    (hparse : env.parseUuid sessionId = some row.sessionId) :
    sessionRows env first sessionId = sessionRows env second sessionId := by
  have hfiltered : row ∈
      first.sessions.rows.filter (·.applicationId.any (owns env ctx)) :=
    List.mem_filter.mpr ⟨hrow, hown⟩
  rw [hagree.sessions] at hfiltered
  have hother := (List.mem_filter.mp hfiltered).1
  have hfirst := filter_eq_singleton first.sessions.keys_nodup hrow
  have hsecond := filter_eq_singleton second.sessions.keys_nodup hother
  simp only [sessionRows, hparse, Option.bind_eq_bind, Option.bind_some, hfirst,
    hsecond]

/-- What a shielded endpoint returns is read off the tenant's own rows. -/
theorem endpointBody_of_shielded {endpoint : Endpoint}
    (hagree : AgreeOn (owns env ctx) first second)
    (hshielded : Shielded env first ctx endpoint) :
    endpointBody env first ctx.tenantId endpoint =
      endpointBody env second ctx.tenantId endpoint := by
  have hevents := ofTenant_eq hagree.events
  cases endpoint with
  | getSessionState sessionId =>
      have hrows : sessionRows env first sessionId =
          sessionRows env second sessionId := by
        cases hexecutes : env.executes .sessionState with
        | false => simp [sessionRows, dbQuery, hexecutes]
        | true =>
            cases hparse : env.parseUuid sessionId with
            | none => simp [sessionRows, hparse]
            | some id =>
                obtain ⟨row, hrow, rfl, hown⟩ := hshielded hexecutes id hparse
                exact sessionRows_of_own hagree hrow hown hparse
      simp only [endpointBody, getSessionState, hrows]
  | getPayment paymentId =>
      have hrows : ∀ db, paymentRows env db paymentId = [] := by
        intro db
        cases hexecutes : env.executes .latestPayment with
        | false => simp [paymentRows, dbQuery, hexecutes]
        | true => simp [paymentRows, dbQuery, hshielded hexecutes]
      simp only [endpointBody, getPayment, hrows]
  | listEvents limit offset => simp only [endpointBody, listEvents, hevents]
  | listWebhooks =>
      simp only [endpointBody, listWebhooks, ofTenant_eq hagree.webhooks]
  | getMetrics =>
      simp only [endpointBody, getMetrics, eventsOfType, hevents,
        ofTenant_eq hagree.requestLog]

end Answers

/-! ## Rows of other tenants -/

section Foreign

variable {env : ApiEnv} {db : Database} {own : Uuid → Bool}

theorem exists_foreign (env : ApiEnv) (ctx : TenantContext) :
    ∃ id, owns env ctx id = false := by
  by_cases hzero : env.parseUuid ctx.tenantId = some 0
  · exact ⟨1, by simp [owns, hzero]⟩
  · exact ⟨0, decide_eq_false hzero⟩

theorem AgreeOn.trans {first second third : Database}
    (hleft : AgreeOn own first second) (hright : AgreeOn own second third) :
    AgreeOn own first third where
  sessions := hleft.sessions.trans hright.sessions
  events := hleft.events.trans hright.events
  webhooks := hleft.webhooks.trans hright.webhooks
  requestLog := hleft.requestLog.trans hright.requestLog

/-- The database with this session in place of another one with its id. -/
def Database.withSession (db : Database) (row : SessionRow) : Database :=
  { db with
    sessions :=
      { rows := row ::
          db.sessions.rows.filter fun other => other.sessionId ≠ row.sessionId
        keys_nodup := by
          rw [List.map_cons, List.nodup_cons]
          refine ⟨?_, db.sessions.keys_nodup.sublist
            (List.filter_sublist.map SessionRow.sessionId)⟩
          intro hmem
          obtain ⟨other, hother, hid⟩ := List.mem_map.mp hmem
          exact absurd hid (by simpa using (List.mem_filter.mp hother).2) } }

theorem agreeOn_withSession {row : SessionRow}
    (hrow : row.applicationId.any own = false)
    (hsame : ∀ other ∈ db.sessions.rows, other.sessionId = row.sessionId →
      other.applicationId.any own = false) :
    AgreeOn own db (db.withSession row) where
  sessions := by
    simp only [Database.withSession, List.filter_cons, hrow,
      Bool.false_eq_true, if_false, List.filter_filter]
    apply List.filter_congr
    intro other hother
    cases hown : other.applicationId.any own with
    | false => rfl
    | true =>
        have hid : other.sessionId ≠ row.sessionId := by
          intro hid
          rw [hsame other hother hid] at hown
          cases hown
        simp [hid]
  events := rfl
  webhooks := rfl
  requestLog := rfl

theorem sessionRows_withSession {row : SessionRow} {sessionId : String}
    (hexecutes : env.executes .sessionState = true)
    (hparse : env.parseUuid sessionId = some row.sessionId) :
    sessionRows env (db.withSession row) sessionId = [row] := by
  have hmem : row ∈ (db.withSession row).sessions.rows := List.mem_cons_self
  have hrows := filter_eq_singleton (db.withSession row).sessions.keys_nodup hmem
  simp only [sessionRows, dbQuery, hexecutes, hparse, if_true,
    Option.bind_eq_bind, Option.bind_some, hrows]
  rfl

def Database.withEvent (db : Database) (row : EventRow) : Database :=
  { db with events := row :: db.events }

theorem agreeOn_withEvent {row : EventRow} (hrow : own row.tenantId = false) :
    AgreeOn own db (db.withEvent row) where
  sessions := rfl
  events := by simp [Database.withEvent, hrow]
  webhooks := rfl
  requestLog := rfl

/-- An event later than all others is the one that `get_payment` selects. -/
theorem paymentRows_withEvent {row : EventRow} {paymentId : String}
    (hexecutes : env.executes .latestPayment = true)
    (hparse : env.parseUuid paymentId = some row.aggregateId)
    (htype : row.aggregateType = "PAYMENT")
    (hlatest : ∀ other ∈ db.events, other.occurredAt < row.occurredAt) :
    paymentRows env (db.withEvent row) paymentId = [row] := by
  have hfirst : (env.order.events ((db.withEvent row).events.filter fun other =>
      other.aggregateId = row.aggregateId ∧
        other.aggregateType = "PAYMENT")).head? = some row := by
    rw [Database.withEvent, List.filter_cons_of_pos (by simp [htype])]
    apply (env.order.events_ordered _).head?_eq
    intro other hother
    exact hlatest other (List.mem_filter.mp hother).1
  simp only [paymentRows, dbQuery, hexecutes, hparse, if_true,
    Option.bind_eq_bind, Option.bind_some]
  rw [List.take_one, hfirst]
  rfl

theorem exists_later (db : Database) :
    ∃ time, ∀ row ∈ db.events, row.occurredAt < time := by
  obtain ⟨bound, hbound⟩ :=
    (db.events.map EventRow.occurredAt).finite_toSet.bddAbove
  refine ⟨bound + 1, fun row hrow => ?_⟩
  exact Int.lt_add_one_of_le (hbound (List.mem_map_of_mem hrow))

end Foreign

section Isolation

variable {env : ApiEnv} {request : ApiRequest} {db : Database}

/-- All databases that agree with the given one give the same response. -/
theorem Isolated.body_eq {first second : Database}
    (hisolated : Isolated env db request)
    (hlimit : env.rateLimited = false)
    (htenant : request.ctx.tenantId = request.tenantId)
    (hfirst : AgreeOn (owns env request.ctx) db first)
    (hsecond : AgreeOn (owns env request.ctx) db second) :
    endpointBody env first request.ctx.tenantId request.endpoint =
      endpointBody env second request.ctx.tenantId request.endpoint := by
  apply elim_reply_injective
  calc (endpointBody env first request.ctx.tenantId request.endpoint).elim
        Reply.serverError .response
      = answer env first request := (answer_of_admitted hlimit htenant).symm
    _ = answer env db request := (hisolated first hfirst).symm
    _ = answer env second request := hisolated second hsecond
    _ = _ := answer_of_admitted hlimit htenant

/-- With the id of no session of its own, the tenant would see any session that
has the id. -/
theorem own_of_sessions_alike {sessionId : String} {id : Uuid}
    (hexecutes : env.executes .sessionState = true)
    (hparse : env.parseUuid sessionId = some id)
    (halike : ∀ first second, AgreeOn (owns env ctx) db first →
      AgreeOn (owns env ctx) db second →
        getSessionState env first sessionId =
          getSessionState env second sessionId) :
    ∃ row ∈ db.sessions.rows,
      row.sessionId = id ∧ row.applicationId.any (owns env ctx) = true := by
  by_contra hnone
  obtain ⟨tenant, hforeign⟩ := exists_foreign env ctx
  let session (version : ℤ) : SessionRow :=
    { sessionId := id
      applicationId := some tenant
      state := .null
      version := some version
      createdAt := none }
  have hagree : ∀ version,
      AgreeOn (owns env ctx) db (db.withSession (session version)) := by
    intro version
    have hrow : (session version).applicationId.any (owns env ctx) = false :=
      hforeign
    apply agreeOn_withSession hrow
    intro other hother hid
    by_contra hown
    exact hnone ⟨other, hother, hid, by simpa using hown⟩
  have hrows : ∀ version, sessionRows env (db.withSession (session version))
      sessionId = [session version] :=
    fun version => sessionRows_withSession hexecutes hparse
  have hsame := halike _ _ (hagree 0) (hagree 1)
  simp [getSessionState, hrows, session] at hsame

/-- The tenant would see any later event with the id. -/
theorem parse_eq_none_of_payments_alike {paymentId : String}
    (hexecutes : env.executes .latestPayment = true)
    (halike : ∀ first second, AgreeOn (owns env ctx) db first →
      AgreeOn (owns env ctx) db second →
        getPayment env first paymentId = getPayment env second paymentId) :
    env.parseUuid paymentId = none := by
  cases hparse : env.parseUuid paymentId with
  | none => rfl
  | some id =>
      exfalso
      obtain ⟨tenant, hforeign⟩ := exists_foreign env ctx
      obtain ⟨time, hlatest⟩ := exists_later db
      let event (eventType : String) : EventRow :=
        { tenantId := tenant
          eventType
          aggregateType := "PAYMENT"
          aggregateId := id
          payload := .null
          occurredAt := time }
      have hagree : ∀ eventType,
          AgreeOn (owns env ctx) db (db.withEvent (event eventType)) :=
        fun eventType => agreeOn_withEvent hforeign
      have hrows : ∀ eventType, paymentRows env (db.withEvent (event eventType))
          paymentId = [event eventType] :=
        fun eventType => paymentRows_withEvent hexecutes hparse rfl hlatest
      have hsame := halike _ _ (hagree "PaymentInitiated")
        (hagree "PaymentCompleted")
      simp [getPayment, hrows, event, Value.orEmpty, Value.truthy,
        ApiEnv.loaded, Value.get] at hsame

/-- What a key without the admin permission is answered does not depend on the
rows of other tenants exactly if the request is refused before the endpoint
selects rows, or the endpoint selects only rows of the tenant. -/
theorem isolated_iff (env : ApiEnv) (db : Database) (request : ApiRequest)
    (hkey : request.ctx.can "admin" = false) :
    Isolated env db request ↔
      env.rateLimited = true ∨ request.ctx.tenantId ≠ request.tenantId ∨
        Shielded env db request.ctx request.endpoint := by
  constructor
  · intro hisolated
    by_contra hnot
    simp only [not_or, not_not, Bool.not_eq_true] at hnot
    obtain ⟨hlimit, htenant, hopen⟩ := hnot
    apply hopen
    have halike : ∀ first second, AgreeOn (owns env request.ctx) db first →
        AgreeOn (owns env request.ctx) db second →
          endpointBody env first request.ctx.tenantId request.endpoint =
            endpointBody env second request.ctx.tenantId request.endpoint :=
      fun first second => hisolated.body_eq hlimit htenant
    cases hendpoint : request.endpoint with
    | getSessionState sessionId =>
        intro hexecutes id hparse
        apply own_of_sessions_alike hexecutes hparse
        intro first second hfirst hsecond
        have hbody := halike first second hfirst hsecond
        rw [hendpoint] at hbody
        exact Option.some.inj hbody
    | getPayment paymentId =>
        intro hexecutes
        apply parse_eq_none_of_payments_alike hexecutes
        intro first second hfirst hsecond
        have hbody := halike first second hfirst hsecond
        rwa [hendpoint] at hbody
    | listEvents limit offset | listWebhooks | getMetrics => trivial
  · intro hcondition other hagree
    by_cases hrefused : env.rateLimited = true ∨
        request.ctx.tenantId ≠ request.tenantId
    · exact answer_of_refused hkey hrefused
    · have hshielded : Shielded env db request.ctx request.endpoint := by
        tauto
      simp only [not_or, not_not, Bool.not_eq_true] at hrefused
      rw [answer_of_admitted hrefused.1 hrefused.2,
        answer_of_admitted hrefused.1 hrefused.2,
        endpointBody_of_shielded hagree hshielded]

end Isolation

namespace Samples

/-- Rows in the order in which they are stored, where the statement leaves it
open. -/
def stored : RowOrder where
  events rows := rows.insertionSort fun first second =>
    OrderDual.toDual first.occurredAt ≤ OrderDual.toDual second.occurredAt
  events_ordered := orderedBy_insertionSort _
  webhooks := id
  webhooks_perm _ := List.Perm.refl _

/-- The ids of the sample are read, and every statement is executed. -/
def env : ApiEnv where
  executes _ := true
  order := stored
  parseUuid text := [2, 5, 7, 8].find? fun id => Text.uuid id = text
  isoformat _ := "2024-01-01T00:00:00+00:00"
  loads _ := none
  rateLimited := false

/-- A request with a key of tenant 2 that may only read. -/
def request (endpoint : Endpoint) : ApiRequest where
  tenantId := Text.uuid 2
  ctx :=
    { tenantId := Text.uuid 2
      given := none }
  endpoint

def empty : Database where
  sessions := .empty
  events := []
  webhooks := []
  requestLog := []

/-- Session 7 of a tenant. -/
def session (tenantId : Uuid) : SessionRow where
  sessionId := 7
  applicationId := some tenantId
  state := .dict [("menu", .str "transfer")]
  version := some 4
  createdAt := some 0

/-- The last event of payment 8, which belongs to tenant 5. -/
def completed : EventRow where
  tenantId := 5
  eventType := "PaymentCompleted"
  aggregateType := "PAYMENT"
  aggregateId := 8
  payload := .dict [("status", .str "completed"),
    ("provider_reference", .str "MP-1")]
  occurredAt := 0

/-- The text under a key of the response. -/
def textOf (key : String) : Reply → Option String
  | .response body =>
      match body.data.lookup key with
      | some (.str text) => some text
      | _ => none
  | _ => none

end Samples

/-- Tenant 2 reads its own session. -/
theorem isolated_iff_own_session :
    Isolated Samples.env (Samples.empty.withSession (Samples.session 2))
      (Samples.request (.getSessionState (Text.uuid 7))) := by
  refine (isolated_iff _ _ _ (by decide)).mpr (.inr (.inr ?_))
  intro _ id hid
  have hseven : Samples.env.parseUuid (Text.uuid 7) = some 7 := by decide +kernel
  have hown : (Samples.session 2).applicationId.any
      (owns Samples.env (Samples.request (.getSessionState (Text.uuid 7))).ctx) =
        true := by
    decide +kernel
  rw [hseven] at hid
  cases hid
  exact ⟨Samples.session 2, List.mem_cons_self, rfl, hown⟩

/-- Tenant 2 reads the session and the payment of tenant 5. -/
theorem foreign_rows_answered :
    let db := (Samples.empty.withSession (Samples.session 5)).withEvent
      Samples.completed
    let stateRequest := Samples.request (.getSessionState (Text.uuid 7))
    let paymentRequest := Samples.request (.getPayment (Text.uuid 8))
    AgreeOn (owns Samples.env stateRequest.ctx) Samples.empty db ∧
      stateRequest.ctx.can "admin" = false ∧
      Samples.textOf "created_at" (answer Samples.env Samples.empty stateRequest) =
        none ∧
      Samples.textOf "created_at" (answer Samples.env db stateRequest) =
        some "2024-01-01T00:00:00+00:00" ∧
      Samples.textOf "status" (answer Samples.env Samples.empty paymentRequest) =
        some "unknown" ∧
      Samples.textOf "status" (answer Samples.env db paymentRequest) =
        some "completed" ∧
      Samples.textOf "receipt_number" (answer Samples.env db paymentRequest) =
        some "MP-1" := by
  have hforeign : (Samples.session 5).applicationId.any (owns Samples.env
      (Samples.request (.getSessionState (Text.uuid 7))).ctx) = false := by
    decide +kernel
  have hnone : ∀ other ∈ Samples.empty.sessions.rows,
      other.sessionId = (Samples.session 5).sessionId →
        other.applicationId.any (owns Samples.env
          (Samples.request (.getSessionState (Text.uuid 7))).ctx) = false := by
    intro other hother
    cases hother
  constructor
  · exact (agreeOn_withSession hforeign hnone).trans (agreeOn_withEvent hforeign)
  · decide +kernel

end UssdKernel.Gateway
