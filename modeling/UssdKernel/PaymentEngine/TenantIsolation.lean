import UssdKernel.PaymentEngine.Contracts
import UssdKernel.PaymentEngine.Sequential

/-!
# Lookups and tenants

Every lookup sets `app.current_tenant_id` first, in a transaction of its own,
and then selects by one column without a tenant predicate.  Inside one
transaction the setting would confine the select to the tenant's rows; on the
pool the select sees all rows, so a lookup answers for its tenant exactly as
long as no row of another tenant comes first.
-/

namespace UssdKernel.PaymentEngine

open UssdKernel.Programs

/-- The row that a select on the pool returns. -/
def World.first (world : World) (filter : PaymentFilter) : Option PaymentRow :=
  world.db.payments.rows.find? filter.admits

/-- The two tables have the same rows of the tenant. -/
def AgreeOn (tenantId : Uuid) (left right : World) : Prop :=
  (left.db.payments.rows.filter fun row => row.tenantId = tenantId) =
    right.db.payments.rows.filter fun row => row.tenantId = tenantId

/-- The first row that the filter admits, if any, is the tenant's. -/
def OwnFirst (tenantId : Uuid) (filter : PaymentFilter) (world : World) :
    Prop :=
  ∀ row ∈ world.first filter, row.tenantId = tenantId

theorem ownFirst_of_first_eq_none {tenantId : Uuid} {filter : PaymentFilter}
    {world : World} (hnone : world.first filter = none) :
    OwnFirst tenantId filter world := by
  intro row hrow
  rw [hnone] at hrow
  cases hrow

/-- Filtering does not lose a first match that it keeps. -/
theorem find?_filter_of_first {A : Type} {admits keeps : A → Bool}
    {values : List A}
    (hfirst : ∀ value ∈ values.find? admits, keeps value = true) :
    (values.filter keeps).find? admits = values.find? admits := by
  induction values with
  | nil => rfl
  | cons value values ih =>
      cases hadmits : admits value with
      | true =>
          have hkeeps : keeps value = true :=
            hfirst value (by rw [List.find?_cons, hadmits]; rfl)
          rw [List.filter_cons_of_pos hkeeps, List.find?_cons, hadmits,
            List.find?_cons, hadmits]
      | false =>
          rw [List.find?_cons, hadmits] at hfirst
          rw [List.find?_cons, hadmits, ← ih hfirst, List.filter_cons]
          split
          · rw [List.find?_cons, hadmits]
          · rfl

theorem first_eq_of_ownFirst {tenantId : Uuid} {filter : PaymentFilter}
    {left right : World} (hagree : AgreeOn tenantId left right)
    (hleft : OwnFirst tenantId filter left)
    (hright : OwnFirst tenantId filter right) :
    left.first filter = right.first filter := by
  have hfilter : ∀ world : World, OwnFirst tenantId filter world →
      (world.db.payments.rows.filter fun row => row.tenantId = tenantId).find?
        filter.admits = world.first filter := by
    intro world hown
    apply find?_filter_of_first
    intro row hrow
    exact decide_eq_true (hown row hrow)
  rw [← hfilter left hleft, ← hfilter right hright, hagree]

section Lookups

variable [DecimalText] {env : Env} {left right : World}

/-- The answer of a lookup: the tenant setting, the select, the conversion. -/
def lookupAnswer (env : Env) (tenantId : Uuid) (filter : PaymentFilter)
    (world : World) : Except DomainError (Option Payment) :=
  ((setTenant tenantId >>= fun _ => fetchPayment filter).exec env.respond
    (.start world)).1

theorem lookupAnswer_of_succeeds (hok : env.Succeeds 0 2) (tenantId : Uuid)
    (filter : PaymentFilter) (world : World) :
    lookupAnswer env tenantId filter world = convert (world.first filter) := by
  have hexec : (setTenant tenantId >>= fun _ => fetchPayment filter).exec
      env.respond (.start world) = _ := Env.exec_find hok
  rw [lookupAnswer, hexec]
  rfl

/-- A lookup that fails does so with a message of the environment's. -/
theorem lookupAnswer_of_not_succeeds (hfailed : ¬ env.Succeeds 0 2)
    (tenantId : Uuid) (filter : PaymentFilter) (left right : World) :
    lookupAnswer env tenantId filter left =
      lookupAnswer env tenantId filter right := by
  rw [env.succeeds_add 0 1 1, env.succeeds_one, env.succeeds_one] at hfailed
  have hanswer : ∃ message, ∀ world,
      lookupAnswer env tenantId filter world =
        .error (.databaseError message) := by
    cases hsetting : env.failure 0 with
    | some message =>
        refine ⟨message, fun world => ?_⟩
        have hexec : (setTenant tenantId).exec env.respond (.start world) = _ :=
          Env.exec_query_failed hsetting
        rw [lookupAnswer, Prog.exec_bind_of_error hexec]
    | none =>
        obtain ⟨message, hselect⟩ := Option.ne_none_iff_exists'.mp
          fun hselect => hfailed ⟨hsetting, hselect⟩
        refine ⟨message, fun world => ?_⟩
        have hexec : (setTenant tenantId).exec env.respond (.start world) = _ :=
          Env.exec_setTenant hsetting
        have hquery : (query (.selectPayment filter)).exec env.respond
            ((Session.start world).passed 1) = _ :=
          Env.exec_query_failed hselect
        rw [lookupAnswer, Prog.exec_bind_of_ok hexec, fetchPayment,
          Prog.exec_bind_of_error hquery]
  obtain ⟨message, hmessage⟩ := hanswer
  rw [hmessage left, hmessage right]

/-- The branch that `handle` takes on the answer of its first lookup. -/
def branch : Except DomainError (Option Payment) → Except DomainError Unit
  | .ok none => .ok ()
  | .ok (some _) => .error .idempotencyViolation
  | .error error => .error error

theorem exec_checkIdempotency_eq_branch (cmd : InitiatePaymentCommand)
    (world : World) :
    ((InitiatePaymentHandler.checkIdempotency cmd).exec env.respond
        (.start world)).1 =
      branch (lookupAnswer env cmd.tenantId
        (.idempotencyKey cmd.idempotencyKey) world) := by
  unfold InitiatePaymentHandler.checkIdempotency findByIdempotencyKey
  rw [lookupAnswer, Prog.exec_bind]
  cases (setTenant cmd.tenantId >>= fun _ => fetchPayment
      (.idempotencyKey cmd.idempotencyKey)).exec env.respond (.start world) with
  | mk answer session =>
      cases answer with
      | error error => rfl
      | ok found => cases found <;> rfl

/-- The lookups of the tenant answer the same on both tables, and an initiation
of the tenant takes the same branch. -/
structure SameAnswers (env : Env) (tenantId : Uuid)
    (key providerRef : String) (paymentId : Uuid) (left right : World) :
    Prop where
  findByIdempotencyKey :
    ((findByIdempotencyKey tenantId key).exec env.respond (.start left)).1 =
      ((findByIdempotencyKey tenantId key).exec env.respond (.start right)).1
  getPaymentByProviderRef :
    ((getPaymentByProviderRef (some tenantId) providerRef).exec env.respond
        (.start left)).1 =
      ((getPaymentByProviderRef (some tenantId) providerRef).exec env.respond
        (.start right)).1
  getPaymentById :
    ((getPaymentById tenantId paymentId).exec env.respond (.start left)).1 =
      ((getPaymentById tenantId paymentId).exec env.respond (.start right)).1
  checkIdempotency : ∀ cmd : InitiatePaymentCommand, cmd.tenantId = tenantId →
    cmd.idempotencyKey = key →
    ((InitiatePaymentHandler.checkIdempotency cmd).exec env.respond
        (.start left)).1 =
      ((InitiatePaymentHandler.checkIdempotency cmd).exec env.respond
        (.start right)).1

/-- The filters of the three lookups. -/
def lookupFilters (key providerRef : String) (paymentId : Uuid) :
    List PaymentFilter :=
  [.idempotencyKey key, .providerReference providerRef, .paymentId paymentId]

theorem sameAnswers_iff_lookupAnswer (tenantId : Uuid)
    (key providerRef : String) (paymentId : Uuid) :
    SameAnswers env tenantId key providerRef paymentId left right ↔
      ∀ filter ∈ lookupFilters key providerRef paymentId,
        lookupAnswer env tenantId filter left =
          lookupAnswer env tenantId filter right := by
  constructor
  · intro hsame filter hfilter
    simp only [lookupFilters, List.mem_cons, List.not_mem_nil, or_false]
      at hfilter
    rcases hfilter with rfl | rfl | rfl
    · exact hsame.findByIdempotencyKey
    · exact hsame.getPaymentByProviderRef
    · exact hsame.getPaymentById
  · intro hanswers
    have hkey := hanswers (.idempotencyKey key) (by simp [lookupFilters])
    refine ⟨hkey, hanswers (.providerReference providerRef)
      (by simp [lookupFilters]), hanswers (.paymentId paymentId)
      (by simp [lookupFilters]), ?_⟩
    rintro cmd rfl rfl
    rw [exec_checkIdempotency_eq_branch, exec_checkIdempotency_eq_branch, hkey]

/-! ## Tables that `save_payment` writes -/

/-- Every row is a saved payment. -/
def PaymentTable.Saved (table : PaymentTable) : Prop :=
  ∀ row ∈ table.rows, ∃ payment : Payment, payment.amount.ExactText ∧
    row = .ofPayment payment

/-- A save keeps every row a saved payment. -/
theorem PaymentTable.Saved.upsert {table : PaymentTable} (hsaved : table.Saved)
    {payment : Payment} (hexact : payment.amount.ExactText) :
    (table.upsert (.ofPayment payment)).Saved := by
  intro row hrow
  rcases PaymentTable.mem_upsertRows hrow with hold | rfl | ⟨old, hold, rfl⟩
  · exact hsaved row hold
  · exact ⟨payment, hexact, rfl⟩
  · obtain ⟨stored, hstored, rfl⟩ := hsaved old hold
    exact ⟨{ stored with
      status := payment.status
      providerReference := payment.providerReference
      failureReason := payment.failureReason
      completedAt := payment.completedAt }, hstored, rfl⟩

/-- Rows of two saved tables that convert alike are the same row. -/
theorem PaymentTable.Saved.eq_of_tryFrom_eq {left right : PaymentTable}
    (hleft : left.Saved) (hright : right.Saved) {leftRow rightRow : PaymentRow}
    (hleftRow : leftRow ∈ left.rows) (hrightRow : rightRow ∈ right.rows)
    (halike : Payment.tryFrom leftRow = Payment.tryFrom rightRow) :
    leftRow = rightRow := by
  obtain ⟨payment, hexact, rfl⟩ := hleft leftRow hleftRow
  obtain ⟨other, hotherExact, rfl⟩ := hright rightRow hrightRow
  rw [tryFrom_ofPayment hexact, tryFrom_ofPayment hotherExact,
    Except.ok.injEq] at halike
  rw [halike]

/-! ## Isolation -/

/-- Both tables have a matching row, and the two first ones convert alike. -/
def FirstAlike (filter : PaymentFilter) (left right : World) : Prop :=
  ∃ leftRow ∈ left.first filter, ∃ rightRow ∈ right.first filter,
    Payment.tryFrom leftRow = Payment.tryFrom rightRow

theorem convert_some_eq_iff {leftRow : PaymentRow} {found : Option PaymentRow} :
    convert (some leftRow) = convert found ↔
      ∃ rightRow ∈ found,
        Payment.tryFrom leftRow = Payment.tryFrom rightRow := by
  cases found with
  | none =>
      cases hleft : Payment.tryFrom leftRow <;>
        simp [convert, hleft, bind, Except.bind]
  | some rightRow =>
      cases hleft : Payment.tryFrom leftRow <;>
        cases hright : Payment.tryFrom rightRow <;>
          simp [convert, hleft, hright, bind, Except.bind]

/-- Two selects answer alike exactly if neither finds a row of another tenant
or both find rows that convert alike. -/
theorem convert_first_eq_iff {tenantId : Uuid}
    (hagree : AgreeOn tenantId left right) (filter : PaymentFilter) :
    convert (left.first filter) = convert (right.first filter) ↔
      (OwnFirst tenantId filter left ∧ OwnFirst tenantId filter right) ∨
        FirstAlike filter left right := by
  constructor
  · intro hconvert
    cases hleft : left.first filter with
    | some leftRow =>
        rw [hleft, convert_some_eq_iff] at hconvert
        exact Or.inr ⟨leftRow, hleft, hconvert⟩
    | none =>
        rw [hleft] at hconvert
        have hright : right.first filter = none :=
          convert_eq_ok_none hconvert.symm
        exact Or.inl ⟨ownFirst_of_first_eq_none hleft,
          ownFirst_of_first_eq_none hright⟩
  · rintro (⟨hleft, hright⟩ | ⟨leftRow, hleft, halike⟩)
    · rw [first_eq_of_ownFirst hagree hleft hright]
    · rw [Option.mem_def.mp hleft, convert_some_eq_iff]
      exact halike

/-- On tables that agree on the tenant's rows, the tenant's lookups and the
idempotency branch answer the same exactly if, for each lookup, either no row
of another tenant comes first or both tables have a first row and the two
convert alike.  On tables written by `save_payment` the latter means that the
same row comes first. -/
theorem lookups_isolated_iff (env : Env) {tenantId : Uuid} {left right : World}
    (hagree : AgreeOn tenantId left right) (key providerRef : String)
    (paymentId : Uuid) :
    (SameAnswers env tenantId key providerRef paymentId left right ↔
      (env.Succeeds 0 2 → ∀ filter ∈ lookupFilters key providerRef paymentId,
        (OwnFirst tenantId filter left ∧ OwnFirst tenantId filter right) ∨
          FirstAlike filter left right)) ∧
    (left.db.payments.Saved → right.db.payments.Saved →
      ∀ filter, FirstAlike filter left right ↔
        ∃ row, left.first filter = some row ∧
          right.first filter = some row) := by
  constructor
  · rw [sameAnswers_iff_lookupAnswer]
    by_cases hok : env.Succeeds 0 2
    · simp only [lookupAnswer_of_succeeds hok, convert_first_eq_iff hagree, hok,
        forall_const]
    · have hsame := fun filter =>
        lookupAnswer_of_not_succeeds hok tenantId filter left right
      simp only [hsame, hok, implies_true, false_implies]
  · intro hleft hright filter
    constructor
    · rintro ⟨leftRow, hleftRow, rightRow, hrightRow, halike⟩
      have hrow : leftRow = rightRow := hleft.eq_of_tryFrom_eq hright
        (List.mem_of_find?_eq_some hleftRow)
        (List.mem_of_find?_eq_some hrightRow) halike
      subst hrow
      exact ⟨leftRow, hleftRow, hrightRow⟩
    · rintro ⟨row, hleftRow, hrightRow⟩
      exact ⟨row, hleftRow, row, hrightRow, rfl⟩

end Lookups

open Samples in
/-- Lookups that match no row are not disturbed by another tenant's payment. -/
theorem unmatched_lookups_isolated :
    AgreeOn 3 (world noPayments) (world (onePayment Samples.payment)) ∧
      SameAnswers reliable 3 "idem-9" "MP-9" 9 (world noPayments)
        (world (onePayment Samples.payment)) := by
  have hagree : AgreeOn 3 (world noPayments)
      (world (onePayment Samples.payment)) := rfl
  refine ⟨hagree, (lookups_isolated_iff reliable hagree "idem-9" "MP-9" 9).1.mpr
    fun _ filter hfilter => ?_⟩
  simp only [lookupFilters, List.mem_cons, List.not_mem_nil, or_false]
    at hfilter
  rcases hfilter with rfl | rfl | rfl <;>
    exact Or.inl ⟨ownFirst_of_first_eq_none rfl, ownFirst_of_first_eq_none rfl⟩

open Samples in
/-- The tables have no row of tenant 3; a payment of tenant 2 under the same
idempotency key is returned to tenant 3 and blocks its initiation. -/
theorem foreign_key_blocks :
    let left := world noPayments
    let right := world (onePayment Samples.payment)
    let cmd := { initiation 1 with tenantId := 3 }
    AgreeOn 3 left right ∧
      ((findByIdempotencyKey 3 "idem-123").exec reliable.respond
        (.start left)).1 = .ok none ∧
      ((findByIdempotencyKey 3 "idem-123").exec reliable.respond
        (.start right)).1 = .ok (some Samples.payment) ∧
      ((InitiatePaymentHandler.checkIdempotency cmd).exec reliable.respond
        (.start left)).1 = .ok () ∧
      ((InitiatePaymentHandler.checkIdempotency cmd).exec reliable.respond
        (.start right)).1 = .error .idempotencyViolation :=
  ⟨rfl, rfl, rfl, rfl, rfl⟩

end UssdKernel.PaymentEngine
