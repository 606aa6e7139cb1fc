import UssdKernel.PaymentEngine.Domain

/-!
# Rows of `payment_engine.payments`

`save_payment` binds a payment column by column, with provider, amount and
status as text, and every lookup converts a row back with
`TryFrom<PaymentRow>`.  The table is a list of rows in physical order with
distinct payment ids; the upsert inserts a whole row or overwrites exactly the
four columns its `DO UPDATE` names.
-/

namespace UssdKernel.PaymentEngine

/-- The text form of the amount reads back as the amount. -/
def Decimal.ExactText [DecimalText] (amount : Decimal) : Prop :=
  DecimalText.parse (DecimalText.toText amount) = .ok amount

structure PaymentRow where
  paymentId : Uuid
  tenantId : Uuid
  idempotencyKey : String
  provider : String
  phoneNumber : String
  amount : String
  currency : String
  reference : String
  description : String
  status : String
  providerReference : Option String
  failureReason : Option String
  initiatedAt : DateTime
  completedAt : Option DateTime
  deriving DecidableEq

section Conversion

variable [DecimalText] {payment : Payment}

/-- The values that `save_payment` binds. -/
def PaymentRow.ofPayment (payment : Payment) : PaymentRow where
  paymentId := payment.paymentId
  tenantId := payment.tenantId
  idempotencyKey := payment.idempotencyKey
  provider := payment.provider.asStr
  phoneNumber := payment.phoneNumber
  amount := DecimalText.toText payment.amount
  currency := payment.currency
  reference := payment.reference
  description := payment.description
  status := payment.status.asStr
  providerReference := payment.providerReference
  failureReason := payment.failureReason
  initiatedAt := payment.initiatedAt
  completedAt := payment.completedAt

def parseProvider (text : String) : Except DomainError MobileMoneyProvider :=
  match text with
  | "ecocash" => .ok .ecoCash
  | "onemoney" => .ok .oneMoney
  | "telecash" => .ok .telecash
  | other => .error (.databaseError ("Unknown provider: " ++ other))

def parseStatus (text : String) : Except DomainError PaymentStatus :=
  match text with
  | "pending" => .ok .pending
  | "processing" => .ok .processing
  | "completed" => .ok .completed
  | "failed" => .ok .failed
  | "cancelled" => .ok .cancelled
  | "refunded" => .ok .refunded
  | other => .error (.databaseError ("Unknown status: " ++ other))

def parseAmount (text : String) : Except DomainError Decimal :=
  match DecimalText.parse text with
  | .ok amount => .ok amount
  | .error message =>
      .error (.databaseError ("Invalid amount in DB: " ++ message))

/-- `TryFrom<PaymentRow> for Payment`. -/
def Payment.tryFrom (row : PaymentRow) : Except DomainError Payment := do
  let provider ← parseProvider row.provider
  let status ← parseStatus row.status
  let amount ← parseAmount row.amount
  .ok
    { paymentId := row.paymentId
      tenantId := row.tenantId
      idempotencyKey := row.idempotencyKey
      provider
      phoneNumber := row.phoneNumber
      amount
      currency := row.currency
      reference := row.reference
      description := row.description
      status
      providerReference := row.providerReference
      failureReason := row.failureReason
      initiatedAt := row.initiatedAt
      completedAt := row.completedAt }

omit [DecimalText] in
@[simp]
theorem parseProvider_asStr (provider : MobileMoneyProvider) :
    parseProvider provider.asStr = .ok provider := by
  cases provider <;> rfl

omit [DecimalText] in
@[simp]
theorem parseStatus_asStr (status : PaymentStatus) :
    parseStatus status.asStr = .ok status := by
  cases status <;> rfl

/-- A saved payment reads back as itself. -/
theorem tryFrom_ofPayment (hexact : payment.amount.ExactText) :
    Payment.tryFrom (PaymentRow.ofPayment payment) = .ok payment := by
  have hamount : parseAmount (DecimalText.toText payment.amount) =
      .ok payment.amount := by
    rw [parseAmount, hexact]
  simp [Payment.tryFrom, PaymentRow.ofPayment, hamount, bind, Except.bind]

/-- What a successful conversion determines. -/
theorem tryFrom_eq_ok {row : PaymentRow}
    (hpayment : Payment.tryFrom row = .ok payment) :
    parseStatus row.status = .ok payment.status ∧
      payment.paymentId = row.paymentId ∧
        payment.tenantId = row.tenantId := by
  obtain ⟨provider, -, hafter⟩ := Results.bind_eq_ok.mp hpayment
  obtain ⟨status, hstatus, hafter⟩ := Results.bind_eq_ok.mp hafter
  obtain ⟨amount, -, hafter⟩ := Results.bind_eq_ok.mp hafter
  cases hafter
  exact ⟨hstatus, rfl, rfl⟩

end Conversion

/-! ## The table -/

/-- `ON CONFLICT (payment_id) DO UPDATE SET ...`. -/
def PaymentRow.overwrite (stored excluded : PaymentRow) : PaymentRow :=
  { stored with
    status := excluded.status
    providerReference := excluded.providerReference
    failureReason := excluded.failureReason
    completedAt := excluded.completedAt }

/-- The row left by an upsert where `stored` was the row of that payment
id. -/
def PaymentRow.upserted (stored : Option PaymentRow) (row : PaymentRow) :
    PaymentRow :=
  match stored with
  | none => row
  | some old => old.overwrite row

structure PaymentTable where
  rows : List PaymentRow
  ids_nodup : (rows.map PaymentRow.paymentId).Nodup

namespace PaymentTable

def byId (table : PaymentTable) (paymentId : Uuid) : Option PaymentRow :=
  table.rows.find? fun row => row.paymentId = paymentId

variable {table : PaymentTable} {row : PaymentRow} {rows : List PaymentRow}
  {key : String}

theorem byId_of_mem (hrow : row ∈ table.rows) :
    table.byId row.paymentId = some row := by
  cases hfound : table.byId row.paymentId with
  | none =>
      have hnone := List.find?_eq_none.mp hfound row hrow
      simp at hnone
  | some found =>
      have hmem := List.mem_of_find?_eq_some hfound
      have hid : found.paymentId = row.paymentId := by
        simpa using List.find?_some hfound
      rw [List.inj_on_of_nodup_map table.ids_nodup hmem hrow hid]

def upsertRows (row : PaymentRow) : List PaymentRow → List PaymentRow
  | [] => [row]
  | stored :: rest =>
      if stored.paymentId = row.paymentId then stored.overwrite row :: rest
      else stored :: upsertRows row rest

theorem map_paymentId_upsertRows (row : PaymentRow) (rows : List PaymentRow) :
    (upsertRows row rows).map PaymentRow.paymentId =
      if row.paymentId ∈ rows.map PaymentRow.paymentId then
        rows.map PaymentRow.paymentId
      else rows.map PaymentRow.paymentId ++ [row.paymentId] := by
  induction rows with
  | nil => simp [upsertRows]
  | cons stored rest ih =>
      by_cases hid : stored.paymentId = row.paymentId
      · simp [upsertRows, hid, PaymentRow.overwrite]
      · have hid' : row.paymentId ≠ stored.paymentId := fun h => hid h.symm
        simp only [upsertRows, if_neg hid, List.map_cons, ih, List.mem_cons,
          hid', false_or]
        split <;> simp

/-- The statement of `save_payment`. -/
def upsert (table : PaymentTable) (row : PaymentRow) : PaymentTable where
  rows := upsertRows row table.rows
  ids_nodup := by
    rw [map_paymentId_upsertRows]
    split
    · exact table.ids_nodup
    · next hnew =>
        exact List.Nodup.append table.ids_nodup (by simp)
          (by simpa using hnew)

theorem byId_upsert (table : PaymentTable) (row : PaymentRow)
    (paymentId : Uuid) :
    (table.upsert row).byId paymentId =
      if row.paymentId = paymentId then
        some (PaymentRow.upserted (table.byId paymentId) row)
      else table.byId paymentId := by
  simp only [byId, upsert]
  induction table.rows with
  | nil =>
      by_cases hid : row.paymentId = paymentId
      · simp [upsertRows, PaymentRow.upserted, hid]
      · simp [upsertRows, hid]
  | cons stored rest ih =>
      by_cases hstored : stored.paymentId = row.paymentId
      · by_cases hid : row.paymentId = paymentId
        · simp [upsertRows, hstored, hid, PaymentRow.upserted,
            PaymentRow.overwrite]
        · simp [upsertRows, hstored, hid, PaymentRow.overwrite]
      · by_cases hid : row.paymentId = paymentId
        · simp [upsertRows, ih, hid, hid ▸ hstored]
        · simp only [upsertRows, if_neg hstored, List.find?_cons, ih,
            if_neg hid]

/-- The status column of a payment, read back. -/
def statusOf (table : PaymentTable) (paymentId : Uuid) :
    Option PaymentStatus := do
  let row ← table.byId paymentId
  (parseStatus row.status).toOption

theorem status_upserted (stored : Option PaymentRow) (row : PaymentRow) :
    (PaymentRow.upserted stored row).status = row.status := by
  cases stored <;> rfl

/-- After an upsert the payment has the status of the upserted row; every
other payment keeps its status. -/
theorem statusOf_upsert (table : PaymentTable) (row : PaymentRow)
    (paymentId : Uuid) :
    (table.upsert row).statusOf paymentId =
      if row.paymentId = paymentId then (parseStatus row.status).toOption
      else table.statusOf paymentId := by
  unfold statusOf
  rw [byId_upsert]
  split
  · simp [status_upserted]
  · rfl

theorem mem_upsertRows {stored : PaymentRow}
    (hstored : stored ∈ upsertRows row rows) :
    stored ∈ rows ∨ stored = row ∨ ∃ old ∈ rows, stored = old.overwrite row := by
  induction rows with
  | nil => exact Or.inr (Or.inl (List.mem_singleton.mp hstored))
  | cons head rest ih =>
      rw [upsertRows] at hstored
      split at hstored
      · rcases List.mem_cons.mp hstored with rfl | hrest
        · exact Or.inr (Or.inr ⟨head, List.mem_cons_self, rfl⟩)
        · exact Or.inl (List.mem_cons_of_mem _ hrest)
      · rcases List.mem_cons.mp hstored with rfl | hrest
        · exact Or.inl List.mem_cons_self
        · rcases ih hrest with hold | hnew | ⟨old, hold, hoverwrite⟩
          · exact Or.inl (List.mem_cons_of_mem _ hold)
          · exact Or.inr (Or.inl hnew)
          · exact Or.inr (Or.inr ⟨old, List.mem_cons_of_mem _ hold, hoverwrite⟩)

theorem exists_key_upsertRows (row : PaymentRow)
    (hkey : ∃ stored ∈ rows, stored.idempotencyKey = key) :
    ∃ stored ∈ upsertRows row rows, stored.idempotencyKey = key := by
  induction rows with
  | nil => simp at hkey
  | cons head rest ih =>
      obtain ⟨stored, hstored, hkey⟩ := hkey
      rw [upsertRows]
      split
      · rcases List.mem_cons.mp hstored with rfl | hrest
        · exact ⟨_, List.mem_cons_self, hkey⟩
        · exact ⟨stored, List.mem_cons_of_mem _ hrest, hkey⟩
      · rcases List.mem_cons.mp hstored with rfl | hrest
        · exact ⟨_, List.mem_cons_self, hkey⟩
        · obtain ⟨found, hfound, hfoundKey⟩ := ih ⟨stored, hrest, hkey⟩
          exact ⟨found, List.mem_cons_of_mem _ hfound, hfoundKey⟩

/-- An upsert never removes a row or changes its key. -/
theorem exists_key_upsert (row : PaymentRow)
    (hkey : ∃ stored ∈ table.rows, stored.idempotencyKey = key) :
    ∃ stored ∈ (table.upsert row).rows, stored.idempotencyKey = key :=
  exists_key_upsertRows row hkey

/-- A row with a new payment id is inserted as it is. -/
theorem mem_upsert_of_new (hnew : table.byId row.paymentId = none) :
    row ∈ (table.upsert row).rows := by
  have hfound : (table.upsert row).byId row.paymentId = some row := by
    rw [byId_upsert, if_pos rfl, hnew]
    rfl
  exact List.mem_of_find?_eq_some hfound

end PaymentTable

/-! ## A sample payment -/

namespace Samples

def hundred : Decimal where
  mantissa := 100
  scale := 0
  mantissa_lt := by decide
  scale_le := by decide

/-- `rust_decimal` on whole amounts, as far as the samples need it. -/
scoped instance wholeText : DecimalText where
  toText amount := toString amount.mantissa
  parse text :=
    if text = "100" then .ok hundred
    else .error "Invalid decimal: unknown character"
  isDecimalDigit := Char.isDigit

theorem exactText_hundred : hundred.ExactText := rfl

def payment : Payment where
  paymentId := 1
  tenantId := 2
  idempotencyKey := "idem-123"
  provider := .ecoCash
  phoneNumber := "2637123456789"
  amount := hundred
  currency := "USD"
  reference := "REF-001"
  description := "Test payment"
  status := .pending
  providerReference := none
  failureReason := none
  initiatedAt := 0
  completedAt := none

theorem new_eq_payment :
    Payment.new 1 2 "idem-123" .ecoCash "2637123456789" hundred "USD" "REF-001"
      "Test payment" 0 = .ok payment := by
  decide

end Samples

end UssdKernel.PaymentEngine
