import UssdKernel.Core.Runs
import UssdKernel.Ledger.Movements

/-!
# Running balances

The balance that `get_account_balance` returns is the sum of the account's
credits minus its debits, if every posting continues the account's last one:
the trigger takes that one, no other currency has been posted to the account,
nothing is lost by rounding, and the new posting is the one that is read next.
Each of the four can fail, and then the balance is another one.
-/

namespace UssdKernel.Ledger

open KeyedSums Runs SortedOrders

/-- A call of `post_movement`.  Calls of one database transaction have the same
`now`. -/
structure PostCall where
  env : PostEnv
  request : MovementRequest

/-- The tables after a call; one that fails leaves them. -/
def post (books : Books) (call : PostCall) : Books :=
  match postMovement call.env call.request books with
  | .ok (_, after) => after
  | .error _ => books

/-- The posting continues the account's last one. -/
structure Continues (tie : ℕ) (postings : List Posting) (posting : Posting) :
    Prop where
  preceding : precedingPosting tie postings posting.accountId =
    (postingsOf postings posting.accountId).getLast?
  currency : ∀ other ∈ postingsOf postings posting.accountId,
    other.currency = posting.currency
  decimals : 10000 ∣
    ((postingsOf postings posting.accountId).map Posting.signed).sum
  read : ∀ other ∈ postingsOf postings posting.accountId,
    posting.readKey < other.readKey

instance (tie : ℕ) (postings : List Posting) (posting : Posting) :
    Decidable (Continues tie postings posting) :=
  decidable_of_iff (_ ∧ _ ∧ _ ∧ _)
    ⟨fun ⟨hpreceding, hcurrency, hdecimals, hread⟩ =>
      ⟨hpreceding, hcurrency, hdecimals, hread⟩,
    fun hcontinues => ⟨hcontinues.preceding, hcontinues.currency,
      hcontinues.decimals, hcontinues.read⟩⟩

/-- Both postings of a call continue the last one of their account. -/
def CallContinues (books : Books) (call : PostCall) : Prop :=
  Continues call.env.debitTie books.postings
      (debitPosted call.env call.request books.postings) ∧
    Continues call.env.creditTie
      (books.postings ++ [debitPosted call.env call.request books.postings])
      (creditPosted call.env call.request books.postings)

instance (books : Books) (call : PostCall) :
    Decidable (CallContinues books call) :=
  inferInstanceAs (Decidable (_ ∧ _))

/-! ## The last posting of an account -/

/-- The last of an account's postings is in the currency of all of them, has
their sum as its balance and is the first to be read. -/
def CarriesSum (rows : List Posting) : Prop :=
  ∀ last ∈ rows.getLast?, last.runningBalance =
      (rows.map Posting.signed).sum ∧
    ∀ other ∈ rows.dropLast, other.currency = last.currency ∧
      last.readKey < other.readKey

section Posting

variable {tie : ℕ} {postings : List Posting} {posting : Posting}
  {accountId : Uuid}

theorem postingsOf_append_of_eq (hsame : posting.accountId = accountId) :
    postingsOf (postings ++ [posting]) accountId =
      postingsOf postings accountId ++ [posting] := by
  rw [postingsOf, List.filter_append, List.filter_singleton]
  simp [postingsOf, hsame]

theorem postingsOf_append_of_ne (hother : posting.accountId ≠ accountId) :
    postingsOf (postings ++ [posting]) accountId =
      postingsOf postings accountId := by
  rw [postingsOf, List.filter_append, List.filter_singleton]
  simp [postingsOf, hother]

theorem roundTo4_of_dvd {value : ℤ} (hdecimals : 10000 ∣ value) :
    roundTo4 value = value := by
  have hunits : (value.natAbs + 5000) / 10000 * 10000 = value.natAbs := by
    omega
  rw [roundTo4, hunits]
  exact Int.sign_mul_natAbs value

/-- Continuing the last posting keeps its sum. -/
theorem carriesSum_append
    (hrows : CarriesSum (postingsOf postings posting.accountId))
    (hcontinues : Continues tie postings posting) :
    CarriesSum (postingsOf postings posting.accountId ++
      [calculateRunningBalance tie postings posting]) := by
  have hbalance : ((precedingPosting tie postings posting.accountId).map
      fun row => roundTo4 row.runningBalance).getD 0 =
        ((postingsOf postings posting.accountId).map Posting.signed).sum := by
    rw [hcontinues.preceding]
    cases hlast : (postingsOf postings posting.accountId).getLast? with
    | none =>
        rw [List.getLast?_eq_none_iff.mp hlast]
        rfl
    | some last =>
        have hsum := (hrows last hlast).1
        rw [Option.map_some, Option.getD_some, hsum]
        exact roundTo4_of_dvd hcontinues.decimals
  intro last hlast
  rw [List.getLast?_concat, Option.mem_some] at hlast
  subst hlast
  rw [List.dropLast_concat, List.map_append, List.sum_append, ← hbalance]
  refine ⟨?_, fun other hother => ⟨hcontinues.currency other hother,
    hcontinues.read other hother⟩⟩
  simp [calculateRunningBalance, Posting.signed]

theorem carriesSum_insert {stored : Posting}
    (hstored : stored = calculateRunningBalance tie postings posting)
    (hpostings : ∀ accountId, CarriesSum (postingsOf postings accountId))
    (hcontinues : Continues tie postings stored) (accountId : Uuid) :
    CarriesSum (postingsOf (postings ++ [stored]) accountId) := by
  by_cases haccount : stored.accountId = accountId
  · rw [postingsOf_append_of_eq haccount]
    subst hstored haccount
    exact carriesSum_append (hpostings posting.accountId)
      ⟨hcontinues.preceding, hcontinues.currency, hcontinues.decimals,
        hcontinues.read⟩
  · rw [postingsOf_append_of_ne haccount]
    exact hpostings accountId

/-- All rows are in the currency of the last one. -/
theorem filter_currency_of_carriesSum {rows : List Posting}
    (hrows : CarriesSum rows) {row : Posting} {currency : String}
    (hrow : row ∈ rows.filter (·.currency = currency)) :
    rows.filter (·.currency = currency) = rows := by
  obtain ⟨last, hlast⟩ : ∃ last, rows.getLast? = some last :=
    Option.isSome_iff_exists.mp (List.getLast?_isSome.mpr
      (List.ne_nil_of_mem (List.mem_of_mem_filter hrow)))
  have hsplit : rows = rows.dropLast ++ [last] :=
    (List.dropLast_append_getLast? last hlast).symm
  have hall : ∀ other ∈ rows, other.currency = last.currency := by
    intro other hother
    rw [hsplit] at hother
    rcases List.mem_append.mp hother with hearlier | hself
    · exact ((hrows last hlast).2 other hearlier).1
    · rw [List.mem_singleton.mp hself]
  obtain ⟨hmem, hcurrency⟩ := List.mem_filter.mp hrow
  apply List.filter_eq_self.mpr
  intro other hother
  rw [hall other hother, ← hall row hmem]
  exact hcurrency

/-- If the last posting carries the sum, it is what is read in its
currency. -/
theorem balance_eq_net_of_carriesSum
    (hrows : CarriesSum (postingsOf postings accountId)) {currency : String}
    {balance : AccountBalance}
    (hbalance : getAccountBalance postings accountId (some currency) =
      some balance) :
    balance.balance = net postings (accountId, currency) := by
  have hquery : ∀ rows : List Posting, (rows.filter fun row =>
      ∀ wanted ∈ some currency, row.currency = wanted) =
        rows.filter (·.currency = currency) := by
    intro rows
    simp
  rw [getAccountBalance, hquery] at hbalance
  obtain ⟨row, hread, rfl⟩ := Option.map_eq_some_iff.mp hbalance
  have hrow : row ∈
      (postingsOf postings accountId).filter (·.currency = currency) :=
    (List.perm_insertionSort _ _).mem_iff.mp (List.mem_of_mem_head? hread)
  have hfirst := head?_insertionSort fun last hlast other hother =>
    ((hrows last hlast).2 other hother).2
  rw [filter_currency_of_carriesSum hrows hrow, hfirst] at hread
  have hnet : net postings (accountId, currency) =
      (((postingsOf postings accountId).filter
        (·.currency = currency)).map Posting.signed).sum := by
    rw [net, sumAt, postingsOf, List.filter_filter]
    simp only [Prod.mk.injEq, Bool.decide_and, Bool.and_comm]
  rw [hnet, filter_currency_of_carriesSum hrows hrow]
  exact (hrows row hread).1

end Posting

/-! ## Runs of calls -/

theorem post_cases (books : Books) (call : PostCall) :
    post books call = books ∨
      Posted call.env call.request books (post books call) := by
  rw [post]
  cases hcall : postMovement call.env call.request books with
  | error error => exact Or.inl rfl
  | ok answer => exact Or.inr (postMovement_eq_ok hcall).2

theorem carriesSum_post {books : Books} {call : PostCall}
    (hbooks : ∀ accountId, CarriesSum (postingsOf books.postings accountId))
    (hcontinues : CallContinues books call) (accountId : Uuid) :
    CarriesSum (postingsOf (post books call).postings accountId) := by
  rcases post_cases books call with hsame | hposted
  · rw [hsame]
    exact hbooks accountId
  · obtain ⟨hdebit, hcredit⟩ := hcontinues
    have hfirst := carriesSum_insert rfl hbooks hdebit
    have hsecond := carriesSum_insert rfl hfirst hcredit accountId
    rw [List.append_assoc] at hsecond
    rw [hposted.books]
    exact hsecond

/-- In every run whose postings all continue the last one of their account, the
balance that is read for an account in a currency is the sum of its credits
minus its debits. -/
theorem balance_eq_net (log : List TransactionRow) (legs : List Leg)
    (calls : List PostCall)
    (hcontinues : Throughout post CallContinues calls ⟨log, legs, []⟩)
    (accountId : Uuid) (currency : String) (balance : AccountBalance)
    (hbalance : getAccountBalance (calls.foldl post ⟨log, legs, []⟩).postings
      accountId (some currency) = some balance) :
    balance.balance = net (calls.foldl post ⟨log, legs, []⟩).postings
      (accountId, currency) := by
  have hstep : ∀ books call,
      (∀ accountId, CarriesSum (postingsOf books.postings accountId)) →
        CallContinues books call → ∀ accountId,
          CarriesSum (postingsOf (post books call).postings accountId) :=
    fun _ _ => carriesSum_post
  have hstart : ∀ accountId, CarriesSum (postingsOf [] accountId) := by
    intro accountId last hlast
    cases hlast
  exact balance_eq_net_of_carriesSum
    (foldl_invariant hstep hstart hcontinues accountId) hbalance

namespace Sample

def transaction (id : TransactionId) : TransactionRow where
  transactionId := id
  transactionHash := none
  payload := "\x7b\x7d"
  idempotencyKey := "payment-key"
  committedAt := 0
  partitionDate := 20000

def log : List TransactionRow :=
  [transaction 1, transaction 2, transaction 3]

/-- The call with this number, which draws ids that increase with it. -/
def env (number now : ℤ) (tie : ℕ) : PostEnv where
  active _ := true
  debitLegId := BitVec.ofInt 128 (4 * number)
  creditLegId := BitVec.ofInt 128 (4 * number + 1)
  debitPostingId := BitVec.ofInt 128 (4 * number + 2)
  creditPostingId := BitVec.ofInt 128 (4 * number + 3)
  now := now
  accountingDate := 20000
  debitTie := tie
  creditTie := tie

/-- From account 7 to account 8, the amount in units of 0.00000001. -/
def movement (transactionId : TransactionId) (amount : ℤ)
    (currency : String) : MovementRequest where
  transactionId := transactionId
  debitAccountId := 7
  creditAccountId := 8
  amount := amount
  currency := currency
  description := none
  valueDate := 20000

/-- What account 8 has after the calls, as it is read and as its postings
say. -/
def balances (calls : List PostCall) (currency : String) :
    Option ℤ × ℤ :=
  let postings := (calls.foldl post ⟨log, [], []⟩).postings
  ((getAccountBalance postings 8 (some currency)).map AccountBalance.balance,
    net postings (8, currency))

def twoPayments : List PostCall :=
  [⟨env 1 100 0, movement 1 500000000 "USD"⟩,
    ⟨env 2 200 0, movement 2 300000000 "USD"⟩]

theorem balance_eq_net_two_payments :
    Throughout post CallContinues twoPayments ⟨log, [], []⟩ ∧
      800000000 =
        net (twoPayments.foldl post ⟨log, [], []⟩).postings (8, "USD") := by
  have hcontinues : Throughout post CallContinues twoPayments
      ⟨log, [], []⟩ := by
    decide +kernel
  have hbalance : getAccountBalance
      (twoPayments.foldl post ⟨log, [], []⟩).postings 8 (some "USD") =
        some ⟨"USD", 800000000, 11, 200⟩ := by
    decide +kernel
  exact ⟨hcontinues, balance_eq_net log [] twoPayments hcontinues 8 "USD" _
    hbalance⟩

/-- A second payment in another currency, a third one in the same database
transaction, a second one after an amount of five decimals, and a second one
whose posting ids are below those of the first: the balance that is read is not
the sum. -/
theorem balances_differ :
    balances [⟨env 1 100 0, movement 1 500000000 "USD"⟩,
        ⟨env 2 200 0, movement 2 300000000 "EUR"⟩] "EUR" =
        (some 800000000, 300000000) ∧
      balances [⟨env 1 100 0, movement 1 500000000 "USD"⟩,
        ⟨env 2 100 0, movement 2 300000000 "USD"⟩,
        ⟨env 3 100 0, movement 3 300000000 "USD"⟩] "USD" =
        (some 800000000, 1100000000) ∧
      balances [⟨env 1 100 0, movement 1 500001000 "USD"⟩,
        ⟨env 2 200 0, movement 2 300000000 "USD"⟩] "USD" =
        (some 800000000, 800001000) ∧
      balances [⟨env 2 100 0, movement 1 500000000 "USD"⟩,
        ⟨env 1 200 0, movement 2 300000000 "USD"⟩] "USD" =
        (some 500000000, 800000000) := by
  decide +kernel

end Sample

end UssdKernel.Ledger
