import UssdKernel.Ledger.Balances

/-!
# Reversals

`reverse_movement` posts the amount of a leg again with the accounts exchanged,
under a new ledger transaction of type `REVERSAL`.  It takes the leg with the
given id as the debit leg of the movement, whatever its direction, and the key
of the new transaction contains the id and the time.

A movement may therefore be reversed again at another time or through its other
leg, and a reversal through the credit leg moves the amount within one account.
In a history whose reversals all name debit legs (or legs of movements within
one account), with one key for each movement, every movement is reversed at most
once and each reversal restores the sums of both accounts.
-/

namespace UssdKernel.Ledger

open KeyedSums Results Runs

/-- What the database computes for the functions: `digest` with `sha256`,
`now()::text`, `extract(epoch from now())::text` and the text of the payload of
a reversal. -/
structure Functions where
  sha256 : Bytes → BitVec 256
  timestampText : ℤ → String
  epochText : ℤ → String
  reversalPayload : Uuid → Option String → String

/-- What a call of `reverse_movement` finds around it; `tie` names the credit
leg that `LIMIT 1` returns. -/
structure ReverseEnv where
  activeType : String → Bool
  newId : TransactionId
  today : ℤ
  post : PostEnv
  tie : ℕ

def ReverseEnv.create (env : ReverseEnv) : CreateEnv where
  activeType := env.activeType
  newId := env.newId
  now := env.post.now
  today := env.today

structure ReverseRequest where
  legId : Uuid
  reason : Option String
  reversalDate : ℤ

/-- The credit leg that is taken for the pair of a leg. -/
def pairedCredit (tie : ℕ) (legs : List Leg) (original : Leg) : Option Leg :=
  ((legs.filter fun leg => leg.transactionId = original.transactionId ∧
    leg.direction = .credit).rotate tie).head?

variable {answer : Uuid × Books}

section Reverse

variable (functions : Functions) (env : ReverseEnv) (request : ReverseRequest)

def reversalKey : String :=
  "REV-" ++ Text.uuid request.legId ++ "-" ++
    functions.epochText env.post.now

def createReversal (log : List TransactionRow) :
    Except LedgerError (TransactionId × List TransactionRow) :=
  createTransaction functions.sha256 functions.timestampText env.create
    "REVERSAL" (functions.reversalPayload request.legId request.reason)
    (reversalKey functions env request) log

/-- The movement with debit and credit exchanged. -/
def reversalMovement (original credit : Leg) (transactionId : TransactionId) :
    MovementRequest where
  transactionId := transactionId
  debitAccountId := credit.accountId
  creditAccountId := original.accountId
  amount := original.amount
  currency := original.currency
  description := request.reason.map fun reason =>
    "Reversal of " ++ Text.uuid request.legId ++ ": " ++ reason
  valueDate := request.reversalDate

/-- The account of a credit leg that is not found is `NULL`. -/
def reverseMovement (books : Books) : Except LedgerError (Uuid × Books) := do
  match books.legs.find? (·.legId = request.legId) with
  | none => .error (.movementNotFound request.legId)
  | some original =>
      let created ← createReversal functions env request books.log
      match pairedCredit env.tie books.legs original with
      | none => .error (.debitAccount none)
      | some credit =>
          postMovement env.post
            (reversalMovement request original credit created.1)
            { books with log := created.2 }

variable {functions env request} {books : Books}

/-- What a reversal that succeeds has found and posted. -/
theorem reverseMovement_eq_ok
    (hok : reverseMovement functions env request books = .ok answer) :
    ∃ original credit new row,
      books.legs.find? (·.legId = request.legId) = some original ∧
      pairedCredit env.tie books.legs original = some credit ∧
      (books.log ++ new).find?
          (·.idempotencyKey = reversalKey functions env request) = some row ∧
      Posted env.post
        (reversalMovement request original credit row.transactionId)
        { books with log := books.log ++ new } answer.2 := by
  rw [reverseMovement] at hok
  cases hfind : books.legs.find? (·.legId = request.legId) with
  | none =>
      rw [hfind] at hok
      cases hok
  | some original =>
      rw [hfind] at hok
      obtain ⟨⟨transactionId, log⟩, hcreate, hok⟩ := bind_eq_ok.mp hok
      obtain ⟨⟨new, rfl, -⟩, row, hrow, rfl⟩ := createTransaction_eq_ok hcreate
      cases hcredit : pairedCredit env.tie books.legs original with
      | none =>
          rw [hcredit] at hok
          cases hok
      | some credit =>
          rw [hcredit] at hok
          exact ⟨original, credit, new, row, rfl, hcredit, hrow,
            (postMovement_eq_ok hok).2⟩

end Reverse

/-! ## Histories -/

inductive LedgerCall
  | create (env : CreateEnv) (typeCode payload key : String)
  | post (call : PostCall)
  | reverse (env : ReverseEnv) (request : ReverseRequest)

/-- A movement, with the postings right before and right after it. -/
structure Movement where
  transactionId : TransactionId
  before : List Posting
  after : List Posting
  deriving DecidableEq

/-- The tables, the movements posted so far, and for each reversal the ledger
transaction it has reversed and its key. -/
structure History where
  books : Books
  movements : List Movement
  reversals : List (TransactionId × String)

def History.start (log : List TransactionRow) : History :=
  ⟨⟨log, [], []⟩, [], []⟩

/-- The history after a call that has posted a movement, whose legs are the last
ones. -/
def History.append (history : History) (after : Books)
    (reversals : List (TransactionId × String)) : History where
  books := after
  movements := history.movements ++
    (after.legs.getLast?.map fun leg =>
      ⟨leg.transactionId, history.books.postings, after.postings⟩).toList
  reversals := history.reversals ++ reversals

section History

variable (functions : Functions)

section Calls

variable (legs : List Leg)

/-- The leg that a call names. -/
def originalLeg (request : ReverseRequest) : Option Leg :=
  legs.find? (·.legId = request.legId)

/-- The transaction of the leg that a reversal names, with the key of the
reversal. -/
def reversalOf : LedgerCall → Option (TransactionId × String)
  | .reverse env request =>
      (originalLeg legs request).map fun leg =>
        (leg.transactionId, reversalKey functions env request)
  | _ => none

/-- A reversal names the debit leg of a movement, or a leg of a movement within
one account. -/
def NamesDebit : LedgerCall → Prop
  | .reverse _ request =>
      ∀ original ∈ originalLeg legs request,
        original.direction = .debit ∨
          ∀ leg ∈ legs, leg.transactionId = original.transactionId →
            leg.accountId = original.accountId
  | _ => True

/-- Reversals of one transaction have one key. -/
def OneKey (reversals : List (TransactionId × String)) : Prop :=
  ∀ first ∈ reversals, ∀ second ∈ reversals,
    first.1 = second.1 → first.2 = second.2

/-- A condition on the calls, whether or not they succeed: the reversals name
debit legs, and those that name legs of one movement have one key. -/
structure Reversible (calls : List LedgerCall) : Prop where
  debit : ∀ call ∈ calls, NamesDebit legs call
  oneKey : OneKey (calls.filterMap (reversalOf functions legs))

end Calls

section Histories

variable (history : History)

/-- The history after a call; one that fails leaves it. -/
def step : LedgerCall → History
  | .create env typeCode payload key =>
      match createTransaction functions.sha256 functions.timestampText env
          typeCode payload key history.books.log with
      | .ok created =>
          { history with books := { history.books with log := created.2 } }
      | .error _ => history
  | .post call =>
      match postMovement call.env call.request history.books with
      | .ok answer => history.append answer.2 []
      | .error _ => history
  | .reverse env request =>
      match reverseMovement functions env request history.books with
      | .ok answer =>
          history.append answer.2 (reversalOf functions history.books.legs
            (.reverse env request)).toList
      | .error _ => history

/-- After a reversal that succeeds the sums of both accounts of the movement
are what they were right before it, apart from what was posted between the two
calls. -/
def Restored : LedgerCall → Prop
  | .reverse env request =>
      ∀ answer original,
        reverseMovement functions env request history.books = .ok answer →
        originalLeg history.books.legs request = some original →
        ∀ movement ∈ history.movements,
          movement.transactionId = original.transactionId →
          ∀ leg ∈ history.books.legs,
            leg.transactionId = original.transactionId → ∀ currency,
              net answer.2.postings (leg.accountId, currency) =
                net movement.before (leg.accountId, currency) +
                  (net history.books.postings (leg.accountId, currency) -
                    net movement.after (leg.accountId, currency))
  | _ => True

/-- After the call no movement has been reversed twice, and if it is a reversal
it has restored the sums. -/
def Sound (call : LedgerCall) : Prop :=
  ((step functions history call).reversals.map Prod.fst).Nodup ∧
    Restored functions history call

end Histories

end History

/-! ## What holds along a history -/

/-- The transaction has a debit leg and a credit leg of one amount, and no
others. -/
structure Pair (legs : List Leg) (transactionId : TransactionId)
    (debit credit : Leg) : Prop where
  only : legs.filter (·.transactionId = transactionId) = [debit, credit]
  isDebit : debit.direction = .debit
  first : debit.legSequence = 1
  isCredit : credit.direction = .credit
  amount : credit.amount = debit.amount
  currency : credit.currency = debit.currency
  positive : 0 < debit.amount

/-- The movement has changed the sums by the transfer between the accounts of
its two legs. -/
def Paired (legs : List Leg) (movement : Movement) : Prop :=
  ∃ debit credit, Pair legs movement.transactionId debit credit ∧
    net movement.after = net movement.before +
      transfer debit.accountId credit.accountId debit.currency debit.amount

theorem Pair.mem_iff {legs : List Leg} {transactionId : TransactionId}
    {debit credit leg : Leg} (hpair : Pair legs transactionId debit credit) :
    (leg ∈ legs ∧ leg.transactionId = transactionId) ↔
      leg = debit ∨ leg = credit := by
  rw [← List.mem_pair, ← hpair.only, List.mem_filter, decide_eq_true_eq]

structure Invariant (history : History) : Prop where
  dated : ∀ leg ∈ history.books.legs,
    leg.partitionDate =
        partitionDateOf history.books.log leg.transactionId ∧
      ∃ row ∈ history.books.log, row.transactionId = leg.transactionId
  paired : ∀ movement ∈ history.movements,
    Paired history.books.legs movement
  belongs : ∀ leg ∈ history.books.legs,
    ∃ movement ∈ history.movements,
      movement.transactionId = leg.transactionId
  keyed : ∀ reversal ∈ history.reversals,
    ∃ row, history.books.log.find? (·.idempotencyKey = reversal.2) =
        some row ∧
      ∃ leg ∈ history.books.legs, leg.transactionId = row.transactionId
  once : (history.reversals.map Prod.fst).Nodup

theorem invariant_start (log : List TransactionRow) :
    Invariant (History.start log) where
  dated := by simp [History.start]
  paired := by simp [History.start]
  belongs := by simp [History.start]
  keyed := by simp [History.start]
  once := List.nodup_nil

section Extend

variable {log new : List TransactionRow}

theorem partitionDateOf_append {transactionId : TransactionId}
    (hrow : ∃ row ∈ log, row.transactionId = transactionId) :
    partitionDateOf (log ++ new) transactionId =
      partitionDateOf log transactionId := by
  obtain ⟨found, hfound⟩ : ∃ found,
      log.find? (·.transactionId = transactionId) = some found := by
    apply Option.isSome_iff_exists.mp
    rw [List.find?_isSome]
    simpa using hrow
  rw [partitionDateOf, List.find?_append, hfound]
  rw [partitionDateOf, hfound]
  rfl

theorem find?_key_append {key : String} {row : TransactionRow}
    (hrow : log.find? (·.idempotencyKey = key) = some row) :
    (log ++ new).find? (·.idempotencyKey = key) = some row := by
  rw [List.find?_append, hrow]
  rfl

/-- Further ledger transactions change nothing. -/
theorem Invariant.extend {history : History} (hhistory : Invariant history)
    (new : List TransactionRow) :
    Invariant { history with
      books := { history.books with log := history.books.log ++ new } } where
  dated := by
    intro leg hleg
    obtain ⟨hdate, hrow⟩ := hhistory.dated leg hleg
    refine ⟨hdate.trans (partitionDateOf_append hrow).symm, ?_⟩
    obtain ⟨row, hmem, hid⟩ := hrow
    exact ⟨row, List.mem_append_left new hmem, hid⟩
  paired := hhistory.paired
  belongs := hhistory.belongs
  keyed := by
    intro reversal hreversal
    obtain ⟨row, hfind, hlegs⟩ := hhistory.keyed reversal hreversal
    exact ⟨row, find?_key_append hfind, hlegs⟩
  once := hhistory.once

end Extend

section Append

variable {history : History} {env : PostEnv} {request : MovementRequest}
variable {after : Books}

theorem transactionId_debitLeg (books : Books) :
    (debitLeg env request books).transactionId = request.transactionId := rfl

theorem transactionId_creditLeg (books : Books) :
    (creditLeg env request books).transactionId = request.transactionId := rfl

section Posting

variable (hposted : Posted env request history.books after)
include hposted

/-- A transaction that has a movement takes no other. -/
theorem Invariant.transactionId_ne (hhistory : Invariant history) {leg : Leg}
    (hleg : leg ∈ history.books.legs) :
    leg.transactionId ≠ request.transactionId := by
  intro hid
  obtain ⟨movement, hmovement, hsame⟩ := hhistory.belongs leg hleg
  obtain ⟨debit, credit, hpair, -⟩ := hhistory.paired movement hmovement
  obtain ⟨hdebit, hdebitId⟩ := hpair.mem_iff.mpr (Or.inl rfl)
  rw [hsame, hid] at hdebitId
  have hdate := (hhistory.dated debit hdebit).1
  rw [hdebitId] at hdate
  have hother : debit ∈ legsOf history.books.legs request.transactionId
      (partitionDateOf history.books.log request.transactionId) :=
    List.mem_filter.mpr ⟨hdebit, by simp [hdebitId, hdate]⟩
  exact hposted.debitAccepted.newSequence debit hother hpair.first

/-- The legs of a transaction after a movement of another one. -/
theorem filter_legs_of_ne {transactionId : TransactionId}
    (hother : transactionId ≠ request.transactionId) :
    after.legs.filter (·.transactionId = transactionId) =
      history.books.legs.filter (·.transactionId = transactionId) := by
  rw [hposted.books]
  simp [List.filter_append, transactionId_debitLeg, transactionId_creditLeg,
    hother.symm]

/-- The legs of the movements before are left. -/
theorem Invariant.paired_append (hhistory : Invariant history)
    {movement : Movement} (hmovement : movement ∈ history.movements) :
    Paired after.legs movement := by
  obtain ⟨debit, credit, hpair, hnet⟩ := hhistory.paired movement hmovement
  obtain ⟨hdebit, hid⟩ := hpair.mem_iff.mpr (Or.inl rfl)
  have hother : movement.transactionId ≠ request.transactionId := by
    rw [← hid]
    exact hhistory.transactionId_ne hposted hdebit
  refine ⟨debit, credit, { hpair with only := ?_ }, hnet⟩
  rw [filter_legs_of_ne hposted hother, hpair.only]

/-- The new movement has the two legs that were written. -/
theorem Invariant.paired_new (hhistory : Invariant history) :
    Paired after.legs
      ⟨request.transactionId, history.books.postings, after.postings⟩ := by
  have hnone : history.books.legs.filter
      (·.transactionId = request.transactionId) = [] := by
    apply List.filter_eq_nil_iff.mpr
    intro leg hleg
    simpa using hhistory.transactionId_ne hposted hleg
  refine ⟨debitLeg env request history.books,
    creditLeg env request history.books,
    ⟨?_, rfl, rfl, rfl, rfl, rfl, hposted.positive⟩, hposted.net_eq⟩
  rw [hposted.books]
  simp [List.filter_append, transactionId_debitLeg, transactionId_creditLeg,
    hnone]

theorem movements_append (reversals : List (TransactionId × String)) :
    (history.append after reversals).movements = history.movements ++
      [⟨request.transactionId, history.books.postings, after.postings⟩] := by
  have hlast : after.legs.getLast? =
      some (creditLeg env request history.books) := by
    rw [hposted.books]
    exact List.getLast?_append_of_ne_nil _ (by simp)
  rw [History.append, hlast]
  rfl

/-- A movement keeps the invariant, if the reversals that it adds are of
movements not reversed before and their keys have a transaction with legs. -/
theorem Invariant.append (hhistory : Invariant history)
    {reversals : List (TransactionId × String)}
    (hkeyed : ∀ reversal ∈ reversals, ∃ row,
      history.books.log.find? (·.idempotencyKey = reversal.2) = some row ∧
        row.transactionId = request.transactionId)
    (honce : ((history.reversals ++ reversals).map Prod.fst).Nodup) :
    Invariant (history.append after reversals) := by
  have hlegs : after.legs = history.books.legs ++
      [debitLeg env request history.books,
        creditLeg env request history.books] := by
    rw [hposted.books]
  have hlog : after.log = history.books.log := by
    rw [hposted.books]
  have hmovements := movements_append hposted reversals
  constructor
  case dated =>
    intro leg hleg
    change leg ∈ after.legs at hleg
    change leg.partitionDate = partitionDateOf after.log leg.transactionId ∧
      ∃ row ∈ after.log, row.transactionId = leg.transactionId
    rw [hlog]
    rw [hlegs] at hleg
    rcases List.mem_append.mp hleg with hold | hnew
    · exact hhistory.dated leg hold
    · obtain ⟨row, hrow, hid, -⟩ := hposted.debitAccepted.transaction
      rcases List.mem_pair.mp hnew with rfl | rfl
      · exact ⟨rfl, row, hrow, hid⟩
      · exact ⟨rfl, row, hrow, hid⟩
  case paired =>
    intro movement hmovement
    rw [hmovements] at hmovement
    rcases List.mem_append.mp hmovement with hold | hnew
    · exact hhistory.paired_append hposted hold
    · rw [List.mem_singleton.mp hnew]
      exact hhistory.paired_new hposted
  case belongs =>
    intro leg hleg
    change leg ∈ after.legs at hleg
    rw [hmovements]
    rw [hlegs] at hleg
    rcases List.mem_append.mp hleg with hold | hnew
    · obtain ⟨movement, hmovement, hid⟩ := hhistory.belongs leg hold
      exact ⟨movement, List.mem_append_left _ hmovement, hid⟩
    · refine ⟨_, List.mem_append_right _ (List.mem_singleton_self _), ?_⟩
      rcases List.mem_pair.mp hnew with rfl | rfl
      · rfl
      · rfl
  case keyed =>
    intro reversal hreversal
    change ∃ row, after.log.find? _ = some row ∧ ∃ leg ∈ after.legs, _
    rw [hlog, hlegs]
    rcases List.mem_append.mp hreversal with hold | hnew
    · obtain ⟨row, hfind, leg, hleg, hid⟩ := hhistory.keyed reversal hold
      exact ⟨row, hfind, leg, List.mem_append_left _ hleg, hid⟩
    · obtain ⟨row, hfind, hid⟩ := hkeyed reversal hnew
      exact ⟨row, hfind, debitLeg env request history.books,
        List.mem_append_right _ List.mem_cons_self, hid.symm⟩
  case once => exact honce

end Posting

end Append

/-! ## One reversal -/

theorem transfer_swap (first second : Uuid) (currency : String) (amount : ℤ) :
    transfer second first currency amount =
      -transfer first second currency amount := by
  rw [transfer, transfer, neg_add, ← Pi.single_neg, ← Pi.single_neg, neg_neg,
    add_comm]

section Reversal

variable {functions : Functions} {history : History} {env : ReverseEnv}
variable {request : ReverseRequest} {original : Leg}

variable {debit credit : Leg}

theorem pairedCredit_eq {legs : List Leg}
    (hpair : Pair legs original.transactionId debit credit) (tie : ℕ) :
    pairedCredit tie legs original = some credit := by
  have honly : (legs.filter fun leg =>
      leg.transactionId = original.transactionId ∧ leg.direction = .credit) =
        [credit] := by
    calc
      _ = (legs.filter (·.transactionId = original.transactionId)).filter
          (·.direction = .credit) := by
        rw [List.filter_filter]
        simp only [Bool.decide_and, Bool.and_comm]
      _ = [credit] := by
        rw [hpair.only]
        simp [hpair.isDebit, hpair.isCredit]
  rw [pairedCredit, honly, List.rotate_singleton]
  rfl

/-- The legs of the movement that a leg belongs to. -/
theorem Invariant.exists_pair (hhistory : Invariant history) {leg : Leg}
    (hleg : leg ∈ history.books.legs) :
    ∃ debit credit, Pair history.books.legs leg.transactionId debit credit ∧
      (leg = debit ∨ leg = credit) := by
  obtain ⟨movement, hmovement, hid⟩ := hhistory.belongs leg hleg
  obtain ⟨debit, credit, hpair, -⟩ := hhistory.paired movement hmovement
  rw [hid] at hpair
  exact ⟨debit, credit, hpair, hpair.mem_iff.mp ⟨hleg, rfl⟩⟩

theorem Invariant.net_movement (hhistory : Invariant history)
    {movement : Movement} (hmovement : movement ∈ history.movements)
    (hpair : Pair history.books.legs movement.transactionId debit credit) :
    net movement.after = net movement.before +
      transfer debit.accountId credit.accountId debit.currency
        debit.amount := by
  obtain ⟨debit', credit', hpair', hnet⟩ := hhistory.paired movement hmovement
  have hsame : [debit', credit'] = [debit, credit] :=
    hpair'.only.symm.trans hpair.only
  obtain ⟨rfl, hrest⟩ := List.cons.inj hsame
  obtain ⟨rfl, -⟩ := List.cons.inj hrest
  exact hnet

/-- What the condition on a reversal asks of the leg. -/
theorem Pair.accountId_eq {legs : List Leg}
    (hpair : Pair legs original.transactionId debit credit)
    (hleg : original = debit ∨ original = credit)
    (hdebit : original.direction = .debit ∨ ∀ leg ∈ legs,
      leg.transactionId = original.transactionId →
        leg.accountId = original.accountId) :
    original.accountId = debit.accountId := by
  rcases hdebit with hdirection | hsame
  · rcases hleg with rfl | rfl
    · rfl
    · rw [hpair.isCredit] at hdirection
      cases hdirection
  · obtain ⟨hmem, hid⟩ := hpair.mem_iff.mpr (Or.inl rfl)
    exact (hsame debit hmem hid).symm

section Succeeded

variable (hok : reverseMovement functions env request history.books = .ok answer)
include hok

/-- The key of a reversal that succeeds is not that of an earlier one, whose
transaction has legs already. -/
theorem Invariant.key_ne (hhistory : Invariant history)
    {reversal : TransactionId × String}
    (hreversal : reversal ∈ history.reversals) :
    reversal.2 ≠ reversalKey functions env request := by
  intro hkey
  obtain ⟨_, _, new, row, -, -, hrow, hposted⟩ :=
    reverseMovement_eq_ok hok
  obtain ⟨earlier, hearlier, leg, hleg, hid⟩ :=
    hhistory.keyed reversal hreversal
  rw [hkey] at hearlier
  obtain rfl : earlier = row :=
    Option.some.inj ((find?_key_append hearlier).symm.trans hrow)
  exact (hhistory.extend new).transactionId_ne hposted hleg hid

/-- Since the key is new, no earlier reversal of the movement has it. -/
theorem Invariant.nodup_append (hhistory : Invariant history)
    (hkeys : ∀ reversal ∈ history.reversals,
      reversal.1 = original.transactionId →
        reversal.2 = reversalKey functions env request) :
    ((history.reversals ++ [(original.transactionId,
      reversalKey functions env request)]).map Prod.fst).Nodup := by
  rw [List.map_append, List.map_singleton, ← List.concat_eq_append,
    List.nodup_concat]
  refine ⟨fun hmem => ?_, hhistory.once⟩
  obtain ⟨reversal, hreversal, hid⟩ := List.mem_map.mp hmem
  exact hhistory.key_ne hok hreversal (hkeys reversal hreversal hid)

variable (horiginal : originalLeg history.books.legs request = some original)
include horiginal

/-- A reversal that succeeds moves the amount from the account of the credit leg
to that of the leg it was called with. -/
theorem net_reversal
    (hpair : Pair history.books.legs original.transactionId debit credit)
    (hleg : original = debit ∨ original = credit) :
    net answer.2.postings = net history.books.postings +
      transfer credit.accountId original.accountId debit.currency
        debit.amount := by
  obtain ⟨leg, found, new, row, hnamed, hfound, -, hposted⟩ :=
    reverseMovement_eq_ok hok
  obtain rfl : original = leg := Option.some.inj (horiginal.symm.trans hnamed)
  obtain rfl : found = credit :=
    Option.some.inj (hfound.symm.trans (pairedCredit_eq hpair env.tie))
  have hsame : original.amount = debit.amount ∧
      original.currency = debit.currency := by
    rcases hleg with rfl | rfl
    · exact ⟨rfl, rfl⟩
    · exact ⟨hpair.amount, hpair.currency⟩
  rw [hposted.net_eq, ← hsame.1, ← hsame.2]
  rfl

/-- The sums are restored if the amount comes back to the account of the debit
leg. -/
theorem Invariant.restored (hhistory : Invariant history)
    (hdebit : NamesDebit history.books.legs (.reverse env request)) :
    Restored functions history (.reverse env request) := by
  intro answer' original' hok' horiginal' movement hmovement hid leg _ _ currency
  obtain rfl : answer = answer' := Except.ok.inj (hok.symm.trans hok')
  obtain rfl : original = original' :=
    Option.some.inj (horiginal.symm.trans horiginal')
  obtain ⟨debit, credit, hpair, hleg⟩ := hhistory.exists_pair
    (List.mem_of_find?_eq_some horiginal)
  have hsame := hpair.accountId_eq hleg (hdebit original horiginal)
  have hmoved := hhistory.net_movement hmovement (hid ▸ hpair)
  rw [net_reversal hok horiginal hpair hleg, hmoved, hsame,
    transfer_swap debit.accountId, Pi.add_apply, Pi.add_apply, Pi.neg_apply]
  omega

theorem step_reverse :
    step functions history (.reverse env request) =
      history.append answer.2 [(original.transactionId,
        reversalKey functions env request)] := by
  simp only [step, hok, reversalOf, horiginal]
  rfl

end Succeeded

end Reversal

/-! ## Runs -/

section Runs

variable {functions : Functions} {history : History} {call : LedgerCall}

/-- What a call does: at most new ledger transactions, and then at most one
movement, with the reversal that the call makes. -/
theorem step_cases (functions : Functions) (history : History)
    (call : LedgerCall) : ∃ new,
    let extended := { history with
      books := { history.books with log := history.books.log ++ new } }
    step functions history call = extended ∨
      ∃ env request after, Posted env request extended.books after ∧
        step functions history call = extended.append after
          (reversalOf functions history.books.legs call).toList ∧
        ∀ reversal ∈ reversalOf functions history.books.legs call, ∃ row,
          extended.books.log.find? (·.idempotencyKey = reversal.2) = some row ∧
            row.transactionId = request.transactionId := by
  have hsame : history = { history with
      books := { history.books with log := history.books.log ++ [] } } := by
    rw [List.append_nil]
  cases call with
  | create env typeCode payload key =>
      cases hcreate : createTransaction functions.sha256
          functions.timestampText env typeCode payload key
          history.books.log with
      | error error =>
          refine ⟨[], Or.inl ?_⟩
          simp only [step, hcreate]
          exact hsame
      | ok created =>
          obtain ⟨⟨new, hnew, -⟩, -⟩ := createTransaction_eq_ok hcreate
          refine ⟨new, Or.inl ?_⟩
          simp only [step, hcreate, hnew]
  | post call =>
      refine ⟨[], ?_⟩
      rw [← hsame]
      cases hpost : postMovement call.env call.request history.books with
      | error error => exact Or.inl (by simp only [step, hpost])
      | ok answer =>
          refine Or.inr ⟨call.env, call.request, answer.2,
            (postMovement_eq_ok hpost).2, ?_, by simp [reversalOf]⟩
          simp only [step, hpost, reversalOf, Option.toList_none]
  | reverse env request =>
      cases hok : reverseMovement functions env request history.books with
      | error error =>
          refine ⟨[], Or.inl ?_⟩
          simp only [step, hok]
          exact hsame
      | ok answer =>
          obtain ⟨_, _, new, row, -, -, hrow, hposted⟩ :=
            reverseMovement_eq_ok hok
          refine ⟨new, Or.inr ⟨env.post, _, answer.2, hposted, ?_, ?_⟩⟩
          · simp only [step, hok]
            rfl
          · intro reversal hreversal
            obtain ⟨leg, -, rfl⟩ := Option.map_eq_some_iff.mp hreversal
            exact ⟨row, hrow, rfl⟩

theorem legs_step (functions : Functions) (history : History)
    (call : LedgerCall) :
    history.books.legs <+: (step functions history call).books.legs := by
  obtain ⟨new, hstep | ⟨env, request, after, hposted, hstep, -⟩⟩ :=
    step_cases functions history call
  · rw [hstep]
  · rw [hstep]
    show history.books.legs <+: after.legs
    rw [hposted.books]
    exact List.prefix_append _ _

theorem legs_run (functions : Functions) (history : History)
    (calls : List LedgerCall) :
    history.books.legs <+:
      (calls.foldl (step functions) history).books.legs := by
  induction calls generalizing history with
  | nil => exact List.prefix_refl _
  | cons call calls ih => exact (legs_step functions history call).trans (ih _)

/-- A call makes no other reversal than the one it names. -/
theorem reversals_step (functions : Functions) (history : History)
    (call : LedgerCall) :
    (step functions history call).reversals = history.reversals ∨
      (step functions history call).reversals = history.reversals ++
        (reversalOf functions history.books.legs call).toList := by
  obtain ⟨new, hstep | ⟨env, request, after, -, hstep, -⟩⟩ :=
    step_cases functions history call
  · exact Or.inl (by rw [hstep])
  · exact Or.inr (by rw [hstep]; rfl)

theorem invariant_step (hhistory : Invariant history)
    (hsound : Sound functions history call) :
    Invariant (step functions history call) := by
  have honce := hsound.1
  obtain ⟨new, hstep | ⟨env, request, after, hposted, hstep, hkeyed⟩⟩ :=
    step_cases functions history call
  · rw [hstep]
    exact hhistory.extend new
  · rw [hstep] at honce ⊢
    refine (hhistory.extend new).append hposted ?_ honce
    intro reversal hreversal
    exact hkeyed reversal (Option.mem_toList.mp hreversal)

section Legs

variable {legs later : List Leg} (hlegs : legs <+: later)
include hlegs

/-- A leg keeps its name when others are written. -/
theorem reversalOf_of_grown {reversal : TransactionId × String}
    (hreversal : reversal ∈ reversalOf functions legs call) :
    reversal ∈ reversalOf functions later call := by
  cases call with
  | create env typeCode payload key => cases hreversal
  | post call => cases hreversal
  | reverse env request =>
      obtain ⟨leg, hleg, hsame⟩ := Option.map_eq_some_iff.mp hreversal
      exact Option.map_eq_some_iff.mpr
        ⟨leg, hlegs.find?_eq_some hleg, hsame⟩

theorem NamesDebit.of_grown (hdebit : NamesDebit later call) :
    NamesDebit legs call := by
  cases call with
  | create env typeCode payload key => trivial
  | post call => trivial
  | reverse env request =>
      intro original horiginal
      apply (hdebit original (hlegs.find?_eq_some horiginal)).imp_right
      intro hsame leg hleg
      exact hsame leg (hlegs.subset hleg)

end Legs

theorem Invariant.sound (hhistory : Invariant history)
    (hdebit : NamesDebit history.books.legs call)
    (hkeys : ∀ reversal ∈ history.reversals,
      ∀ named ∈ reversalOf functions history.books.legs call,
        reversal.1 = named.1 → reversal.2 = named.2) :
    Sound functions history call := by
  cases call with
  | create env typeCode payload key | post call =>
      refine ⟨?_, trivial⟩
      obtain hsame | hsame := reversals_step functions history _
      · rw [hsame]
        exact hhistory.once
      · rw [hsame]
        simpa [reversalOf] using hhistory.once
  | reverse env request =>
      cases hok : reverseMovement functions env request history.books with
      | error error =>
          refine ⟨?_, fun answer original hanswer => ?_⟩
          · simp only [step, hok]
            exact hhistory.once
          · cases hok.symm.trans hanswer
      | ok answer =>
          obtain ⟨original, -, -, -, horiginal, -⟩ := reverseMovement_eq_ok hok
          refine ⟨?_, hhistory.restored hok horiginal hdebit⟩
          rw [step_reverse hok horiginal]
          apply hhistory.nodup_append hok
          intro reversal hreversal
          exact hkeys reversal hreversal _
            (Option.map_eq_some_iff.mpr ⟨original, horiginal, rfl⟩)

/-- The reversals made so far count like those still to come. -/
theorem Invariant.throughout_sound {calls : List LedgerCall}
    (hhistory : Invariant history) {legs : List Leg}
    (hlegs : (calls.foldl (step functions) history).books.legs = legs)
    (hdebit : ∀ call ∈ calls, NamesDebit legs call)
    (hkeys : OneKey (history.reversals ++
      calls.filterMap (reversalOf functions legs))) :
    Throughout (step functions) (Sound functions) calls history := by
  induction calls generalizing history with
  | nil => trivial
  | cons call calls ih =>
      have hgrow : history.books.legs <+: legs := by
        rw [← hlegs]
        exact legs_run functions history (call :: calls)
      have hnamed : ∀ named ∈ reversalOf functions history.books.legs call,
          named ∈ (call :: calls).filterMap (reversalOf functions legs) := by
        intro named hmem
        exact List.mem_filterMap.mpr ⟨call, List.mem_cons_self,
          reversalOf_of_grown hgrow hmem⟩
      have hsound : Sound functions history call := by
        apply hhistory.sound ((hdebit call List.mem_cons_self).of_grown hgrow)
        intro reversal hreversal named hmem
        exact hkeys reversal (List.mem_append_left _ hreversal) named
          (List.mem_append_right _ (hnamed named hmem))
      -- the reversal of the call passes from those to come to those made
      have hsubset : (step functions history call).reversals ++
          calls.filterMap (reversalOf functions legs) ⊆ history.reversals ++
            (call :: calls).filterMap (reversalOf functions legs) := by
        intro reversal hreversal
        rcases List.mem_append.mp hreversal with hmade | hlater
        · rcases reversals_step functions history call with hsame | hsame
          · exact List.mem_append_left _ (hsame ▸ hmade)
          · rw [hsame] at hmade
            apply (List.mem_append.mp hmade).elim (List.mem_append_left _)
            intro hmem
            exact List.mem_append_right _
              (hnamed reversal (Option.mem_toList.mp hmem))
        · exact List.mem_append_right _
            (((List.sublist_cons_self call calls).filterMap _).subset hlater)
      refine ⟨hsound, ih (invariant_step hhistory hsound) hlegs ?_ ?_⟩
      · exact fun later hlater => hdebit later (List.mem_cons_of_mem _ hlater)
      · intro first hfirst second hsecond
        exact hkeys first (hsubset hfirst) second (hsubset hsecond)

end Runs

/-- In every history whose reversals name debit legs, or legs of movements
within one account, with one key for the reversals that name one movement, each
movement is reversed at most once and each reversal restores the sums of both
accounts. -/
theorem reversals_sound (functions : Functions) (log : List TransactionRow)
    (calls : List LedgerCall)
    (hcalls : Reversible functions
      (calls.foldl (step functions) (History.start log)).books.legs calls) :
    Throughout (step functions) (Sound functions) calls (History.start log) :=
  (invariant_start log).throughout_sound rfl hcalls.debit hcalls.oneKey

namespace ReversalSample

def functions : Functions where
  sha256 _ := 0
  timestampText := toString
  epochText := toString
  reversalPayload _ _ := ""

/-- A reversal at a time draws a transaction id and, from the number, leg and
posting ids. -/
def env (number now : ℤ) (newId : TransactionId) : ReverseEnv where
  activeType _ := true
  newId := newId
  today := 20000
  post := Sample.env number now 0
  tie := 0

def request (legId : Uuid) : ReverseRequest where
  legId := legId
  reason := none
  reversalDate := 20000

/-- A payment from account 7 to account 8 with the legs 4 and 5. -/
def payment : LedgerCall :=
  .post ⟨Sample.env 1 100 0, Sample.movement 1 500000000 "USD"⟩

def twice : List LedgerCall :=
  [payment, .reverse (env 2 200 4) (request 4),
    .reverse (env 3 1000200 5) (request 4)]

/-- The reversal is repeated with its key. -/
def repeated : List LedgerCall :=
  [payment, .reverse (env 2 200 4) (request 4),
    .reverse (env 3 200 5) (request 4)]

theorem reversals_sound_repeated :
    Throughout (step functions) (Sound functions) repeated
        (History.start Sample.log) ∧
      (repeated.foldl (step functions)
        (History.start Sample.log)).reversals.map Prod.fst = [1] := by
  refine ⟨reversals_sound functions Sample.log repeated ⟨?_, ?_⟩, ?_⟩
  · simp only [repeated, payment, List.forall_mem_cons, NamesDebit, true_and,
      List.not_mem_nil, false_imp_iff, implies_true, and_true]
    decide +kernel
  · rw [OneKey]
    decide +kernel
  · decide +kernel

def throughCredit : List LedgerCall :=
  [payment, .reverse (env 2 200 4) (request 5)]

/-- The history when the payment is posted. -/
def paid : History :=
  step functions (History.start Sample.log) payment

def leg (direction : Direction) : Leg :=
  newLeg (Sample.env 1 100 0) (Sample.movement 1 500000000 "USD") direction
    20000

/-- The movement is reversed again one second later; a reversal through the
credit leg leaves account 7 without the amount. -/
theorem reversals_unsound :
    ¬ Throughout (step functions) (Sound functions) twice
        (History.start Sample.log) ∧
      ¬ Throughout (step functions) (Sound functions) throughCredit
        (History.start Sample.log) := by
  constructor
  · intro hsound
    have honce := hsound.2.2.1.1
    revert honce
    decide +kernel
  · intro hsound
    have hsums : ((reverseMovement functions (env 2 200 4) (request 5)
        paid.books).toOption.map fun answer =>
          net answer.2.postings (7, "USD")) = some (-500000000) := by
      decide +kernel
    have horiginal : originalLeg paid.books.legs (request 5) =
        some (leg .credit) := by
      decide +kernel
    have hmovement : ⟨1, [], paid.books.postings⟩ ∈ paid.movements := by
      decide +kernel
    have hdebit : leg .debit ∈ paid.books.legs := by
      decide +kernel
    obtain ⟨answer, hok, hnet⟩ := Results.exists_ok_of_toOption hsums
    have hback := hsound.2.1.2 answer (leg .credit) hok horiginal _
      hmovement rfl (leg .debit) hdebit rfl "USD"
    have hzero : net answer.2.postings (7, "USD") =
        0 + (net paid.books.postings (7, "USD") -
          net paid.books.postings (7, "USD")) := hback
    omega

end ReversalSample

end UssdKernel.Ledger
