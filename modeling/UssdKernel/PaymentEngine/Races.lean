import UssdKernel.Core.Interleaving
import UssdKernel.PaymentEngine.Contracts
import UssdKernel.PaymentEngine.Lifecycle

/-!
# Handlers running side by side

Every statement is atomic and nothing else is, so a handler saves a payment
that it read or created several statements earlier.  Two laws are stated over
all schedules: a settled status stays, and one idempotency key reaches the
provider once.  Both hold along the schedules in which no save overtakes the
saver's last look at the table, and both fail without that condition.
-/

namespace UssdKernel.PaymentEngine

open UssdKernel.Programs UssdKernel.Interleaving

/-- The row that an operation writes to the payments table. -/
def Op.saves (choice : Choice) : Op → Option PaymentRow
  | statement (.upsertPayment row) =>
      if choice.failure = none then some row else none
  | _ => none

/-- Only a save changes the payments table. -/
theorem payments_respond (choice : Choice) (op : Op) (world : World) :
    (op.respond choice world).2.db.payments =
      match op.saves choice with
      | none => world.db.payments
      | some row => world.db.payments.upsert row := by
  cases op with
  | statement stmt =>
      cases hfailure : choice.failure with
      | none => cases stmt <;> simp [Op.respond, Op.saves, hfailure]
      | some message => cases stmt <;> simp [Op.respond, Op.saves, hfailure]
  | initiate payment => rfl
  | utcNow => rfl

theorem eq_upsert_of_saves {choice : Choice} {op : Op} {row : PaymentRow}
    (hsaves : op.saves choice = some row) :
    op = .statement (.upsertPayment row) := by
  unfold Op.saves at hsaves
  split at hsaves
  · split at hsaves
    · rw [Option.some.inj hsaves]
    · cases hsaves
  · cases hsaves

section Turns

variable {Id Note : Type} [DecidableEq Id]
variable {contract : Prog.Contract Op Op.Res Note}
variable (pool : Pool Id Op Op.Res DomainError Unit World Note)
variable (turn : Id × Choice)

/-- The row that the next turn writes to the payments table. -/
def savedBy : Option PaymentRow :=
  (pool.threads turn.1).operation.bind (Op.saves turn.2)

theorem payments_step :
    (pool.step Op.respond contract turn).state.db.payments =
      match savedBy pool turn with
      | none => pool.state.db.payments
      | some row => pool.state.db.payments.upsert row := by
  cases hthread : pool.threads turn.1 with
  | done result =>
      rw [Pool.step_of_done hthread, savedBy, hthread]
      rfl
  | perform op next =>
      rw [Pool.state_step hthread, savedBy, hthread]
      exact payments_respond turn.2 op pool.state

variable {pool turn}

omit [DecidableEq Id] in
theorem allowed_of_savedBy {post : Id → Note → Except DomainError Unit → Prop}
    (hmeet : pool.AllMeet contract post) {row : PaymentRow}
    (hsaved : savedBy pool turn = some row) :
    contract.allowed (pool.notes turn.1)
      (.statement (.upsertPayment row)) := by
  cases hthread : pool.threads turn.1 with
  | done result =>
      rw [savedBy, hthread] at hsaved
      cases hsaved
  | perform op next =>
      rw [savedBy, hthread] at hsaved
      obtain rfl := eq_upsert_of_saves hsaved
      exact hmeet.allowed hthread

end Turns

/-! ## The stored status -/

/-- What a row tells about the status of one payment. -/
def seen (paymentId : Uuid) (note : Option PaymentStatus) (row : PaymentRow) :
    Option PaymentStatus :=
  if row.paymentId = paymentId then (parseStatus row.status).toOption else note

/-- A handler notes the status it last read or wrote; what it saves settles
that status. -/
def statusContract (paymentId : Uuid) :
    Prog.Contract Op Op.Res (Option PaymentStatus) where
  allowed note
    | .statement (.upsertPayment row) =>
        ∃ saved, parseStatus row.status = .ok saved ∧
          (row.paymentId = paymentId →
            ∀ status, note = some status → status.Settles saved)
    | _ => True
  observe note
    | .statement (.selectPayment _), .ok (some row) => seen paymentId note row
    | .statement (.upsertPayment row), .ok _ => seen paymentId note row
    | _, _ => note

theorem watches_statusContract (paymentId : Uuid) :
    WatchesPayments (statusContract paymentId) where
  setLocalTenant _ _ := ⟨trivial, fun _ => rfl⟩
  selectActiveTopic _ := ⟨trivial, fun _ => rfl⟩
  insertOutbox _ _ := ⟨trivial, fun _ => rfl⟩
  utcNow _ := ⟨trivial, fun _ => rfl⟩
  failed _ stmt _ := by cases stmt <;> rfl

section Storage

variable [DecimalText]

theorem initiate_statusPhases (paymentId : Uuid)
    (cmd : InitiatePaymentCommand) :
    InitiatePaymentHandler.Phases (statusContract paymentId) cmd (· = none)
      (fun note => ∀ status, note = some status → status = .pending) where
  find _ hnote := ⟨trivial, hnote⟩
  save note now payment hnote hnew := by
    obtain rfl := Payment.eq_of_new_eq_ok hnew
    subst hnote
    refine ⟨⟨.pending, rfl, by simp⟩, ?_⟩
    intro status hstatus
    simp only [statusContract, seen, PaymentRow.ofPayment, parseStatus_asStr,
      Except.toOption] at hstatus
    split at hstatus <;> simp_all
  request _ _ hnote := ⟨trivial, fun _ => hnote⟩
  result note payment hnote := by
    refine ⟨payment.status, parseStatus_asStr _, ?_⟩
    intro _ status hstatus hterminal
    rw [hnote status hstatus] at hterminal
    cases hterminal

theorem callback_statusPhases (paymentId : Uuid) :
    ProcessCallbackHandler.Phases (statusContract paymentId) (· = none)
      (fun payment note => payment.paymentId = paymentId →
        note = some payment.status) where
  find note filter hnote := by
    refine ⟨trivial, hnote, ?_⟩
    intro row payment hpayment hid
    obtain ⟨hstatus, hrowId, -⟩ := tryFrom_eq_ok hpayment
    simp [statusContract, seen, ← hrowId, hid, hstatus, Except.toOption]
  save note payment now reported providerRef hfound := by
    refine ⟨_, parseStatus_asStr _, ?_⟩
    intro hid status hstatus
    have hsame := Payment.SameIdentity.moves (.refl payment)
      (Payment.moves_applyProviderStatus now reported providerRef payment)
    rw [hfound (hsame.paymentId.symm.trans hid), Option.some.injEq] at hstatus
    rw [Payment.status_applyProviderStatus, ← hstatus]
    exact PaymentStatus.settles_next _ _

/-- One initiation (`none`) and a family of callbacks. -/
def paymentPool {ι : Type} (verify : List UInt8 → String → Bool)
    (initiation : InitiatePaymentCommand)
    (callbacks : ι → ProcessCallbackCommand) (world : World) :
    Pool (Option ι) Op Op.Res DomainError Unit World (Option PaymentStatus) where
  state := world
  notes _ := none
  threads
    | none => (InitiatePaymentHandler.handle initiation).void
    | some i => (ProcessCallbackHandler.handle verify (callbacks i)).void

theorem allMeet_paymentPool {ι : Type} (paymentId : Uuid)
    (verify : List UInt8 → String → Bool) (initiation : InitiatePaymentCommand)
    (callbacks : ι → ProcessCallbackCommand) (world : World) :
    (paymentPool verify initiation callbacks world).AllMeet
      (statusContract paymentId) (fun _ _ _ => True) := by
  have hwatches := watches_statusContract paymentId
  rintro (_ | i)
  · exact Prog.meets_void (InitiatePaymentHandler.meets_handle hwatches
      (initiate_statusPhases paymentId initiation) rfl)
  · exact Prog.meets_void (ProcessCallbackHandler.meets_handle hwatches
      (callback_statusPhases paymentId) rfl)

end Storage

section Settled

variable {Id : Type} [DecidableEq Id] {paymentId : Uuid}

/-- A save over a settled status of the payment is made by a handler whose last
look at the payment saw that status. -/
def SavesFresh (paymentId : Uuid)
    (pool : Pool Id Op Op.Res DomainError Unit World (Option PaymentStatus))
    (turn : Id × Choice) : Prop :=
  ∀ row ∈ savedBy pool turn, row.paymentId = paymentId →
    ∀ stored ∈ pool.state.db.payments.statusOf paymentId,
      stored.isTerminal = true → pool.notes turn.1 = some stored

instance (paymentId : Uuid)
    (pool : Pool Id Op Op.Res DomainError Unit World (Option PaymentStatus))
    (turn : Id × Choice) : Decidable (SavesFresh paymentId pool turn) := by
  unfold SavesFresh
  infer_instance

/-- The stored status is one that `status` settles to. -/
def StoresSettled (paymentId : Uuid) (status : PaymentStatus)
    (pool : Pool Id Op Op.Res DomainError Unit World (Option PaymentStatus)) :
    Prop :=
  ∃ stored, pool.state.db.payments.statusOf paymentId = some stored ∧
    status.Settles stored

theorem storesSettled_step {status : PaymentStatus}
    (hterminal : status.isTerminal = true)
    {pool : Pool Id Op Op.Res DomainError Unit World (Option PaymentStatus)}
    {turn : Id × Choice}
    (hmeet : pool.AllMeet (statusContract paymentId) (fun _ _ _ => True))
    (hstored : StoresSettled paymentId status pool)
    (hfresh : SavesFresh paymentId pool turn) :
    StoresSettled paymentId status
      (pool.step Op.respond (statusContract paymentId) turn) := by
  unfold StoresSettled
  rw [payments_step]
  cases hsaved : savedBy pool turn with
  | none => exact hstored
  | some row =>
      obtain ⟨stored, hlookup, hsettles⟩ := hstored
      dsimp only
      rw [PaymentTable.statusOf_upsert]
      split
      · next hid =>
          obtain ⟨saved, hparse, hallowed⟩ := allowed_of_savedBy hmeet hsaved
          have hsettled : stored.isTerminal = true := by
            rcases hsettles hterminal with rfl | ⟨-, rfl⟩
            · exact hterminal
            · rfl
          have hnote := hfresh row hsaved hid stored hlookup hsettled
          refine ⟨saved, by rw [hparse]; rfl, ?_⟩
          exact hsettles.trans (hallowed hid stored hnote)
      · exact ⟨stored, hlookup, hsettles⟩

end Settled

section Storage

variable [DecimalText]

/-- Along a schedule in which no handler saves over a settled status that it
has not seen, a settled status stays, except from Completed to Refunded. -/
theorem settled_status_stays {ι : Type} [DecidableEq ι] (paymentId : Uuid)
    (verify : List UInt8 → String → Bool) (initiation : InitiatePaymentCommand)
    (callbacks : ι → ProcessCallbackCommand) (world : World)
    (first second : List (Option ι × Choice))
    (hfresh : Pool.Admissible Op.respond (statusContract paymentId)
      (SavesFresh paymentId) (first ++ second)
      (paymentPool verify initiation callbacks world))
    {status : PaymentStatus} (hterminal : status.isTerminal = true)
    (hstored : ((paymentPool verify initiation callbacks world).run Op.respond
      (statusContract paymentId) first).state.db.payments.statusOf paymentId =
        some status) :
    ∃ later,
      ((paymentPool verify initiation callbacks world).run Op.respond
        (statusContract paymentId)
        (first ++ second)).state.db.payments.statusOf paymentId = some later ∧
      (later = status ∨ (status = .completed ∧ later = .refunded)) := by
  have hmeet : ((paymentPool verify initiation callbacks world).run Op.respond
      (statusContract paymentId) first).AllMeet (statusContract paymentId)
        (fun _ _ _ => True) :=
    (allMeet_paymentPool paymentId verify initiation callbacks world).run first
  rw [Pool.admissible_append] at hfresh
  have hrun := Pool.run_invariant
    (fun pool => pool.AllMeet (statusContract paymentId) (fun _ _ _ => True) ∧
      StoresSettled paymentId status pool)
    (fun pool turn hpool hturn =>
      ⟨hpool.1.step turn, storesSettled_step hterminal hpool.1 hpool.2 hturn⟩)
    ⟨hmeet, status, hstored, .refl status⟩ hfresh.2
  obtain ⟨later, hlater, hsettles⟩ := hrun.2
  rw [← Pool.run_append] at hlater
  exact ⟨later, hlater, hsettles hterminal⟩

end Storage

open Samples in
/-- A completed payment is refunded by a callback. -/
theorem completed_status_becomes_refunded :
    let stored := { Samples.payment with
      status := .completed
      providerReference := some "MP-1"
      completedAt := some 3 }
    let pool := paymentPool (fun _ _ => true) (initiation 1)
      (fun _ : Unit => callback .refunded) (world (onePayment stored))
    let refund := List.replicate 5 (some (), smooth)
    ∃ later,
      (pool.run Op.respond (statusContract 1) ([] ++ refund)).state.db.payments.statusOf
        1 = some later ∧
      (later = .completed ∨
        (PaymentStatus.completed = .completed ∧ later = .refunded)) :=
  settled_status_stays 1 _ _ _ _ [] _ (by decide) rfl (by decide)

open Samples in
/-- The callback completes the payment between the Pending save of the
initiation and its Processing save. -/
theorem completed_status_overwritten :
    let pool := paymentPool (fun _ _ => true) (initiation 1)
      (fun _ : Unit => callback .completed) (world noPayments)
    let first := List.replicate 5 (none, smooth) ++
      List.replicate 7 (some (), smooth)
    let second := List.replicate 3 (none, smooth)
    (pool.run Op.respond (statusContract 1) first).state.db.payments.statusOf 1 =
        some .completed ∧
      (pool.run Op.respond (statusContract 1)
        (first ++ second)).state.db.payments.statusOf 1 = some .processing := by
  decide

/-! ## Requests under one idempotency key -/

/-- What an initiation has done so far. -/
structure RequestNote where
  saved : Bool
  requested : Bool
  deriving DecidableEq

/-- An initiation requests only after a save, and its first save is the
Pending row with its idempotency key. -/
def requestContract (key : String) : Prog.Contract Op Op.Res RequestNote where
  allowed note
    | .statement (.upsertPayment row) =>
        note.saved = true ∨
          (row.status = PaymentStatus.pending.asStr ∧ row.idempotencyKey = key)
    | .initiate _ => note.saved = true
    | _ => True
  observe note
    | .statement (.upsertPayment _), .ok _ => { note with saved := true }
    | .initiate _, _ => { note with requested := true }
    | _, _ => note

theorem watches_requestContract (key : String) :
    WatchesPayments (requestContract key) where
  setLocalTenant _ _ := ⟨trivial, fun _ => rfl⟩
  selectActiveTopic _ := ⟨trivial, fun _ => rfl⟩
  insertOutbox _ _ := ⟨trivial, fun _ => rfl⟩
  utcNow _ := ⟨trivial, fun _ => rfl⟩
  failed _ stmt _ := by cases stmt <;> rfl

section Storage

variable [DecimalText]

theorem initiate_requestPhases (cmd : InitiatePaymentCommand) :
    InitiatePaymentHandler.Phases (requestContract cmd.idempotencyKey) cmd
      (fun _ => True) (fun note => note.saved = true) where
  find _ _ := ⟨trivial, trivial⟩
  save note now payment _ hnew := by
    obtain rfl := Payment.eq_of_new_eq_ok hnew
    exact ⟨Or.inr ⟨rfl, rfl⟩, rfl⟩
  request _ _ hnote := ⟨hnote, fun _ => hnote⟩
  result _ _ hnote := Or.inl hnote

/-- Initiations side by side. -/
def initiationPool {ι : Type} (initiations : ι → InitiatePaymentCommand)
    (world : World) :
    Pool ι Op Op.Res DomainError Unit World RequestNote where
  state := world
  notes _ := { saved := false, requested := false }
  threads i := (InitiatePaymentHandler.handle (initiations i)).void

theorem allMeet_initiationPool {ι : Type} {key : String}
    {initiations : ι → InitiatePaymentCommand}
    (hkey : ∀ i, (initiations i).idempotencyKey = key) (world : World) :
    (initiationPool initiations world).AllMeet (requestContract key)
      (fun _ _ _ => True) := by
  intro i
  rw [← hkey i]
  exact Prog.meets_void (InitiatePaymentHandler.meets_handle
    (watches_requestContract _) (initiate_requestPhases (initiations i)) trivial)

end Storage

section Requests

variable {Id : Type} [DecidableEq Id] {key : String}

/-- A Pending row is saved only where the table has neither its idempotency key
nor its payment id. -/
def SavesFirst (pool : Pool Id Op Op.Res DomainError Unit World RequestNote)
    (turn : Id × Choice) : Prop :=
  ∀ row ∈ savedBy pool turn, row.status = PaymentStatus.pending.asStr →
    (∀ stored ∈ pool.state.db.payments.rows,
      stored.idempotencyKey ≠ row.idempotencyKey) ∧
      pool.state.db.payments.byId row.paymentId = none

instance (pool : Pool Id Op Op.Res DomainError Unit World RequestNote)
    (turn : Id × Choice) : Decidable (SavesFirst pool turn) := by
  unfold SavesFirst
  infer_instance

/-- At most one initiation has saved, and its key is in the table. -/
structure OneSaver (key : String)
    (pool : Pool Id Op Op.Res DomainError Unit World RequestNote) : Prop where
  saved_of_requested : ∀ i, (pool.notes i).requested = true →
    (pool.notes i).saved = true
  key_stored : ∀ i, (pool.notes i).saved = true →
    ∃ stored ∈ pool.state.db.payments.rows, stored.idempotencyKey = key
  unique : ∀ i j, (pool.notes i).saved = true → (pool.notes j).saved = true →
    i = j

theorem saved_observe (note : RequestNote) (choice : Choice) (op : Op)
    (world : World) :
    ((requestContract key).observe note op (op.respond choice world).1).saved =
      (note.saved || (op.saves choice).isSome) := by
  cases op with
  | statement stmt =>
      cases hfailure : choice.failure <;> cases stmt <;>
        simp [Op.respond, Op.saves, hfailure, requestContract]
  | initiate payment | utcNow => simp [requestContract, Op.saves]

theorem saved_of_requested_observe {note : RequestNote} {op : Op}
    (hallowed : (requestContract key).allowed note op)
    (hnote : note.requested = true → note.saved = true) (response : op.Res)
    (hrequested :
      ((requestContract key).observe note op response).requested = true) :
    note.saved = true := by
  cases op with
  | statement stmt =>
      cases stmt <;> cases response <;> exact hnote hrequested
  | initiate payment => exact hallowed
  | utcNow => exact hnote hrequested

variable {pool : Pool Id Op Op.Res DomainError Unit World RequestNote}
variable {turn : Id × Choice}

theorem saved_step (i : Id) :
    ((pool.step Op.respond (requestContract key) turn).notes i).saved = true ↔
      (pool.notes i).saved = true ∨
        (i = turn.1 ∧ (savedBy pool turn).isSome = true) := by
  by_cases hi : i = turn.1
  · subst hi
    cases hthread : pool.threads turn.1 with
    | done result =>
        rw [Pool.step_of_done hthread, savedBy, hthread]
        simp [Prog.operation]
    | perform op next =>
        rw [Pool.notes_step_self hthread, savedBy, hthread, saved_observe]
        simp [Prog.operation]
  · rw [Pool.notes_step_of_ne hi]
    simp [hi]

section OneSaver

variable (hmeet : pool.AllMeet (requestContract key) (fun _ _ _ => True))
  (hone : OneSaver key pool)
include hmeet hone

theorem saved_of_requested_step (i : Id)
    (hrequested : ((pool.step Op.respond (requestContract key)
      turn).notes i).requested = true) :
    (pool.notes i).saved = true := by
  by_cases hi : i = turn.1
  · subst hi
    cases hthread : pool.threads turn.1 with
    | done result =>
        rw [Pool.step_of_done hthread] at hrequested
        exact hone.saved_of_requested turn.1 hrequested
    | perform op next =>
        rw [Pool.notes_step_self hthread] at hrequested
        exact saved_of_requested_observe (hmeet.allowed hthread)
          (hone.saved_of_requested turn.1) _ hrequested
  · rw [Pool.notes_step_of_ne hi] at hrequested
    exact hone.saved_of_requested i hrequested

omit [DecidableEq Id] in
/-- A first save finds no other saver, because a saver's key is in the
table. -/
theorem OneSaver.eq_of_savedBy (hfirst : SavesFirst pool turn)
    {row : PaymentRow} (hsaved : savedBy pool turn = some row) {i : Id}
    (hi : (pool.notes i).saved = true) : i = turn.1 := by
  rcases allowed_of_savedBy hmeet hsaved with hsaver | ⟨hpending, hkey⟩
  · exact hone.unique i turn.1 hi hsaver
  · obtain ⟨stored, hstored, hstoredKey⟩ := hone.key_stored i hi
    have hnew := (hfirst row hsaved hpending).1 stored hstored
    exact absurd (hstoredKey.trans hkey.symm) hnew

theorem OneSaver.key_stored_step (hfirst : SavesFirst pool turn) {i : Id}
    (hi : ((pool.step Op.respond (requestContract key) turn).notes i).saved =
      true) :
    ∃ stored ∈
      (pool.step Op.respond (requestContract key) turn).state.db.payments.rows,
      stored.idempotencyKey = key := by
  rw [payments_step]
  rw [saved_step] at hi
  cases hsaved : savedBy pool turn with
  | none =>
      rw [hsaved] at hi
      exact hone.key_stored i (by simpa using hi)
  | some row =>
      rcases allowed_of_savedBy hmeet hsaved with hsaver | ⟨hpending, hkey⟩
      · exact PaymentTable.exists_key_upsert row (hone.key_stored _ hsaver)
      · have hnew := (hfirst row hsaved hpending).2
        exact ⟨row, PaymentTable.mem_upsert_of_new hnew, hkey⟩

theorem OneSaver.step (hfirst : SavesFirst pool turn) :
    OneSaver key (pool.step Op.respond (requestContract key) turn) where
  saved_of_requested i hi :=
    (saved_step i).mpr (Or.inl (saved_of_requested_step hmeet hone i hi))
  key_stored _ hi := hone.key_stored_step hmeet hfirst hi
  unique i j hi hj := by
    rw [saved_step] at hi hj
    cases hsaved : savedBy pool turn with
    | none =>
        rw [hsaved] at hi hj
        exact hone.unique i j (by simpa using hi) (by simpa using hj)
    | some row =>
        have hmover : ∀ k, (pool.notes k).saved = true ∨
            (k = turn.1 ∧ (savedBy pool turn).isSome = true) → k = turn.1 := by
          rintro k (hk | ⟨hk, -⟩)
          · exact hone.eq_of_savedBy hmeet hfirst hsaved hk
          · exact hk
        rw [hmover i hi, hmover j hj]

end OneSaver

end Requests

section Storage

variable [DecimalText]

/-- Along a schedule in which every Pending save finds neither its key nor its
payment id in the table, at most one of the initiations with one idempotency
key reaches the provider.  Tenants and payment ids are arbitrary. -/
theorem one_key_one_requester {ι : Type} [DecidableEq ι] {key : String}
    {initiations : ι → InitiatePaymentCommand}
    (hkey : ∀ i, (initiations i).idempotencyKey = key) (world : World)
    (schedule : List (ι × Choice))
    (hfirst : Pool.Admissible Op.respond (requestContract key) SavesFirst
      schedule (initiationPool initiations world))
    {i j : ι}
    (hi : (((initiationPool initiations world).run Op.respond
      (requestContract key) schedule).notes i).requested = true)
    (hj : (((initiationPool initiations world).run Op.respond
      (requestContract key) schedule).notes j).requested = true) :
    i = j := by
  have hinitial : OneSaver key (initiationPool initiations world) :=
    ⟨by simp [initiationPool], by simp [initiationPool],
      by simp [initiationPool]⟩
  have hrun := Pool.run_invariant
    (fun pool => pool.AllMeet (requestContract key) (fun _ _ _ => True) ∧
      OneSaver key pool)
    (fun pool turn hpool hturn =>
      ⟨hpool.1.step turn, hpool.2.step hpool.1 hturn⟩)
    ⟨allMeet_initiationPool hkey world, hinitial⟩ hfirst
  exact hrun.2.unique i j (hrun.2.saved_of_requested i hi)
    (hrun.2.saved_of_requested j hj)

end Storage

/-- Two initiations with one tenant, one key and payment ids 1 and 2. -/
def Samples.twoInitiations (i : Fin 2) : InitiatePaymentCommand :=
  initiation (i.val + 1)

open Samples in
/-- One initiation runs to its end; the second one then finds the key. -/
theorem one_requester_of_two :
    let pool := initiationPool twoInitiations (world noPayments)
    let schedule := List.replicate 11 ((0 : Fin 2), smooth) ++
      List.replicate 11 (1, smooth)
    let final := pool.run Op.respond (requestContract "idem-123") schedule
    (final.notes 0).requested = true ∧
      ∀ i j, (final.notes i).requested = true →
        (final.notes j).requested = true → i = j :=
  have hkey : ∀ i, (twoInitiations i).idempotencyKey = "idem-123" := fun _ => rfl
  ⟨by decide, fun _ _ hi hj =>
    one_key_one_requester hkey _ _ (by decide) hi hj⟩

open Samples in
/-- Both initiations look for the key before either of them saves. -/
theorem two_requesters :
    let pool := initiationPool twoInitiations (world noPayments)
    let schedule := List.replicate 2 ((0 : Fin 2), smooth) ++
      List.replicate 2 (1, smooth) ++ List.replicate 4 (0, smooth) ++
        List.replicate 4 (1, smooth)
    let final := pool.run Op.respond (requestContract "idem-123") schedule
    (twoInitiations 0).paymentId ≠ (twoInitiations 1).paymentId ∧
      (final.notes 0).requested = true ∧ (final.notes 1).requested = true := by
  decide

end UssdKernel.PaymentEngine
