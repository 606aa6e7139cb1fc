import UssdKernel.PendingTransactions.Calls

/-!
# What a session sees of a pending transaction

A session sees its own version of the row and of the reservation if it has
written them, and the committed ones otherwise.  What it sees fits the phase of
its call, and the results that it has returned fit the status of the row.
-/

namespace UssdKernel.PendingTransactions

/-- `COMPLETED`, `CANCELLED` and `EXPIRED` -/
def Status.Final (status : Status) : Prop :=
  status = .completed ∨ status = .cancelled ∨ status = .expired

instance (status : Status) : Decidable status.Final :=
  inferInstanceAs (Decidable (_ ∨ _))

/-- The PIN is verified, and the OTP if the row requires one. -/
def PendingTransaction.Authorized (row : PendingTransaction) : Prop :=
  row.pinVerified = some true ∧
    (row.requiresOtp = some true → row.otpVerified = some true)

instance (row : PendingTransaction) : Decidable row.Authorized :=
  inferInstanceAs (Decidable (_ ∧ _))

/-- The checks of `confirm_pending_transaction` let the row pass. -/
def PendingTransaction.Confirmable (row : PendingTransaction) (now : ℤ) :
    Prop :=
  row.status = .pending ∧ row.pinVerified ≠ some false ∧ now ≤ row.expiresAt

instance (row : PendingTransaction) (now : ℤ) :
    Decidable (row.Confirmable now) :=
  inferInstanceAs (Decidable (_ ∧ _))

/-- A successful confirmation. -/
def Result.confirms : Result → Bool
  | .confirm answer => answer.success
  | .verify _ _ => false
  | .cancel _ => false
  | .cleanup _ => false

/-- A successful cancellation. -/
def Result.cancels : Result → Bool
  | .cancel cancelled => cancelled
  | .verify _ _ => false
  | .confirm _ => false
  | .cleanup _ => false

/-! ## One row after another -/

/-- What no statement takes away. -/
structure Follows (before after : PendingTransaction) : Prop where
  final : before.status.Final → after.status = before.status
  authorized : before.Authorized → after.Authorized

theorem Follows.refl (row : PendingTransaction) : Follows row row :=
  ⟨fun _ => rfl, id⟩

theorem Follows.trans {first second third : PendingTransaction}
    (hfirst : Follows first second) (hsecond : Follows second third) :
    Follows first third where
  final := by
    intro hfinal
    have hsame := hfirst.final hfinal
    rw [← hsame]
    apply hsecond.final
    rw [hsame]
    exact hfinal
  authorized := hsecond.authorized ∘ hfirst.authorized

/-- A row that is not final may take any status. -/
theorem follows_of_not_final {row : PendingTransaction} {status : Status}
    (hopen : ¬ row.status.Final) : Follows row { row with status } :=
  ⟨fun hfinal => absurd hfinal hopen, id⟩

theorem follows_attempt (row : PendingTransaction) (valid : Bool)
    (newAttempts : Option ℤ) :
    Follows row
      { row with
        pinVerified := if valid then some true else row.pinVerified
        pinAttempts := newAttempts } where
  final := fun _ => rfl
  authorized := by
    intro hauthorized
    refine ⟨?_, hauthorized.2⟩
    cases valid with
    | true => rfl
    | false => exact hauthorized.1

/-! ## What the results say of the row -/

structure Outcomes (row : PendingTransaction) (results : List Result) :
    Prop where
  once : results.countP Result.confirms ≤ 1
  confirmed : ∀ result ∈ results, result.confirms = true →
    row.status = .completed
  cancelled : ∀ result ∈ results, result.cancels = true →
    row.status = .cancelled

/-- The result of a call that neither confirmed nor cancelled. -/
def Result.Plain (result : Result) : Prop :=
  result.confirms = false ∧ result.cancels = false

section Outcomes

variable {row after : PendingTransaction} {results : List Result}
variable {result : Result}

theorem countP_confirms_of_plain
    (hresults : ∀ result ∈ results, result.Plain) :
    results.countP Result.confirms = 0 := by
  rw [List.countP_eq_zero]
  intro result hresult
  rw [(hresults result hresult).1]
  exact Bool.false_ne_true

theorem outcomes_of_plain (hresults : ∀ result ∈ results, result.Plain) :
    Outcomes row results where
  once := (countP_confirms_of_plain hresults).trans_le (Nat.zero_le 1)
  confirmed := by
    intro result hresult hconfirms
    rw [(hresults result hresult).1] at hconfirms
    cases hconfirms
  cancelled := by
    intro result hresult hcancels
    rw [(hresults result hresult).2] at hcancels
    cases hcancels

/-- The results of a row that is neither completed nor cancelled. -/
theorem Outcomes.plain (houtcomes : Outcomes row results)
    (hcompleted : row.status ≠ .completed)
    (hcancelled : row.status ≠ .cancelled) :
    ∀ result ∈ results, result.Plain := by
  intro result hresult
  constructor
  · apply Bool.eq_false_of_not_eq_true
    exact fun hconfirms =>
      hcompleted (houtcomes.confirmed result hresult hconfirms)
  · apply Bool.eq_false_of_not_eq_true
    exact fun hcancels =>
      hcancelled (houtcomes.cancelled result hresult hcancels)

theorem Outcomes.of_status_eq (houtcomes : Outcomes row results)
    (hstatus : after.status = row.status) : Outcomes after results where
  once := houtcomes.once
  confirmed := fun result hresult hconfirms =>
    hstatus.trans (houtcomes.confirmed result hresult hconfirms)
  cancelled := fun result hresult hcancels =>
    hstatus.trans (houtcomes.cancelled result hresult hcancels)

/-- Plain results may stand anywhere. -/
theorem Outcomes.insert {first middle last : List Result}
    (houtcomes : Outcomes row (first ++ last))
    (hmiddle : ∀ result ∈ middle, result.Plain) :
    Outcomes row (first ++ middle ++ last) := by
  have hmem : ∀ result ∈ first ++ middle ++ last,
      result ∈ first ++ last ∨ result ∈ middle := by
    intro result hresult
    simp only [List.mem_append] at hresult ⊢
    tauto
  have hplain : Outcomes row middle := outcomes_of_plain hmiddle
  refine ⟨?_, fun result hresult hconfirms => ?_,
    fun result hresult hcancels => ?_⟩
  · have honce := houtcomes.once
    rw [List.countP_append] at honce
    rw [List.countP_append, List.countP_append,
      countP_confirms_of_plain hmiddle]
    exact honce
  · rcases hmem result hresult with houter | hinner
    · exact houtcomes.confirmed result houter hconfirms
    · exact hplain.confirmed result hinner hconfirms
  · rcases hmem result hresult with houter | hinner
    · exact houtcomes.cancelled result houter hcancels
    · exact hplain.cancelled result hinner hcancels

theorem Outcomes.append_plain {others : List Result}
    (houtcomes : Outcomes row results)
    (hothers : ∀ result ∈ others, result.Plain) :
    Outcomes row (results ++ others) := by
  rw [← List.append_nil (results ++ others)]
  apply Outcomes.insert _ hothers
  rw [List.append_nil]
  exact houtcomes

/-- The confirmation that completes the row. -/
theorem outcomes_confirm (hplain : ∀ result ∈ results, result.Plain)
    (hstatus : row.status = .completed) (answer : ConfirmAnswer) :
    Outcomes row (results ++ [.confirm answer]) where
  once := by
    rw [List.countP_append, countP_confirms_of_plain hplain, Nat.zero_add]
    exact List.countP_le_length
  confirmed := fun _ _ _ => hstatus
  cancelled := by
    intro result hresult hcancels
    rcases List.mem_append.mp hresult with hold | hnew
    · rw [(hplain result hold).2] at hcancels
      cases hcancels
    · rw [List.mem_singleton.mp hnew] at hcancels
      cases hcancels

/-- The cancellation of a cancelled row. -/
theorem Outcomes.cancel (houtcomes : Outcomes row results)
    (hstatus : row.status = .cancelled) :
    Outcomes row (results ++ [.cancel true]) where
  once := by
    rw [List.countP_append]
    exact houtcomes.once
  confirmed := by
    intro result hresult hconfirms
    rcases List.mem_append.mp hresult with hold | hnew
    · exact houtcomes.confirmed result hold hconfirms
    · rw [List.mem_singleton.mp hnew] at hconfirms
      cases hconfirms
  cancelled := fun _ _ _ => hstatus

end Outcomes

/-! ## What a session sees -/

/-- The reservation is consumed exactly if the row is completed. -/
def Settled (row : PendingTransaction) (reservation : Reservation) : Prop :=
  reservation.status = .consumed ↔ row.status = .completed

/-- What a session sees of the two rows in the phases of its call. -/
def Phase.Fits (row : PendingTransaction) (reservation : Reservation) :
    Phase → Prop
  | .expire result => result.Plain ∧ Settled row reservation
  | .process _ => row.Authorized ∧ Settled row reservation
  | .consume _ => row.Authorized ∧ row.status = .processing ∧
      reservation.status ≠ .consumed
  | .complete _ => row.Authorized ∧ row.status = .processing ∧
      reservation.status = .consumed
  | .release => row.status = .cancelled ∧ reservation.status ≠ .consumed
  | _ => Settled row reservation

/-- The phases in which the call has written the status of the row and is not
done. -/
def Phase.Exclusive : Phase → Prop
  | .consume _ => True
  | .complete _ => True
  | .release => True
  | _ => False

/-- The result that the call is about to return. -/
def Phase.due : Phase → List Result
  | .returned result => [result]
  | _ => []

@[simp]
theorem due_idle : Phase.idle.due = [] := rfl

structure View (phase : Phase) (row : PendingTransaction)
    (reservation : Reservation) (results : List Result) : Prop where
  outcomes : Outcomes row results
  fits : phase.Fits row reservation
  authorized : row.status = .completed → row.Authorized

theorem Settled.setStatus {row : PendingTransaction} {reservation : Reservation}
    {status : Status} (hsettled : Settled row reservation)
    (hrow : row.status ≠ .completed) (hstatus : status ≠ .completed) :
    Settled { row with status } reservation :=
  iff_of_false (hrow ∘ hsettled.mp) hstatus

section Fits

variable {phase : Phase} {row after : PendingTransaction}
variable {reservation other : Reservation}

theorem Phase.Fits.of_consumed_iff (hfits : phase.Fits row reservation)
    (hconsumed : other.status = .consumed ↔ reservation.status = .consumed) :
    phase.Fits row other := by
  have hsettled : Settled row reservation → Settled row other :=
    fun hsettled => hconsumed.trans hsettled
  cases phase with
  | expire result | process answer => exact ⟨hfits.1, hsettled hfits.2⟩
  | consume answer =>
      exact ⟨hfits.1, hfits.2.1, hfits.2.2 ∘ hconsumed.mp⟩
  | complete answer =>
      exact ⟨hfits.1, hfits.2.1, hconsumed.mpr hfits.2.2⟩
  | release => exact ⟨hfits.1, hfits.2 ∘ hconsumed.mp⟩
  | _ => exact hsettled hfits

/-- A session that only reads may find another row. -/
theorem Phase.Fits.of_follows (hfits : phase.Fits row reservation)
    (hphase : ¬ phase.Exclusive) (hfollows : Follows row after)
    (hsettled : Settled after other) : phase.Fits after other := by
  cases phase with
  | expire result => exact ⟨hfits.1, hsettled⟩
  | process answer => exact ⟨hfollows.authorized hfits.1, hsettled⟩
  | consume answer => exact absurd trivial hphase
  | complete answer => exact absurd trivial hphase
  | release => exact absurd trivial hphase
  | _ => exact hsettled

end Fits

/-- A phase that may be entered wherever the two rows are settled. -/
structure Phase.Quiet (phase : Phase) : Prop where
  fits : ∀ row reservation, Settled row reservation →
    phase.Fits row reservation
  exclusive : ¬ phase.Exclusive
  due : ∀ result ∈ phase.due, result.Plain

theorem quiet_returned {result : Result} (hplain : result.Plain) :
    (Phase.returned result).Quiet where
  fits := fun _ _ hsettled => hsettled
  exclusive := id
  due := fun _ hresult => List.mem_singleton.mp hresult ▸ hplain

/-- A phase without a due result. -/
theorem quiet_of_due_eq_nil {phase : Phase} (hdue : phase.due = [])
    (hexclusive : ¬ phase.Exclusive)
    (hfits : ∀ row reservation, Settled row reservation →
      phase.Fits row reservation) : phase.Quiet where
  fits := hfits
  exclusive := hexclusive
  due := by simp [hdue]

theorem quiet_expire {result : Result} (hplain : result.Plain) :
    (Phase.expire result).Quiet :=
  quiet_of_due_eq_nil rfl id fun _ _ hsettled => ⟨hplain, hsettled⟩

theorem quiet_verifySelected (pin : Option String) (now : ℤ)
    (row : PendingTransaction) :
    (verifySelected pin now (some row)).Quiet := by
  rw [verifySelected]
  split_ifs with hlocked hexpired
  · exact quiet_returned ⟨rfl, rfl⟩
  · exact quiet_expire ⟨rfl, rfl⟩
  · exact quiet_of_due_eq_nil rfl id fun _ _ => id

theorem quiet_cancelSelected (row : PendingTransaction) :
    (cancelSelected (some row)).Quiet := by
  rw [cancelSelected]
  split_ifs with hcancellable
  · exact quiet_of_due_eq_nil rfl id fun _ _ => id
  · exact quiet_returned ⟨rfl, rfl⟩

theorem confirmSelected_cases (transactionId coreReference : String) (now : ℤ)
    (row : PendingTransaction) :
    (confirmSelected transactionId coreReference now (some row)).Quiet ∨
      row.Confirmable now ∧
        confirmSelected transactionId coreReference now (some row) =
          .process (.executed transactionId coreReference) := by
  rw [confirmSelected]
  split_ifs with hstatus hpin hexpired
  · exact .inl (quiet_returned ⟨rfl, rfl⟩)
  · exact .inl (quiet_returned ⟨rfl, rfl⟩)
  · exact .inl (quiet_expire ⟨rfl, rfl⟩)
  · exact .inr ⟨⟨not_not.mp hstatus, hpin, not_lt.mp hexpired⟩, rfl⟩

end UssdKernel.PendingTransactions
