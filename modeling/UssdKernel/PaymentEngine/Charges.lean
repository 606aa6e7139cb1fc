import UssdKernel.PaymentEngine.Outcomes

/-!
# Charges of one initiation

`call_provider_with_retry` repeats a request whose response was an error, and
an error does not say that the provider made no charge.  One call therefore
charges as often as the requests up to the first `Ok` do, and it stores Failed
after three errors whatever those requests did.
-/

namespace UssdKernel.PaymentEngine

namespace InitiatePaymentHandler

section Charges

variable [DecimalText] {env : Env} {cmd : InitiatePaymentCommand}
variable {world : World} {payment : Payment}

theorem charges_worldAfter (hreaches : Reaches env cmd world payment) :
    (worldAfter env cmd world).charges = world.charges + charges env := by
  rw [worldAfter_of_reaches hreaches, charges_recorded]
  rfl

theorem failed_worldAfter_iff (hreaches : Reaches env cmd world payment) :
    (worldAfter env cmd world).db.payments.statusOf cmd.paymentId =
        some .failed ↔
      (∃ error, answer env = .error error) ∧ env.Succeeds 4 2 := by
  rw [statusOf_worldAfter hreaches, Option.some.injEq, settled]
  by_cases hok : env.Succeeds 4 2
  · cases hanswer : answer env <;> simp [hok]
  · simp [hok]

/-- A call charges at most once, and not at all if it stores Failed, exactly if
the requests it makes do: at most one of those up to the first `Ok` charges,
and none does if all of them report errors and Failed is stored. -/
theorem one_charge_iff (env : Env) (cmd : InitiatePaymentCommand)
    (world : World) :
    ((worldAfter env cmd world).charges ≤ world.charges + 1 ∧
      ((worldAfter env cmd world).db.payments.statusOf cmd.paymentId =
          some .failed →
        (worldAfter env cmd world).charges = world.charges)) ↔
      ∀ payment, Reaches env cmd world payment →
        charges env ≤ 1 ∧
          ((∃ error, answer env = .error error) → env.Succeeds 4 2 →
            charges env = 0) := by
  constructor
  · rintro ⟨hone, hfailed⟩ payment hreaches
    rw [charges_worldAfter hreaches] at hone hfailed
    rw [failed_worldAfter_iff hreaches] at hfailed
    refine ⟨by omega, fun herror hstored => ?_⟩
    have hnone := hfailed ⟨herror, hstored⟩
    omega
  · intro hsafe
    rcases worldAfter_cases env cmd world with ⟨payment, hreaches⟩ | hsame
    · obtain ⟨hone, hfailed⟩ := hsafe payment hreaches
      rw [charges_worldAfter hreaches, failed_worldAfter_iff hreaches]
      refine ⟨by omega, fun hstored => ?_⟩
      rw [hfailed hstored.1 hstored.2, Nat.add_zero]
    · rw [hsame]
      exact ⟨by omega, fun _ => rfl⟩

end Charges

open Samples in
/-- Every request is charged and every response is lost: three charges, and
the payment is stored as Failed. -/
theorem charged_and_failed :
    let lost : Env :=
      { reliable with
        charged := fun _ => true
        reply := fun _ => .error (.providerError "request timed out") }
    let final := worldAfter lost (initiation 1) (world noPayments)
    final.charges = 3 ∧ final.db.payments.statusOf 1 = some .failed := by
  decide

end InitiatePaymentHandler

end UssdKernel.PaymentEngine
