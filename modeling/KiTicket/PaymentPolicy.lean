import KiTicket.Dto

/-! `payment-policy.ts`: which states a completed payment and its reservation
move to. -/
namespace KiTicket

structure PaymentTransition where
  outcome : PaymentOutcome
  paymentState : PaymentState
  reservationState : ReservationState
  failureReason : Option Text
deriving DecidableEq

def reservationExpired : Text := "reservation-expired".toList
def gatewayDeclined : Text := "gateway-declined".toList

def determinePaymentTransition (requested : PaymentOutcome) (expired : Bool) : PaymentTransition :=
  let outcome := if expired then .timeout else requested
  match outcome with
  | .success => ⟨outcome, .success, .confirmed, none⟩
  | .timeout => ⟨outcome, .timeout, .expired, some reservationExpired⟩
  | .failure => ⟨outcome, .failed, .cancelled, some gatewayDeclined⟩

/-- A success is granted only when it was asked for before the deadline. -/
theorem outcome_eq_success_iff {requested : PaymentOutcome} {expired : Bool} :
    (determinePaymentTransition requested expired).outcome = .success ↔
      requested = .success ∧ expired = false := by
  cases requested <;> cases expired <;> decide

/-- Every transition ends the payment, and ends the reservation as CONFIRMED
exactly when it ends the payment as SUCCESS. -/
theorem transition_spec (requested : PaymentOutcome) (expired : Bool) :
    let transition := determinePaymentTransition requested expired
    transition.paymentState ≠ .pending ∧ transition.reservationState ≠ .pending ∧
      (transition.outcome = .success ↔ transition.paymentState = .success) ∧
      (transition.outcome = .success ↔ transition.reservationState = .confirmed) ∧
      (transition.outcome = .success ↔ transition.failureReason = none) := by
  cases requested <;> cases expired <;> decide

end KiTicket
