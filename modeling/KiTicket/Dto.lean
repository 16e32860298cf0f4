import KiTicket.Entities

/-! Request bodies and what the validation pipe lets through (`dto.ts`). A body
that is not accepted is answered 400 before any handler runs. -/
namespace KiTicket

/-- The claims of the bearer token. -/
structure AuthenticatedUser where
  sub : Text
  role : Role
deriving DecidableEq

structure CreateReservationDto where
  eventId : Text
  seatIds : List Text
  admissionToken : Option Text
deriving DecidableEq

/-- `ArrayUnique` compares strings, so two spellings of one seat pass it. -/
def CreateReservationDto.accepted (body : CreateReservationDto) : Bool :=
  isUUID body.eventId &&
    decide (1 ≤ body.seatIds.length ∧ body.seatIds.length ≤ 10) && decide body.seatIds.Nodup &&
    body.seatIds.all isUUID4 && body.admissionToken.all fun token => decide (20 ≤ token.length)

structure StartPaymentDto where
  reservationId : Text
  idempotencyKey : Text
deriving DecidableEq

def StartPaymentDto.accepted (body : StartPaymentDto) : Bool :=
  isUUID body.reservationId &&
    decide (8 ≤ body.idempotencyKey.length ∧ body.idempotencyKey.length ≤ 120)

inductive PaymentOutcome where
  | success | failure | timeout
deriving DecidableEq

structure CompletePaymentDto where
  outcome : PaymentOutcome
  providerReference : Option Text
deriving DecidableEq

def CompletePaymentDto.accepted (body : CompletePaymentDto) : Bool :=
  body.providerReference.all fun reference => decide (reference.length ≤ 120)

structure AdmitUsersDto where
  count : Nat
deriving DecidableEq

def AdmitUsersDto.accepted (body : AdmitUsersDto) : Bool :=
  decide (1 ≤ body.count ∧ body.count ≤ 500)

end KiTicket
