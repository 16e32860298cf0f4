import Mathlib.Algebra.GroupWithZero.Nat
import KiTicket.Lib.Table
import KiTicket.Identifiers

/-! The rows of the database, as `entities.ts` declares them, and the unique
constraints each table carries. A reference column is a `varchar`; where every
write fills it from a `uuid` that was just read back, the model types it `Uuid`,
and where a write stores what the caller typed it is `Text`. Columns no modelled
function reads are left out. -/
namespace KiTicket

inductive Role where
  | customer | organizer | admin
deriving DecidableEq

inductive SeatState where
  | available | locked | booked
deriving DecidableEq

inductive ReservationState where
  | pending | confirmed | cancelled | expired
deriving DecidableEq

inductive PaymentState where
  | pending | success | failed | timeout | cancelled
deriving DecidableEq

inductive WaitingRoomState where
  | queued | admitted | expired
deriving DecidableEq

/-- A `decimal(14, 0)` column that is never written negative. -/
structure Amount where
  value : Nat
  fits : value < 10 ^ 14
deriving DecidableEq

/-- Storing a number in such a column; `none` is a numeric overflow. -/
def Amount.ofNat? (n : Nat) : Option Amount :=
  if fits : n < 10 ^ 14 then some ⟨n, fits⟩ else none

theorem Amount.value_of_ofNat? {n : Nat} {a : Amount} (stored : Amount.ofNat? n = some a) :
    a.value = n := by
  unfold Amount.ofNat? at stored
  split at stored
  · cases stored
    rfl
  · cases stored

/-! ## The catalog -/

structure Sector where
  id : Uuid
  venueId : Text
  name : Text
deriving DecidableEq

structure Seat where
  id : Uuid
  sectorId : Uuid
  row : Text
  number : Nat
  accessible : Bool
deriving DecidableEq

structure Event where
  id : Uuid
  organizerId : Text
  venueId : Text
  startsAt : Nat
  published : Bool
deriving DecidableEq

structure PricingCategory where
  id : Uuid
  eventId : Text
  sectorId : Option Text
  name : Text
  price : Amount
  currency : Text
deriving DecidableEq

/-- `@Unique(['venueId', 'name'])` -/
instance : UniqueKeys Sector where
  clash a b := a.id = b.id ∨ (a.venueId = b.venueId ∧ a.name = b.name)
  clash_comm a b := by simp only [eq_comm]

/-- `@Unique(['sectorId', 'row', 'number'])` -/
instance : UniqueKeys Seat where
  clash a b := a.id = b.id ∨ (a.sectorId = b.sectorId ∧ a.row = b.row ∧ a.number = b.number)
  clash_comm a b := by simp only [eq_comm]

instance : UniqueKeys Event where
  clash a b := a.id = b.id
  clash_comm a b := by simp only [eq_comm]

/-- `@Unique(['eventId', 'sectorId', 'name'])`; two rows without a sector never clash. -/
instance : UniqueKeys PricingCategory where
  clash a b := a.id = b.id ∨
    (a.eventId = b.eventId ∧ a.sectorId.isSome ∧ a.sectorId = b.sectorId ∧ a.name = b.name)
  clash_comm a b := by grind

/-- What organizers set up and booking only reads. -/
structure Catalog where
  events : Table Event
  sectors : Table Sector
  seats : Table Seat
  prices : Table PricingCategory

/-! ## Booking -/

structure Reservation where
  id : Uuid
  userId : Text
  eventId : Uuid
  state : ReservationState
  expiresAt : Nat
  totalAmount : Amount
  currency : Text
deriving DecidableEq

structure ReservationSeat where
  id : Uuid
  reservationId : Uuid
  eventId : Uuid
  seatId : Text
  state : SeatState
  price : Amount
deriving DecidableEq

structure Payment where
  id : Uuid
  reservationId : Uuid
  idempotencyKey : Option Text
  state : PaymentState
  amount : Amount
  currency : Text
  reference : Option Text
  failureReason : Option Text
deriving DecidableEq

structure Ticket where
  id : Uuid
  reservationId : Uuid
  seatId : Text
  token : Text
  qrHash : Text
  checkedInAt : Option Nat
deriving DecidableEq

structure WaitingRoomEntry where
  id : Uuid
  eventId : Text
  userId : Text
  position : Nat
  state : WaitingRoomState
  admissionToken : Option Text
  tokenExpiresAt : Option Nat
  createdAt : Nat
deriving DecidableEq

instance : UniqueKeys Reservation where
  clash a b := a.id = b.id
  clash_comm a b := by simp only [eq_comm]

/-- `@Unique(['eventId', 'seatId'])` -/
instance : UniqueKeys ReservationSeat where
  clash a b := a.id = b.id ∨ (a.eventId = b.eventId ∧ a.seatId = b.seatId)
  clash_comm a b := by simp only [eq_comm]

/-- `@Unique(['reservationId'])` and `@Unique(['idempotencyKey'])` -/
instance : UniqueKeys Payment where
  clash a b := a.id = b.id ∨ a.reservationId = b.reservationId ∨
    (a.idempotencyKey.isSome ∧ a.idempotencyKey = b.idempotencyKey)
  clash_comm a b := by grind

/-- `@Unique(['token'])` and `@Unique(['reservationId', 'seatId'])` -/
instance : UniqueKeys Ticket where
  clash a b := a.id = b.id ∨ a.token = b.token ∨
    (a.reservationId = b.reservationId ∧ a.seatId = b.seatId)
  clash_comm a b := by simp only [eq_comm]

/-- `admissionToken` is `unique: true` and nullable. -/
instance : UniqueKeys WaitingRoomEntry where
  clash a b := a.id = b.id ∨ (a.admissionToken.isSome ∧ a.admissionToken = b.admissionToken)
  clash_comm a b := by grind

/-- The database. -/
structure Db where
  catalog : Catalog
  reservations : Table Reservation
  reservationSeats : Table ReservationSeat
  payments : Table Payment
  tickets : Table Ticket
  entries : Table WaitingRoomEntry

/-- A catalog nobody has booked from yet. -/
def Db.initial (catalog : Catalog) : Db :=
  ⟨catalog, .empty, .empty, .empty, .empty, .empty⟩

end KiTicket
