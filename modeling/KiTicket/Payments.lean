import KiTicket.PaymentPolicy
import KiTicket.Reservations

/-! `payments.controller.ts`: starting a payment under an idempotency key, and
completing it in a transaction that locks the payment row, then the reservation
row, and only then looks at the seats. -/
namespace KiTicket.Payments
open Reservations

/-! ## `POST /payments` -/

inductive Start where
  | findByKey (user : AuthenticatedUser) (body : StartPaymentDto)
  | findLinked (user : AuthenticatedUser) (body : StartPaymentDto) (existing : Payment)
  | findReservation (user : AuthenticatedUser) (body : StartPaymentDto)
  | save (user : AuthenticatedUser) (body : StartPaymentDto) (reservation : Reservation)
  | announce (user : AuthenticatedUser) (payment : Payment)
  | findByReservation (reservation : Reservation)
deriving DecidableEq

/-- The row `start` inserts. -/
def newPayment (id : Uuid) (body : StartPaymentDto) (reservation : Reservation) : Payment :=
  ⟨id, reservation.id, some body.idempotencyKey, .pending, reservation.totalAmount,
    reservation.currency, none, none⟩

def Start.turn (c : Choice) (server : Server) : Start → Option (Server × Next Start)
  | .findByKey user body =>
    match server.db.payments.rows.find? (·.idempotencyKey = some body.idempotencyKey) with
    | some existing => server.stay (.findLinked user body existing)
    | none => server.stay (.findReservation user body)
  | .findLinked user body existing =>
    match Reservations.findReservation server.db existing.reservationId with
    | none => server.refuse .entityNotFound
    | some linked =>
      if linked.userId ≠ user.sub ∨ linked.id.text ≠ body.reservationId then
        server.refuse (.conflict "Idempotency key belongs to another request")
      else some (server, .done (.payment existing))
  | .findReservation user body =>
    match uuid? body.reservationId with
    | none => server.refuse .invalidUuid
    | some id =>
      match Reservations.findReservation server.db id with
      | none => server.refuse .entityNotFound
      | some reservation =>
        if reservation.userId ≠ user.sub then
          server.refuse (.forbidden "Reservation belongs to another user")
        else if reservation.state ≠ .pending ∨ reservation.expiresAt ≤ c.now then
          server.refuse (.conflict "Reservation is no longer payable")
        else server.stay (.save user body reservation)
  | .save user body reservation =>
    match c.ids with
    | [id] =>
      let payment := newPayment id body reservation
      match server.db.payments.insert? [payment] with
      | some payments =>
        some ({ server with db := { server.db with payments } }, .go (.announce user payment))
      | none => server.stay (.findByReservation reservation)
    | _ => none
  | .announce user payment =>
    some (server.emit [.emitUser user.sub .paymentStarted (.payment payment),
        .publish .paymentStarted (.payment payment) user.sub],
      .done (.payment payment))
  | .findByReservation reservation =>
    match server.db.payments.rows.find? (·.reservationId = reservation.id) with
    | none => server.refuse .entityNotFound
    | some payment => some (server, .done (.payment payment))

def Start.fault (server : Server) : Start → Option (Server × Next Start)
  | .announce _ _ => none
  | _ => server.refuse .fault

/-! ## `POST /payments/:id/complete` -/

structure PaymentResult where
  payment : Payment
  reservation : Reservation
  tickets : List Ticket
  seatIds : List Text
deriving DecidableEq

inductive Complete where
  | findPayment (user : AuthenticatedUser) (id : Text) (body : CompletePaymentDto)
  | findReservation (user : AuthenticatedUser) (body : CompletePaymentDto) (payment : Payment)
  | findSeats (body : CompletePaymentDto) (payment : Payment) (reservation : Reservation)
  | findTickets (payment : Payment) (reservation : Reservation)
  | commit (body : CompletePaymentDto) (payment : Payment) (reservation : Reservation)
      (seats : List ReservationSeat)
  | release (result : PaymentResult)
deriving DecidableEq

/-- `save` of loaded seats: a row found again by its id is updated, one that is
gone is inserted anew. -/
def saveBooked (seats : List ReservationSeat) (table : Table ReservationSeat) :
    Option (Table ReservationSeat) :=
  let updated := table.update
    (fun row => if seats.any (·.id = row.id) then { row with state := .booked } else row)
    (by intro a b; simp only [clash]; split <;> split <;> rfl)
  updated.insert? ((seats.filter fun seat => table.rows.all (·.id ≠ seat.id)).map
    fun seat => { seat with state := .booked })

/-- `save` of a payment that keeps its key columns. -/
def savePayment (db : Db) (payment : Payment) : Db :=
  { db with
    payments := db.payments.update
      (fun row => if row.id = payment.id then
        { row with
          state := payment.state
          reference := payment.reference
          failureReason := payment.failureReason } else row)
      (by intro a b; simp only [clash]; split <;> split <;> rfl) }

def newTicket (cfg : Config) (reservation : Reservation) (seat : ReservationSeat) (id : Uuid)
    (token : Text) : Ticket :=
  ⟨id, reservation.id, seat.seatId, token, cfg.sha256Hex token, none⟩

/-- `seats.map(...)`, with the ids and tokens drawn. -/
def newTickets (cfg : Config) (reservation : Reservation) (seats : List ReservationSeat)
    (ids : List Uuid) (tokens : List Text) : List Ticket :=
  List.zipWith (fun seat (drawn : Uuid × Text) => newTicket cfg reservation seat drawn.1 drawn.2)
    seats (ids.zip tokens)

/-- The success branch of `completeTransaction`. -/
def confirm (cfg : Config) (db : Db) (ids : List Uuid) (tokens : List Text) (payment : Payment)
    (reservation : Reservation) (seats : List ReservationSeat) :
    Except Failure (Db × PaymentResult) :=
  let tickets := newTickets cfg reservation seats ids tokens
  match saveBooked seats db.reservationSeats, db.tickets.insert? tickets with
  | some reservationSeats, some tickets' =>
    .ok (savePayment
        (setState { db with reservationSeats, tickets := tickets' } reservation.id reservation.state)
        payment,
      ⟨payment, reservation, tickets, seats.map ReservationSeat.seatId⟩)
  | _, _ => .error .duplicateKey

/-- The other branch: the seats go, the reservation and the payment end. -/
def compensate (db : Db) (payment : Payment) (reservation : Reservation)
    (seats : List ReservationSeat) : Db × PaymentResult :=
  (savePayment (setState (removeSeats db seats) reservation.id reservation.state) payment,
    ⟨payment, reservation, [], seats.map ReservationSeat.seatId⟩)

/-- What `complete` emits once the transaction has committed. -/
def completed (result : PaymentResult) : List Emission :=
  let success := result.payment.state = .success
  let topic : Topic := if success then .paymentSucceeded else .paymentFailed
  let userId := result.reservation.userId
  [.emitUser userId topic (.payment result.payment),
    .emitEvent result.reservation.eventId .seatStatusChanged
      (.seats result.reservation.eventId result.seatIds (if success then .booked else .available)),
    .publish topic (.payment result.payment) userId] ++
  if result.tickets = [] then []
  else [.emitUser userId .ticketIssued (.ticketIds (result.tickets.map Ticket.id)),
    .publish .ticketIssued (.tickets result.tickets) userId]

def Complete.finish (server : Server) (result : PaymentResult) :
    Option (Server × Next Complete) :=
  some (server.emit (completed result),
    .done (.completed result.payment result.reservation result.tickets))

def Complete.turn (cfg : Config) (c : Choice) (held : List RowLock) (server : Server) :
    Complete → Option (Server × Next Complete)
  | .findPayment user path body =>
    match uuid? path with
    | none => server.refuse .invalidUuid
    | some id =>
      match server.db.payments.rows.find? (·.id = id) with
      | none => server.refuse (.conflict "Payment not found")
      | some payment =>
        if .payment id ∈ held then none
        else server.stay (.findReservation user body payment)
  | .findReservation user body payment =>
    match Reservations.findReservation server.db payment.reservationId with
    | none => server.refuse (.conflict "Reservation not found")
    | some reservation =>
      if .reservation reservation.id ∈ held then none
      else if reservation.userId ≠ user.sub then
        server.refuse (.forbidden "Payment belongs to another user")
      else server.stay (.findSeats body payment reservation)
  | .findSeats body payment reservation =>
    let seats := server.db.reservationSeats.rows.filter (·.reservationId = reservation.id)
    if payment.state ≠ .pending then server.stay (.findTickets payment reservation)
    else server.stay (.commit body payment reservation seats)
  | .findTickets payment reservation =>
    some (server, .done (.completed payment reservation
      (server.db.tickets.rows.filter (·.reservationId = reservation.id))))
  | .commit body payment reservation seats =>
    let transition := determinePaymentTransition body.outcome
      (decide (reservation.expiresAt ≤ c.now))
    let reservation' := { reservation with state := transition.reservationState }
    if transition.outcome = .success then
      if seats = [] then server.refuse (.conflict "Reservation has no locked seats")
      else
        match c.tokens with
        | reference :: tokens =>
          if c.ids.length ≠ seats.length ∨ tokens.length ≠ seats.length then none
          else
            match confirm cfg server.db c.ids tokens
                { payment with
                  state := transition.paymentState
                  reference := some (body.providerReference.getD reference) }
                reservation' seats with
            | .error failure => server.refuse failure
            | .ok (db, result) => some ({ server with db }, .go (.release result))
        | [] => none
    else
      let (db, result) := compensate server.db
        { payment with
          state := transition.paymentState
          failureReason := transition.failureReason }
        reservation' seats
      some ({ server with db }, .go (.release result))
  | .release result =>
    Complete.finish (releaseLocks server result.reservation.eventId result.seatIds
      result.reservation.id) result

/-- A release that fails is logged; any other failing call ends the request. -/
def Complete.fault (server : Server) : Complete → Option (Server × Next Complete)
  | .release result => Complete.finish server result
  | _ => server.refuse .fault

/-- The rows the transaction has locked before this call. -/
def Complete.held : Complete → List RowLock
  | .findReservation _ _ payment => [.payment payment.id]
  | .findSeats _ payment reservation | .findTickets payment reservation
  | .commit _ payment reservation _ => [.payment payment.id, .reservation reservation.id]
  | _ => []

end KiTicket.Payments
