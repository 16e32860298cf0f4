import KiTicket.LockService
import KiTicket.WaitingRoom

/-! `reservations.controller.ts`. Each handler is the sequence of its awaited
calls: a state names the call it is about to make and carries what the handler
has read so far. A transaction's writes become visible at its commit, which is
one turn; the row locks it took before are held in the states in between. -/
namespace KiTicket.Reservations

/-! ## `POST /reservations` -/

/-- What `create` knows once it has drawn the reservation's id. -/
structure Draft where
  id : Uuid
  userId : Text
  event : Event
  seatIds : List Text
  seatPrices : List (Text × Amount)
  currency : Text
deriving DecidableEq

inductive Create where
  | assertAdmission (user : AuthenticatedUser) (body : CreateReservationDto)
  | findEvent (user : AuthenticatedUser) (body : CreateReservationDto)
  | findSectors (user : AuthenticatedUser) (body : CreateReservationDto) (event : Event)
  | findSeats (user : AuthenticatedUser) (body : CreateReservationDto) (event : Event)
      (sectorIds : List Uuid)
  | findPricing (user : AuthenticatedUser) (body : CreateReservationDto) (event : Event)
      (selectedSeats : List Seat)
  | acquire (draft : Draft)
  | findOccupied (draft : Draft)
  | save (draft : Draft)
  | announce (reservation : Reservation) (seatIds : List Text)
  | release (draft : Draft) (failure : Failure)
deriving DecidableEq

/-- `!price.sectorId` -/
def PricingCategory.isDefault (price : PricingCategory) : Bool :=
  price.sectorId.all List.isEmpty

/-- The first category of the seat's sector, else the first default one. -/
def category (pricing : List PricingCategory) (seat : Seat) : Option PricingCategory :=
  (pricing.find? fun price => price.sectorId = some seat.sectorId.text) <|>
    pricing.find? PricingCategory.isDefault

/-- The entries of the `seatPrices` map; `none` when a seat has no category. -/
def seatPrices (pricing : List PricingCategory) (selectedSeats : List Seat) :
    Option (List (Text × Amount)) :=
  selectedSeats.mapM fun seat => (category pricing seat).map fun price =>
    (seat.id.text, price.price)

def zero : Amount := ⟨0, by decide⟩

/-- `seatPrices.get(seatId) ?? 0` -/
def Draft.price (draft : Draft) (seatId : Text) : Amount :=
  (draft.seatPrices.lookup seatId).getD zero

def Draft.totalAmount (draft : Draft) : Nat :=
  (draft.seatIds.map fun seatId => (draft.price seatId).value).sum

def Draft.reservation (cfg : Config) (now : Nat) (draft : Draft) (total : Amount) : Reservation :=
  ⟨draft.id, draft.userId, draft.event.id, .pending, now + cfg.lockTtlSeconds * 1000, total,
    draft.currency⟩

def Draft.seat (draft : Draft) (rowId : Uuid) (seatId : Text) : ReservationSeat :=
  ⟨rowId, draft.id, draft.event.id, seatId, .locked, draft.price seatId⟩

def unavailable : Failure := .conflict "At least one selected seat is unavailable"

/-- The two inserts of the transaction. The reservation's id was drawn fresh, so
`save` finds no row to update and inserts. -/
def Draft.insert (cfg : Config) (c : Choice) (db : Db) (draft : Draft) :
    Except Failure (Db × Reservation) :=
  match Amount.ofNat? draft.totalAmount with
  | none => .error .numericOverflow
  | some total =>
    let reservation := draft.reservation cfg c.now total
    match db.reservations.insert? [reservation],
        db.reservationSeats.insert? (List.zipWith draft.seat c.ids draft.seatIds) with
    | some reservations, some reservationSeats =>
      .ok ({ db with reservations, reservationSeats }, reservation)
    | _, _ => .error unavailable

/-- The Redis locks of a list of seats, given back. -/
def releaseLocks (server : Server) (eventId : Uuid) (seatIds : List Text) (owner : Uuid) : Server :=
  { server with locks := (LockService.release server.locks eventId.text seatIds owner.text).1 }

def Create.turn (cfg : Config) (c : Choice) (server : Server) :
    Create → Option (Server × Next Create)
  | .assertAdmission user body =>
    match WaitingRoom.assertAdmission cfg server.db.entries.rows c.now body.eventId user.sub
        body.admissionToken with
    | .error failure => server.refuse failure
    | .ok () => server.stay (.findEvent user body)
  | .findEvent user body =>
    match uuid? body.eventId with
    | none => server.refuse .invalidUuid
    | some id =>
      match WaitingRoom.findPublished server.db id with
      | none => server.refuse (.conflict "Event is unavailable")
      | some event =>
        if event.startsAt ≤ c.now then server.refuse (.conflict "Event is unavailable")
        else server.stay (.findSectors user body event)
  | .findSectors user body event =>
    server.stay (.findSeats user body event
      ((server.db.catalog.sectors.rows.filter (·.venueId = event.venueId)).map Sector.id))
  | .findSeats user body event sectorIds =>
    let selectedSeats := server.db.catalog.seats.rows.filter fun seat =>
      seat.sectorId ∈ sectorIds ∧ some seat.id ∈ body.seatIds.map uuid?
    if selectedSeats.length ≠ body.seatIds.length then
      server.refuse (.conflict "One or more seats do not belong to the event venue")
    else server.stay (.findPricing user body event selectedSeats)
  | .findPricing user body event selectedSeats =>
    let pricing := server.db.catalog.prices.rows.filter (·.eventId = event.id.text)
    match seatPrices pricing selectedSeats with
    | none => server.refuse (.conflict "Selected seat has no pricing category")
    | some prices =>
      match c.ids with
      | [id] =>
        if id ∈ server.drawn then none
        else some ({ server with drawn := id :: server.drawn },
          .go (.acquire ⟨id, user.sub, event, body.seatIds, prices,
            (pricing.head?.map PricingCategory.currency).getD ['I', 'R', 'R']⟩))
      | _ => none
  | .acquire draft =>
    match LockService.acquire cfg server.locks draft.event.id.text draft.seatIds draft.id.text with
    | .error failure => server.refuse failure
    | .ok locks => some ({ server with locks }, .go (.findOccupied draft))
  | .findOccupied draft =>
    if server.db.reservationSeats.rows.any fun row =>
        row.eventId = draft.event.id ∧ row.seatId ∈ draft.seatIds then
      server.stay (.release draft unavailable)
    else server.stay (.save draft)
  | .save draft =>
    if c.ids.length ≠ draft.seatIds.length then none
    else
      match draft.insert cfg c server.db with
      | .error failure => server.stay (.release draft failure)
      | .ok (db, reservation) =>
        some ({ server with db }, .go (.announce reservation draft.seatIds))
  | .announce reservation seatIds =>
    some (server.emit [
        .emitEvent reservation.eventId .seatStatusChanged
          (.seats reservation.eventId seatIds .locked),
        .publish .reservationCreated (.reservation reservation) reservation.userId],
      .done (.reservation reservation))
  | .release draft failure =>
    (releaseLocks server draft.event.id draft.seatIds draft.id).refuse failure

/-- When a call throws. Inside the `try` the locks are released first; a release
that fails is logged and the error thrown on. -/
def Create.fault (server : Server) : Create → Option (Server × Next Create)
  | .findOccupied draft | .save draft => server.stay (.release draft .fault)
  | .announce _ _ => none
  | .release _ failure => server.refuse failure
  | _ => server.refuse .fault

/-! ## `POST /reservations/:id/cancel` -/

inductive Cancel where
  | findOne (user : AuthenticatedUser) (id : Text)
  | findSeats (id : Text) (reservation : Reservation)
  | commit (id : Text) (reservation : Reservation) (seats : List ReservationSeat)
  | release (reservation : Reservation) (seats : List ReservationSeat)
deriving DecidableEq

def findReservation (db : Db) (id : Uuid) : Option Reservation :=
  db.reservations.rows.find? (·.id = id)

/-- `save` of a reservation whose state alone was changed. -/
def setState (db : Db) (id : Uuid) (state : ReservationState) : Db :=
  { db with
    reservations := db.reservations.update
      (fun row => if row.id = id then { row with state } else row)
      (by intro a b; simp only [clash]; split <;> split <;> rfl) }

/-- `remove` of loaded rows, by their ids. -/
def removeSeats (db : Db) (seats : List ReservationSeat) : Db :=
  { db with
    reservationSeats := db.reservationSeats.delete fun row => seats.any (·.id = row.id) }

/-- The emissions after a reservation has let go of its seats. -/
def freed (topic : Topic) (reservation : Reservation) (seats : List ReservationSeat) :
    List Emission :=
  [.emitEvent reservation.eventId .seatStatusChanged
      (.seats reservation.eventId (seats.map ReservationSeat.seatId) .available),
    .publish topic (.reservation reservation) reservation.userId]

def Cancel.finish (server : Server) (reservation : Reservation) (seats : List ReservationSeat) :
    Option (Server × Next Cancel) :=
  some (server.emit (freed .reservationCancelled reservation seats),
    .done (.reservation reservation))

def Cancel.turn (held : List RowLock) (server : Server) :
    Cancel → Option (Server × Next Cancel)
  | .findOne user path =>
    match uuid? path with
    | none => server.refuse .invalidUuid
    | some id =>
      match findReservation server.db id with
      | none => server.refuse (.notFound "Reservation not found")
      | some reservation =>
        if .reservation id ∈ held then none
        else if reservation.userId ≠ user.sub ∧ user.role ≠ .admin then
          server.refuse (.forbidden "Reservation belongs to another user")
        else if reservation.state ≠ .pending then
          server.refuse (.conflict "Only pending reservations can be cancelled")
        else server.stay (.findSeats path reservation)
  | .findSeats path reservation =>
    -- the varchar column is compared with the path as it was typed
    server.stay (.commit path reservation
      (server.db.reservationSeats.rows.filter (·.reservationId.text = path)))
  | .commit _ reservation seats =>
    some ({ server with
        db := removeSeats (setState server.db reservation.id .cancelled) seats },
      .go (.release { reservation with state := .cancelled } seats))
  | .release reservation seats =>
    Cancel.finish (releaseLocks server reservation.eventId (seats.map ReservationSeat.seatId)
      reservation.id) reservation seats

def Cancel.fault (server : Server) : Cancel → Option (Server × Next Cancel)
  | .release reservation seats => Cancel.finish server reservation seats
  | _ => server.refuse .fault

/-- The rows the transaction has locked before this call. -/
def Cancel.held : Cancel → List RowLock
  | .findSeats _ reservation | .commit _ reservation _ => [.reservation reservation.id]
  | _ => []

/-! ## `ExpiryService.expire` -/

inductive Expire where
  | getMany
  | findSeats (reservation : Reservation) (rest : List Reservation) (expired : Nat)
  | commit (reservation : Reservation) (seats : List ReservationSeat) (rest : List Reservation)
      (expired : Nat)
  | release (reservation : Reservation) (seats : List ReservationSeat) (rest : List Reservation)
      (expired : Nat)
deriving DecidableEq

def stale (db : Db) (now : Nat) : List Reservation :=
  db.reservations.rows.filter fun row => row.state = .pending ∧ row.expiresAt ≤ now

/-- `take(100)` of the stale reservations, in whatever order the query returns. -/
def getStale (db : Db) (now : Nat) (order : List Uuid) : Option (List Reservation) :=
  if order.Nodup ∧ order.length = min 100 (stale db now).length then
    order.mapM fun id => (stale db now).find? (·.id = id)
  else none

/-- The loop goes on with the next reservation, or returns its count. -/
def Expire.loop (server : Server) (expired : Nat) :
    List Reservation → Option (Server × Next Expire)
  | [] => some (server, .done (.swept expired))
  | reservation :: rest => server.stay (.findSeats reservation rest expired)

def Expire.finish (server : Server) (reservation : Reservation) (seats : List ReservationSeat)
    (rest : List Reservation) (expired : Nat) : Option (Server × Next Expire) :=
  Expire.loop (server.emit (freed .reservationExpired reservation seats)) expired rest

def Expire.turn (c : Choice) (held : List RowLock) (server : Server) :
    Expire → Option (Server × Next Expire)
  | .getMany => (getStale server.db c.now c.order).bind (Expire.loop server 0)
  | .findSeats reservation rest expired =>
    server.stay (.commit reservation
      (server.db.reservationSeats.rows.filter (·.reservationId = reservation.id)) rest expired)
  | .commit reservation seats rest expired =>
    -- a blocked UPDATE waits for the row and re-evaluates its condition on what it finds
    if (findReservation server.db reservation.id).any (·.state = .pending) then
      if .reservation reservation.id ∈ held then none
      else some ({ server with
          db := removeSeats (setState server.db reservation.id .expired) seats },
        .go (.release reservation seats rest (expired + 1)))
    else Expire.loop server expired rest
  | .release reservation seats rest expired =>
    Expire.finish (releaseLocks server reservation.eventId (seats.map ReservationSeat.seatId)
      reservation.id) reservation seats rest expired

/-- Only a failing release is caught; any other error ends the sweep. -/
def Expire.fault (server : Server) : Expire → Option (Server × Next Expire)
  | .release reservation seats rest expired => Expire.finish server reservation seats rest expired
  | _ => server.refuse .fault

end KiTicket.Reservations
