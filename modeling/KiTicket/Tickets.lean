import KiTicket.Reservations

/-! `tickets.controller.ts`: check-in at the door. -/
namespace KiTicket.Tickets

/-- `POST /tickets/:id/check-in`, open to organizers and administrators. -/
inductive CheckIn where
  | findTicket (user : AuthenticatedUser) (id : Text)
  | findReservation (user : AuthenticatedUser) (ticket : Ticket)
  | findEvent (user : AuthenticatedUser) (ticket : Ticket) (reservation : Reservation)
  | save (ticket : Ticket)
deriving DecidableEq

/-- `save` of a ticket whose `checkedInAt` alone was set. -/
def saveCheckedIn (db : Db) (ticket : Ticket) : Db :=
  { db with
    tickets := db.tickets.update
      (fun row => if row.id = ticket.id then { row with checkedInAt := ticket.checkedInAt } else row)
      (by intro a b; simp only [clash]; split <;> split <;> rfl) }

def CheckIn.turn (c : Choice) (server : Server) : CheckIn → Option (Server × Next CheckIn)
  | .findTicket user path =>
    match uuid? path with
    | none => server.refuse .invalidUuid
    | some id =>
      match server.db.tickets.rows.find? (·.id = id) with
      | none => server.refuse (.notFound "Ticket not found")
      | some ticket => server.stay (.findReservation user ticket)
  | .findReservation user ticket =>
    match Reservations.findReservation server.db ticket.reservationId with
    | none => server.refuse .entityNotFound
    | some reservation => server.stay (.findEvent user ticket reservation)
  | .findEvent user ticket reservation =>
    match server.db.catalog.events.rows.find? (·.id = reservation.eventId) with
    | none => server.refuse .entityNotFound
    | some event =>
      if user.role ≠ .admin ∧ event.organizerId ≠ user.sub then
        server.refuse (.forbidden "Ticket belongs to another organizer")
      else if ticket.checkedInAt.isSome then
        server.refuse (.forbidden "Ticket was already checked in")
      else server.stay (.save { ticket with checkedInAt := some c.now })
  | .save ticket =>
    some ({ server with db := saveCheckedIn server.db ticket }, .done (.ticket ticket))

end KiTicket.Tickets
