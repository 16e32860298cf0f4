import KiTicket.Reachable

/-! What the tables say about each other, in every database the API can reach
when ids are spelled as it returns them: reservations with their seats, payments
and tickets, and no seat of an event with two takers. -/
namespace KiTicket
open Runs

variable {cfg : Config} {catalog : Catalog} {w w' : World} {ts us : List (Transition World Action)}

/-- The rows of a reservation, as `findBy({ reservationId })` returns them. -/
def Db.seatsOf (db : Db) (r : Reservation) : List ReservationSeat :=
  db.reservationSeats.rows.filter (·.reservationId = r.id)

def Db.ticketsOf (db : Db) (r : Reservation) : List Ticket :=
  db.tickets.rows.filter (·.reservationId = r.id)

/-- At least one row, all in one state, with prices that sum to the total. -/
structure Db.Charged (db : Db) (r : Reservation) (state : SeatState) : Prop where
  chosen : db.seatsOf r ≠ []
  uniform : ∀ row ∈ db.seatsOf r, row.state = state
  total : ((db.seatsOf r).map (·.price.value)).sum = r.totalAmount.value

/-- One ticket for each row, and no other ticket. -/
structure Db.Ticketed (db : Db) (r : Reservation) : Prop where
  each : ∀ row ∈ db.seatsOf r, ∃! ticket, ticket ∈ db.ticketsOf r ∧ ticket.seatId = row.seatId
  only : ∀ ticket ∈ db.ticketsOf r, ∃ row ∈ db.seatsOf r, row.seatId = ticket.seatId

/-- What a reservation's state says about its rows, its tickets and its payment. -/
def Db.Agrees (db : Db) (r : Reservation) : Prop :=
  match r.state with
  | .pending =>
    db.Charged r .locked ∧ db.ticketsOf r = [] ∧
      ∀ p ∈ db.payments.rows, p.reservationId = r.id → p.state = .pending
  | .confirmed =>
    db.Charged r .booked ∧ db.Ticketed r ∧
      ∃ p ∈ db.payments.rows, p.reservationId = r.id ∧ p.state = .success ∧ p.amount = r.totalAmount
  | .cancelled | .expired =>
    db.seatsOf r = [] ∧ db.ticketsOf r = [] ∧
      ∀ p ∈ db.payments.rows, p.reservationId = r.id → p.state ≠ .success

def Reservation.active (r : Reservation) : Prop := r.state = .pending ∨ r.state = .confirmed

structure Db.Consistent (db : Db) : Prop where
  agrees : ∀ r ∈ db.reservations.rows, db.Agrees r
  owned : ∀ row ∈ db.reservationSeats.rows,
    ∃ r ∈ db.reservations.rows, r.id = row.reservationId ∧ r.active

/-! ## From bookings to tables -/

variable {db : Db} {r : Reservation}

private theorem ticketsOf_eq_nil (none : (db.booking r.id).tickets = []) : db.ticketsOf r = [] :=
  List.map_eq_nil_iff.mp none

theorem map_seatId_ticketsOf :
    (db.ticketsOf r).map Ticket.seatId = (db.booking r.id).tickets.map Ticket.seatId := by
  simp only [Db.booking, List.map_map]
  rfl

private theorem charged_of_holds (holds : Booking.Holds r state (db.booking r.id).seats) :
    db.Charged r state :=
  ⟨holds.chosen, holds.uniform, holds.total⟩

/-- Tickets of one reservation for one seat are the same ticket. -/
theorem ticket_unique {x y : Ticket} (left : x ∈ db.tickets.rows) (right : y ∈ db.tickets.rows)
    (reservation : x.reservationId = y.reservationId) (seat : x.seatId = y.seatId) : x = y :=
  Table.eq_of_clash left right (by simp [clash, reservation, seat])

private theorem ticketed_of_each
    (each : (db.booking r.id).tickets.map Ticket.seatId =
      (db.booking r.id).seats.map ReservationSeat.seatId) : db.Ticketed r := by
  rw [← map_seatId_ticketsOf] at each
  refine ⟨?_, ?_⟩
  · intro row member
    have seat : row.seatId ∈ (db.ticketsOf r).map Ticket.seatId := by
      rw [each]
      exact List.mem_map_of_mem member
    obtain ⟨ticket, issued, same⟩ := List.mem_map.mp seat
    refine ⟨ticket, ⟨issued, same⟩, ?_⟩
    rintro other ⟨issued', same'⟩
    obtain ⟨stored, of⟩ := List.mem_filter.mp issued
    obtain ⟨stored', of'⟩ := List.mem_filter.mp issued'
    rw [decide_eq_true_eq] at of of'
    exact ticket_unique stored' stored (of'.trans of.symm) (same'.trans same.symm)
  · intro ticket issued
    have seat : ticket.seatId ∈ (db.booking r.id).seats.map ReservationSeat.seatId := by
      rw [← each]
      exact List.mem_map_of_mem issued
    exact List.mem_map.mp seat

theorem agrees_of_coherent (coherent : (db.booking r.id).Coherent)
    (released : (db.booking r.id).Released) (stored : r ∈ db.reservations.rows) : db.Agrees r := by
  have found : (db.booking r.id).reservation = some r := booking_reservation_eq_some.mpr ⟨stored, rfl⟩
  have ended (state : r.state = .cancelled ∨ r.state = .expired) :
      db.seatsOf r = [] ∧ db.ticketsOf r = [] ∧
        ∀ p ∈ db.payments.rows, p.reservationId = r.id → p.state ≠ .success := by
    obtain ⟨-, none, unpaid⟩ := coherent.ended found state
    exact ⟨released r found state, ticketsOf_eq_nil none,
      fun p member of => unpaid p (booking_payment_eq_some.mpr ⟨member, of⟩)⟩
  unfold Db.Agrees
  split
  case h_1 state =>
    obtain ⟨holds, none, opened⟩ := coherent.pending found state
    exact ⟨charged_of_holds holds, ticketsOf_eq_nil none,
      fun p member of => opened p (booking_payment_eq_some.mpr ⟨member, of⟩)⟩
  case h_2 state =>
    obtain ⟨holds, each, p, paid, success⟩ := coherent.confirmed found state
    obtain ⟨member, of⟩ := booking_payment_eq_some.mp paid
    exact ⟨charged_of_holds holds, ticketed_of_each each, p, member, of, success,
      (coherent.amount found paid).1⟩
  case h_3 state => exact ended (.inl state)
  case h_4 state => exact ended (.inr state)

/-- Every row belongs to a reservation that still has its seats. -/
theorem active_of_seats (coherent : ∀ id, (db.booking id).Coherent)
    (released : ∀ id, (db.booking id).Released) {row : ReservationSeat}
    (member : row ∈ db.reservationSeats.rows) :
    ∃ r ∈ db.reservations.rows, r.id = row.reservationId ∧ r.active := by
  have seat : row ∈ (db.booking row.reservationId).seats := mem_booking_seats.mpr ⟨member, rfl⟩
  obtain ⟨r, found⟩ := (coherent row.reservationId).exists_of_seat seat
  obtain ⟨stored, named⟩ := booking_reservation_eq_some.mp found
  refine ⟨r, stored, named, ?_⟩
  have kept : ∀ _ : r.state = .cancelled ∨ r.state = .expired, False := by
    intro state
    rw [released row.reservationId r found state] at seat
    cases seat
  cases state : r.state
  case pending => exact .inl state
  case confirmed => exact .inr state
  case cancelled => exact (kept (.inl state)).elim
  case expired => exact (kept (.inr state)).elim

/-- In every state any requests of any users can lead to, in any interleaving,
every reservation agrees with its rows, its tickets and its payment. -/
theorem consistent_of_run (run : Run (step cfg) (initial catalog) ts w)
    (inside : Within Action.AsReturned ts) : w.db.Consistent where
  agrees _ stored := agrees_of_coherent (coherent_of_run run) (released_of_run run inside) stored
  owned _ member := active_of_seats (fun _ => coherent_of_run run)
    (fun _ => released_of_run run inside) member

theorem consistent_purchase : (replayed purchase purchase_enabled).db.Consistent :=
  consistent_of_run (run_replay purchase_enabled)
    (within_replay purchase_enabled (by decide +kernel))

/-! ## No seat is sold twice -/

/-- A reservation that still counts has a row for the seat of the event. -/
def Db.holder (db : Db) (event seat : Uuid) (r : Reservation) : Prop :=
  r ∈ db.reservations.rows ∧ r.active ∧
    ∃ row ∈ db.seatsOf r, row.eventId = event ∧ uuid? row.seatId = some seat

/-- The ticket was issued for the seat of the event. -/
def Db.admits (db : Db) (event seat : Uuid) (ticket : Ticket) : Prop :=
  ticket ∈ db.tickets.rows ∧ uuid? ticket.seatId = some seat ∧
    ∃ r ∈ db.reservations.rows, r.id = ticket.reservationId ∧ r.eventId = event

/-- Rows that name one seat of one event, spelled as the API returns it, are the
same row: no lock is needed for that. -/
theorem row_unique (spelled : ∀ id, (db.booking id).SeatsSpelled (asReturned · = true))
    {x y : ReservationSeat} (left : x ∈ db.reservationSeats.rows) (right : y ∈ db.reservationSeats.rows)
    (event : x.eventId = y.eventId) (seat : uuid? x.seatId = some place)
    (seat' : uuid? y.seatId = some place) : x = y := by
  have text := eq_text_of_asReturned (spelled _ x (mem_booking_seats.mpr ⟨left, rfl⟩)) seat
  have text' := eq_text_of_asReturned (spelled _ y (mem_booking_seats.mpr ⟨right, rfl⟩)) seat'
  exact Table.eq_of_clash left right (by simp [clash, event, text, text'])

theorem holder_unique {event seat : Uuid} {r r' : Reservation}
    (spelled : ∀ id, (db.booking id).SeatsSpelled (asReturned · = true))
    (left : db.holder event seat r) (right : db.holder event seat r') : r = r' := by
  obtain ⟨stored, -, row, held, of, named⟩ := left
  obtain ⟨stored', -, row', held', of', named'⟩ := right
  obtain ⟨member, mine⟩ := mem_booking_seats.mp held
  obtain ⟨member', mine'⟩ := mem_booking_seats.mp held'
  have same := row_unique spelled member member' (of.trans of'.symm) named named'
  subst same
  exact Table.eq_of_clash stored stored' (by simp [clash, ← mine, ← mine'])

/-- A ticket goes with a BOOKED row of its reservation. -/
theorem row_of_ticket (coherent : ∀ id, (db.booking id).Coherent) {ticket : Ticket}
    (issued : ticket ∈ db.tickets.rows) :
    ∃ row ∈ db.reservationSeats.rows, row.reservationId = ticket.reservationId ∧
      row.seatId = ticket.seatId ∧
      ∀ r, (db.booking ticket.reservationId).reservation = some r → row.eventId = r.eventId := by
  have given : ticket.issued ∈ (db.booking ticket.reservationId).tickets :=
    mem_booking_tickets.mpr ⟨ticket, issued, rfl, rfl⟩
  have coherent := coherent ticket.reservationId
  obtain ⟨r, found⟩ := coherent.exists_of_ticket given
  obtain ⟨holds, each, -⟩ := coherent.confirmed found (coherent.confirmed_of_ticket found given)
  have seat : ticket.seatId ∈ (db.booking ticket.reservationId).seats.map ReservationSeat.seatId := by
    rw [← each]
    exact List.mem_map.mpr ⟨_, given, rfl⟩
  obtain ⟨row, held, same⟩ := List.mem_map.mp seat
  obtain ⟨member, of⟩ := mem_booking_seats.mp held
  refine ⟨row, member, of, same, fun r' same => ?_⟩
  rw [found, Option.some.injEq] at same
  exact same ▸ holds.event row held

theorem admits_unique {event seat : Uuid} {x y : Ticket} (coherent : ∀ id, (db.booking id).Coherent)
    (spelled : ∀ id, (db.booking id).SeatsSpelled (asReturned · = true))
    (left : db.admits event seat x) (right : db.admits event seat y) : x = y := by
  obtain ⟨issued, named, r, stored, of, event⟩ := left
  obtain ⟨issued', named', r', stored', of', event'⟩ := right
  obtain ⟨row, member, mine, seat, at_event⟩ := row_of_ticket coherent issued
  obtain ⟨row', member', mine', seat', at_event'⟩ := row_of_ticket coherent issued'
  have events : row.eventId = row'.eventId := by
    rw [at_event r (booking_reservation_eq_some.mpr ⟨stored, of⟩),
      at_event' r' (booking_reservation_eq_some.mpr ⟨stored', of'⟩), event, event']
  have same := row_unique spelled member member' events (seat ▸ named) (seat' ▸ named')
  subst same
  exact ticket_unique issued issued' (mine.symm.trans mine') (seat.symm.trans seat')

/-- A ticket stays, check-in aside, and so does what it was issued for. -/
theorem admits_later {event seat : Uuid} {ticket : Ticket} (run : Run (step cfg) w ts w')
    (sound : World.Sound (fun _ => True) w) (issued : w.db.admits event seat ticket) :
    ∃ later, w'.db.admits event seat later ∧ later.id = ticket.id := by
  obtain ⟨stored, named, r, member, of, at_event⟩ := issued
  have given : ticket.issued ∈ (w.db.booking ticket.reservationId).tickets :=
    mem_booking_tickets.mpr ⟨ticket, stored, rfl, rfl⟩
  obtain ⟨later, stored', mine, same⟩ :=
    mem_booking_tickets.mp ((tickets_of_run run sound).subset given)
  obtain ⟨state, kept⟩ := reservation_of_run run sound (booking_reservation_eq_some.mpr ⟨member, of⟩)
  obtain ⟨member', of'⟩ := booking_reservation_eq_some.mp kept
  have seat : later.issued.seatId = ticket.issued.seatId := congrArg Ticket.seatId same
  have id : later.issued.id = ticket.issued.id := congrArg Ticket.id same
  exact ⟨later, ⟨stored', seat ▸ named, _, member', of'.trans mine.symm, at_event⟩, id⟩

/-- No double sale. At every point of a run a seat of an event is held by at
most one reservation that still counts, and all tickets ever issued for it, at
whatever points of the run one looks, are one ticket. Redis is not relied on:
the run may drop any lock at any moment. -/
theorem no_double_sale (run : Run (step cfg) (initial catalog) ts w)
    (inside : Within Action.AsReturned ts) :
    (∀ event seat r r', w.db.holder event seat r → w.db.holder event seat r' → r = r') ∧
    ∀ t ∈ ts, ∀ t' ∈ ts, ∀ event seat x y, t.target.db.admits event seat x →
      t'.target.db.admits event seat y → x.id = y.id := by
  have spelled : ∀ id, (w.db.booking id).SeatsSpelled (asReturned · = true) :=
    fun _ => seatsSpelled_of_run run inside
  refine ⟨fun event seat r r' => holder_unique spelled, ?_⟩
  have persists : ∀ t ∈ ts, ∀ event seat x, t.target.db.admits event seat x →
      ∃ later, w.db.admits event seat later ∧ later.id = x.id := by
    intro t member event seat x issued
    obtain ⟨before, after, -, reaches, taken, rest⟩ := run.split member
    exact admits_later rest (sound_of_run (.snoc reaches taken) within_any) issued
  intro t member t' member' event seat x y left right
  obtain ⟨x', issued, same⟩ := persists t member event seat x left
  obtain ⟨y', issued', same'⟩ := persists t' member' event seat y right
  rw [← same, ← same', admits_unique (fun _ => coherent_of_run run) spelled issued issued']

/-- A reservation that another customer tries to make of a seat whose lock Redis
has dropped, while the first one pays. -/
def contested : List Action :=
  reserve ++ [.drop (LockService.key (flatText 'e') (flatText 'a'))] ++
    .request (.create ⟨['w'], .customer⟩ ⟨flatText 'e', [flatText 'a'], none⟩) ::
    (createTurns 1 1 (flat 5) []).take 7 ++ .request (.start customer ⟨flatText '1', List.replicate 8 'k'⟩) ::
    startTurns 2 1 (flat 3) ++ .request (.complete customer (flatText '3') ⟨.success, none⟩) ::
    completeTurns 3 2 [flat 4] [['r'], ['t']]

theorem contested_enabled :
    (exec (step sampleConfig) (initial sampleCatalog) contested).isSome = true := by
  decide +kernel

theorem no_double_sale_contested :
    (∀ event seat r r', (replayed contested contested_enabled).db.holder event seat r →
      (replayed contested contested_enabled).db.holder event seat r' → r = r') ∧
    ∀ t ∈ transitions (step sampleConfig) (initial sampleCatalog) contested,
      ∀ t' ∈ transitions (step sampleConfig) (initial sampleCatalog) contested,
      ∀ event seat x y, t.target.db.admits event seat x →
        t'.target.db.admits event seat y → x.id = y.id :=
  no_double_sale (run_replay contested_enabled)
    (within_replay contested_enabled (by decide +kernel))

end KiTicket
