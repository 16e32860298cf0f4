import KiTicket.Currency

/-! The figures an organizer sees. `analytics` and `detail` count and add up what five
tables hold; the bookings of a reservation agree with one another, so each figure is
the same sum over the confirmed reservations of the event. -/
namespace KiTicket
open Runs Events KiTicket.Lists

variable {cfg : Config} {db : Db} {eventId : Uuid} {s s' : Site} {a : Site.Action}
  {r : Reservation} {p : Payment} {row : ReservationSeat} {ticket : Ticket}
  {ts : List (Transition Site Site.Action)}

/-- The rows of an event that are in a state. -/
def Db.rowsOf (db : Db) (eventId : Uuid) (state : SeatState) : List ReservationSeat :=
  db.reservationSeats.rows.filter fun row => row.eventId = eventId ∧ row.state = state

def Db.confirmed (db : Db) (eventId : Uuid) : List Reservation :=
  db.reservations.rows.filter fun r => r.eventId = eventId ∧ r.state = .confirmed

/-- The tickets of the event's reservations. -/
def Db.ticketsFor (db : Db) (eventId : Uuid) : List Ticket :=
  db.tickets.rows.filter fun ticket => db.reservations.rows.any fun r =>
    r.id = ticket.reservationId ∧ r.eventId = eventId

/-! ## One booking per reservation -/

section Coherent
variable (coherent : ∀ id, (db.booking id).Coherent)
include coherent

/-- Every row is a reservation's, at its event; it is booked when the reservation is
confirmed and locked otherwise. -/
theorem reservation_of_row (stored : row ∈ db.reservationSeats.rows) :
    ∃ r ∈ db.reservations.rows, r.id = row.reservationId ∧ row.eventId = r.eventId ∧
      row.state = if r.state = .confirmed then .booked else .locked := by
  have member : row ∈ (db.booking row.reservationId).seats := mem_booking_seats.mpr ⟨stored, rfl⟩
  have coherent := coherent row.reservationId
  obtain ⟨r, found⟩ := coherent.exists_of_seat member
  obtain ⟨known, named⟩ := booking_reservation_eq_some.mp found
  have holds := coherent.holds_of_seat found member
  exact ⟨r, known, named, holds.event row member, holds.uniform row member⟩

theorem occupied_of_row (stored : row ∈ db.reservationSeats.rows) : row.state ≠ .available := by
  obtain ⟨r, -, -, -, state⟩ := reservation_of_row coherent stored
  rw [state]
  split <;> exact SeatState.noConfusion

theorem confirmed_of_ticket (stored : ticket ∈ db.tickets.rows) (member : r ∈ db.reservations.rows)
    (named : r.id = ticket.reservationId) : r.state = .confirmed := by
  have issued : ticket.issued ∈ (db.booking r.id).tickets :=
    mem_booking_tickets.mpr ⟨ticket, stored, named.symm, rfl⟩
  exact (coherent r.id).confirmed_of_ticket (booking_reservation_eq_some.mpr ⟨member, rfl⟩) issued

end Coherent

theorem confirmed_nodup : ((db.confirmed eventId).map Reservation.id).Nodup := by
  rw [List.Nodup, List.pairwise_map]
  exact (db.reservations.unique.sublist List.filter_sublist).imp fun apart same => by
    simp [clash, same] at apart

theorem mem_confirmed {id : Uuid} : id ∈ (db.confirmed eventId).map Reservation.id ↔
    ∃ r ∈ db.reservations.rows, r.id = id ∧ r.eventId = eventId ∧ r.state = .confirmed := by
  simp only [Db.confirmed, List.mem_map, List.mem_filter, decide_eq_true_eq]
  constructor
  · rintro ⟨r, ⟨member, event, state⟩, named⟩
    exact ⟨r, member, named, event, state⟩
  · rintro ⟨r, member, named, event, state⟩
    exact ⟨r, ⟨member, event, state⟩, named⟩

/-- Reservations of one id are the same. -/
theorem reservation_unique {x y : Reservation} (left : x ∈ db.reservations.rows)
    (right : y ∈ db.reservations.rows) (same : x.id = y.id) : x = y :=
  Table.eq_of_clash left right (by simp [clash, same])

/-! ## The same sum, five times -/

section Sums
variable (coherent : ∀ id, (db.booking id).Coherent)
include coherent

theorem rowsOf_booked : db.rowsOf eventId .booked = db.reservationSeats.rows.filter fun row =>
    row.reservationId ∈ (db.confirmed eventId).map Reservation.id := by
  apply List.filter_congr
  intro row stored
  obtain ⟨r, member, named, event, state⟩ := reservation_of_row coherent stored
  rw [decide_eq_decide, mem_confirmed, event, state]
  constructor
  · rintro ⟨here, booked⟩
    split at booked
    · exact ⟨r, member, named, here, by assumption⟩
    · cases booked
  · rintro ⟨r', member', named', event', confirmed⟩
    have same := reservation_unique member member' (named.trans named'.symm)
    subst same
    exact ⟨event', if_pos confirmed⟩

theorem successfulPayments_eq : successfulPayments db eventId.text =
    db.payments.rows.filter fun p => p.reservationId ∈ (db.confirmed eventId).map Reservation.id := by
  simp only [successfulPayments, Uuid.text_inj]
  change db.payments.rows.filter (fun p => p.reservationId ∈ (db.confirmed eventId).map Reservation.id ∧
    p.state = .success) = _
  apply List.filter_congr
  intro p stored
  rw [decide_eq_decide]
  refine ⟨And.left, fun counted => ⟨counted, ?_⟩⟩
  obtain ⟨r, member, named, -, state⟩ := mem_confirmed.mp counted
  have found := booking_reservation_eq_some.mpr ⟨member, rfl⟩
  obtain ⟨-, -, q, paid, success⟩ := (coherent r.id).confirmed found state
  rw [booking_payment_eq_some.mpr ⟨stored, named.symm⟩, Option.some.injEq] at paid
  exact paid ▸ success

theorem ticketsFor_eq : db.ticketsFor eventId = db.tickets.rows.filter fun ticket =>
    ticket.reservationId ∈ (db.confirmed eventId).map Reservation.id := by
  apply List.filter_congr
  intro ticket stored
  rw [Bool.eq_iff_iff, List.any_eq_true, decide_eq_true_eq, mem_confirmed]
  simp only [decide_eq_true_eq]
  constructor
  · rintro ⟨r, member, named, event⟩
    exact ⟨r, member, named, event, confirmed_of_ticket coherent stored member named⟩
  · rintro ⟨r, member, named, event, -⟩
    exact ⟨r, member, named, event⟩

/-- What the rows of a confirmed reservation cost is what was charged for it. -/
theorem sum_rowsOf : ((db.rowsOf eventId .booked).map (·.price.value)).sum =
    ((db.confirmed eventId).map (·.totalAmount.value)).sum := by
  rw [rowsOf_booked coherent, sum_groups confirmed_nodup, List.map_map]
  refine congrArg List.sum (List.map_congr_left fun r member => ?_)
  obtain ⟨stored, here⟩ := List.mem_filter.mp member
  have found := booking_reservation_eq_some.mpr ⟨stored, rfl⟩
  exact ((coherent r.id).confirmed found (of_decide_eq_true here).2).1.total

theorem sum_successfulPayments : ((successfulPayments db eventId.text).map (·.amount.value)).sum =
    ((db.confirmed eventId).map (·.totalAmount.value)).sum := by
  rw [successfulPayments_eq coherent, sum_groups confirmed_nodup, List.map_map]
  refine congrArg List.sum (List.map_congr_left fun r member => ?_)
  obtain ⟨stored, here⟩ := List.mem_filter.mp member
  have found := booking_reservation_eq_some.mpr ⟨stored, rfl⟩
  obtain ⟨-, -, p, paid, -⟩ := (coherent r.id).confirmed found (of_decide_eq_true here).2
  -- a reservation has one payment at most
  have only : db.payments.rows.filter (·.reservationId = r.id) = [p] := by
    obtain ⟨member, of⟩ := booking_payment_eq_some.mp paid
    refine Table.filter_eq_singleton member (by simpa using of) ?_
    intro x y left right
    simp_all [clash]
  rw [Function.comp_apply, only, List.map_singleton, List.sum_singleton,
    ((coherent r.id).amount found paid).1]

theorem length_ticketsFor : (db.ticketsFor eventId).length = (db.rowsOf eventId .booked).length := by
  rw [ticketsFor_eq coherent, rowsOf_booked coherent, length_groups confirmed_nodup,
    length_groups confirmed_nodup, List.map_map, List.map_map]
  refine congrArg List.sum (List.map_congr_left fun r member => ?_)
  obtain ⟨stored, here⟩ := List.mem_filter.mp member
  have found := booking_reservation_eq_some.mpr ⟨stored, rfl⟩
  have each := ((coherent r.id).confirmed found (of_decide_eq_true here).2).2.1
  rw [← map_seatId_ticketsOf] at each
  change (db.ticketsOf r).length = (db.booking r.id).seats.length
  simpa using congrArg List.length each

end Sums

/-! ## Seats of the house -/

theorem mem_venueSeats {catalog : Catalog} {venueId : Text} {seat : Seat} :
    seat ∈ venueSeats catalog venueId ↔
      seat ∈ catalog.seats.rows ∧ catalog.Within venueId seat.sectorId := by
  simp only [venueSeats, List.mem_filter, List.mem_map, decide_eq_true_eq, Catalog.Within]
  constructor
  · rintro ⟨stored, sector, ⟨member, venue⟩, named⟩
    exact ⟨stored, sector, member, named, venue⟩
  · rintro ⟨stored, sector, member, named, venue⟩
    exact ⟨stored, sector, ⟨member, venue⟩, named⟩

theorem venueSeats_nodup {catalog : Catalog} {venueId : Text} :
    ((venueSeats catalog venueId).map fun seat => seat.id.text).Nodup := by
  rw [List.Nodup, List.pairwise_map]
  exact (catalog.seats.unique.sublist List.filter_sublist).imp fun apart same => by
    simp [clash, Uuid.text_inj.mp same] at apart

/-- All rows of an event, in whatever state they are. -/
def Db.rowsFor (db : Db) (eventId : Uuid) : List ReservationSeat :=
  db.reservationSeats.rows.filter (·.eventId = eventId)

theorem rowsFor_nodup : ((db.rowsFor eventId).map ReservationSeat.seatId).Nodup := by
  rw [List.Nodup, List.pairwise_map]
  apply (db.reservationSeats.unique.sublist List.filter_sublist).imp_of_mem
  intro x y left right apart same
  have left := of_decide_eq_true (List.mem_filter.mp left).2
  have right := of_decide_eq_true (List.mem_filter.mp right).2
  simp [clash, left, right, same] at apart

theorem length_rowsFor (coherent : ∀ id, (db.booking id).Coherent) :
    (db.rowsFor eventId).length =
      (db.rowsOf eventId .locked).length + (db.rowsOf eventId .booked).length := by
  have parts (state : SeatState) : db.rowsOf eventId state =
      (db.rowsFor eventId).filter (·.state = state) := by
    simp only [Db.rowsOf, Db.rowsFor, List.filter_filter, Bool.and_comm, Bool.decide_and]
  have kept : (db.rowsFor eventId).filter (·.state = .booked) =
      (db.rowsFor eventId).filter fun row => ¬row.state = .locked := by
    apply List.filter_congr
    intro row member
    obtain ⟨r, -, -, -, state⟩ := reservation_of_row coherent (List.mem_filter.mp member).1
    rw [state]
    split <;> rfl
  rw [parts, parts, kept, ← List.countP_eq_length_filter, ← List.countP_eq_length_filter]
  simpa using List.length_eq_countP_add_countP fun row : ReservationSeat =>
    decide (row.state = .locked)

/-- A seat is shown as available when no row is for it: no row says so itself. -/
theorem seatState_eq_available {states : List ReservationSeat} {seat : Seat}
    (occupied : ∀ row ∈ states, row.state ≠ .available) :
    seatState states seat = .available ↔ seat.id.text ∉ states.map ReservationSeat.seatId := by
  unfold seatState
  cases found : states.reverse.find? (·.seatId = seat.id.text) with
  | none =>
    simp only [Option.map_none, Option.getD_none, true_iff]
    intro member
    obtain ⟨row, stored, same⟩ := List.mem_map.mp member
    have missed := List.find?_eq_none.mp found row (List.mem_reverse.mpr stored)
    exact missed (by simpa using same)
  | some row =>
    have stored := List.mem_reverse.mp (List.mem_of_find?_eq_some found)
    have same : row.seatId = seat.id.text := by simpa using List.find?_some found
    simp only [Option.map_some, Option.getD_some]
    constructor
    · intro free
      exact absurd free (occupied row stored)
    · intro absent
      exact absurd (List.mem_map.mpr ⟨row, stored, same⟩) absent

/-! ## Runs with ids as the API returns them -/

structure Site.Spelled (s : Site) : Prop where
  world : World.Sound (asReturned · = true) s.world
  seats : ∀ id, (s.db.booking id).SeatsSpelled (asReturned · = true)

theorem Site.spelled_empty : Site.empty.Spelled where
  world := sound_initial
  seats _ := Booking.seatsSpelled_nothing

theorem Site.Spelled.next (spelled : s.Spelled) (allowed : a.AsReturned)
    (taken : Site.step cfg s a = some s') : s'.Spelled := by
  cases Site.step_cases taken
  case booking a world moves =>
    obtain ⟨sound, stepped⟩ := spelled.world.next (spelled_of_asReturned allowed) moves
    refine ⟨sound, fun id => ?_⟩
    rcases stepped.booking id with same | ⟨m, spelling, step⟩
    · exact same ▸ spelled.seats id
    · exact (spelled.seats id).step step spelling
  case request => exact ⟨spelled.world, spelled.seats⟩
  case turn => exact ⟨⟨spelled.world.sound, spelled.world.exclusive⟩, spelled.seats⟩
  case crash => exact ⟨spelled.world, spelled.seats⟩

section House
variable (sound : s.Sound) (spelled : s.Spelled) {event : Event}
  (listed : event ∈ s.db.catalog.events.rows)
include sound spelled listed

/-- Every row of an event is for a seat of its venue. -/
theorem rowsFor_subset : (s.db.rowsFor event.id).map ReservationSeat.seatId ⊆
    (venueSeats s.db.catalog event.venueId).map fun seat => seat.id.text := by
  intro seatId member
  obtain ⟨row, chosen, rfl⟩ := List.mem_map.mp member
  obtain ⟨stored, here⟩ := List.mem_filter.mp chosen
  obtain ⟨r, reserved, named, theirs, -⟩ := reservation_of_row sound.coherent stored
  have held : row ∈ (s.db.booking r.id).seats := mem_booking_seats.mpr ⟨stored, named.symm⟩
  obtain ⟨-, venueId, ⟨host, hosts, hosted, venue⟩, seated⟩ :=
    sound.placed.stored r.id r (booking_reservation_eq_some.mpr ⟨reserved, rfl⟩)
  have same : host = event := by
    refine Table.eq_of_clash hosts listed ?_
    simp [clash, hosted, ← theirs, of_decide_eq_true here]
  subst same venue
  obtain ⟨seat, known, read, within⟩ := seated row held
  refine List.mem_map.mpr ⟨seat, mem_venueSeats.mpr ⟨known, within⟩, ?_⟩
  exact (eq_text_of_asReturned (spelled.seats r.id row held) read).symm

theorem rowsFor_le_capacity : (s.db.rowsFor event.id).length ≤
    (venueSeats s.db.catalog event.venueId).length := by
  have bound := (List.subperm_of_subset rowsFor_nodup
    (rowsFor_subset sound spelled listed)).length_le
  simpa using bound

/-- Every seat of the venue is free or has a row. -/
theorem countP_available :
    ((venueSeats s.db.catalog event.venueId).countP fun seat =>
        seatState (s.db.rowsFor event.id) seat = .available) + (s.db.rowsFor event.id).length =
      (venueSeats s.db.catalog event.venueId).length := by
  have occupied : ∀ row ∈ s.db.rowsFor event.id, row.state ≠ .available := fun row member =>
    occupied_of_row sound.coherent (List.mem_filter.mp member).1
  have covered := length_filter_key venueSeats_nodup rowsFor_nodup
    (rowsFor_subset sound spelled listed)
  rw [List.length_map, ← List.countP_eq_length_filter] at covered
  simp only [seatState_eq_available occupied]
  rw [← covered, Nat.add_comm]
  simpa using (List.length_eq_countP_add_countP fun seat : Seat =>
    decide (seat.id.text ∈ (s.db.rowsFor event.id).map ReservationSeat.seatId)).symm

end House

/-! ## The two pages -/

/-- What an event's seats come down to, whoever looks at them and whenever. -/
structure Site.SeatsConserved (s : Site) (event : Event) : Prop where
  bookedSeats : ∀ user figures, analytics s.db user event.id.text = .ok figures →
    figures.bookedSeats = (s.db.ticketsFor event.id).length
  /-- The clamp of `remainingSeats` at zero never takes effect. -/
  remainingSeats : ∀ user figures, analytics s.db user event.id.text = .ok figures →
    figures.capacity = (venueSeats s.db.catalog event.venueId).length ∧
      figures.bookedSeats + figures.remainingSeats = figures.capacity ∧
      figures.remainingSeats = (figures.capacity : Int) - figures.bookedSeats
  availability : ∀ now page, detail s.venues s.db now event.id.text = .ok page →
    now < event.startsAt →
    page.availability + (s.db.rowsOf event.id .locked).length +
      (s.db.rowsOf event.id .booked).length = (venueSeats s.db.catalog event.venueId).length

/-- And its money too. The payments come without an order, and a sum of doubles depends
on theirs. -/
structure Site.Conserved (s : Site) (event : Event) : Prop extends s.SeatsConserved event where
  revenue : ∀ user figures, analytics s.db user event.id.text = .ok figures →
    figures.revenue = ((s.db.rowsOf event.id .booked).map (·.price.value)).sum ∧
      figures.revenue = ((s.db.confirmed event.id).map (·.totalAmount.value)).sum
  anyOrder : ∀ payments : List Payment, payments.Perm (successfulPayments s.db event.id.text) →
    Doubles.sum (payments.map (·.amount.value)) =
      ((s.db.confirmed event.id).map (·.totalAmount.value)).sum

/-- The pages load the event that was asked for. -/
theorem find?_listed {event found : Event} (listed : event ∈ db.catalog.events.rows)
    (read : uuid? event.id.text = some found.id) (stored : found ∈ db.catalog.events.rows) :
    found = event := by
  rw [uuid?_text, Option.some.injEq] at read
  exact Table.eq_of_clash stored listed (by simp [clash, read])

theorem analytics_eq_ok {event : Event} {user : AuthenticatedUser} {figures : Analytics}
    (listed : event ∈ db.catalog.events.rows)
    (reported : analytics db user event.id.text = .ok figures) :
    figures.revenue = Doubles.sum ((successfulPayments db event.id.text).map (·.amount.value)) ∧
      figures.bookedSeats = (db.rowsOf event.id .booked).length ∧
      figures.capacity = (venueSeats db.catalog event.venueId).length ∧
      figures.remainingSeats = max 0 ((figures.capacity : Int) - figures.bookedSeats) := by
  unfold analytics at reported
  split at reported <;> cases reported
  rename_i found owned
  obtain ⟨stored, read, -⟩ := ownedEvent_eq_ok.mp owned
  have same : found = event := find?_listed listed read stored
  subst same
  refine ⟨rfl, ?_, rfl, rfl⟩
  simp only [Db.rowsOf, Uuid.text_inj, List.countP_eq_length_filter]

/-- What the event page is made of. -/
theorem detail_page {venues : Table Venue} {path : Text} {now : Nat} {page : EventDetail}
    (shown : detail venues db now path = .ok page) :
    WaitingRoom.findPublished db page.event.id = some page.event ∧
      page.inventory = (venueSeats db.catalog page.event.venueId).map
        (inventorySeat (db.reservationSeats.rows.filter (·.eventId.text = path))
          (db.catalog.prices.rows.filter (·.eventId = path))) ∧
      (now < page.event.startsAt →
        page.availability = page.inventory.countP (·.state = .available)) ∧
      uuid? path = some page.event.id := by
  unfold detail at shown
  split at shown
  · cases shown
  rename_i id read
  split at shown
  · cases shown
  rename_i event found
  split at shown <;> cases shown
  have matched := List.find?_some found
  rw [decide_eq_true_eq] at matched
  obtain ⟨rfl, -⟩ := matched
  exact ⟨found, rfl, fun early => if_pos (decide_eq_true early), read⟩

theorem detail_eq_ok {venues : Table Venue} {event : Event} {now : Nat} {page : EventDetail}
    (listed : event ∈ db.catalog.events.rows) (early : now < event.startsAt)
    (shown : detail venues db now event.id.text = .ok page) :
    page.availability = (venueSeats db.catalog event.venueId).countP fun seat =>
      seatState (db.rowsFor event.id) seat = .available := by
  obtain ⟨found, inventory, availability, read⟩ := detail_page shown
  have same := find?_listed listed read (List.mem_of_find?_eq_some found)
  rw [same] at inventory availability
  rw [availability early, inventory, List.countP_map]
  simp only [Uuid.text_inj]
  rfl

theorem Site.Sound.seats_conserved (sound : s.Sound) (spelled : s.Spelled) {event : Event}
    (listed : event ∈ s.db.catalog.events.rows) : s.SeatsConserved event := by
  have bound := rowsFor_le_capacity sound spelled listed
  have rows : (s.db.rowsFor event.id).length = _ := length_rowsFor sound.coherent
  refine ⟨?_, ?_, ?_⟩
  · intro user figures reported
    rw [(analytics_eq_ok listed reported).2.1, length_ticketsFor sound.coherent]
  · intro user figures reported
    obtain ⟨-, booked, capacity, remaining⟩ := analytics_eq_ok listed reported
    refine ⟨capacity, ?_, ?_⟩ <;> omega
  · intro now page shown early
    have free := countP_available sound spelled listed
    rw [detail_eq_ok listed early shown]
    omega

/-- Where the money of the event adds up to a number that a double holds, so do its figures. -/
theorem Site.Sound.conserved (sound : s.Sound) (spelled : s.Spelled) {event : Event}
    (listed : event ∈ s.db.catalog.events.rows)
    (small : ((s.db.confirmed event.id).map (·.totalAmount.value)).sum ≤ Doubles.maxSafe) :
    s.Conserved event := by
  have charged : ((successfulPayments s.db event.id.text).map (·.amount.value)).sum = _ :=
    sum_successfulPayments sound.coherent
  have exact {payments : List Payment}
      (perm : payments.Perm (successfulPayments s.db event.id.text)) :
      Doubles.sum (payments.map (·.amount.value)) =
        ((s.db.confirmed event.id).map (·.totalAmount.value)).sum := by
    rw [← charged, ← (perm.map _).sum_nat] at small
    rw [(Doubles.sum_safe_iff.mpr small).2, (perm.map _).sum_nat, charged]
  refine ⟨sound.seats_conserved spelled listed, ?_, fun _ => exact⟩
  intro user figures reported
  rw [(analytics_eq_ok listed reported).1, exact (.refl _), sum_rowsOf sound.coherent]
  exact ⟨rfl, rfl⟩

end KiTicket
