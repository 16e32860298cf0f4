import KiTicket.Booking
import KiTicket.Lib.Lists
import KiTicket.Payments
import KiTicket.Tickets

/-! The bookings a database holds, one under every id, and what each write of a
handler does to them: which one it changes, and that it leaves all others as
they were. -/
namespace KiTicket
open Reservations Payments Tickets KiTicket.Lists

/-- Everything stored under a reservation id. -/
def Db.booking (db : Db) (id : Uuid) : Booking where
  reservation := db.reservations.rows.find? (·.id = id)
  seats := db.reservationSeats.rows.filter (·.reservationId = id)
  payment := db.payments.rows.find? (·.reservationId = id)
  tickets := (db.tickets.rows.filter (·.reservationId = id)).map Ticket.issued

variable {db : Db} {id other : Uuid}

theorem findReservation_eq : findReservation db id = (db.booking id).reservation := rfl

theorem booking_reservation_eq_some {r : Reservation} :
    (db.booking id).reservation = some r ↔ r ∈ db.reservations.rows ∧ r.id = id := by
  constructor
  · intro found
    exact ⟨List.mem_of_find?_eq_some found, by simpa using List.find?_some found⟩
  · rintro ⟨member, rfl⟩
    apply Table.find?_eq_some_of_mem member (by simp)
    intro a b ha hb
    simp_all [clash]

theorem mem_booking_seats {row : ReservationSeat} :
    row ∈ (db.booking id).seats ↔ row ∈ db.reservationSeats.rows ∧ row.reservationId = id := by
  simp [Db.booking]

theorem booking_payment_eq_some {p : Payment} :
    (db.booking id).payment = some p ↔ p ∈ db.payments.rows ∧ p.reservationId = id := by
  constructor
  · intro found
    exact ⟨List.mem_of_find?_eq_some found, by simpa using List.find?_some found⟩
  · rintro ⟨member, rfl⟩
    apply Table.find?_eq_some_of_mem member (by simp)
    intro a b ha hb
    simp_all [clash]

theorem mem_booking_tickets {ticket : Ticket} : ticket ∈ (db.booking id).tickets ↔
    ∃ row ∈ db.tickets.rows, row.reservationId = id ∧ row.issued = ticket := by
  simp [Db.booking, and_assoc]

/-! ## What the writes do -/

theorem booking_setState {state : ReservationState} :
    (setState db id state).booking other =
      if other = id then
        { db.booking other with
          reservation := (db.booking other).reservation.map fun r => { r with state } }
      else db.booking other := by
  have keeps : ((fun r : Reservation => decide (r.id = other)) ∘
      fun row => if row.id = id then { row with state } else row) =
      fun r => decide (r.id = other) := by
    funext r
    simp only [Function.comp_apply]
    split <;> rfl
  have found : (setState db id state).booking other =
      { db.booking other with
        reservation := (db.booking other).reservation.map fun r =>
          if r.id = id then { r with state } else r } := by
    simp only [Db.booking, setState, Table.rows_update, List.find?_map, keeps]
  rw [found]
  split
  · rename_i same
    ext1
    · apply Option.map_congr
      intro r member
      rw [if_pos ((booking_reservation_eq_some.mp member).2.trans same)]
    all_goals rfl
  · rename_i different
    ext1
    · cases at' : (db.booking other).reservation with
      | none => rfl
      | some r =>
        have named := (booking_reservation_eq_some.mp at').2
        simp [named, different]
    all_goals rfl

/-- Removing the rows of a reservation by their ids removes just these rows. -/
theorem rows_removeSeats :
    (removeSeats db (db.booking id).seats).reservationSeats.rows =
      db.reservationSeats.rows.filter (·.reservationId ≠ id) := by
  simp only [removeSeats, Table.rows_delete]
  apply List.filter_congr
  intro row member
  have byId : (db.booking id).seats.any (·.id = row.id) = decide (row.reservationId = id) := by
    rw [Bool.eq_iff_iff, List.any_eq_true, decide_eq_true_eq]
    constructor
    · rintro ⟨seat, chosen, same⟩
      obtain ⟨stored, of⟩ := mem_booking_seats.mp chosen
      rw [← Table.eq_of_clash stored member (by simp [clash, of_decide_eq_true same]), of]
    · intro of
      exact ⟨row, mem_booking_seats.mpr ⟨member, of⟩, by simp⟩
  rw [byId, decide_not]

theorem booking_removeSeats :
    (removeSeats db (db.booking id).seats).booking other =
      if other = id then { db.booking other with seats := [] } else db.booking other := by
  have rows : ((removeSeats db (db.booking id).seats).booking other).seats =
      if other = id then [] else (db.booking other).seats := by
    rw [Db.booking, rows_removeSeats, List.filter_filter]
    split
    · rename_i same
      subst same
      simp
    · rename_i different
      apply List.filter_congr
      intro row _
      by_cases mine : row.reservationId = other <;> simp [mine, different]
  ext1
  case seats =>
    rw [rows]
    split <;> rfl
  all_goals split <;> rfl

theorem booking_removeSeats_nil : removeSeats db [] = db := by
  simp [removeSeats, Table.delete]

/-- A reservation ends and its rows go. -/
theorem booking_end {state : ReservationState} :
    (removeSeats (setState db id state) (db.booking id).seats).booking other =
      if other = id then
        { db.booking other with
          reservation := (db.booking other).reservation.map fun r => { r with state }
          seats := [] }
      else db.booking other := by
  have removed : (removeSeats (setState db id state) (db.booking id).seats).booking other =
      if other = id then { (setState db id state).booking other with seats := [] }
      else (setState db id state).booking other :=
    @booking_removeSeats (setState db id state) id other
  rw [removed, booking_setState]
  split <;> rfl

/-- A cancel removes the rows it finds under the path, which are those of the
reservation or none. -/
theorem booking_cancel {path : Text} :
    (removeSeats (setState db id .cancelled)
      (if path = id.text then (db.booking id).seats else [])).booking other =
      if other = id then
        { db.booking other with
          reservation := (db.booking other).reservation.map fun r => { r with state := .cancelled }
          seats := if path = id.text then [] else (db.booking other).seats }
      else db.booking other := by
  by_cases canonical : path = id.text
  · simp only [if_pos canonical, booking_end]
  · simp only [if_neg canonical, booking_removeSeats_nil, booking_setState]

/-- Saving a payment writes the three columns that completion sets. -/
theorem booking_savePayment {p old : Payment} (stored : (db.booking id).payment = some old)
    (same : old.id = p.id) :
    (savePayment db p).booking other =
      if other = id then
        { db.booking other with
          payment := some { old with
            state := p.state
            reference := p.reference
            failureReason := p.failureReason } }
      else db.booking other := by
  have keeps : ((fun row : Payment => decide (row.reservationId = other)) ∘
      fun row => if row.id = p.id then
        { row with state := p.state, reference := p.reference, failureReason := p.failureReason }
      else row) = fun row => decide (row.reservationId = other) := by
    funext row
    simp only [Function.comp_apply]
    split <;> rfl
  have found : (savePayment db p).booking other =
      { db.booking other with
        payment := (db.booking other).payment.map fun row =>
          if row.id = p.id then
            { row with state := p.state, reference := p.reference, failureReason := p.failureReason }
          else row } := by
    simp only [Db.booking, savePayment, Table.rows_update, List.find?_map, keeps]
  rw [found]
  split
  · rename_i named
    subst named
    simp [stored, same]
  · rename_i different
    ext1
    case payment =>
      cases at' : (db.booking other).payment with
      | none => rfl
      | some row =>
        obtain ⟨member, theirs⟩ := booking_payment_eq_some.mp at'
        obtain ⟨mine, named⟩ := booking_payment_eq_some.mp stored
        have distinct : row.id ≠ p.id := by
          intro clashes
          have equal := Table.eq_of_clash member mine (by simp [clash, clashes, same])
          exact different (theirs.symm.trans (equal ▸ named))
        simp [distinct]
    all_goals rfl

private theorem insert?_nil {α : Type} [UniqueKeys α] {table : Table α} :
    table.insert? [] = some table :=
  Table.insert?_eq_some.mpr (by simp)

/-- Saving a reservation's rows as booked finds them all and touches no others. -/
theorem seats_saveBooked {table : Table ReservationSeat}
    (stored : saveBooked (db.booking id).seats db.reservationSeats = some table) :
    table.rows.filter (·.reservationId = other) =
      if other = id then (db.booking other).seats.map ReservationSeat.booked
      else (db.booking other).seats := by
  have present : (db.booking id).seats.filter
      (fun seat => db.reservationSeats.rows.all (·.id ≠ seat.id)) = [] := by
    apply List.filter_eq_nil_iff.mpr
    intro seat member
    simp only [List.all_eq_true, decide_eq_true_eq, not_forall]
    exact ⟨seat, (mem_booking_seats.mp member).1, not_not.mpr rfl⟩
  unfold saveBooked at stored
  rw [present, List.map_nil, insert?_nil, Option.some.injEq] at stored
  subst stored
  have keeps : ((fun row : ReservationSeat => decide (row.reservationId = other)) ∘
      fun row => if (db.booking id).seats.any (·.id = row.id) then { row with state := .booked }
        else row) = fun row => decide (row.reservationId = other) := by
    funext row
    simp only [Function.comp_apply]
    split <;> rfl
  rw [Table.rows_update, List.filter_map, keeps]
  have byId : ∀ row ∈ (db.booking other).seats,
      (db.booking id).seats.any (·.id = row.id) = decide (other = id) := by
    intro row member
    obtain ⟨theirs, named⟩ := mem_booking_seats.mp member
    rw [Bool.eq_iff_iff]
    simp only [List.any_eq_true, decide_eq_true_eq]
    constructor
    · rintro ⟨seat, chosen, same⟩
      obtain ⟨mine, of⟩ := mem_booking_seats.mp chosen
      rw [← named, ← of, Table.eq_of_clash mine theirs (by simp [clash, same])]
    · rintro rfl
      exact ⟨row, member, rfl⟩
  split
  · rename_i same
    apply List.map_congr_left
    intro row member
    simp [byId row member, same, ReservationSeat.booked]
  · rename_i different
    conv_rhs => rw [← List.map_id (db.booking other).seats]
    apply List.map_congr_left
    intro row member
    simp [byId row member, different]

/-- Check-in is not part of a booking. -/
theorem booking_saveCheckedIn {ticket : Ticket} :
    (saveCheckedIn db ticket).booking other = db.booking other := by
  ext1
  case tickets =>
    simp only [Db.booking, saveCheckedIn, Table.rows_update, List.filter_map, List.map_map]
    have keeps : ((fun row : Ticket => decide (row.reservationId = other)) ∘
        fun row => if row.id = ticket.id then { row with checkedInAt := ticket.checkedInAt } else row) =
        fun row => decide (row.reservationId = other) := by
      funext row
      simp only [Function.comp_apply]
      split <;> rfl
    rw [keeps]
    apply List.map_congr_left
    intro row _
    simp only [Function.comp_apply]
    split <;> rfl
  all_goals rfl

/-! ## What the transactions do -/

theorem seatIds_of_rows {draft : Draft} {ids : List Uuid}
    (lengths : ids.length = draft.seatIds.length) :
    (List.zipWith draft.seat ids draft.seatIds).map ReservationSeat.seatId = draft.seatIds := by
  rw [map_zipWith_right (f := draft.seat) (h := id) (fun _ _ => rfl) lengths.ge, List.map_id]

/-- The rows `create` inserts cost what the reservation is charged. -/
theorem draft_total {draft : Draft} {ids : List Uuid} (lengths : ids.length = draft.seatIds.length) :
    ((List.zipWith draft.seat ids draft.seatIds).map (·.price.value)).sum = draft.totalAmount := by
  have prices : (List.zipWith draft.seat ids draft.seatIds).map (·.price.value) =
      draft.seatIds.map fun seatId => (draft.price seatId).value :=
    map_zipWith_right (f := draft.seat) (fun _ _ => rfl) lengths.ge
  rw [prices, Draft.totalAmount]

/-- The rows `create` inserts are what the reservation is charged for. -/
theorem draft_holds {cfg : Config} {draft : Draft} {now : Nat} {ids : List Uuid} {total : Amount}
    (stored : Amount.ofNat? draft.totalAmount = some total)
    (lengths : ids.length = draft.seatIds.length) (chosen : draft.seatIds ≠ []) :
    Booking.Holds (draft.reservation cfg now total) .locked
      (List.zipWith draft.seat ids draft.seatIds) where
  chosen := by
    intro empty
    have count := congrArg List.length empty
    simp only [List.length_zipWith, lengths, Nat.min_self, List.length_nil] at count
    exact chosen (List.length_eq_zero_iff.mp count)
  uniform := by
    intro row member
    obtain ⟨_, -, _, -, rfl⟩ := exists_of_mem_zipWith member
    rfl
  event := by
    intro row member
    obtain ⟨_, -, _, -, rfl⟩ := exists_of_mem_zipWith member
    rfl
  total := (draft_total lengths).trans (Amount.value_of_ofNat? stored).symm

/-- A reservation inserted with its rows makes a booking under an id that had
no reservation. -/
theorem booking_insert {r : Reservation} {rows : List ReservationSeat}
    {reservations : Table Reservation} {reservationSeats : Table ReservationSeat}
    (new : db.reservations.insert? [r] = some reservations)
    (held : db.reservationSeats.insert? rows = some reservationSeats)
    (mine : ∀ row ∈ rows, row.reservationId = r.id) :
    (db.booking r.id).reservation = none ∧
    ({ db with reservations, reservationSeats } : Db).booking other =
      if other = r.id then
        { db.booking other with
          reservation := some r
          seats := (db.booking other).seats ++ rows }
      else db.booking other := by
  have absent : (db.booking r.id).reservation = none := by
    rw [Option.eq_none_iff_forall_ne_some]
    intro old found
    obtain ⟨member, named⟩ := booking_reservation_eq_some.mp found
    have apart := Table.clash_false_of_insert? new member List.mem_cons_self
    simp [clash, named] at apart
  refine ⟨absent, ?_⟩
  rw [Table.insert?_eq_some] at new held
  simp only [Db.booking, new, held, List.find?_append, List.filter_append]
  split
  · rename_i same
    subst same
    have kept : rows.filter (·.reservationId = r.id) = rows :=
      List.filter_eq_self.mpr fun row member => decide_eq_true (mine row member)
    have missing : db.reservations.rows.find? (·.id = r.id) = none := absent
    simp [kept, missing]
  · rename_i different
    have dropped : rows.filter (·.reservationId = other) = [] := by
      apply List.filter_eq_nil_iff.mpr
      intro row member
      simpa [mine row member] using Ne.symm different
    simp [dropped, Ne.symm different]

/-- What `create` commits: the reservation and its rows, under the id it drew. -/
theorem draft_insert {cfg : Config} {c : Choice} {draft : Draft} {db' : Db} {r : Reservation}
    (inserted : draft.insert cfg c db = .ok (db', r)) :
    ∃ total, Amount.ofNat? draft.totalAmount = some total ∧ r = draft.reservation cfg c.now total ∧
      (db.booking draft.id).reservation = none ∧
      db'.reservationSeats.rows =
        db.reservationSeats.rows ++ List.zipWith draft.seat c.ids draft.seatIds ∧
      ∀ other, db'.booking other =
        if other = draft.id then
          { db.booking other with
            reservation := some r
            seats := (db.booking other).seats ++ List.zipWith draft.seat c.ids draft.seatIds }
        else db.booking other := by
  unfold Draft.insert at inserted
  split at inserted
  · cases inserted
  · rename_i total stored
    dsimp only at inserted
    split at inserted
    · rename_i reservations reservationSeats new held
      cases inserted
      have mine : ∀ row ∈ List.zipWith draft.seat c.ids draft.seatIds,
          row.reservationId = draft.id := by
        intro row member
        obtain ⟨_, -, _, -, rfl⟩ := exists_of_mem_zipWith member
        rfl
      have inserted := fun other => @booking_insert db other _ _ _ _ new held mine
      exact ⟨total, stored, rfl, (inserted draft.id).1, Table.insert?_eq_some.mp held,
        fun other => (inserted other).2⟩
    · cases inserted

/-- An inserted payment belongs to a reservation that had none. -/
theorem booking_insertPayment {p : Payment} {payments : Table Payment}
    (new : db.payments.insert? [p] = some payments) :
    (db.booking p.reservationId).payment = none ∧
    ({ db with payments } : Db).booking other =
      if other = p.reservationId then { db.booking other with payment := some p }
      else db.booking other := by
  have absent : (db.booking p.reservationId).payment = none := by
    rw [Option.eq_none_iff_forall_ne_some]
    intro old found
    obtain ⟨member, named⟩ := booking_payment_eq_some.mp found
    have apart := Table.clash_false_of_insert? new member List.mem_cons_self
    simp [clash, named] at apart
  refine ⟨absent, ?_⟩
  rw [Table.insert?_eq_some] at new
  simp only [Db.booking, new, List.find?_append]
  split
  · rename_i same
    subst same
    have missing : db.payments.rows.find? (·.reservationId = p.reservationId) = none := absent
    simp [missing]
  · rename_i different
    simp [Ne.symm different]

/-- The success branch, on what it read under its row locks. -/
theorem booking_confirm {cfg : Config} {db' : Db} {ids : List Uuid} {tokens : List Text}
    {p old : Payment} {r : Reservation} {result : PaymentResult}
    (confirmed : confirm cfg db ids tokens p r (db.booking r.id).seats = .ok (db', result))
    (paid : (db.booking r.id).payment = some old) (same : old.id = p.id)
    (idCount : ids.length = (db.booking r.id).seats.length)
    (tokenCount : tokens.length = (db.booking r.id).seats.length) :
    ∃ new : List Ticket, new.map Ticket.seatId = (db.booking r.id).seats.map ReservationSeat.seatId ∧
      (∀ ticket ∈ new, ticket.reservationId = r.id) ∧
      db'.tickets.rows = db.tickets.rows ++ new ∧
      result = ⟨p, r, new, (db.booking r.id).seats.map ReservationSeat.seatId⟩ ∧
      ∀ other, db'.booking other =
        if other = r.id then
          ⟨(db.booking other).reservation.map fun row => { row with state := r.state },
            (db.booking other).seats.map ReservationSeat.booked,
            some { old with
              state := p.state
              reference := p.reference
              failureReason := p.failureReason },
            (db.booking other).tickets ++ new.map Ticket.issued⟩
        else db.booking other := by
  unfold confirm at confirmed
  dsimp only at confirmed
  split at confirmed
  · rename_i table tickets booked issued
    cases confirmed
    have mine : ∀ ticket ∈ newTickets cfg r (db.booking r.id).seats ids tokens,
        ticket.reservationId = r.id := by
      intro ticket member
      obtain ⟨_, -, _, -, rfl⟩ := exists_of_mem_zipWith member
      rfl
    refine ⟨_, ?_, mine, Table.insert?_eq_some.mp issued, rfl, fun other => ?_⟩
    · rw [newTickets, List.zipWith_comm]
      refine map_zipWith_right
        (f := fun (drawn : Uuid × Text) seat => newTicket cfg r seat drawn.1 drawn.2) (fun _ _ => rfl) ?_
      rw [List.length_zip, idCount, tokenCount, Nat.min_self]
    · rw [Table.insert?_eq_some] at issued
      have saved (other : Uuid) : ({ db with reservationSeats := table, tickets } : Db).booking other =
          if other = r.id then
            { db.booking other with
              seats := (db.booking other).seats.map ReservationSeat.booked
              tickets := (db.booking other).tickets ++
                (newTickets cfg r (db.booking r.id).seats ids tokens).map Ticket.issued }
          else db.booking other := by
        have seats := @seats_saveBooked _ _ other _ booked
        have given : (tickets.rows.filter (·.reservationId = other)).map Ticket.issued =
            (db.booking other).tickets ++
              if other = r.id then
                (newTickets cfg r (db.booking r.id).seats ids tokens).map Ticket.issued
              else [] := by
          rw [issued, List.filter_append, List.map_append]
          congr 1
          split
          · rename_i named
            rw [List.filter_eq_self.mpr]
            exact fun ticket member => decide_eq_true ((mine ticket member).trans named.symm)
          · rename_i different
            rw [List.filter_eq_nil_iff.mpr, List.map_nil]
            intro ticket member
            simpa [mine ticket member] using Ne.symm different
        ext1
        case seats => rw [Db.booking, seats]; split <;> rfl
        case tickets => rw [Db.booking, given]; split <;> simp
        all_goals split <;> rfl
      have stored : ((setState { db with reservationSeats := table, tickets } r.id
          r.state).booking r.id).payment = some old := by
        rw [booking_setState, if_pos rfl]
        exact paid
      rw [booking_savePayment stored same, booking_setState, saved]
      split <;> rfl
  · cases confirmed

/-- The other branch. -/
theorem booking_compensate {p old : Payment} {r : Reservation}
    (paid : (db.booking r.id).payment = some old) (same : old.id = p.id) :
    (compensate db p r (db.booking r.id).seats).1.booking other =
      if other = r.id then
        ⟨(db.booking other).reservation.map fun row => { row with state := r.state }, [],
          some { old with
            state := p.state
            reference := p.reference
            failureReason := p.failureReason },
          (db.booking other).tickets⟩
      else db.booking other := by
  have stored : ((setState (removeSeats db (db.booking r.id).seats) r.id r.state).booking r.id).payment =
      some old := by
    rw [booking_setState, if_pos rfl, booking_removeSeats, if_pos rfl]
    exact paid
  unfold compensate
  rw [booking_savePayment stored same, booking_setState, booking_removeSeats]
  split <;> rfl

end KiTicket
