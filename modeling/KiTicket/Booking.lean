import KiTicket.Entities
import KiTicket.PaymentPolicy

/-! What booking is about, away from tables and requests: one reservation with
its seats, its payment and its tickets, and the five things that can happen to
it. The moves keep the four in agreement with one another and with the state of
the reservation, and none leads out of an end; which call makes which move, and
that no call does anything else, is the refinement proved over the database. -/
namespace KiTicket

/-- A ticket as it was issued, check-in aside. -/
def Ticket.issued (ticket : Ticket) : Ticket := { ticket with checkedInAt := none }

def ReservationSeat.booked (row : ReservationSeat) : ReservationSeat := { row with state := .booked }

/-- Everything stored under one reservation id. -/
@[ext] structure Booking where
  reservation : Option Reservation
  seats : List ReservationSeat
  payment : Option Payment
  tickets : List Ticket

inductive Move where
  /-- With the seat ids as the customer spelled them. -/
  | create (seatIds : List Text)
  /-- Under the id as the caller spelled it. -/
  | cancel (path : Text)
  | expire
  | start
  | complete (requested : PaymentOutcome) (expired : Bool)

/-- The ids a caller spelled that decide what a move does. -/
def Move.spellings : Move → List Text
  | .create seatIds => seatIds
  | .cancel path => [path]
  | .expire | .start | .complete _ _ => []

namespace Booking

def nothing : Booking := ⟨none, [], none, []⟩

/-- Rows in one state that make up what the reservation was charged for. -/
structure Holds (r : Reservation) (state : SeatState) (seats : List ReservationSeat) : Prop where
  chosen : seats ≠ []
  uniform : ∀ row ∈ seats, row.state = state
  event : ∀ row ∈ seats, row.eventId = r.eventId
  total : (seats.map (·.price.value)).sum = r.totalAmount.value

/-- The moves. `cancel` and `expire` are guarded by the reservation being
PENDING and `start` by there being no payment; `complete` only by the payment
being PENDING, and by there being seats when it succeeds. -/
inductive Step : Move → Booking → Booking → Prop where
  | create {r : Reservation} (pending : r.state = .pending) (holds : Holds r .locked rows)
      (spelled : ∀ row ∈ rows, row.seatId ∈ seatIds) :
      Step (.create seatIds) ⟨none, before, paid, issued⟩ ⟨some r, before ++ rows, paid, issued⟩
  | cancel {r : Reservation} (pending : r.state = .pending) (named : uuid? path = some r.id) :
      Step (.cancel path) ⟨some r, rows, paid, issued⟩
        ⟨some { r with state := .cancelled }, if path = r.id.text then [] else rows, paid, issued⟩
  | expire {r : Reservation} (pending : r.state = .pending) :
      Step .expire ⟨some r, rows, paid, issued⟩ ⟨some { r with state := .expired }, [], paid, issued⟩
  | start {r : Reservation} {p : Payment} (opened : p.state = .pending)
      (amount : p.amount = r.totalAmount) (currency : p.currency = r.currency) :
      Step .start ⟨some r, rows, none, issued⟩ ⟨some r, rows, some p, issued⟩
  | confirm {r : Reservation} {p : Payment} {new : List Ticket} (opened : p.state = .pending)
      (chosen : rows ≠ [])
      (granted : (determinePaymentTransition requested expired).outcome = .success)
      (each : new.map Ticket.seatId = rows.map ReservationSeat.seatId) :
      Step (.complete requested expired) ⟨some r, rows, some p, issued⟩
        ⟨some { r with state := (determinePaymentTransition requested expired).reservationState },
          rows.map ReservationSeat.booked,
          some { p with
            state := (determinePaymentTransition requested expired).paymentState
            reference := reference },
          issued ++ new⟩
  | compensate {r : Reservation} {p : Payment} (opened : p.state = .pending)
      (refused : (determinePaymentTransition requested expired).outcome ≠ .success) :
      Step (.complete requested expired) ⟨some r, rows, some p, issued⟩
        ⟨some { r with state := (determinePaymentTransition requested expired).reservationState }, [],
          some { p with
            state := (determinePaymentTransition requested expired).paymentState
            failureReason := (determinePaymentTransition requested expired).failureReason },
          issued⟩

variable {m : Move} {b b' : Booking} {r : Reservation} {p : Payment}

/-! The moves once more, of a booking that is known by its fields. -/

theorem Step.of_create {rows : List ReservationSeat} (absent : b.reservation = none)
    (pending : r.state = .pending) (holds : Holds r .locked rows)
    (spelled : ∀ row ∈ rows, row.seatId ∈ seatIds) :
    Step (.create seatIds) b { b with reservation := some r, seats := b.seats ++ rows } := by
  cases b
  cases absent
  exact .create pending holds spelled

theorem Step.of_cancel (of : b.reservation = some r) (pending : r.state = .pending)
    (named : uuid? path = some r.id) :
    Step (.cancel path) b { b with
      reservation := some { r with state := .cancelled }
      seats := if path = r.id.text then [] else b.seats } := by
  cases b
  cases of
  exact .cancel pending named

theorem Step.of_expire (of : b.reservation = some r) (pending : r.state = .pending) :
    Step .expire b { b with reservation := some { r with state := .expired }, seats := [] } := by
  cases b
  cases of
  exact .expire pending

theorem Step.of_start (of : b.reservation = some r) (unpaid : b.payment = none)
    (opened : p.state = .pending) (amount : p.amount = r.totalAmount)
    (currency : p.currency = r.currency) : Step .start b { b with payment := some p } := by
  cases b
  cases of
  cases unpaid
  exact .start opened amount currency

theorem Step.of_confirm {new : List Ticket} (of : b.reservation = some r)
    (paid : b.payment = some p) (opened : p.state = .pending) (chosen : b.seats ≠ [])
    (granted : (determinePaymentTransition requested expired).outcome = .success)
    (each : new.map Ticket.seatId = b.seats.map ReservationSeat.seatId) :
    Step (.complete requested expired) b
      ⟨some { r with state := (determinePaymentTransition requested expired).reservationState },
        b.seats.map ReservationSeat.booked,
        some { p with
          state := (determinePaymentTransition requested expired).paymentState
          reference := reference },
        b.tickets ++ new⟩ := by
  cases b
  cases of
  cases paid
  exact .confirm opened chosen granted each

theorem Step.of_compensate (of : b.reservation = some r) (paid : b.payment = some p)
    (opened : p.state = .pending)
    (refused : (determinePaymentTransition requested expired).outcome ≠ .success) :
    Step (.complete requested expired) b
      ⟨some { r with state := (determinePaymentTransition requested expired).reservationState }, [],
        some { p with
          state := (determinePaymentTransition requested expired).paymentState
          failureReason := (determinePaymentTransition requested expired).failureReason },
        b.tickets⟩ := by
  cases b
  cases of
  cases paid
  exact .compensate opened refused

/-! ## What no move changes -/

theorem Step.reservation_of_some (step : Step m b b') (before : b.reservation = some r) :
    ∃ state, b'.reservation = some { r with state } := by
  cases step <;> cases before
  all_goals exact ⟨_, rfl⟩

/-- Once a reservation is there it gets no new rows, and the ones it has keep their seats. -/
theorem Step.seats_of_some (step : Step m b b') (before : b.reservation = some r) :
    ∀ row ∈ b'.seats, ∃ old ∈ b.seats, old.seatId = row.seatId := by
  intro row member
  cases step <;> cases before
  case cancel =>
    dsimp only at member
    split at member
    · cases member
    · exact ⟨row, member, rfl⟩
  case expire => cases member
  case start => exact ⟨row, member, rfl⟩
  case confirm =>
    obtain ⟨old, stored, rfl⟩ := List.mem_map.mp member
    exact ⟨old, stored, rfl⟩
  case compensate => cases member

/-- A payment that is there stays there, under its key. -/
theorem Step.payment_of_some (step : Step m b b') (before : b.payment = some p) :
    ∃ p', b'.payment = some p' ∧ p'.id = p.id ∧ p'.idempotencyKey = p.idempotencyKey := by
  cases step
  case start => cases before
  case confirm =>
    cases before
    exact ⟨_, rfl, rfl, rfl⟩
  case compensate =>
    cases before
    exact ⟨_, rfl, rfl, rfl⟩
  all_goals exact ⟨p, before, rfl, rfl⟩

/-- A cancel and a sweep leave the payment as it is. -/
theorem Step.payment_of_end (step : Step m b b') (ends : (∃ path, m = .cancel path) ∨ m = .expire) :
    b'.payment = b.payment := by
  cases step
  case start => rcases ends with ⟨_, ends⟩ | ends <;> cases ends
  case confirm => rcases ends with ⟨_, ends⟩ | ends <;> cases ends
  case compensate => rcases ends with ⟨_, ends⟩ | ends <;> cases ends
  all_goals rfl

/-- A completion ends the payment. -/
theorem Step.payment_ended (step : Step (.complete requested expired) b b') :
    ∃ p, b'.payment = some p ∧ p.state ≠ .pending := by
  cases step
  all_goals exact ⟨_, rfl, (transition_spec requested expired).1⟩

/-- Tickets are only ever added. -/
theorem Step.tickets_prefix (step : Step m b b') : b.tickets <+: b'.tickets := by
  cases step
  case confirm => exact List.prefix_append _ _
  all_goals exact List.prefix_rfl

/-! ## Coherence -/

/-- What ties a reservation to its seats, its payment and its tickets, whatever
the spelling of the ids in the requests that made it so. -/
def Coherent (b : Booking) : Prop :=
  match b.reservation with
  | none => b.seats = [] ∧ b.payment = none ∧ b.tickets = []
  | some r =>
    (∀ p, b.payment = some p → p.amount = r.totalAmount ∧ p.currency = r.currency) ∧
    match r.state with
    | .pending =>
      Holds r .locked b.seats ∧ b.tickets = [] ∧ ∀ p, b.payment = some p → p.state = .pending
    | .confirmed =>
      Holds r .booked b.seats ∧
        b.tickets.map Ticket.seatId = b.seats.map ReservationSeat.seatId ∧
        ∃ p, b.payment = some p ∧ p.state = .success
    | .cancelled | .expired =>
      (b.seats = [] ∨ Holds r .locked b.seats) ∧ b.tickets = [] ∧
        ∀ p, b.payment = some p → p.state ≠ .success

theorem coherent_nothing : nothing.Coherent := ⟨rfl, rfl, rfl⟩

theorem Coherent.of_none (coherent : b.Coherent) (of : b.reservation = none) : b = nothing := by
  unfold Coherent at coherent
  rw [of] at coherent
  exact Booking.ext of coherent.1 coherent.2.1 coherent.2.2

theorem Coherent.amount (coherent : b.Coherent) (of : b.reservation = some r)
    (paid : b.payment = some p) : p.amount = r.totalAmount ∧ p.currency = r.currency := by
  unfold Coherent at coherent
  rw [of] at coherent
  exact coherent.1 p paid

theorem Coherent.pending (coherent : b.Coherent) (of : b.reservation = some r)
    (state : r.state = .pending) :
    Holds r .locked b.seats ∧ b.tickets = [] ∧ ∀ p, b.payment = some p → p.state = .pending := by
  unfold Coherent at coherent
  simp only [of, state] at coherent
  exact coherent.2

theorem Coherent.confirmed (coherent : b.Coherent) (of : b.reservation = some r)
    (state : r.state = .confirmed) :
    Holds r .booked b.seats ∧ b.tickets.map Ticket.seatId = b.seats.map ReservationSeat.seatId ∧
      ∃ p, b.payment = some p ∧ p.state = .success := by
  unfold Coherent at coherent
  simp only [of, state] at coherent
  exact coherent.2

theorem Coherent.ended (coherent : b.Coherent) (of : b.reservation = some r)
    (state : r.state = .cancelled ∨ r.state = .expired) :
    (b.seats = [] ∨ Holds r .locked b.seats) ∧ b.tickets = [] ∧
      ∀ p, b.payment = some p → p.state ≠ .success := by
  unfold Coherent at coherent
  rcases state with state | state <;> simp only [of, state] at coherent <;> exact coherent.2

/-- A booking whose payment is still open has given out no ticket, and its seats
are gone or still what it was charged for. -/
theorem Coherent.open_payment (coherent : b.Coherent) (of : b.reservation = some r)
    (paid : b.payment = some p) (opened : p.state = .pending) :
    r.state ≠ .confirmed ∧ b.tickets = [] ∧ (b.seats = [] ∨ Holds r .locked b.seats) := by
  cases state : r.state
  case pending =>
    obtain ⟨held, none, -⟩ := coherent.pending of state
    exact ⟨nofun, none, .inr held⟩
  case confirmed =>
    obtain ⟨-, -, q, same, success⟩ := coherent.confirmed of state
    rw [paid] at same
    cases same
    rw [opened] at success
    cases success
  case cancelled =>
    obtain ⟨held, none, -⟩ := coherent.ended of (.inl state)
    exact ⟨nofun, none, held⟩
  case expired =>
    obtain ⟨held, none, -⟩ := coherent.ended of (.inr state)
    exact ⟨nofun, none, held⟩

/-- Whatever there is belongs to a reservation. -/
theorem Coherent.exists_reservation (coherent : b.Coherent) (some : b ≠ nothing) :
    ∃ r, b.reservation = .some r := by
  cases of : b.reservation with
  | none => exact absurd (coherent.of_none of) some
  | some r => exact ⟨r, rfl⟩

theorem Coherent.exists_of_payment (coherent : b.Coherent) (paid : b.payment = some p) :
    ∃ r, b.reservation = some r := by
  refine coherent.exists_reservation ?_
  rintro rfl
  cases paid

theorem Coherent.exists_of_seat {row : ReservationSeat} (coherent : b.Coherent)
    (member : row ∈ b.seats) : ∃ r, b.reservation = some r := by
  refine coherent.exists_reservation ?_
  rintro rfl
  cases member

theorem Coherent.exists_of_ticket {ticket : Ticket} (coherent : b.Coherent)
    (issued : ticket ∈ b.tickets) : ∃ r, b.reservation = some r := by
  refine coherent.exists_reservation ?_
  rintro rfl
  cases issued

/-- Only a CONFIRMED reservation has tickets. -/
theorem Coherent.confirmed_of_ticket {ticket : Ticket} (coherent : b.Coherent)
    (of : b.reservation = some r) (issued : ticket ∈ b.tickets) : r.state = .confirmed := by
  have none : b.tickets ≠ [] := List.ne_nil_of_mem issued
  cases state : r.state
  case confirmed => rfl
  case pending => exact absurd (coherent.pending of state).2.1 none
  case cancelled => exact absurd (coherent.ended of (.inl state)).2.1 none
  case expired => exact absurd (coherent.ended of (.inr state)).2.1 none

/-- Only a CONFIRMED reservation has a payment that succeeded. -/
theorem Coherent.confirmed_of_success (coherent : b.Coherent) (of : b.reservation = some r)
    (paid : b.payment = some p) (success : p.state = .success) : r.state = .confirmed := by
  cases state : r.state
  case confirmed => rfl
  case pending =>
    have opened := (coherent.pending of state).2.2 p paid
    rw [success] at opened
    cases opened
  case cancelled => exact absurd success ((coherent.ended of (.inl state)).2.2 p paid)
  case expired => exact absurd success ((coherent.ended of (.inr state)).2.2 p paid)

/-- The rows of a reservation are BOOKED when it is CONFIRMED and LOCKED otherwise. -/
theorem Coherent.holds_of_seat {row : ReservationSeat} (coherent : b.Coherent)
    (of : b.reservation = some r) (member : row ∈ b.seats) :
    Holds r (if r.state = .confirmed then .booked else .locked) b.seats := by
  have ended (state : r.state = .cancelled ∨ r.state = .expired) : Holds r .locked b.seats :=
    (coherent.ended of state).1.resolve_left (List.ne_nil_of_mem member)
  cases state : r.state
  case pending => exact (coherent.pending of state).1
  case confirmed => exact (coherent.confirmed of state).1
  case cancelled => exact ended (.inl state)
  case expired => exact ended (.inr state)

private theorem Holds.of_state {rows : List ReservationSeat} (held : Holds r kept rows) :
    Holds { r with state } kept rows :=
  ⟨held.chosen, held.uniform, held.event, held.total⟩

private theorem Holds.booked {rows : List ReservationSeat} (held : Holds r .locked rows) :
    Holds { r with state } .booked (rows.map ReservationSeat.booked) where
  chosen := by simpa using held.chosen
  uniform := by simp [ReservationSeat.booked]
  event := by simpa [ReservationSeat.booked] using held.event
  total := by simpa [Function.comp_def, ReservationSeat.booked] using held.total

/-- Every move keeps a booking coherent, in whatever order they come. -/
theorem Coherent.step (coherent : b.Coherent) (step : Step m b b') : b'.Coherent := by
  cases step
  case create pending held _ =>
    cases coherent.of_none rfl
    refine ⟨nofun, ?_⟩
    rw [pending]
    exact ⟨held, rfl, nofun⟩
  case cancel pending _ =>
    obtain ⟨held, none, opened⟩ := coherent.pending rfl pending
    obtain ⟨amounts, -⟩ := coherent
    refine ⟨amounts, ?_, none, fun p paid => by simp [opened p paid]⟩
    split
    · exact .inl rfl
    · exact .inr held.of_state
  case expire pending =>
    obtain ⟨-, none, opened⟩ := coherent.pending rfl pending
    obtain ⟨amounts, -⟩ := coherent
    exact ⟨amounts, .inl rfl, none, fun p paid => by simp [opened p paid]⟩
  case start r q opened amount currency =>
    have same : ∀ p, some q = some p → q = p := fun p => Option.some.inj
    refine ⟨fun p paid => same p paid ▸ ⟨amount, currency⟩, ?_⟩
    cases state : r.state
    case pending =>
      obtain ⟨held, none, -⟩ := coherent.pending rfl state
      exact ⟨held, none, fun p paid => same p paid ▸ opened⟩
    case confirmed =>
      obtain ⟨-, -, p, absent, -⟩ := coherent.confirmed rfl state
      cases absent
    case cancelled =>
      obtain ⟨held, none, -⟩ := coherent.ended rfl (.inl state)
      exact ⟨held, none, fun p paid => same p paid ▸ by simp [opened]⟩
    case expired =>
      obtain ⟨held, none, -⟩ := coherent.ended rfl (.inr state)
      exact ⟨held, none, fun p paid => same p paid ▸ by simp [opened]⟩
  case confirm rows requested expired issued _ r q new opened chosen granted each =>
    obtain ⟨-, none, held⟩ := coherent.open_payment rfl rfl opened
    obtain ⟨-, -, paid, confirmed, -⟩ := transition_spec requested expired
    obtain ⟨amounts, -⟩ := coherent
    refine ⟨fun p same => Option.some.inj same ▸ amounts q rfl, ?_⟩
    rw [confirmed.mp granted]
    refine ⟨(held.resolve_left chosen).booked, ?_, _, rfl, paid.mp granted⟩
    have none : issued = [] := none
    rw [none, List.nil_append, each, List.map_map]
    rfl
  case compensate requested expired _ _ r q opened refused =>
    obtain ⟨-, none, -⟩ := coherent.open_payment rfl rfl opened
    obtain ⟨-, ends, unpaid, unconfirmed, -⟩ := transition_spec requested expired
    obtain ⟨amounts, -⟩ := coherent
    have failed : (determinePaymentTransition requested expired).paymentState ≠ .success :=
      fun success => refused (unpaid.mpr success)
    refine ⟨fun p same => Option.some.inj same ▸ amounts q rfl, ?_⟩
    cases state : (determinePaymentTransition requested expired).reservationState
    case pending => exact absurd state ends
    case confirmed => exact absurd (unconfirmed.mpr state) refused
    case cancelled => exact ⟨.inl rfl, none, fun p same => Option.some.inj same ▸ failed⟩
    case expired => exact ⟨.inl rfl, none, fun p same => Option.some.inj same ▸ failed⟩

/-- Once its payment has ended, nothing happens to a booking any more. -/
theorem Coherent.closed (coherent : b.Coherent) (paid : b.payment = some p)
    (ended : p.state ≠ .pending) : ¬ Step m b b' := by
  intro step
  cases step
  case create => cases coherent.of_none rfl; cases paid
  case cancel pending _ => exact ended ((coherent.pending rfl pending).2.2 p paid)
  case expire pending => exact ended ((coherent.pending rfl pending).2.2 p paid)
  case start => cases paid
  case confirm opened _ _ _ => cases paid; exact ended opened
  case compensate opened _ => cases paid; exact ended opened

/-! ## Leaving PENDING -/

/-- No move leads back to PENDING, and while a reservation stays PENDING its rows
stay the same. -/
theorem Step.of_pending (step : Step m b b') (before : b.reservation = some r)
    (after : b'.reservation = some r') (pending : r'.state = .pending) :
    r = r' ∧ b'.seats = b.seats := by
  cases step <;> cases before <;> cases after
  case cancel => cases pending
  case expire => cases pending
  case start => exact ⟨rfl, rfl⟩
  case confirm => exact absurd pending (transition_spec _ _).2.1
  case compensate => exact absurd pending (transition_spec _ _).2.1

/-- A reservation leaves PENDING by a cancel, by the sweep or by a completion. -/
theorem Step.leaves_pending (step : Step m b b') (before : b.reservation = some r)
    (pending : r.state = .pending)
    (after : ∀ r', b'.reservation = some r' → r'.state ≠ .pending) :
    ((∃ path, m = .cancel path) ∨ m = .expire) ∨ ∃ requested expired, m = .complete requested expired := by
  cases step
  case create => cases before
  case cancel => exact .inl (.inl ⟨_, rfl⟩)
  case expire => exact .inl (.inr rfl)
  case start => exact absurd pending (after r before)
  case confirm => exact .inr ⟨_, _, rfl⟩
  case compensate => exact .inr ⟨_, _, rfl⟩

/-- A payment is new when it was started just now. -/
theorem Step.payment_new (step : Step m b b') (paid : b'.payment = some p)
    (new : ∀ old, b.payment = some old → old.id ≠ p.id) : m = .start ∧ b.payment = none := by
  cases step
  case start => exact ⟨rfl, rfl⟩
  case confirm =>
    have apart := new _ rfl
    cases paid
    exact absurd rfl apart
  case compensate =>
    have apart := new _ rfl
    cases paid
    exact absurd rfl apart
  all_goals exact absurd rfl (new p paid)

/-- A reservation that is there stays there, and ended once it has ended. -/
theorem Step.ended (step : Step m b b') (before : b.reservation = some r)
    (ended : r.state ≠ .pending) : ∃ r', b'.reservation = some r' ∧ r'.state ≠ .pending := by
  obtain ⟨state, after⟩ := step.reservation_of_some before
  refine ⟨_, after, fun pending => ended ?_⟩
  rw [(step.of_pending before after pending).1]
  exact pending

/-- A reservation that is no longer PENDING changes its state by the completion
of a payment only. -/
theorem Step.of_ended (step : Step m b b') (before : b.reservation = some r)
    (ended : r.state ≠ .pending) : b'.reservation = some r ∨ ∃ requested expired,
      m = .complete requested expired ∧
      b'.reservation =
        some { r with state := (determinePaymentTransition requested expired).reservationState } ∧
      ((determinePaymentTransition requested expired).outcome = .success → b.seats ≠ []) := by
  cases step <;> cases before
  case cancel pending _ => exact absurd pending ended
  case expire pending => exact absurd pending ended
  case start => exact .inl rfl
  case confirm chosen _ _ => exact .inr ⟨_, _, rfl, rfl, fun _ => chosen⟩
  case compensate refused => exact .inr ⟨_, _, rfl, rfl, fun granted => absurd granted refused⟩

/-- Only a granted completion confirms. -/
theorem Step.of_confirmed (step : Step m b b') (after : b'.reservation = some r')
    (confirmed : r'.state = .confirmed) : b.reservation = some r' ∨ ∃ requested expired,
      m = .complete requested expired ∧
      (determinePaymentTransition requested expired).outcome = .success := by
  cases step
  case create pending _ _ =>
    cases after
    rw [pending] at confirmed
    cases confirmed
  case cancel =>
    cases after
    cases confirmed
  case expire =>
    cases after
    cases confirmed
  case start => exact .inl after
  case confirm granted _ => exact .inr ⟨_, _, rfl, granted⟩
  case compensate refused =>
    cases after
    exact absurd ((transition_spec _ _).2.2.2.1.mpr confirmed) refused

/-- A reservation that ended without a sale and has no rows left. -/
def Gone (b : Booking) : Prop :=
  b.seats = [] ∧ b.tickets = [] ∧
    ∃ r, b.reservation = some r ∧ (r.state = .cancelled ∨ r.state = .expired)

/-- Nothing confirms it or issues a ticket for it any more. -/
theorem Gone.step (gone : b.Gone) (step : Step m b b') : b'.Gone := by
  obtain ⟨none, ungiven, r, of, ended⟩ := gone
  cases step
  case create => cases of
  case cancel =>
    cases of
    refine ⟨?_, ungiven, _, rfl, .inl rfl⟩
    split
    · rfl
    · exact none
  case expire =>
    cases of
    exact ⟨rfl, ungiven, _, rfl, .inr rfl⟩
  case start => exact ⟨none, ungiven, r, of, ended⟩
  case confirm chosen _ _ => exact absurd none chosen
  case compensate requested expired _ _ _ _ _ refused =>
    obtain ⟨-, ends, -, unconfirmed, -⟩ := transition_spec requested expired
    refine ⟨rfl, ungiven, _, rfl, ?_⟩
    cases state : (determinePaymentTransition requested expired).reservationState
    case pending => exact absurd state ends
    case confirmed => exact absurd (unconfirmed.mpr state) refused
    case cancelled => exact .inl rfl
    case expired => exact .inr rfl

/-! ## Under the spelling the API returns -/

/-- A reservation that ended without a sale has let go of its seats. -/
def Released (b : Booking) : Prop :=
  ∀ r, b.reservation = some r → r.state = .cancelled ∨ r.state = .expired → b.seats = []

theorem released_nothing : nothing.Released := nofun

/-- Cancelling a reservation by the id the API returned frees its seats. -/
theorem Released.step (released : b.Released) (step : Step m b b')
    (spelled : ∀ text ∈ m.spellings, asReturned text = true) : b'.Released := by
  intro r' after ended
  cases step
  case create pending _ _ =>
    cases after
    rw [pending] at ended
    rcases ended with ended | ended <;> cases ended
  case cancel path rows _ _ r pending named =>
    have canonical := eq_text_of_asReturned (spelled path List.mem_cons_self) named
    simp [canonical]
  case expire => rfl
  case start => exact released r' after ended
  case confirm requested expired _ _ _ _ _ _ _ granted _ =>
    cases after
    have confirmed := (transition_spec requested expired).2.2.2.1.mp granted
    rw [confirmed] at ended
    rcases ended with ended | ended <;> cases ended
  case compensate => rfl

/-- Seat ids are stored as they were spelled in the request. -/
def SeatsSpelled (spelled : Text → Prop) (b : Booking) : Prop :=
  ∀ row ∈ b.seats, spelled row.seatId

theorem seatsSpelled_nothing : nothing.SeatsSpelled spelled := nofun

theorem SeatsSpelled.step (seats : b.SeatsSpelled spelled) (step : Step m b b')
    (spelling : ∀ text ∈ m.spellings, spelled text) : b'.SeatsSpelled spelled := by
  intro row member
  cases step
  case create chosen =>
    rcases List.mem_append.mp member with old | new
    · exact seats row old
    · exact spelling _ (chosen row new)
  case cancel =>
    dsimp only at member
    split at member
    · cases member
    · exact seats row member
  case expire => cases member
  case start => exact seats row member
  case confirm =>
    obtain ⟨old, before, rfl⟩ := List.mem_map.mp member
    exact seats old before
  case compensate => cases member

/-- Nothing touches the rows of a reservation that is no longer PENDING. -/
theorem Coherent.seats_of_ended (coherent : b.Coherent) (released : b.Released)
    (step : Step m b b') (before : b.reservation = some r) (ended : r.state ≠ .pending) :
    b'.seats = b.seats := by
  have rows (p : Payment) (paid : b.payment = some p) (opened : p.state = .pending) :
      b.seats = [] := by
    have unconfirmed := (coherent.open_payment before paid opened).1
    cases state : r.state
    case pending => exact absurd state ended
    case confirmed => exact absurd state unconfirmed
    case cancelled => exact released r before (.inl state)
    case expired => exact released r before (.inr state)
  cases step
  case create => cases before
  case cancel pending _ => cases before; exact absurd pending ended
  case expire pending => cases before; exact absurd pending ended
  case start => rfl
  case confirm p _ opened chosen _ _ => exact absurd (rows p rfl opened) chosen
  case compensate p opened _ => exact (rows p rfl opened).symm

/-- Where every ended reservation has let go of its seats, only a PENDING one is
ever confirmed, and an ended one keeps its state or is ended another way. -/
theorem Coherent.only_pending_confirmed (coherent : b.Coherent) (released : b.Released)
    (step : Step (.complete requested expired) b b')
    (granted : (determinePaymentTransition requested expired).outcome = .success) :
    ∃ r p, b.reservation = some r ∧ r.state = .pending ∧ b.seats ≠ [] ∧ b.payment = some p ∧
      p.state = .pending := by
  cases step
  case compensate refused => exact absurd granted refused
  case confirm r p _ opened chosen _ _ =>
    refine ⟨r, p, rfl, ?_, chosen, rfl, opened⟩
    have unconfirmed := (coherent.open_payment rfl rfl opened).1
    cases state : r.state
    case pending => rfl
    case confirmed => exact absurd state unconfirmed
    case cancelled => exact absurd (released r rfl (.inl state)) chosen
    case expired => exact absurd (released r rfl (.inr state)) chosen

end Booking
end KiTicket
