import KiTicket.Bookings
import KiTicket.System

/-! The API refines the moves of `Booking`. What a request has read and still
relies on is an assertion about the bookings; a turn of any request leaves every
booking alone or makes one move of one booking, and it makes it under row locks
that keep the assertions of all other requests true.

`spelled` is what is known about the spelling of the ids in the requests: nothing
at all, or that they are spelled as the API returns them. -/
namespace KiTicket
open Reservations Payments WaitingRoom Tickets KiTicket.Lists

variable {spelled : Text → Prop} {bookings bookings' : Uuid → Booking} {cfg : Config} {c : Choice}
  {held : List RowLock} {server server' : Server} {m : Move} {id : Uuid}

/-! ## What a request relies on -/

/-- A reservation read as PENDING is still there, its state aside. -/
def ReadPending (bookings : Uuid → Booking) (r : Reservation) : Prop :=
  r.state = .pending ∧ ∃ state, (bookings r.id).reservation = some { r with state }

def Reservations.Create.Sound (spelled : Text → Prop) : Create → Prop
  | .assertAdmission _ body | .findEvent _ body | .findSectors _ body _ | .findSeats _ body _ _
  | .findPricing _ body _ _ => body.seatIds ≠ [] ∧ ∀ seatId ∈ body.seatIds, spelled seatId
  | .acquire draft | .findOccupied draft | .save draft =>
    draft.seatIds ≠ [] ∧ ∀ seatId ∈ draft.seatIds, spelled seatId
  | .announce _ _ | .release _ _ => True

def Reservations.Cancel.Sound (spelled : Text → Prop) (bookings : Uuid → Booking) : Cancel → Prop
  | .findOne _ path => spelled path
  | .findSeats path r => spelled path ∧ uuid? path = some r.id ∧ r.state = .pending ∧
      (bookings r.id).reservation = some r
  | .commit path r seats => spelled path ∧ uuid? path = some r.id ∧ r.state = .pending ∧
      (bookings r.id).reservation = some r ∧
      seats = if path = r.id.text then (bookings r.id).seats else []
  | .release _ _ => True

def Reservations.Expire.Sound (bookings : Uuid → Booking) : Expire → Prop
  | .getMany => True
  | .findSeats r rest _ => ReadPending bookings r ∧ ∀ other ∈ rest, ReadPending bookings other
  | .commit r seats rest _ =>
    ReadPending bookings r ∧ (∀ other ∈ rest, ReadPending bookings other) ∧
      ((bookings r.id).reservation = some r → (bookings r.id).seats = seats)
  | .release _ _ rest _ => ∀ other ∈ rest, ReadPending bookings other

def Payments.Start.Sound (bookings : Uuid → Booking) : Start → Prop
  | .save _ _ r => ReadPending bookings r
  | _ => True

def Payments.Complete.Sound (bookings : Uuid → Booking) : Complete → Prop
  | .findPayment _ _ _ => True
  | .findReservation _ _ p => (bookings p.reservationId).payment = some p
  | .findSeats _ p r | .findTickets p r =>
    (bookings r.id).payment = some p ∧ (bookings r.id).reservation = some r
  | .commit _ p r seats =>
    (bookings r.id).payment = some p ∧ (bookings r.id).reservation = some r ∧
      (bookings r.id).seats = seats ∧ p.state = .pending
  | .release _ => True

/-- What a request has read and relies on still holds. -/
def Proc.Sound (spelled : Text → Prop) (bookings : Uuid → Booking) : Proc → Prop
  | .create state => state.Sound spelled
  | .cancel state => state.Sound spelled bookings
  | .expire state => state.Sound bookings
  | .start state => state.Sound bookings
  | .complete state => state.Sound bookings
  | .checkIn _ | .join _ | .admitUsers _ | .done _ => True

/-- The move a request makes when its next call goes through. -/
inductive Proc.Performs (c : Choice) : Proc → Move → Uuid → Prop where
  | create {draft : Draft} :
      Performs c (.create (.save draft)) (.create draft.seatIds) draft.id
  | cancel {r : Reservation} : Performs c (.cancel (.commit path r seats)) (.cancel path) r.id
  | expire {r : Reservation} : Performs c (.expire (.commit r seats rest expired)) .expire r.id
  | start {r : Reservation} : Performs c (.start (.save user body r)) .start r.id
  | complete {body : CompletePaymentDto} {p : Payment} {r : Reservation}
      {seats : List ReservationSeat} : Performs c (.complete (.commit body p r seats))
      (.complete body.outcome (decide (r.expiresAt ≤ c.now))) r.id

/-- The rows a move must have locked. -/
def Move.locks (b : Booking) (id : Uuid) : Move → List RowLock
  | .create _ | .start => []
  | .cancel _ | .expire => [.reservation id]
  | .complete _ _ => .reservation id :: (b.payment.map fun p => RowLock.payment p.id).toList

/-! ## An assertion survives the moves of others -/

section Rely
variable (step : Booking.Step m (bookings id) (bookings' id))
  (elsewhere : ∀ other, other ≠ id → bookings' other = bookings other)
include step elsewhere

theorem ReadPending.rely {r : Reservation} (read : ReadPending bookings r) :
    ReadPending bookings' r := by
  obtain ⟨pending, state, stored⟩ := read
  by_cases same : r.id = id
  · rw [← same] at step
    obtain ⟨state', stored'⟩ := step.reservation_of_some stored
    exact ⟨pending, state', stored'⟩
  · exact ⟨pending, state, by rw [elsewhere _ same, stored]⟩

/-- A reservation row that is locked and the seats under it stay as they are. -/
theorem locked_reservation {r : Reservation} (stored : (bookings r.id).reservation = some r)
    (free : .reservation r.id ∉ m.locks (bookings id) id) :
    (bookings' r.id).reservation = some r ∧ (bookings' r.id).seats = (bookings r.id).seats := by
  by_cases same : r.id = id
  · rw [← same] at step free
    generalize bookings r.id = b at step stored free
    generalize bookings' r.id = b' at step
    cases step
    case create => cases stored
    case start => exact ⟨stored, rfl⟩
    all_goals exact absurd List.mem_cons_self free
  · rw [elsewhere _ same]
    exact ⟨stored, rfl⟩

/-- So does a payment row that is locked. -/
theorem locked_payment {p : Payment} {of : Uuid} (stored : (bookings of).payment = some p)
    (free : .payment p.id ∉ m.locks (bookings id) id) : (bookings' of).payment = some p := by
  by_cases same : of = id
  · rw [← same] at step free
    generalize bookings of = b at step stored free
    generalize bookings' of = b' at step
    cases step
    case start => cases stored
    case confirm => cases stored; exact absurd (by simp [Move.locks]) free
    case compensate => cases stored; exact absurd (by simp [Move.locks]) free
    all_goals exact stored
  · rw [elsewhere _ same, stored]

theorem locked_rows {p : Payment} {r : Reservation} {of : Uuid}
    (paid : (bookings of).payment = some p) (stored : (bookings r.id).reservation = some r)
    (free : ∀ lock ∈ m.locks (bookings id) id, lock ∉ [.payment p.id, .reservation r.id]) :
    (bookings' of).payment = some p ∧ (bookings' r.id).reservation = some r ∧
      (bookings' r.id).seats = (bookings r.id).seats :=
  ⟨locked_payment step elsewhere paid fun needed => free _ needed (by simp),
    locked_reservation step elsewhere stored fun needed => free _ needed (by simp)⟩

/-- The rely condition: what a request relies on survives any move made under
row locks it does not hold itself. -/
theorem Proc.Sound.rely {p : Proc} (sound : p.Sound spelled bookings)
    (free : ∀ lock ∈ m.locks (bookings id) id, lock ∉ p.held) : p.Sound spelled bookings' := by
  cases p
  case cancel state =>
    cases state
    case findOne => exact sound
    case findSeats path r =>
      obtain ⟨spelling, named, pending, stored⟩ := sound
      have kept := locked_reservation step elsewhere stored fun needed =>
        free _ needed List.mem_cons_self
      exact ⟨spelling, named, pending, kept.1⟩
    case commit path r seats =>
      obtain ⟨spelling, named, pending, stored, loaded⟩ := sound
      have kept := locked_reservation step elsewhere stored fun needed =>
        free _ needed List.mem_cons_self
      exact ⟨spelling, named, pending, kept.1, by rw [kept.2]; exact loaded⟩
    case release => trivial
  case expire state =>
    cases state
    case getMany => trivial
    case findSeats r rest expired =>
      exact ⟨sound.1.rely step elsewhere, fun other member => (sound.2 other member).rely step elsewhere⟩
    case commit r seats rest expired =>
      obtain ⟨read, others, loaded⟩ := sound
      refine ⟨read.rely step elsewhere, fun other member => (others other member).rely step elsewhere, ?_⟩
      intro pending
      by_cases same : r.id = id
      · obtain ⟨opened, state, stored⟩ := read
        rw [← same] at step
        obtain ⟨unchanged, kept⟩ := step.of_pending stored pending opened
        rw [kept]
        exact loaded (by rw [stored, unchanged])
      · rw [elsewhere _ same] at pending ⊢
        exact loaded pending
    case release => exact fun other member => (sound other member).rely step elsewhere
  case start state =>
    cases state
    case save => exact ReadPending.rely step elsewhere sound
    all_goals trivial
  case complete state =>
    cases state
    case findPayment => trivial
    case findReservation user body p =>
      exact locked_payment step elsewhere sound fun needed => free _ needed List.mem_cons_self
    case findSeats body p r =>
      obtain ⟨paid, kept, -⟩ := locked_rows step elsewhere sound.1 sound.2 free
      exact ⟨paid, kept⟩
    case findTickets p r =>
      obtain ⟨paid, kept, -⟩ := locked_rows step elsewhere sound.1 sound.2 free
      exact ⟨paid, kept⟩
    case commit body p r seats =>
      obtain ⟨paid, stored, loaded, opened⟩ := sound
      obtain ⟨paid, kept, rows⟩ := locked_rows step elsewhere paid stored free
      exact ⟨paid, kept, rows.trans loaded, opened⟩
    case release => trivial
  all_goals exact sound

end Rely

/-! ## What one turn does -/

/-- What a turn does to the bookings: nothing, or one move of one booking, made
by the call the request was about to make. -/
inductive Effect (spelled : Text → Prop) (c : Choice) (held : List RowLock) (p : Proc)
    (db db' : Db) : Prop where
  | same (unchanged : ∀ id, db'.booking id = db.booking id)
  | moves {m : Move} {id : Uuid} (calls : ¬c.fault = true) (performs : p.Performs c m id) (spelling : ∀ text ∈ m.spellings, spelled text)
      (locked : ∀ lock ∈ m.locks (db.booking id) id, lock ∈ p.held ∨ lock ∉ held)
      (step : Booking.Step m (db.booking id) (db'.booking id))
      (elsewhere : ∀ other, other ≠ id → db'.booking other = db.booking other)

structure Turned (spelled : Text → Prop) (c : Choice) (held : List RowLock) (p : Proc)
    (db db' : Db) (p' : Proc) : Prop where
  effect : Effect spelled c held p db db'
  sound : p'.Sound spelled db'.booking
  locks : ∀ lock ∈ p'.held, lock ∈ p.held ∨ lock ∉ held

variable {p p' : Proc} {db : Db}

theorem Turned.answered (unchanged : ∀ id, server'.db.booking id = db.booking id) :
    Turned spelled c held p db server'.db (.done response) :=
  ⟨.same unchanged, trivial, nofun⟩

/-- A turn that changes nothing, in a state that holds no more locks. -/
theorem Turned.goes_on (sound : p'.Sound spelled db.booking)
    (locks : ∀ lock ∈ p'.held, lock ∈ p.held ∨ lock ∉ held) : Turned spelled c held p db db p' :=
  ⟨.same fun _ => rfl, sound, locks⟩

/-- A turn that changes no booking, in a state that relies on none. -/
theorem Turned.aside (unchanged : ∀ id, server'.db.booking id = db.booking id)
    (sound : p'.Sound spelled server'.db.booking) (locks : p'.held = []) :
    Turned spelled c held p db server'.db p' :=
  ⟨.same unchanged, sound, by simp [locks]⟩

theorem Reservations.Cancel.turned {state : Cancel} {next : Next Cancel}
    (calls : ¬c.fault = true) (sound : state.Sound spelled server.db.booking)
    (turn : state.turn held server = some (server', next)) :
    Turned spelled c held (.cancel state) server.db server'.db (next.proc .cancel) := by
  cases state
  case findOne user path =>
    simp only [Cancel.turn] at turn
    split at turn
    · cases turn
      exact .answered fun _ => rfl
    · rename_i id named
      split at turn
      · cases turn
        exact .answered fun _ => rfl
      · rename_i r found
        split at turn
        · cases turn
        rename_i free
        split at turn
        · cases turn
          exact .answered fun _ => rfl
        split at turn
        · cases turn
          exact .answered fun _ => rfl
        rename_i pending
        cases turn
        obtain ⟨-, rfl⟩ := booking_reservation_eq_some.mp found
        refine .goes_on ⟨sound, named, not_not.mp pending, found⟩ ?_
        intro lock mine
        rw [List.mem_singleton.mp mine]
        exact .inr free
  case findSeats path r =>
    obtain ⟨spelling, named, pending, stored⟩ := sound
    cases turn
    refine .goes_on ⟨spelling, named, pending, stored, ?_⟩ fun lock mine => .inl mine
    split
    · rename_i canonical
      subst canonical
      exact List.filter_congr fun row _ => by simp
    · rename_i other
      apply List.filter_eq_nil_iff.mpr
      intro row member
      rw [decide_eq_true_eq]
      rintro rfl
      rw [uuid?_text, Option.some.injEq] at named
      exact other (named ▸ rfl)
  case commit path r seats =>
    obtain ⟨spelling, named, pending, stored, rfl⟩ := sound
    cases turn
    refine ⟨.moves calls .cancel (by simpa [Move.spellings] using spelling)
      (fun lock needed => .inl needed) ?_ ?_, trivial, nofun⟩
    · rw [booking_cancel, if_pos rfl, stored]
      exact .of_cancel stored pending named
    · intro other different
      rw [booking_cancel, if_neg different]
  case release r seats =>
    cases turn
    exact .answered fun _ => rfl

theorem Reservations.Expire.loop_turned {rest : List Reservation} {expired : Nat}
    {next : Next Expire} (turn : Expire.loop server expired rest = some (server', next))
    (unchanged : ∀ id, server.db.booking id = db.booking id)
    (sound : ∀ r ∈ rest, ReadPending db.booking r) :
    Turned spelled c held p db server'.db (next.proc .expire) := by
  have same : server.db.booking = db.booking := funext unchanged
  cases rest with
  | nil =>
    cases turn
    exact .answered unchanged
  | cons r rest =>
    cases turn
    rw [← same] at sound
    exact .aside unchanged ⟨sound r List.mem_cons_self,
      fun other member => sound other (List.mem_cons_of_mem r member)⟩ rfl

/-- A reservation the sweep selects was PENDING when it looked. -/
theorem readPending_of_getStale {now : Nat} {order : List Uuid} {selected : List Reservation}
    (found : getStale db now order = some selected) : ∀ r ∈ selected, ReadPending db.booking r := by
  unfold getStale at found
  split at found
  · intro r member
    obtain ⟨id, -, hit⟩ := exists_of_mem_right (forall₂_of_mapM found) member
    have chosen := List.mem_of_find?_eq_some hit
    simp only [stale, List.mem_filter, decide_eq_true_eq] at chosen
    exact ⟨chosen.2.1, r.state, booking_reservation_eq_some.mpr ⟨chosen.1, rfl⟩⟩
  · cases found

/-- A guarded update that finds the row PENDING finds it as it was read. -/
theorem stored_of_pending {r : Reservation} {state : ReservationState} (opened : r.state = .pending)
    (found : (db.booking r.id).reservation = some { r with state })
    (pending : (findReservation db r.id).any (·.state = .pending) = true) :
    (db.booking r.id).reservation = some r := by
  rw [findReservation_eq, found, Option.any_some, decide_eq_true_eq] at pending
  have same : state = .pending := pending
  rw [found, same, ← opened]

theorem Reservations.Expire.turned {state : Expire} {next : Next Expire}
    (calls : ¬c.fault = true) (sound : state.Sound server.db.booking)
    (turn : state.turn c held server = some (server', next)) :
    Turned spelled c held (.expire state) server.db server'.db (next.proc .expire) := by
  cases state
  case getMany =>
    obtain ⟨selected, found, turn⟩ := Option.bind_eq_some_iff.mp turn
    exact loop_turned turn (fun _ => rfl) (readPending_of_getStale found)
  case findSeats r rest expired =>
    cases turn
    exact .goes_on ⟨sound.1, sound.2, fun _ => rfl⟩ nofun
  case commit r seats rest expired =>
    obtain ⟨read, others, loaded⟩ := sound
    simp only [Expire.turn] at turn
    split at turn
    · rename_i pending
      split at turn
      · cases turn
      rename_i free
      cases turn
      obtain ⟨opened, state, found⟩ := read
      have stored := stored_of_pending opened found pending
      rw [← loaded stored]
      have step : Booking.Step .expire (server.db.booking r.id)
          ((removeSeats (setState server.db r.id .expired) (server.db.booking r.id).seats).booking r.id) := by
        rw [booking_end, if_pos rfl, stored]
        exact .of_expire stored opened
      have elsewhere : ∀ other, other ≠ r.id →
          (removeSeats (setState server.db r.id .expired) (server.db.booking r.id).seats).booking other =
            server.db.booking other := by
        intro other different
        rw [booking_end, if_neg different]
      exact ⟨.moves calls .expire nofun (fun lock needed => .inr (List.mem_singleton.mp needed ▸ free)) step
        elsewhere, fun other member => (others other member).rely step elsewhere, nofun⟩
    · exact loop_turned turn (fun _ => rfl) others
  case release r seats rest expired =>
    simp only [Expire.turn, Expire.finish] at turn
    exact loop_turned turn (fun _ => rfl) sound

theorem Payments.Start.turned {state : Start} {next : Next Start}
    (calls : ¬c.fault = true) (sound : state.Sound server.db.booking)
    (turn : state.turn c server = some (server', next)) :
    Turned spelled c held (.start state) server.db server'.db (next.proc .start) := by
  cases state
  case findByKey user body =>
    simp only [Start.turn] at turn
    split at turn <;> cases turn <;> exact .goes_on trivial nofun
  case findLinked user body existing =>
    simp only [Start.turn] at turn
    split at turn
    · cases turn
      exact .answered fun _ => rfl
    · split at turn <;> cases turn <;> exact .answered fun _ => rfl
  case findReservation user body =>
    simp only [Start.turn] at turn
    split at turn
    · cases turn
      exact .answered fun _ => rfl
    split at turn
    · cases turn
      exact .answered fun _ => rfl
    rename_i id _ r found
    split at turn
    · cases turn
      exact .answered fun _ => rfl
    split at turn
    · cases turn
      exact .answered fun _ => rfl
    rename_i payable
    cases turn
    rw [not_or, not_not] at payable
    obtain ⟨-, rfl⟩ := booking_reservation_eq_some.mp found
    exact .goes_on ⟨payable.1, r.state, found⟩ nofun
  case save user body r =>
    simp only [Start.turn] at turn
    split at turn
    · rename_i id _
      split at turn
      · rename_i payments new
        cases turn
        obtain ⟨-, state, stored⟩ := sound
        have unpaid : (server.db.booking r.id).payment = none := (@booking_insertPayment _ r.id _ _ new).1
        have after (other : Uuid) : ({ server.db with payments } : Db).booking other =
            if other = r.id then
              { server.db.booking other with payment := some (newPayment id body r) }
            else server.db.booking other := (@booking_insertPayment _ other _ _ new).2
        refine ⟨.moves calls .start nofun nofun ?_ ?_, trivial, nofun⟩
        · rw [after, if_pos rfl]
          exact .of_start stored unpaid rfl rfl rfl
        · intro other different
          rw [after, if_neg different]
      · cases turn
        exact .goes_on trivial nofun
    · cases turn
  case announce user payment =>
    cases turn
    exact .answered fun _ => rfl
  case findByReservation r =>
    simp only [Start.turn] at turn
    split at turn <;> cases turn <;> exact .answered fun _ => rfl

theorem Reservations.Create.turned {state : Create} {next : Next Create}
    (calls : ¬c.fault = true) (sound : state.Sound spelled) (turn : state.turn cfg c server = some (server', next)) :
    Turned spelled c held (.create state) server.db server'.db (next.proc .create) := by
  cases state
  case assertAdmission user body =>
    simp only [Create.turn] at turn
    split at turn <;> cases turn
    · exact .answered fun _ => rfl
    · exact .goes_on sound nofun
  case findEvent user body =>
    simp only [Create.turn] at turn
    split at turn
    · cases turn
      exact .answered fun _ => rfl
    split at turn
    · cases turn
      exact .answered fun _ => rfl
    split at turn <;> cases turn
    · exact .answered fun _ => rfl
    · exact .goes_on sound nofun
  case findSectors user body event =>
    cases turn
    exact .goes_on sound nofun
  case findSeats user body event sectorIds =>
    simp only [Create.turn] at turn
    split at turn <;> cases turn
    · exact .answered fun _ => rfl
    · exact .goes_on sound nofun
  case findPricing user body event selectedSeats =>
    simp only [Create.turn] at turn
    split at turn
    · cases turn
      exact .answered fun _ => rfl
    split at turn
    · split at turn <;> cases turn
      exact .aside (fun _ => rfl) sound rfl
    · cases turn
  case acquire draft =>
    simp only [Create.turn] at turn
    split at turn <;> cases turn
    · exact .answered fun _ => rfl
    · exact .aside (fun _ => rfl) sound rfl
  case findOccupied draft =>
    simp only [Create.turn] at turn
    split at turn <;> cases turn
    · exact .goes_on trivial nofun
    · exact .goes_on sound nofun
  case save draft =>
    simp only [Create.turn] at turn
    split at turn
    · cases turn
    rename_i lengths
    split at turn
    · cases turn
      exact .goes_on trivial nofun
    · rename_i db' r inserted
      cases turn
      obtain ⟨total, stored, rfl, absent, -, after⟩ := draft_insert inserted
      refine ⟨.moves calls .create sound.2 nofun ?_ ?_, trivial, nofun⟩
      · rw [after, if_pos rfl]
        refine .of_create absent rfl (draft_holds stored (not_not.mp lengths) sound.1) ?_
        intro row member
        obtain ⟨_, -, seatId, chosen, rfl⟩ := exists_of_mem_zipWith member
        exact chosen
      · intro other different
        rw [after, if_neg different]
  case announce r seatIds =>
    cases turn
    exact .answered fun _ => rfl
  case release draft failure =>
    cases turn
    exact .answered fun _ => rfl

/-- The commit of a completion fails and changes nothing, or completes the payment
of the reservation it has locked. -/
theorem commit_cases {body : CompletePaymentDto} {p : Payment} {r : Reservation}
    {seats : List ReservationSeat} {next : Next Complete}
    (paid : (server.db.booking r.id).payment = some p)
    (stored : (server.db.booking r.id).reservation = some r)
    (loaded : (server.db.booking r.id).seats = seats) (opened : p.state = .pending)
    (turn : (Complete.commit body p r seats).turn cfg c held server = some (server', next)) :
    (∃ failure, server' = server ∧ next = .done (.error failure)) ∨
    ∃ db result, server' = { server with db } ∧ next = .go (.release result) ∧
      Booking.Step (.complete body.outcome (decide (r.expiresAt ≤ c.now)))
        (server.db.booking r.id) (db.booking r.id) ∧
      (∀ other, other ≠ r.id → db.booking other = server.db.booking other) ∧
      (db.booking r.id).payment = some result.payment ∧ result.payment.id = p.id := by
  subst loaded
  simp only [Complete.turn] at turn
  split at turn
  · rename_i granted
    split at turn
    · cases turn
      exact .inl ⟨_, rfl, rfl⟩
    rename_i chosen
    split at turn
    · rename_i reference tokens drawn
      split at turn
      · cases turn
      rename_i counts
      rw [not_or, not_not, not_not] at counts
      split at turn <;> cases turn
      · exact .inl ⟨_, rfl, rfl⟩
      rename_i db' result confirmed
      obtain ⟨new, each, -, -, rfl, after⟩ := booking_confirm confirmed paid rfl counts.1 counts.2
      refine .inr ⟨db', _, rfl, rfl, ?_, ?_, ?_, rfl⟩
      · rw [after, if_pos rfl, stored]
        refine .of_confirm stored paid opened chosen granted ?_
        rw [List.map_map]
        exact each
      · intro other different
        rw [after, if_neg different]
      · rw [after, if_pos rfl]
    · cases turn
  · rename_i refused
    cases turn
    have after (other : Uuid) := @booking_compensate server.db other
      { p with
        state := (determinePaymentTransition body.outcome (decide (r.expiresAt ≤ c.now))).paymentState
        failureReason :=
          (determinePaymentTransition body.outcome (decide (r.expiresAt ≤ c.now))).failureReason }
      p { r with
        state :=
          (determinePaymentTransition body.outcome (decide (r.expiresAt ≤ c.now))).reservationState }
      paid rfl
    refine .inr ⟨_, _, rfl, rfl, ?_, ?_, ?_, rfl⟩
    · rw [after, if_pos rfl, stored]
      exact .of_compensate stored paid opened refused
    · intro other different
      rw [after, if_neg different]
    · rw [after, if_pos rfl]
      rfl

theorem Payments.Complete.turned {state : Complete} {next : Next Complete}
    (calls : ¬c.fault = true) (sound : state.Sound server.db.booking)
    (turn : state.turn cfg c held server = some (server', next)) :
    Turned spelled c held (.complete state) server.db server'.db (next.proc .complete) := by
  cases state
  case findPayment user path body =>
    simp only [Complete.turn] at turn
    split at turn
    · cases turn
      exact .answered fun _ => rfl
    split at turn
    · cases turn
      exact .answered fun _ => rfl
    rename_i id _ _ p found
    split at turn <;> cases turn
    rename_i free
    have named : p.id = id := by simpa using List.find?_some found
    refine .goes_on (booking_payment_eq_some.mpr ⟨List.mem_of_find?_eq_some found, rfl⟩) ?_
    intro lock mine
    rw [List.mem_singleton.mp mine, named]
    exact .inr free
  case findReservation user body p =>
    simp only [Complete.turn] at turn
    split at turn
    · cases turn
      exact .answered fun _ => rfl
    rename_i r found
    split at turn
    · cases turn
    rename_i free
    split at turn <;> cases turn
    · exact .answered fun _ => rfl
    obtain ⟨member, named⟩ := booking_reservation_eq_some.mp found
    refine .goes_on ⟨named ▸ sound, booking_reservation_eq_some.mpr ⟨member, rfl⟩⟩ ?_
    intro lock mine
    rcases List.mem_cons.mp mine with rfl | mine
    · exact .inl List.mem_cons_self
    · rw [List.mem_singleton.mp mine]
      exact .inr free
  case findSeats body p r =>
    simp only [Complete.turn] at turn
    split at turn <;> cases turn
    · exact .goes_on sound fun lock mine => .inl mine
    · rename_i opened
      exact .goes_on ⟨sound.1, sound.2, rfl, not_not.mp opened⟩ fun lock mine => .inl mine
  case findTickets p r =>
    cases turn
    exact .answered fun _ => rfl
  case commit body p r seats =>
    obtain ⟨paid, stored, loaded, opened⟩ := sound
    have locked : ∀ lock ∈ (Move.complete body.outcome (decide (r.expiresAt ≤ c.now))).locks
        (server.db.booking r.id) r.id,
        lock ∈ [RowLock.payment p.id, .reservation r.id] ∨ lock ∉ held := by
      intro lock needed
      left
      simpa [Move.locks, paid, or_comm] using needed
    rcases commit_cases paid stored loaded opened turn with
      ⟨failure, rfl, rfl⟩ | ⟨db, result, rfl, rfl, step, elsewhere, -⟩
    · exact .answered fun _ => rfl
    · exact ⟨.moves calls .complete nofun locked step elsewhere, trivial, nofun⟩
  case release result =>
    cases turn
    exact .answered fun _ => rfl

/-! The three handlers that touch no booking. -/

theorem Tickets.CheckIn.unchanged {state : CheckIn} {next : Next CheckIn}
    (turn : state.turn c server = some (server', next)) (id : Uuid) :
    server'.db.booking id = server.db.booking id := by
  cases state <;> simp only [CheckIn.turn] at turn
  case findTicket =>
    split at turn
    · cases turn
      rfl
    · split at turn <;> cases turn <;> rfl
  case findReservation => split at turn <;> cases turn <;> rfl
  case findEvent =>
    split at turn
    · cases turn
      rfl
    · split at turn
      · cases turn
        rfl
      · split at turn <;> cases turn <;> rfl
  case save ticket =>
    cases turn
    exact booking_saveCheckedIn

theorem WaitingRoom.Join.unchanged {state : Join} {next : Next Join}
    (turn : state.turn cfg c server = some (server', next)) (id : Uuid) :
    server'.db.booking id = server.db.booking id := by
  cases state <;> simp only [Join.turn] at turn
  case findEvent =>
    split at turn
    · cases turn
      rfl
    · split at turn
      · cases turn
        rfl
      · split at turn <;> cases turn <;> rfl
  case findActive =>
    split at turn
    · cases turn
      rfl
    · split at turn <;> cases turn <;> rfl
  case incr =>
    cases turn
    rfl
  case save =>
    split at turn
    · split at turn <;> cases turn <;> rfl
    · cases turn

theorem WaitingRoom.Admit.unchanged {state : Admit} {next : Next Admit}
    (turn : state.turn cfg c server = some (server', next)) (id : Uuid) :
    server'.db.booking id = server.db.booking id := by
  cases state <;> simp only [Admit.turn] at turn
  case findQueued => split at turn <;> cases turn; rfl
  case save => split at turn <;> cases turn <;> rfl

theorem turnOf_eq_some {σ : Type} {wrap : σ → Proc} {outcome : Option (Server × Next σ)} {p' : Proc} :
    turnOf wrap outcome = some (server', p') ↔
      ∃ next, outcome = some (server', next) ∧ next.proc wrap = p' := by
  simp [turnOf, Prod.exists]

/-- A failing call leaves every booking as it was. -/
private theorem refused {σ : Type} {wrap : σ → Proc} {failure : Failure} {next : Next σ} {p : Proc}
    (turn : server.refuse failure = some (server', next)) :
    Turned spelled c held p server.db server'.db (next.proc wrap) := by
  cases turn
  exact .answered fun _ => rfl

/-- The refinement, one turn of any request at a time. -/
theorem Proc.turned {p p' : Proc} (sound : p.Sound spelled server.db.booking)
    (turn : p.turn cfg c held server = some (server', p')) :
    Turned spelled c held p server.db server'.db p' := by
  cases p <;> simp only [Proc.turn, turnOf_eq_some] at turn
  case create state =>
    obtain ⟨next, turn, rfl⟩ := turn
    split at turn
    · cases state <;> simp only [Create.fault] at turn
      case announce => cases turn
      case findOccupied | save =>
        cases turn
        exact .goes_on trivial nofun
      all_goals exact refused turn
    · rename_i calls
      exact Create.turned calls sound turn
  case cancel state =>
    obtain ⟨next, turn, rfl⟩ := turn
    split at turn
    · cases state <;> simp only [Cancel.fault] at turn
      case release =>
        cases turn
        exact .answered fun _ => rfl
      all_goals exact refused turn
    · rename_i calls
      exact Cancel.turned calls sound turn
  case expire state =>
    obtain ⟨next, turn, rfl⟩ := turn
    split at turn
    · cases state <;> simp only [Expire.fault] at turn
      case release => exact Expire.loop_turned turn (fun _ => rfl) sound
      all_goals exact refused turn
    · rename_i calls
      exact Expire.turned calls sound turn
  case start state =>
    obtain ⟨next, turn, rfl⟩ := turn
    split at turn
    · cases state <;> simp only [Start.fault] at turn
      case announce => cases turn
      all_goals exact refused turn
    · rename_i calls
      exact Start.turned calls sound turn
  case complete state =>
    obtain ⟨next, turn, rfl⟩ := turn
    split at turn
    · cases state <;> simp only [Complete.fault] at turn
      case release =>
        cases turn
        exact .answered fun _ => rfl
      all_goals exact refused turn
    · rename_i calls
      exact Complete.turned calls sound turn
  case checkIn state =>
    obtain ⟨next, turn, rfl⟩ := turn
    split at turn
    · exact refused turn
    · cases next <;> exact .aside (CheckIn.unchanged turn) trivial rfl
  case join state =>
    obtain ⟨next, turn, rfl⟩ := turn
    split at turn
    · exact refused turn
    · cases next <;> exact .aside (Join.unchanged turn) trivial rfl
  case admitUsers state =>
    obtain ⟨next, turn, rfl⟩ := turn
    split at turn
    · exact refused turn
    · cases next <;> exact .aside (Admit.unchanged turn) trivial rfl
  case done => cases turn

/-! ## What one step of the whole API does -/

/-- What every reachable world satisfies: what a request has read and relies on
holds, and no two transactions hold the same row. -/
structure World.Sound (spelled : Text → Prop) (w : World) : Prop where
  sound : ∀ p ∈ w.procs, p.Sound spelled w.db.booking
  exclusive : Pool.Exclusive Proc.held w.procs

/-- What a step does to the bookings. -/
inductive Stepped (spelled : Text → Prop) (w : World) (a : Action) (w' : World) : Prop where
  | same (unchanged : ∀ id, w'.db.booking id = w.db.booking id)
  | moves {pid : Nat} {c : Choice} {p : Proc} {m : Move} {id : Uuid} (turn : a = .turn pid c)
      (serving : w.procs[pid]? = some p) (calls : ¬c.fault = true) (performs : p.Performs c m id)
      (spelling : ∀ text ∈ m.spellings, spelled text)
      (step : Booking.Step m (w.db.booking id) (w'.db.booking id))
      (elsewhere : ∀ other, other ≠ id → w'.db.booking other = w.db.booking other)

/-- Seen from one booking: nothing, or a move. -/
theorem Stepped.booking {w w' : World} {a : Action} (stepped : Stepped spelled w a w') (id : Uuid) :
    w'.db.booking id = w.db.booking id ∨ ∃ m, (∀ text ∈ m.spellings, spelled text) ∧
      Booking.Step m (w.db.booking id) (w'.db.booking id) := by
  cases stepped
  case same unchanged => exact .inl (unchanged id)
  case moves m moved _ _ _ _ spelling step elsewhere =>
    by_cases same : id = moved
    · subst same
      exact .inr ⟨m, spelling, step⟩
    · exact .inl (elsewhere id same)

/-- A reservation stays the one it was, in whatever state. -/
theorem Stepped.reservation {w w' : World} {a : Action} {id : Uuid} {r : Reservation}
    (stepped : Stepped spelled w a w') (stored : (w.db.booking id).reservation = some r) :
    ∃ state, (w'.db.booking id).reservation = some { r with state } := by
  rcases stepped.booking id with same | ⟨m, -, move⟩
  · exact ⟨r.state, by rw [same, stored]⟩
  · exact move.reservation_of_some stored

/-- And its payment the one it was, under the same key. -/
theorem Stepped.payment {w w' : World} {a : Action} {id : Uuid} {p : Payment}
    (stepped : Stepped spelled w a w') (paid : (w.db.booking id).payment = some p) :
    ∃ p', (w'.db.booking id).payment = some p' ∧ p'.id = p.id ∧
      p'.idempotencyKey = p.idempotencyKey := by
  rcases stepped.booking id with same | ⟨m, -, move⟩
  · exact ⟨p, by rw [same, paid], rfl, rfl⟩
  · exact move.payment_of_some paid

/-- What is known about the spelling of the ids in a request. -/
def Request.Spelled (spelled : Text → Prop) : Request → Prop
  | .create _ body => ∀ seatId ∈ body.seatIds, spelled seatId
  | .cancel _ path => spelled path
  | _ => True

def Action.Spelled (spelled : Text → Prop) : Action → Prop
  | .request r => r.Spelled spelled
  | _ => True

theorem Request.sound {r : Request} (accepted : r.accepted = true) (allowed : r.Spelled spelled) :
    r.proc.Sound spelled bookings := by
  cases r
  case create user body =>
    refine ⟨?_, allowed⟩
    rintro empty
    simp [Request.accepted, CreateReservationDto.accepted, empty] at accepted
  case cancel => exact allowed
  all_goals trivial

theorem Request.held_proc {r : Request} : r.proc.held = [] := by
  cases r <;> rfl

theorem World.Sound.next {w w' : World} {a : Action} (sound : World.Sound spelled w)
    (allowed : a.Spelled spelled) (taken : step cfg w a = some w') :
    World.Sound spelled w' ∧ Stepped spelled w a w' := by
  cases step_cases taken
  case request r accepted =>
    refine ⟨⟨?_, sound.exclusive.append Request.held_proc⟩, .same fun _ => rfl⟩
    intro p member
    rcases List.mem_append.mp member with old | new
    · exact sound.sound p old
    · rw [List.mem_singleton.mp new]
      exact Request.sound accepted allowed
  case turn pid c p p' serving procs turn =>
    obtain ⟨effect, own, locks⟩ := Proc.turned (sound.sound p (List.mem_of_getElem? serving)) turn
    have free : ∀ lock, lock ∈ p.held ∨ lock ∉ (w.others pid).flatMap Proc.held →
        ∀ (j : Nat) q, j ≠ pid → w.procs[j]? = some q → lock ∉ q.held := by
      intro lock either j q different at_j theirs
      rcases either with mine | nobody
      · exact sound.exclusive pid j p q different.symm serving at_j lock mine theirs
      · exact nobody (List.mem_flatMap.mpr ⟨q, Pool.mem_others.mpr ⟨j, different, at_j⟩, theirs⟩)
    have exclusive : Pool.Exclusive Proc.held w'.procs := by
      rw [procs]
      exact sound.exclusive.set fun j q different at_j lock mine =>
        free lock (locks lock mine) j q different at_j
    cases effect
    case same unchanged =>
      refine ⟨⟨?_, exclusive⟩, .same unchanged⟩
      rw [procs]
      have same : w'.db.booking = w.db.booking := funext unchanged
      exact Pool.forall_set sound.sound own fun j q _ _ kept => by rw [same]; exact kept
    case moves m id calls performs spelling locked step elsewhere =>
      refine ⟨⟨?_, exclusive⟩, .moves rfl serving calls performs spelling step elsewhere⟩
      rw [procs]
      exact Pool.forall_set sound.sound own fun j q different at_j kept =>
        kept.rely step elsewhere fun lock needed => free lock (locked lock needed) j q different at_j
  case crash pid p serving =>
    exact ⟨⟨Pool.forall_set sound.sound trivial fun _ _ _ _ kept => kept,
      sound.exclusive.release serving nofun⟩, .same fun _ => rfl⟩
  case pass elapsed =>
    exact ⟨⟨sound.sound, sound.exclusive⟩, .same fun _ => rfl⟩
  case drop key =>
    exact ⟨⟨sound.sound, sound.exclusive⟩, .same fun _ => rfl⟩

end KiTicket
