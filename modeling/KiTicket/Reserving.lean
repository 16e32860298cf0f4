import KiTicket.Frames
import KiTicket.Site

/-! What has been stored by the time `POST /reservations` is answered, followed through the
turns of one request while the rest of the site goes on. -/
namespace KiTicket
open Reservations Runs

variable {cfg : Config} {c : Choice} {held : List RowLock} {server server' : Server} {p p' : Proc}
  {user : AuthenticatedUser} {body : CreateReservationDto} {made more : Reservation → Prop}
  {s s' : Site} {a : Site.Action} {pid : Nat} {db : Db} {r : Reservation}

/-- The reservation stands as it was made for a request: pending, in the name of the user, with
a locked row for each seat that was asked for, which cost its total. -/
structure Reserved (user : AuthenticatedUser) (eventId : Text) (seatIds : List Text) (db : Db)
    (r : Reservation) : Prop where
  stored : (db.booking r.id).reservation = some r
  owner : r.userId = user.sub
  event : uuid? eventId = some r.eventId
  pending : r.state = .pending
  rows : ∃ rows ⊆ (db.booking r.id).seats, rows.map ReservationSeat.seatId = seatIds ∧
    Booking.Holds r .locked rows

/-- A create of this request, where everything it may be answered with is `made`. -/
def Proc.Creates (user : AuthenticatedUser) (body : CreateReservationDto) (made : Reservation → Prop) :
    Proc → Prop
  | .create state =>
    match state with
    | .assertAdmission asker asked | .findEvent asker asked => asker = user ∧ asked = body
    | .findSectors asker asked event | .findSeats asker asked event _
    | .findPricing asker asked event _ =>
      asker = user ∧ asked = body ∧ uuid? body.eventId = some event.id
    | .acquire draft | .findOccupied draft | .save draft =>
      draft.userId = user.sub ∧ draft.seatIds = body.seatIds ∧
        uuid? body.eventId = some draft.event.id
    | .announce r _ => made r
    | .release _ _ => True
  | .done (.reservation r) => made r
  | .done (.error _) => True
  | _ => False

theorem Proc.Creates.mono (creates : p.Creates user body made) (wider : ∀ r, made r → more r) :
    p.Creates user body more := by
  cases p with
  | create state =>
    cases state with
    | announce r => exact wider r creates
    | _ => exact creates
  | done response =>
    cases response with
    | reservation r => exact wider r creates
    | _ => exact creates
  | _ => exact creates

/-- What a create inserts is what was asked for. -/
theorem reserved_of_insert {draft : Draft} (accepted : body.accepted = true)
    (inserted : draft.insert cfg c server.db = .ok (db, r))
    (lengths : c.ids.length = draft.seatIds.length)
    (mine : draft.userId = user.sub ∧ draft.seatIds = body.seatIds ∧
      uuid? body.eventId = some draft.event.id) :
    Reserved user body.eventId body.seatIds db r := by
  obtain ⟨owner, asked, event⟩ := mine
  obtain ⟨total, stored, rfl, -, -, after⟩ := draft_insert inserted
  have chosen : draft.seatIds ≠ [] := by
    simp only [CreateReservationDto.accepted, Bool.and_eq_true, decide_eq_true_eq] at accepted
    intro none
    rw [asked] at none
    simp [none] at accepted
  have booking := after draft.id
  rw [if_pos rfl] at booking
  constructor
  · exact congrArg Booking.reservation booking
  · exact owner
  · exact event
  · rfl
  · refine ⟨List.zipWith draft.seat c.ids draft.seatIds, ?_, ?_, draft_holds stored lengths chosen⟩
    · exact (congrArg Booking.seats booking) ▸ List.subset_append_right _ _
    · exact asked ▸ seatIds_of_rows lengths

theorem Reservations.Create.creates {state : Create} {next : Next Create}
    (turn : state.turn cfg c server = some (server', next)) (accepted : body.accepted = true)
    (creates : (Proc.create state).Creates user body made) :
    (next.proc .create).Creates user body fun r =>
      made r ∨ Reserved user body.eventId body.seatIds server'.db r := by
  cases state <;> simp only [Create.turn] at turn
  case assertAdmission =>
    split at turn <;> cases turn
    · trivial
    · exact creates
  case findEvent =>
    split at turn
    · cases turn
      trivial
    rename_i id read
    split at turn
    · cases turn
      trivial
    rename_i event found
    split at turn <;> cases turn
    · trivial
    obtain ⟨rfl, rfl⟩ := creates
    have named : event.id = id := by
      have matched := List.find?_some found
      exact (of_decide_eq_true matched).1
    exact ⟨rfl, rfl, named ▸ read⟩
  case findSectors =>
    cases turn
    exact creates
  case findSeats =>
    split at turn <;> cases turn
    · trivial
    · exact creates
  case findPricing =>
    obtain ⟨rfl, rfl, event⟩ := creates
    split at turn
    · cases turn
      trivial
    split at turn
    · split at turn <;> cases turn
      exact ⟨rfl, rfl, event⟩
    · cases turn
  case acquire =>
    split at turn <;> cases turn
    · trivial
    · exact creates
  case findOccupied =>
    split at turn <;> cases turn
    · trivial
    · exact creates
  case save =>
    split at turn
    · cases turn
    rename_i lengths
    split at turn
    · cases turn
      trivial
    · rename_i inserted
      cases turn
      exact .inr (reserved_of_insert accepted inserted (not_not.mp lengths) creates)
  case announce =>
    cases turn
    exact .inl creates
  case release =>
    cases turn
    trivial

theorem Proc.Creates.turn (creates : p.Creates user body made) (accepted : body.accepted = true)
    (turn : p.turn cfg c held server = some (server', p')) :
    p'.Creates user body fun r => made r ∨ Reserved user body.eventId body.seatIds server'.db r := by
  cases p <;> simp only [Proc.turn, turnOf_eq_some] at turn
  case create state =>
    obtain ⟨next, turn, rfl⟩ := turn
    split at turn
    · cases state <;> simp only [Create.fault] at turn <;> cases turn <;> trivial
    · exact Create.creates turn accepted creates
  case done => cases turn
  all_goals exact creates.elim

/-- The process a request gets when it arrives. -/
theorem Site.serving_of_request {request : Request}
    (arrives : s.step cfg (.booking (.request request)) = some s') :
    request.accepted = true ∧ s'.world.procs[s.world.procs.length]? = some request.proc := by
  obtain ⟨world, moves, rfl⟩ := Option.map_eq_some_iff.mp arrives
  cases KiTicket.step_cases moves with
  | request accepted => exact ⟨accepted, List.getElem?_concat_length⟩

/-- Through a step of the site a request keeps its process, which rests, takes a turn or dies. -/
theorem Site.process_of_step {P Q : Proc → Prop} (taken : Site.step cfg s a = some s')
    (serving : s.world.procs[pid]? = some p) (holds : P p) (rests : P p → Q p)
    (turn : ∀ c held p', P p → p.turn cfg c held s.world.shared = some (s'.world.shared, p') → Q p')
    (dies : Q (.done (.error .crash))) : ∃ p', s'.world.procs[pid]? = some p' ∧ Q p' := by
  have bound : pid < s.world.procs.length := (List.getElem?_eq_some_iff.mp serving).1
  cases Site.step_cases taken with
  | request | turn | crash => exact ⟨p, serving, rests holds⟩
  | booking moves =>
    cases KiTicket.step_cases moves with
    | request => exact ⟨p, by rw [List.getElem?_append_left bound, serving], rests holds⟩
    | pass | drop => exact ⟨p, serving, rests holds⟩
    | @turn w' other c q q' at_other procs moves =>
      by_cases same : other = pid
      · subst same
        rw [serving, Option.some.injEq] at at_other
        subst at_other
        exact ⟨q', by rw [procs, List.getElem?_set_self bound], turn _ _ _ holds moves⟩
      · exact ⟨p, by rw [procs, List.getElem?_set_ne same, serving], rests holds⟩
    | @crash other q at_other =>
      by_cases same : other = pid
      · subst same
        exact ⟨.done (.error .crash), List.getElem?_set_self bound, dies⟩
      · exact ⟨p, by rw [List.getElem?_set_ne same, serving], rests holds⟩

/-- What the process that serves a create may be answered with has been made. -/
theorem Site.creates_of_step (taken : Site.step cfg s a = some s') (accepted : body.accepted = true)
    (serving : s.world.procs[pid]? = some p) (creates : p.Creates user body made) :
    ∃ p', s'.world.procs[pid]? = some p' ∧ p'.Creates user body fun r =>
      made r ∨ Reserved user body.eventId body.seatIds s'.db r :=
  Site.process_of_step taken serving creates (fun creates => creates.mono fun _ => .inl)
    (fun _ _ _ creates turn => creates.turn accepted turn) trivial

end KiTicket
