import KiTicket.Completion
import KiTicket.Sweeps

/-! What is published and what was committed. A handler that has committed publishes in
its next turn whatever else fails, so published and still owed events together are always
the committed transitions; but the turns of others may come in between, and a completion
announces the payment only, not what becomes of the reservation. -/
namespace KiTicket
open Reservations Payments Runs

variable {cfg : Config} {catalog : Catalog} {w w' : World} {a : Action} {c : Choice}
  {held : List RowLock} {server server' : Server} {p p' : Proc} {r : Reservation} {id : Uuid}
  {pid : Nat} {ts : List (Transition World Action)}

/-! ## What a domain event says -/

/-- A transition of a row, as a domain event tells it. Nothing is said here about the row
that goes with an expiry. -/
inductive Notice where
  | created (r : Reservation)
  | cancelled (r : Reservation)
  | expired (id : Uuid)
  /-- No topic stands for it. -/
  | confirmed (r : Reservation)
  | started (payment : Payment)
  | succeeded (payment : Payment)
  | failed (payment : Payment)
deriving DecidableEq

def Emission.notice : Emission → Option Notice
  | .publish .reservationCreated (.reservation r) _ => some (.created r)
  | .publish .reservationCancelled (.reservation r) _ => some (.cancelled r)
  | .publish .reservationExpired (.reservation r) _ => some (.expired r.id)
  | .publish .paymentStarted (.payment payment) _ => some (.started payment)
  | .publish .paymentSucceeded (.payment payment) _ => some (.succeeded payment)
  | .publish .paymentFailed (.payment payment) _ => some (.failed payment)
  | _ => none

/-- The `reservation.*` and `payment.*` events published so far, in order. -/
def published (log : List Emission) : List Notice := log.filterMap Emission.notice

def Reservation.notice (r : Reservation) : Notice :=
  match r.state with
  | .pending => .created r
  | .confirmed => .confirmed r
  | .cancelled => .cancelled r
  | .expired => .expired r.id

def Payment.notice (payment : Payment) : Notice :=
  match payment.state with
  | .pending => .started payment
  | .success => .succeeded payment
  | .failed | .timeout | .cancelled => .failed payment

/-- The rows of a table that were inserted or changed. -/
def written {α : Type} [UniqueKeys α] [DecidableEq α] (before after : Table α) : List α :=
  after.rows.filter (· ∉ before.rows)

def Proc.completing : Proc → Bool
  | .complete _ => true
  | _ => false

/-- The step is a turn of a completion. -/
def completion (t : Transition World Action) : Bool :=
  match t.action with
  | .turn pid _ => (t.source.procs[pid]?).any Proc.completing
  | _ => false

/-- The transitions a step commits that are to be announced: those of reservations, unless
a completion makes them, and those of payments. -/
def commits (t : Transition World Action) : List Notice :=
  (if completion t then []
    else (written t.source.db.reservations t.target.db.reservations).map Reservation.notice) ++
    (written t.source.db.payments t.target.db.payments).map Payment.notice

/-- The event of a completion. -/
def Payments.PaymentResult.notice (result : PaymentResult) : Notice :=
  if result.payment.state = .success then .succeeded result.payment else .failed result.payment

/-- What a request has committed and not yet published. -/
def Proc.announcing : Proc → List Notice
  | .create (.announce r _) => [.created r]
  | .cancel (.release r _) => [.cancelled r]
  | .expire (.release r _ _ _) => [.expired r.id]
  | .start (.announce _ payment) => [.started payment]
  | .complete (.release result) => [result.notice]
  | _ => []

/-- No process dies between its commit and its publish. -/
def Unbroken (t : Transition World Action) : Prop :=
  match t.action with
  | .crash pid => (t.source.procs[pid]?).all fun p => p.announcing = []
  | .request _ | .turn _ _ | .pass _ | .drop _ => True

/-! ## A turn publishes what its request has committed -/

@[simp] theorem published_append {log more : List Emission} :
    published (log ++ more) = published log ++ published more := List.filterMap_append

theorem published_freed {topic : Topic} {seats : List ReservationSeat} {notice : Notice}
    (heard : (Emission.publish topic (.reservation r) r.userId).notice = some notice) :
    published (freed topic r seats) = [notice] := by
  simp only [published, freed, List.filterMap_cons, heard, List.filterMap_nil]
  rfl

theorem published_completed (result : PaymentResult) :
    published (completed result) = [result.notice] := by
  have rest : published (if result.tickets = [] then []
      else [.emitUser result.reservation.userId .ticketIssued
          (.ticketIds (result.tickets.map Ticket.id)),
        .publish .ticketIssued (.tickets result.tickets) result.reservation.userId]) = [] := by
    split <;> rfl
  unfold completed
  rw [published_append, rest, List.append_nil, PaymentResult.notice]
  by_cases success : result.payment.state = .success
  · simp only [success, if_true]
    rfl
  · simp only [success, if_false]
    rfl

/-- Going on with the sweep publishes nothing more. -/
theorem Reservations.Expire.loop_log {rest : List Reservation} {expired : Nat}
    {next : Next Expire} (turn : Expire.loop server expired rest = some (server', next)) :
    server'.log = server.log := by
  cases rest <;> cases turn <;> rfl

/-- Whatever else fails, a request publishes what it has committed in its next turn, and
nothing otherwise. -/
theorem published_turn (turn : p.turn cfg c held server = some (server', p')) :
    published server'.log = published server.log ++ p.announcing := by
  have silent (none : p.announcing = []) (same : server'.log = server.log) :
      published server'.log = published server.log ++ p.announcing := by
    rw [none, same, List.append_nil]
  cases p <;> simp only [Proc.turn, turnOf_eq_some] at turn
  case done => cases turn
  case create state =>
    obtain ⟨next, turn, -⟩ := turn
    split at turn
    · cases state <;> simp only [Create.fault] at turn <;> cases turn <;> exact silent rfl rfl
    cases state
    case announce r seatIds =>
      cases turn
      exact published_append
    all_goals
      refine silent rfl ?_
      grind [Create.turn, Server.refuse, Server.stay, releaseLocks]
  case cancel state =>
    obtain ⟨next, turn, -⟩ := turn
    split at turn
    · cases state <;> simp only [Cancel.fault, Cancel.finish] at turn
      case release =>
        cases turn
        exact published_append.trans (by rw [published_freed rfl]; rfl)
      all_goals
        cases turn
        exact silent rfl rfl
    cases state
    case release r seats =>
      cases turn
      exact published_append.trans (by rw [published_freed rfl]; rfl)
    all_goals
      refine silent rfl ?_
      grind [Cancel.turn, Server.refuse, Server.stay]
  case expire state =>
    obtain ⟨next, turn, -⟩ := turn
    split at turn
    · cases state <;> simp only [Expire.fault, Expire.finish] at turn
      case release =>
        rw [Expire.loop_log turn]
        exact published_append.trans (by rw [published_freed rfl]; rfl)
      all_goals
        cases turn
        exact silent rfl rfl
    cases state <;> simp only [Expire.turn, Expire.finish] at turn
    case getMany =>
      obtain ⟨selected, -, turn⟩ := Option.bind_eq_some_iff.mp turn
      exact silent rfl (Expire.loop_log turn)
    case findSeats =>
      cases turn
      exact silent rfl rfl
    case commit =>
      split at turn
      · split at turn <;> cases turn
        exact silent rfl rfl
      · exact silent rfl (Expire.loop_log turn)
    case release =>
      rw [Expire.loop_log turn]
      exact published_append.trans (by rw [published_freed rfl]; rfl)
  case start state =>
    obtain ⟨next, turn, -⟩ := turn
    split at turn
    · cases state <;> simp only [Start.fault] at turn <;> cases turn <;> exact silent rfl rfl
    cases state
    case announce =>
      cases turn
      exact published_append
    all_goals
      refine silent rfl ?_
      grind [Start.turn, Server.refuse, Server.stay]
  case complete state =>
    obtain ⟨next, turn, -⟩ := turn
    split at turn
    · cases state <;> simp only [Complete.fault, Complete.finish] at turn
      case release =>
        cases turn
        exact published_append.trans (by rw [published_completed]; rfl)
      all_goals
        cases turn
        exact silent rfl rfl
    cases state
    case release result =>
      cases turn
      exact published_append.trans (by rw [published_completed]; rfl)
    all_goals
      refine silent rfl ?_
      grind [Complete.turn, Server.refuse, Server.stay]
  case checkIn state =>
    obtain ⟨next, turn, -⟩ := turn
    refine silent rfl ?_
    split at turn
    · cases turn
      rfl
    · cases state <;> grind [Tickets.CheckIn.turn, Server.refuse, Server.stay]
  case join state =>
    obtain ⟨next, turn, -⟩ := turn
    refine silent rfl ?_
    split at turn
    · cases turn
      rfl
    · cases state <;> grind [WaitingRoom.Join.turn, Server.refuse, Server.stay]
  case admitUsers state =>
    obtain ⟨next, turn, -⟩ := turn
    refine silent rfl ?_
    split at turn
    · cases turn
      rfl
    · cases state <;> grind [WaitingRoom.Admit.turn, Server.refuse, Server.stay]

/-! ## A turn commits what its request will publish -/

@[simp] theorem written_self {α : Type} [UniqueKeys α] [DecidableEq α] (table : Table α) :
    written table table = [] := by
  rw [written, List.filter_eq_nil_iff]
  intro row member
  simpa using member

theorem written_reservations {db db' : Db} (after : (db'.booking id).reservation = some r)
    (changed : (db.booking id).reservation ≠ some r)
    (elsewhere : ∀ other, other ≠ id → db'.booking other = db.booking other) :
    written db.reservations db'.reservations = [r] := by
  have only : ∀ row ∈ db'.reservations.rows,
      decide (row ∉ db.reservations.rows) = decide (row.id = id) := by
    intro row member
    have here := booking_reservation_eq_some.mpr ⟨member, rfl⟩
    rw [decide_eq_decide]
    constructor
    · intro absent
      by_contra other
      rw [elsewhere _ other] at here
      exact absent (booking_reservation_eq_some.mp here).1
    · rintro rfl stored
      rw [after] at here
      exact changed (here ▸ booking_reservation_eq_some.mpr ⟨stored, rfl⟩)
  obtain ⟨member, named⟩ := booking_reservation_eq_some.mp after
  rw [written, List.filter_congr only]
  refine Table.filter_eq_singleton member (decide_eq_true named) fun a b left right => ?_
  simp only [decide_eq_true_eq] at left right
  simp [clash, left, right]

theorem written_payments {db db' : Db} {payment : Payment}
    (after : (db'.booking id).payment = some payment)
    (changed : (db.booking id).payment ≠ some payment)
    (elsewhere : ∀ other, other ≠ id → db'.booking other = db.booking other) :
    written db.payments db'.payments = [payment] := by
  have only : ∀ row ∈ db'.payments.rows,
      decide (row ∉ db.payments.rows) = decide (row.reservationId = id) := by
    intro row member
    have here := booking_payment_eq_some.mpr ⟨member, rfl⟩
    rw [decide_eq_decide]
    constructor
    · intro absent
      by_contra other
      rw [elsewhere _ other] at here
      exact absent (booking_payment_eq_some.mp here).1
    · rintro rfl stored
      rw [after] at here
      exact changed (here ▸ booking_payment_eq_some.mpr ⟨stored, rfl⟩)
  obtain ⟨member, named⟩ := booking_payment_eq_some.mp after
  rw [written, List.filter_congr only]
  refine Table.filter_eq_singleton member (decide_eq_true named) fun a b left right => ?_
  simp only [decide_eq_true_eq] at left right
  simp [clash, left, right]

/-- What a turn commits and what its request owes from then on. -/
inductive Committing (p : Proc) (db : Db) (p' : Proc) (db' : Db) : Prop where
  | quiet (owes : p'.announcing = []) (reservations : db'.reservations = db.reservations)
      (payments : db'.payments = db.payments)
  | reservation {id : Uuid} {r : Reservation} (owes : p'.announcing = [r.notice])
      (other : p.completing = false) (after : (db'.booking id).reservation = some r)
      (changed : (db.booking id).reservation ≠ some r) (payments : db'.payments = db.payments)
  | payment {id : Uuid} {payment : Payment} (owes : p'.announcing = [payment.notice])
      (other : p.completing = true ∨ db'.reservations = db.reservations)
      (after : (db'.booking id).payment = some payment)
      (changed : (db.booking id).payment ≠ some payment)

/-- A reservation under a row that was just set to a state. -/
theorem reservation_setState {db : Db} {state : ReservationState} {seats : List ReservationSeat}
    (stored : (db.booking r.id).reservation = some r) :
    ((removeSeats (setState db r.id state) seats).booking r.id).reservation =
      some { r with state } := by
  have same : ((removeSeats (setState db r.id state) seats).booking r.id).reservation =
      ((setState db r.id state).booking r.id).reservation := rfl
  rw [same, booking_setState, if_pos rfl, stored]
  rfl

theorem Reservations.Cancel.committing {state : Cancel} {next : Next Cancel}
    (sound : state.Sound (fun _ => True) server.db.booking)
    (turn : state.turn held server = some (server', next)) :
    Committing (.cancel state) server.db (next.proc .cancel) server'.db := by
  cases state
  case commit path r seats =>
    obtain ⟨-, -, pending, stored, -⟩ := sound
    cases turn
    refine .reservation rfl rfl (reservation_setState stored) ?_ rfl
    rw [stored, Ne, Option.some.injEq]
    intro same
    rw [same] at pending
    cases pending
  case findOne =>
    simp only [Cancel.turn] at turn
    split at turn
    · cases turn
      exact .quiet rfl rfl rfl
    split at turn
    · cases turn
      exact .quiet rfl rfl rfl
    split at turn
    · cases turn
    split at turn
    · cases turn
      exact .quiet rfl rfl rfl
    split at turn <;> cases turn <;> exact .quiet rfl rfl rfl
  case findSeats | release =>
    cases turn
    exact .quiet rfl rfl rfl

theorem Reservations.Expire.loop_committing {rest : List Reservation} {expired : Nat}
    {next : Next Expire} (turn : Expire.loop server expired rest = some (server', next)) :
    (next.proc .expire).announcing = [] ∧ server'.db = server.db := by
  cases rest <;> cases turn <;> exact ⟨rfl, rfl⟩

theorem Reservations.Expire.committing {state : Expire} {next : Next Expire}
    (sound : state.Sound server.db.booking)
    (turn : state.turn c held server = some (server', next)) :
    Committing (.expire state) server.db (next.proc .expire) server'.db := by
  have looped {server₀ : Server} {rest : List Reservation} {expired : Nat}
      (turn : Expire.loop server₀ expired rest = some (server', next))
      (same : server₀.db = server.db) :
      Committing (.expire state) server.db (next.proc .expire) server'.db := by
    obtain ⟨none, db⟩ := Expire.loop_committing turn
    rw [db, same]
    exact .quiet none rfl rfl
  cases state <;> simp only [Expire.turn, Expire.finish] at turn
  case getMany =>
    obtain ⟨selected, -, turn⟩ := Option.bind_eq_some_iff.mp turn
    exact looped turn rfl
  case findSeats =>
    cases turn
    exact .quiet rfl rfl rfl
  case commit r seats rest expired =>
    obtain ⟨⟨opened, state, found⟩, -, -⟩ := sound
    split at turn
    · rename_i pending
      have stored := stored_of_pending opened found pending
      split at turn <;> cases turn
      refine .reservation rfl rfl (reservation_setState stored) ?_ rfl
      rw [stored, Ne, Option.some.injEq]
      intro same
      rw [same] at opened
      cases opened
    · exact looped turn rfl
  case release => exact looped turn rfl

theorem Payments.Start.committing {state : Start} {next : Next Start}
    (turn : state.turn c server = some (server', next)) :
    Committing (.start state) server.db (next.proc .start) server'.db := by
  cases state
  case save user body r =>
    obtain ⟨new, -, outcome⟩ := insert_cases turn
    rcases outcome with ⟨payments, inserted, db, rfl⟩ | ⟨-, same, rfl⟩
    · have unpaid : (server.db.booking r.id).payment = none :=
        (@booking_insertPayment _ r.id _ _ inserted).1
      have paid : ({ server.db with payments } : Db).booking r.id =
          { server.db.booking r.id with payment := some (newPayment new body r) } :=
        (@booking_insertPayment _ r.id _ _ inserted).2.trans (if_pos rfl)
      have owes : (Proc.start (.announce user (newPayment new body r))).announcing =
          [(newPayment new body r).notice] := rfl
      rw [db]
      refine .payment owes (.inr rfl) (congrArg Booking.payment paid) ?_
      rw [unpaid]
      exact nofun
    · rw [same]
      exact .quiet rfl rfl rfl
  case findByKey =>
    simp only [Start.turn] at turn
    split at turn <;> cases turn <;> exact .quiet rfl rfl rfl
  case findLinked =>
    simp only [Start.turn] at turn
    split at turn
    · cases turn
      exact .quiet rfl rfl rfl
    · split at turn <;> cases turn <;> exact .quiet rfl rfl rfl
  case findReservation =>
    simp only [Start.turn] at turn
    split at turn
    · cases turn
      exact .quiet rfl rfl rfl
    split at turn
    · cases turn
      exact .quiet rfl rfl rfl
    split at turn
    · cases turn
      exact .quiet rfl rfl rfl
    split at turn <;> cases turn <;> exact .quiet rfl rfl rfl
  case announce =>
    cases turn
    exact .quiet rfl rfl rfl
  case findByReservation =>
    simp only [Start.turn] at turn
    split at turn <;> cases turn <;> exact .quiet rfl rfl rfl

/-- A create commits its reservation, or nothing. -/
theorem Reservations.Create.committing {state : Create}
    (turn : (Proc.create state).turn cfg c held server = some (server', p')) :
    Committing (.create state) server.db p' server'.db := by
  cases saves : state
  case save draft =>
    subst saves
    rcases save_cases turn with ⟨same, failure, rfl⟩ | ⟨db, r, stores, rfl, inserted, -⟩
    · rw [same]
      exact .quiet rfl rfl rfl
    · obtain ⟨total, -, rfl, absent, -, booking⟩ := draft_insert inserted
      have payments : db.payments = server.db.payments := by
        unfold Draft.insert at inserted
        split at inserted
        · cases inserted
        · dsimp only at inserted
          split at inserted <;> cases inserted
          rfl
      have after : (db.booking draft.id).reservation = some (draft.reservation cfg c.now total) := by
        rw [booking, if_pos rfl]
      rw [stores]
      refine .reservation rfl rfl after ?_ payments
      rw [absent]
      exact nofun
  all_goals
    subst saves
    simp only [Proc.turn, turnOf_eq_some] at turn
    obtain ⟨next, turn, rfl⟩ := turn
    split at turn
    · simp only [Create.fault] at turn
      cases turn <;> exact .quiet rfl rfl rfl
  case assertAdmission =>
    simp only [Create.turn] at turn
    split at turn <;> cases turn <;> exact .quiet rfl rfl rfl
  case findEvent =>
    simp only [Create.turn] at turn
    split at turn
    · cases turn
      exact .quiet rfl rfl rfl
    split at turn
    · cases turn
      exact .quiet rfl rfl rfl
    split at turn <;> cases turn <;> exact .quiet rfl rfl rfl
  case findSeats =>
    simp only [Create.turn] at turn
    split at turn <;> cases turn <;> exact .quiet rfl rfl rfl
  case findPricing =>
    simp only [Create.turn] at turn
    split at turn
    · cases turn
      exact .quiet rfl rfl rfl
    split at turn
    · split at turn <;> cases turn
      exact .quiet rfl rfl rfl
    · cases turn
  case acquire | findOccupied =>
    simp only [Create.turn] at turn
    split at turn <;> cases turn <;> exact .quiet rfl rfl rfl
  case findSectors | announce | release =>
    cases turn
    exact .quiet rfl rfl rfl

/-- The event of a payment that has ended is the one its state stands for. -/
theorem notice_of_ended {result : PaymentResult} (ended : result.payment.state ≠ .pending) :
    result.notice = result.payment.notice := by
  unfold PaymentResult.notice Payment.notice
  cases state : result.payment.state
  case pending => exact absurd state ended
  all_goals rfl

theorem announcing_of_none (none : ∀ id, p.announces id = 0) (completes : p.completing = true) :
    p.announcing = [] := by
  cases p <;> cases completes
  rename_i state
  cases state
  case release result =>
    have one := none result.payment.id
    simp [Proc.announces] at one
  all_goals rfl

theorem Payments.Complete.committing {state : Complete}
    (sound : state.Sound server.db.booking)
    (turn : (Proc.complete state).turn cfg c held server = some (server', p')) :
    Committing (.complete state) server.db p' server'.db := by
  rcases complete_cases sound turn with
    ⟨same, none⟩ | ⟨body, payment, r, seats, db, result, rfl, stores, rfl, -, ended, paid⟩ |
    ⟨result, rfl, same, rfl⟩
  · rw [same]
    refine .quiet ?_ rfl rfl
    simp only [Proc.turn, turnOf_eq_some] at turn
    obtain ⟨next, -, rfl⟩ := turn
    cases next
    case done => rfl
    case go => exact announcing_of_none (fun id => (none id).2) rfl
  · obtain ⟨before, -, -, opened⟩ := sound
    have owes : (Proc.complete (.release result)).announcing = [result.payment.notice] := by
      rw [← notice_of_ended ended]
      rfl
    rw [stores]
    refine .payment owes (.inl rfl) paid ?_
    rw [before, Ne, Option.some.injEq]
    intro same
    rw [← same, opened] at ended
    exact ended rfl
  · rw [same]
    exact .quiet rfl rfl rfl

/-- A failing call commits nothing, and leaves nothing to publish. -/
theorem committing_of_refused {σ : Type} {wrap : σ → Proc} {failure : Failure} {next : Next σ}
    (turn : server.refuse failure = some (server', next)) :
    Committing p server.db (next.proc wrap) server'.db := by
  cases turn
  exact .quiet rfl rfl rfl

theorem Proc.committing (sound : p.Sound (fun _ => True) server.db.booking)
    (turn : p.turn cfg c held server = some (server', p')) :
    Committing p server.db p' server'.db := by
  cases p
  case create state => exact Create.committing turn
  case complete state => exact Complete.committing sound turn
  all_goals simp only [Proc.turn, turnOf_eq_some] at turn
  case done => cases turn
  case cancel state =>
    obtain ⟨next, turn, rfl⟩ := turn
    split at turn
    · cases state <;> simp only [Cancel.fault, Cancel.finish] at turn
      case release =>
        cases turn
        exact .quiet rfl rfl rfl
      all_goals exact committing_of_refused turn
    · exact Cancel.committing sound turn
  case expire state =>
    obtain ⟨next, turn, rfl⟩ := turn
    split at turn
    · cases state <;> simp only [Expire.fault, Expire.finish] at turn
      case release =>
        obtain ⟨none, db⟩ := Expire.loop_committing turn
        rw [db]
        exact .quiet none rfl rfl
      all_goals exact committing_of_refused turn
    · exact Expire.committing sound turn
  case start state =>
    obtain ⟨next, turn, rfl⟩ := turn
    split at turn
    · cases state <;> simp only [Start.fault] at turn
      case announce => cases turn
      all_goals exact committing_of_refused turn
    · exact Start.committing turn
  case checkIn state =>
    obtain ⟨next, turn, rfl⟩ := turn
    split at turn
    · exact committing_of_refused turn
    refine .quiet (by cases next <;> rfl) ?_ ?_ <;> cases state <;>
      grind [Tickets.CheckIn.turn, Server.refuse, Server.stay, Tickets.saveCheckedIn]
  case join state =>
    obtain ⟨next, turn, rfl⟩ := turn
    split at turn
    · exact committing_of_refused turn
    refine .quiet (by cases next <;> rfl) ?_ ?_ <;> cases state <;>
      grind [WaitingRoom.Join.turn, Server.refuse, Server.stay]
  case admitUsers state =>
    obtain ⟨next, turn, rfl⟩ := turn
    split at turn
    · exact committing_of_refused turn
    refine .quiet (by cases next <;> rfl) ?_ ?_ <;> cases state <;>
      grind [WaitingRoom.Admit.turn, Server.refuse, Server.stay]

/-! ## Along a run -/

/-- Where a step changes one booking, it changes no other. -/
theorem Stepped.elsewhere (stepped : Stepped (fun _ => True) w a w')
    (changed : w'.db.booking id ≠ w.db.booking id) :
    ∀ other, other ≠ id → w'.db.booking other = w.db.booking other := by
  cases stepped
  case same unchanged => exact absurd (unchanged id) changed
  case moves moved _ _ _ _ _ _ elsewhere =>
    have same : id = moved := by
      by_contra different
      exact changed (elsewhere id different)
    exact same ▸ elsewhere

/-- What a turn commits, its request publishes next. -/
theorem commits_turn (sound : World.Sound (fun _ => True) w)
    (taken : step cfg w (.turn pid c) = some w') (serving : w.procs[pid]? = some p)
    (turn : p.turn cfg c held w.shared = some (w'.shared, p')) :
    commits ⟨w, .turn pid c, w'⟩ = p'.announcing := by
  have stepped := (sound.next spelled_any taken).2
  have completes : completion ⟨w, .turn pid c, w'⟩ = p.completing := by
    simp [completion, serving]
  rw [commits, completes]
  cases p.committing (sound.sound p (List.mem_of_getElem? serving)) turn
  case quiet owes reservations payments =>
    rw [owes]
    dsimp only
    rw [Pool.db, Pool.db, reservations, payments, written_self, written_self]
    split <;> rfl
  case reservation id r owes other after changed payments =>
    have elsewhere := stepped.elsewhere fun same =>
      changed ((congrArg Booking.reservation same).symm.trans after)
    have rows : written w.db.reservations w'.db.reservations = [r] :=
      written_reservations after changed elsewhere
    have none : written w.db.payments w'.db.payments = [] := by
      rw [Pool.db, payments, written_self]
    rw [owes, other, rows, none]
    rfl
  case payment id payment owes other after changed =>
    have elsewhere := stepped.elsewhere fun same =>
      changed ((congrArg Booking.payment same).symm.trans after)
    have rows : written w.db.payments w'.db.payments = [payment] :=
      written_payments after changed elsewhere
    rw [owes, rows]
    rcases other with completes | same
    · rw [completes]
      rfl
    · have none : written w.db.reservations w'.db.reservations = [] := by
        rw [Pool.db, same, written_self]
      rw [none]
      split <;> rfl

/-- Published and owed events together are the committed transitions. -/
def Mirrored (ts : List (Transition World Action)) (w : World) : Prop :=
  (published w.shared.log ++ w.procs.flatMap Proc.announcing).Perm (ts.flatMap commits)

theorem commits_of_same (db : w'.db = w.db) : commits ⟨w, a, w'⟩ = [] := by
  rw [commits]
  dsimp only
  rw [db, written_self, written_self]
  split <;> rfl

theorem mirrored_next (sound : World.Sound (fun _ => True) w) (mirrored : Mirrored ts w)
    (unbroken : Unbroken ⟨w, a, w'⟩) (taken : step cfg w a = some w') :
    Mirrored (ts ++ [⟨w, a, w'⟩]) w' := by
  unfold Mirrored at mirrored ⊢
  rw [List.flatMap_append, List.flatMap_singleton]
  have stays (db : w'.db = w.db) (log : w'.shared.log = w.shared.log)
      (owed : (w'.procs.flatMap Proc.announcing).Perm (w.procs.flatMap Proc.announcing)) :
      (published w'.shared.log ++ w'.procs.flatMap Proc.announcing).Perm
        (ts.flatMap commits ++ commits ⟨w, a, w'⟩) := by
    rw [commits_of_same db, List.append_nil, log]
    exact (owed.append_left _).trans mirrored
  cases step_cases taken
  case request r accepted =>
    refine stays rfl rfl ?_
    have none : r.proc.announcing = [] := by
      cases r <;> rfl
    simp [none]
  case pass => exact stays rfl rfl .rfl
  case drop => exact stays rfl rfl .rfl
  case crash pid p serving =>
    have none : p.announcing = [] := by
      simpa [Unbroken, serving] using unbroken
    refine stays rfl rfl ?_
    have swapped : ((w.procs.set pid (.done (.error .crash))).flatMap Proc.announcing ++
        p.announcing).Perm (w.procs.flatMap Proc.announcing ++ []) :=
      Pool.flatMap_set_perm Proc.announcing serving
    rwa [none, List.append_nil, List.append_nil] at swapped
  case turn pid c p p' serving procs turn =>
    have swapped : ((w.procs.set pid p').flatMap Proc.announcing ++ p.announcing).Perm
        (w.procs.flatMap Proc.announcing ++ p'.announcing) :=
      Pool.flatMap_set_perm Proc.announcing serving
    rw [commits_turn sound taken serving turn, published_turn turn, procs, List.append_assoc]
    have turned : (p.announcing ++ (w.procs.set pid p').flatMap Proc.announcing).Perm
        (w.procs.flatMap Proc.announcing ++ p'.announcing) :=
      List.perm_append_comm.trans swapped
    refine (turned.append_left _).trans ?_
    rw [← List.append_assoc]
    exact mirrored.append_right _

/-- Where no process died between its commit and its publish, and none stands there now,
what was published is what was committed, one event for every transition: those of the
payments, and those of the reservations that completions did not make. -/
theorem published_perm_committed (run : Run (step cfg) (initial catalog) ts w)
    (unbroken : ∀ t ∈ ts, Unbroken t) (idle : ∀ p ∈ w.procs, p.announcing = []) :
    (published w.shared.log).Perm (ts.flatMap commits) := by
  have mirrored : Mirrored ts w := by
    refine run.history (P := Mirrored) unbroken .nil ?_
    rintro ts w a w' run - mirrored unbroken taken
    exact mirrored_next (sound_of_run run within_any) mirrored unbroken taken
  have none : w.procs.flatMap Proc.announcing = [] := List.flatMap_eq_nil_iff.mpr idle
  rwa [Mirrored, none, List.append_nil] at mirrored

instance : DecidablePred Unbroken
  | ⟨w, .crash pid, _⟩ =>
    inferInstanceAs (Decidable ((w.procs[pid]?).all fun p => p.announcing = []))
  | ⟨_, .request _, _⟩ | ⟨_, .turn _ _, _⟩ | ⟨_, .pass _, _⟩ | ⟨_, .drop _, _⟩ => .isTrue trivial

theorem published_perm_committed_purchase :
    (published (replayed purchase purchase_enabled).shared.log).Perm
      ((transitions (step sampleConfig) (initial sampleCatalog) purchase).flatMap commits) :=
  published_perm_committed (run_replay purchase_enabled) (by decide +kernel) (by decide +kernel)

/-- The event is about the reservation. -/
def Notice.tells (id : Uuid) : Notice → Bool
  | .created r | .cancelled r | .confirmed r => r.id = id
  | .expired id' => id' = id
  | .started _ | .succeeded _ | .failed _ => false

/-- The event is about the payment. -/
def Notice.pays (id : Uuid) : Notice → Bool
  | .started payment | .succeeded payment | .failed payment => payment.id = id
  | .created _ | .cancelled _ | .confirmed _ | .expired _ => false

/-- The step writes the row of the reservation. -/
def moves (id : Uuid) (t : Transition World Action) : Bool :=
  (t.source.db.booking id).reservation ≠ (t.target.db.booking id).reservation

/-- A payment is completed before the call that started it has published its start. -/
def hasty : List Action :=
  reserve ++ .request (.start customer ⟨flatText '1', List.replicate 8 'k'⟩) ::
    (startTurns 1 1 (flat 3)).take 3 ++ succeed ++ (startTurns 1 1 (flat 3)).drop 3

private theorem hasty_enabled :
    (exec (step sampleConfig) (initial sampleCatalog) hasty).isSome = true := by
  decide +kernel

/-- A purchase confirms the reservation and publishes nothing about it but that it was
created; and a payment may be heard to succeed before it is heard to start. -/
theorem unannounced :
    (¬ ∀ (cfg : Config) (catalog : Catalog) (ts : List (Transition World Action)) (w : World),
      Run (step cfg) (initial catalog) ts w → (∀ t ∈ ts, Unbroken t) →
      (∀ p ∈ w.procs, p.announcing = []) →
        ∀ id, (published w.shared.log).countP (·.tells id) = ts.countP (moves id)) ∧
    ¬ ∀ (cfg : Config) (catalog : Catalog) (ts : List (Transition World Action)) (w : World),
      Run (step cfg) (initial catalog) ts w → (∀ t ∈ ts, Unbroken t) →
      (∀ p ∈ w.procs, p.announcing = []) →
        ∀ id, (published w.shared.log).filter (·.pays id) = (ts.flatMap commits).filter (·.pays id) := by
  constructor
  · intro heard
    have each := heard _ _ _ _ (run_replay purchase_enabled) (by decide +kernel) (by decide +kernel)
      (flat 1)
    revert each
    decide +kernel
  · intro heard
    have each := heard _ _ _ _ (run_replay hasty_enabled) (by decide +kernel) (by decide +kernel)
      (flat 3)
    revert each
    decide +kernel

end KiTicket
