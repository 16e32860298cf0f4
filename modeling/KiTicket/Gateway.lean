import KiTicket.Announcements
import KiTicket.Sessions
import KiTicket.Wallet

/-! `realtime.gateway.ts`. A socket is put in the room of the user its token names and may
join the rooms of events; what the handlers emit goes to the sockets that are in its room at
that moment. The token is looked at once, when the socket connects. There is one process,
as in `docker-compose.yml`: no adapter would carry an emission to another. -/
namespace KiTicket
open Reservations Payments WaitingRoom Tickets Runs KiTicket.Lists

variable {cfg : Config} {c : Choice} {held : List RowLock} {server server' : Server} {p p' : Proc}
  {w w' : World} {s s' : Site} {ts : List (Transition Site Site.Action)} {listing : Listing}
  {id : Uuid} {userId : Text} {db db' : Db}

/-! ## What a request emits -/

/-- The emissions of a request's next turn, whether its call fails or not. -/
def Proc.emits : Proc → List Emission
  | .create (.announce reservation seatIds) =>
    [.emitEvent reservation.eventId .seatStatusChanged (.seats reservation.eventId seatIds .locked),
      .publish .reservationCreated (.reservation reservation) reservation.userId]
  | .cancel (.release reservation seats) => freed .reservationCancelled reservation seats
  | .expire (.release reservation seats _ _) => freed .reservationExpired reservation seats
  | .start (.announce user payment) =>
    [.emitUser user.sub .paymentStarted (.payment payment),
      .publish .paymentStarted (.payment payment) user.sub]
  | .complete (.release result) => completed result
  | _ => []

theorem log_turn (turn : p.turn cfg c held server = some (server', p')) :
    server'.log = server.log ++ p.emits := by
  have silent (none : p.emits = []) (same : server'.log = server.log) :
      server'.log = server.log ++ p.emits := by
    rw [none, same, List.append_nil]
  cases p <;> simp only [Proc.turn, turnOf_eq_some] at turn
  case done => cases turn
  all_goals
    obtain ⟨next, turn, -⟩ := turn
    rename_i state
  case create =>
    split at turn
    · cases state <;> simp only [Create.fault] at turn <;> cases turn <;> exact silent rfl rfl
    cases state
    case announce =>
      cases turn
      rfl
    all_goals
      refine silent rfl ?_
      grind [Create.turn, Server.refuse, Server.stay, releaseLocks]
  case cancel =>
    split at turn
    · cases state <;> cases turn <;> first | rfl | exact silent rfl rfl
    cases state
    case release =>
      cases turn
      rfl
    all_goals
      refine silent rfl ?_
      grind [Cancel.turn, Server.refuse, Server.stay]
  case expire =>
    split at turn
    · cases state <;> simp only [Expire.fault, Expire.finish] at turn
      case release =>
        rw [Expire.loop_log turn]
        rfl
      all_goals
        cases turn
        exact silent rfl rfl
    cases state <;> simp only [Expire.turn, Expire.finish] at turn
    case getMany =>
      obtain ⟨selected, -, turn⟩ := Option.bind_eq_some_iff.mp turn
      exact silent rfl (Expire.loop_log turn)
    case findSeats =>
      cases turn
      exact silent rfl rfl
    case commit =>
      split at turn
      · split at turn <;> cases turn
        exact silent rfl rfl
      · exact silent rfl (Expire.loop_log turn)
    case release =>
      rw [Expire.loop_log turn]
      rfl
  case start =>
    split at turn
    · cases state <;> simp only [Start.fault] at turn <;> cases turn <;> exact silent rfl rfl
    cases state
    case announce =>
      cases turn
      rfl
    all_goals
      refine silent rfl ?_
      grind [Start.turn, Server.refuse, Server.stay]
  case complete =>
    split at turn
    · cases state <;> cases turn <;> first | rfl | exact silent rfl rfl
    cases state
    case release =>
      cases turn
      rfl
    all_goals
      refine silent rfl ?_
      grind [Complete.turn, Server.refuse, Server.stay]
  case checkIn =>
    refine silent rfl ?_
    split at turn
    · cases turn
      rfl
    · cases state <;> grind [CheckIn.turn, Server.refuse, Server.stay]
  case join =>
    refine silent rfl ?_
    split at turn
    · cases turn
      rfl
    · cases state <;> grind [Join.turn, Server.refuse, Server.stay]
  case admitUsers =>
    refine silent rfl ?_
    split at turn
    · cases turn
      rfl
    · cases state <;> grind [Admit.turn, Server.refuse, Server.stay]

/-- What a step of the site emits. -/
def Site.emits (s : Site) : Site.Action → List Emission
  | .booking (.turn pid _) => (s.world.procs[pid]?).elim [] Proc.emits
  | _ => []

/-- The reservation is the user's. -/
def Db.Owns (db : Db) (userId : Text) (id : Uuid) : Prop :=
  ∃ r ∈ db.reservations.rows, r.id = id ∧ r.userId = userId

/-- What goes to a user is about that user's payments and tickets; what goes to everybody
who looks at an event is about its seats. -/
def Emission.Concerns (db : Db) : Emission → Prop
  | .emitUser userId _ (.payment payment) => db.Owns userId payment.reservationId
  | .emitUser userId _ (.ticketIds ids) =>
    ∀ id ∈ ids, ∃ ticket ∈ db.tickets.rows, ticket.id = id ∧ db.Owns userId ticket.reservationId
  | .emitEvent eventId _ (.seats of _ _) => of = eventId
  | .publish _ _ _ => True
  | _ => False

/-- The requests that will emit to a user know whose the reservation is. -/
def Proc.Tells (db : Db) : Proc → Prop
  | .start (.save user _ r) => db.Owns user.sub r.id
  | .start (.announce user payment) => db.Owns user.sub payment.reservationId
  | .complete (.findSeats _ p r) | .complete (.commit _ p r _) =>
    p.reservationId = r.id ∧ db.Owns r.userId r.id
  | .complete (.release result) => db.Owns result.reservation.userId result.payment.reservationId ∧
      ∀ ticket ∈ result.tickets, ticket.IssuedIn db.tickets.rows ∧
        ticket.reservationId = result.payment.reservationId
  | _ => True

theorem owns_of_find {r : Reservation} (found : findReservation db id = some r) :
    r.id = id ∧ db.Owns r.userId id := by
  obtain ⟨member, named⟩ := booking_reservation_eq_some.mp (findReservation_eq.symm.trans found)
  exact ⟨named, r, member, named, rfl⟩

theorem Db.Owns.next (owns : w.db.Owns userId id) (sound : World.Sound (fun _ => True) w) {a : Action}
    (taken : step cfg w a = some w') : w'.db.Owns userId id := by
  obtain ⟨r, member, rfl, rfl⟩ := owns
  obtain ⟨state, after⟩ :=
    reservation_of_run (.single taken) sound (booking_reservation_eq_some.mpr ⟨member, rfl⟩)
  obtain ⟨stored, -⟩ := booking_reservation_eq_some.mp after
  exact ⟨_, stored, rfl, rfl⟩

theorem Proc.Tells.mono (tells : p.Tells db) (owns : ∀ userId id, db.Owns userId id → db'.Owns userId id)
    (issued : ∀ ticket : Ticket, ticket.IssuedIn db.tickets.rows → ticket.IssuedIn db'.tickets.rows) :
    p.Tells db' := by
  cases p
  case start state =>
    cases state
    case save => exact owns _ _ tells
    case announce => exact owns _ _ tells
    all_goals trivial
  case complete state =>
    cases state
    case findSeats => exact ⟨tells.1, owns _ _ tells.2⟩
    case commit => exact ⟨tells.1, owns _ _ tells.2⟩
    case release =>
      exact ⟨owns _ _ tells.1, fun ticket member =>
        ⟨issued ticket (tells.2 ticket member).1, (tells.2 ticket member).2⟩⟩
    all_goals trivial
  all_goals trivial

theorem concerns_of_event {topic : Topic} {payload : Payload}
    (concerns : (Emission.emitEvent id topic payload).Concerns db) :
    (Emission.emitEvent id topic payload).Concerns db' := by
  cases payload <;> exact concerns

theorem Emission.Concerns.mono {e : Emission} (concerns : e.Concerns db)
    (owns : ∀ userId id, db.Owns userId id → db'.Owns userId id)
    (issued : ∀ ticket : Ticket, ticket.IssuedIn db.tickets.rows → ticket.IssuedIn db'.tickets.rows) :
    e.Concerns db' := by
  cases e
  case emitUser userId topic payload =>
    cases payload
    case payment => exact owns _ _ concerns
    case ticketIds =>
      intro id member
      obtain ⟨ticket, stored, named, mine⟩ := concerns id member
      obtain ⟨row, kept, same⟩ := issued ticket ⟨ticket, stored, rfl⟩
      have of : row.reservationId = ticket.reservationId :=
        (congrArg Ticket.reservationId same : row.issued.reservationId = ticket.issued.reservationId)
      exact ⟨row, kept, (id_of_issued same).trans named, of ▸ owns _ _ mine⟩
    all_goals exact concerns
  case emitEvent => exact concerns_of_event concerns
  case publish => trivial

/-- What a request emits concerns whom it goes to. -/
theorem Proc.Tells.emits (tells : p.Tells db) : ∀ e ∈ p.emits, e.Concerns db := by
  have rest : ∀ e ∈ ([] : List Emission), e.Concerns db := fun e member => absurd member List.not_mem_nil
  cases p
  case create state =>
    cases state
    case announce => simp [Proc.emits, Emission.Concerns]
    all_goals exact rest
  case cancel state =>
    cases state
    case release => simp [Proc.emits, freed, Emission.Concerns]
    all_goals exact rest
  case expire state =>
    cases state
    case release => simp [Proc.emits, freed, Emission.Concerns]
    all_goals exact rest
  case start state =>
    cases state
    case announce user payment =>
      intro e member
      rcases List.mem_pair.mp member with rfl | rfl
      · exact tells
      · trivial
    all_goals exact rest
  case complete state =>
    cases state
    case release result =>
      intro e member
      obtain ⟨owner, tickets⟩ := tells
      have issued : (Emission.emitUser result.reservation.userId .ticketIssued
          (.ticketIds (result.tickets.map Ticket.id))).Concerns db := by
        intro id named
        obtain ⟨ticket, inside, rfl⟩ := List.mem_map.mp named
        obtain ⟨⟨row, stored, same⟩, of⟩ := tickets ticket inside
        have mine : row.reservationId = ticket.reservationId :=
          (congrArg Ticket.reservationId same : row.issued.reservationId = ticket.issued.reservationId)
        exact ⟨row, stored, id_of_issued same, (mine.trans of) ▸ owner⟩
      simp only [Proc.emits, completed] at member
      rcases List.mem_append.mp member with first | last
      · simp only [List.mem_cons, List.not_mem_nil, or_false] at first
        rcases first with rfl | rfl | rfl
        · exact owner
        · rfl
        · trivial
      · split at last
        · cases last
        · rcases List.mem_pair.mp last with rfl | rfl
          · exact issued
          · trivial
    all_goals exact rest
  all_goals exact rest

theorem Payments.Start.tells {state : Start} {next : Next Start}
    (turn : state.turn c server = some (server', next)) (tells : (Proc.start state).Tells server.db)
    (kept : ∀ userId id, server.db.Owns userId id → server'.db.Owns userId id) :
    (next.proc .start).Tells server'.db := by
  cases state <;> simp only [Start.turn] at turn
  case findByKey =>
    split at turn <;> cases turn <;> trivial
  case findReservation user body =>
    split at turn
    · cases turn
      trivial
    split at turn
    · cases turn
      trivial
    rename_i r found
    split at turn
    · cases turn
      trivial
    rename_i mine
    split at turn <;> cases turn
    · trivial
    · obtain ⟨named, owns⟩ := owns_of_find found
      rw [not_not.mp mine, ← named] at owns
      exact owns
  case findLinked =>
    split at turn
    · cases turn
      trivial
    · split at turn <;> cases turn <;> trivial
  case save user body r =>
    split at turn
    · split at turn <;> cases turn
      · exact kept _ _ tells
      · trivial
    · cases turn
  case announce =>
    cases turn
    trivial
  case findByReservation => split at turn <;> cases turn <;> trivial

theorem Payments.Complete.tells {state : Complete} {next : Next Complete}
    (turn : state.turn cfg c held server = some (server', next))
    (tells : (Proc.complete state).Tells server.db)
    (kept : ∀ userId id, server.db.Owns userId id → server'.db.Owns userId id) :
    (next.proc .complete).Tells server'.db := by
  cases state <;> simp only [Complete.turn] at turn
  case findPayment =>
    split at turn
    · cases turn
      trivial
    split at turn
    · cases turn
      trivial
    split at turn <;> cases turn
    trivial
  case findReservation user body p =>
    split at turn
    · cases turn
      trivial
    rename_i r found
    split at turn
    · cases turn
    split at turn <;> cases turn
    · trivial
    · obtain ⟨named, owns⟩ := owns_of_find found
      exact ⟨named.symm, named ▸ owns⟩
  case findSeats body p r =>
    split at turn <;> cases turn
    · trivial
    · exact tells
  case findTickets =>
    cases turn
    trivial
  case commit body p r seats =>
    obtain ⟨of, owns⟩ := tells
    have mine : server'.db.Owns r.userId p.reservationId := kept _ _ (of ▸ owns)
    split at turn
    · split at turn
      · cases turn
        trivial
      split at turn
      · split at turn
        · cases turn
        split at turn <;> cases turn
        · trivial
        rename_i db result confirmed
        unfold confirm at confirmed
        dsimp only at confirmed
        split at confirmed <;> cases confirmed
        rename_i issued
        refine ⟨mine, fun ticket member => ⟨⟨ticket, ?_, rfl⟩, ?_⟩⟩
        · exact Table.insert?_eq_some.mp issued ▸ List.mem_append_right _ member
        · obtain ⟨_, -, _, -, rfl⟩ := exists_of_mem_zipWith member
          exact of.symm
      · cases turn
    · cases turn
      exact ⟨mine, fun ticket member => absurd member List.not_mem_nil⟩
  case release =>
    cases turn
    trivial

theorem tells_turn (tells : p.Tells server.db)
    (turn : p.turn cfg c held server = some (server', p'))
    (kept : ∀ userId id, server.db.Owns userId id → server'.db.Owns userId id) :
    p'.Tells server'.db := by
  cases p <;> simp only [Proc.turn, turnOf_eq_some] at turn
  case done => cases turn
  all_goals
    obtain ⟨next, turn, rfl⟩ := turn
    rename_i state
  case start =>
    split at turn
    · cases state <;> simp only [Start.fault] at turn <;> cases turn <;> trivial
    · exact Start.tells turn tells kept
  case complete =>
    split at turn
    · cases state <;> cases turn <;> trivial
    · exact Complete.tells turn tells kept
  all_goals cases next <;> trivial

/-- What has been said so far concerns whom it was said to, and so will what comes. -/
structure World.Discreet (w : World) : Prop where
  procs : ∀ p ∈ w.procs, p.Tells w.db
  log : ∀ e ∈ w.shared.log, e.Concerns w.db

theorem Request.tells (r : Request) : r.proc.Tells db := by
  cases r <;> trivial

theorem World.Discreet.next (discreet : World.Discreet w) (sound : World.Sound (fun _ => True) w)
    {a : Action} (taken : step cfg w a = some w') : World.Discreet w' := by
  have owns (userId : Text) (id : Uuid) : w.db.Owns userId id → w'.db.Owns userId id :=
    fun mine => mine.next sound taken
  have issued (ticket : Ticket) : ticket.IssuedIn w.db.tickets.rows → ticket.IssuedIn w'.db.tickets.rows :=
    fun stored => stored.next taken
  constructor
  · refine forall_procs taken discreet.procs (fun p tells => tells.mono owns issued) ?_ ?_ ?_
    · exact fun r => r.tells
    · exact fun _ => trivial
    · exact fun _ _ _ _ _ tells turn => tells_turn tells turn owns
  · have old : ∀ e ∈ w.shared.log, e.Concerns w'.db :=
      fun e member => (discreet.log e member).mono owns issued
    cases step_cases taken
    case turn pid c p p' serving procs turn =>
      intro e member
      rw [log_turn turn] at member
      rcases List.mem_append.mp member with before | new
      · exact old e before
      · exact ((discreet.procs p (List.mem_of_getElem? serving)).emits e new).mono owns issued
    all_goals exact old

structure Socket where
  connected : Bool
  rooms : List Text
  /-- What was sent to it, in order. -/
  heard : List Emission
deriving DecidableEq

namespace UpdatesGateway

/-- `/^[0-9a-f]{8}-[0-9a-f]{4}-[1-5][0-9a-f]{3}-[89ab][0-9a-f]{3}-[0-9a-f]{12}$/i` -/
def uuidPattern (text : Text) : Bool :=
  uuidLayout text && versionDigit ['1', '2', '3', '4', '5'] text

/-- `user:${userId}` -/
def userRoom (userId : Text) : Text := "user:".toList ++ userId

/-- `event:${eventId}` -/
def eventRoom (eventId : Text) : Text := "event:".toList ++ eventId

/-- The room an emission goes to; what is published goes to the broker. -/
def room : Emission → Option Text
  | .emitUser userId _ _ => some (userRoom userId)
  | .emitEvent eventId _ _ => some (eventRoom eventId.text)
  | .publish _ _ _ => none

/-- `handleConnection`; `token` is the handshake's, where it is a string. -/
def handleConnection (jwt : Jwt) (now : Nat) (token : Option Text) : Socket :=
  match token.bind (jwt.verify now) with
  | none => ⟨false, [], []⟩
  | some user => ⟨true, [userRoom user.sub], []⟩

/-- `event.subscribe`; `eventId` is the argument, where it is a string. -/
def subscribe (socket : Socket) (eventId : Option Text) : Socket :=
  match eventId with
  | some eventId =>
    if socket.connected ∧ uuidPattern eventId then
      { socket with rooms := socket.rooms.insert (eventRoom eventId) }
    else socket
  | none => socket

/-- `event.unsubscribe` -/
def unsubscribe (socket : Socket) (eventId : Option Text) : Socket :=
  match eventId with
  | some eventId =>
    if socket.connected ∧ uuidPattern eventId then
      { socket with rooms := socket.rooms.filter (· ≠ eventRoom eventId) }
    else socket
  | none => socket

/-- A socket that disconnects leaves its rooms. -/
def disconnect (socket : Socket) : Socket := { socket with connected := false, rooms := [] }

/-- The emission goes to a room the socket is in. -/
def reaches (rooms : List Text) (e : Emission) : Bool :=
  (room e).any fun room => rooms.any (· = room)

def deliver (said : List Emission) (socket : Socket) : Socket :=
  { socket with heard := socket.heard ++ said.filter (reaches socket.rooms) }

end UpdatesGateway

/-- The portal with the sockets that have connected so far. -/
structure Hub where
  portal : Portal
  sockets : List Socket

namespace Hub
open UpdatesGateway

inductive Action where
  | portal (a : Portal.Action)
  | connect (token : Option Text)
  | subscribe (socket : Nat) (eventId : Option Text)
  | unsubscribe (socket : Nat) (eventId : Option Text)
  | disconnect (socket : Nat)
deriving DecidableEq

/-- What a step of the portal emits. -/
def emits (h : Hub) : Portal.Action → List Emission
  | .site _ a => h.portal.site.emits a
  | _ => []

def step (cfg : Config) (platform : Auth.Platform) (jwt : Jwt) (h : Hub) : Action → Option Hub
  | .portal a => (Portal.step cfg platform jwt h.portal a).map fun portal =>
      ⟨portal, h.sockets.map (deliver (h.emits a))⟩
  | .connect token => some { h with
      sockets := h.sockets ++ [handleConnection jwt h.portal.now token] }
  | .subscribe i eventId => some { h with sockets := h.sockets.modify i (subscribe · eventId) }
  | .unsubscribe i eventId => some { h with sockets := h.sockets.modify i (unsubscribe · eventId) }
  | .disconnect i => some { h with sockets := h.sockets.modify i UpdatesGateway.disconnect }

/-- The socket whose rooms the action is about. -/
def Action.socket : Action → Option Nat
  | .subscribe i _ | .unsubscribe i _ | .disconnect i => some i
  | _ => none

abbrev log (h : Hub) : List Emission := h.portal.site.world.shared.log

variable {cfg : Config} {platform : Auth.Platform} {jwt : Jwt} {h h' : Hub} {a : Action} {i : Nat}
  {ts : List (Transition Hub Action)} {socket : Socket}

/-! ## What a socket hears -/

/-- The socket came with the token. -/
def Connects (jwt : Jwt) (t : Transition Hub Action) (i : Nat) (token : Text) (claims : Claims) : Prop :=
  t.action = .connect (some token) ∧ t.source.sockets.length = i ∧
    jwt.verify t.source.portal.now token = some claims

/-- The socket was put in the room when it connected, or asked for it. -/
def Entered (jwt : Jwt) (ts : List (Transition Hub Action)) (i : Nat) (room : Text) : Prop :=
  (∃ t ∈ ts, ∃ token claims, Connects jwt t i token claims ∧ room = userRoom claims.sub) ∨
    ∃ t ∈ ts, ∃ eventId, t.action = .subscribe i (some eventId) ∧ room = eventRoom eventId

/-- All the rooms the socket is in, or heard something in, it has entered. -/
def Placed (jwt : Jwt) (ts : List (Transition Hub Action)) (i : Nat) (socket : Socket) : Prop :=
  (∀ room ∈ socket.rooms, Entered jwt ts i room) ∧
    ∀ e ∈ socket.heard, ∃ room, UpdatesGateway.room e = some room ∧ Entered jwt ts i room

theorem Entered.mono {us : List (Transition Hub Action)} {room : Text} (entered : Entered jwt ts i room)
    (more : ts ⊆ us) : Entered jwt us i room :=
  entered.imp (fun ⟨t, member, rest⟩ => ⟨t, more member, rest⟩)
    fun ⟨t, member, rest⟩ => ⟨t, more member, rest⟩

theorem Placed.mono {us : List (Transition Hub Action)} (placed : Placed jwt ts i socket)
    (more : ts ⊆ us) : Placed jwt us i socket :=
  ⟨fun room member => (placed.1 room member).mono more, fun e member => by
    obtain ⟨room, goes, entered⟩ := placed.2 e member
    exact ⟨room, goes, entered.mono more⟩⟩

theorem Placed.deliver (placed : Placed jwt ts i socket) (said : List Emission) :
    Placed jwt ts i (deliver said socket) := by
  refine ⟨placed.1, fun e member => ?_⟩
  rcases List.mem_append.mp member with old | new
  · exact placed.2 e old
  · obtain ⟨room, goes, inside⟩ := (Option.any_eq_true _ _).mp (List.mem_filter.mp new).2
    obtain ⟨joined, member, same⟩ := List.any_eq_true.mp inside
    exact ⟨room, goes, of_decide_eq_true same ▸ placed.1 joined member⟩

theorem placed_of_connect {t : Transition Hub Action} {token : Option Text} (member : t ∈ ts)
    (connects : t.action = .connect token) (at_i : t.source.sockets.length = i) :
    Placed jwt ts i (handleConnection jwt t.source.portal.now token) := by
  unfold handleConnection
  split
  · exact ⟨fun _ none => absurd none List.not_mem_nil, fun _ none => absurd none List.not_mem_nil⟩
  · rename_i claims verified
    obtain ⟨token, rfl, verified⟩ := Option.bind_eq_some_iff.mp verified
    refine ⟨fun room inside => ?_, fun _ none => absurd none List.not_mem_nil⟩
    cases List.mem_singleton.mp inside
    exact .inl ⟨t, member, token, claims, ⟨connects, at_i, verified⟩, rfl⟩

theorem Placed.subscribe {t : Transition Hub Action} {eventId : Option Text}
    (placed : Placed jwt ts i socket) (member : t ∈ ts) (asks : t.action = .subscribe i eventId) :
    Placed jwt ts i (UpdatesGateway.subscribe socket eventId) := by
  unfold UpdatesGateway.subscribe
  split
  · rename_i eventId
    split
    · refine ⟨fun room inside => ?_, placed.2⟩
      rcases List.mem_insert_iff.mp inside with rfl | old
      · exact .inr ⟨t, member, eventId, asks, rfl⟩
      · exact placed.1 room old
    · exact placed
  · exact placed

theorem Placed.unsubscribe {eventId : Option Text} (placed : Placed jwt ts i socket) :
    Placed jwt ts i (UpdatesGateway.unsubscribe socket eventId) := by
  unfold UpdatesGateway.unsubscribe
  split
  · split
    · exact ⟨fun room inside => placed.1 room (List.mem_filter.mp inside).1, placed.2⟩
    · exact placed
  · exact placed

/-- A change to one socket keeps all in the rooms they entered. -/
theorem placed_modify {us : List (Transition Hub Action)} {sockets : List Socket} {j : Nat}
    {change : Socket → Socket} (before : ∀ i socket, sockets[i]? = some socket → Placed jwt ts i socket)
    (more : ts ⊆ us) (changed : ∀ socket, Placed jwt us j socket → Placed jwt us j (change socket)) :
    ∀ i socket, (sockets.modify j change)[i]? = some socket → Placed jwt us i socket := by
  intro i socket here
  by_cases same : j = i
  · subst same
    rw [List.getElem?_modify_eq] at here
    obtain ⟨old, found, rfl⟩ := Option.map_eq_some_iff.mp here
    exact changed old ((before j old found).mono more)
  · rw [List.getElem?_modify_ne _ _ same] at here
    exact (before i socket here).mono more

theorem placed_of_run {portal : Portal} (run : Run (step cfg platform jwt) ⟨portal, []⟩ ts h) :
    ∀ i socket, h.sockets[i]? = some socket → Placed jwt ts i socket := by
  refine run.history (P := fun ts h => ∀ i socket, h.sockets[i]? = some socket → Placed jwt ts i socket)
    (fun _ _ => (trivial : True)) (fun i socket here => by simp at here) ?_
  rintro ts h₁ a h₂ - - before - taken
  have more : ts ⊆ ts ++ [⟨h₁, a, h₂⟩] := List.subset_append_left _ _
  cases a
  case portal a =>
    obtain ⟨p, -, rfl⟩ := Option.map_eq_some_iff.mp taken
    intro i socket here
    rw [List.getElem?_map, Option.map_eq_some_iff] at here
    obtain ⟨old, here, rfl⟩ := here
    exact ((before i old here).mono more).deliver _
  case connect token =>
    cases taken
    intro i socket here
    rw [List.getElem?_append] at here
    split at here
    · exact (before i socket here).mono more
    · obtain ⟨last, same⟩ := List.getElem?_eq_some_iff.mp here
      have first : i - h₁.sockets.length = 0 := Nat.lt_one_iff.mp last
      have at_i : h₁.sockets.length = i := by omega
      rw [List.getElem_singleton] at same
      exact same ▸ placed_of_connect List.mem_concat_self rfl at_i
  case subscribe j eventId =>
    cases taken
    exact placed_modify before more fun socket placed => placed.subscribe List.mem_concat_self rfl
  case unsubscribe j eventId =>
    cases taken
    exact placed_modify before more fun socket placed => placed.unsubscribe
  case disconnect j =>
    cases taken
    exact placed_modify before more fun socket placed =>
      ⟨fun room inside => absurd inside List.not_mem_nil, placed.2⟩

/-- Nobody connects with a token that was made up. -/
def Unforged (jwt : Jwt) (t : Transition Hub Action) : Prop :=
  ∀ token, t.action = .connect (some token) → ∀ now claims,
    jwt.verify now token = some claims → ∃ g ∈ t.source.portal.granted, g.token = token

abbrev plainStep := step sampleConfig Portal.plainPlatform Portal.plainJwt

/-- The token a socket connects with, if any, was handed out. -/
def presents (t : Transition Hub Action) : Bool :=
  match t.action with
  | .connect (some token) => t.source.portal.granted.any (·.token = token)
  | _ => true

theorem unforged_of_all (presented : ts.all presents = true) : ∀ t ∈ ts, Unforged jwt t := by
  intro t member token connects now claims _
  have presented := List.all_eq_true.mp presented t member
  rw [presents, connects, List.any_eq_true] at presented
  obtain ⟨g, granted, same⟩ := presented
  exact ⟨g, granted, of_decide_eq_true same⟩

end Hub

end KiTicket
