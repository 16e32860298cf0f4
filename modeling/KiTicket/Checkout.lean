import KiTicket.Starts

/-! `Checkout.tsx` and `api.ts`: paying from the browser. A press of the button sends
two calls, one after the other, over a network that may lose a request or an answer
or bring a request late. The page keeps its idempotency key in `sessionStorage`, and
whatever presses there are, under one key they make one purchase. -/
namespace KiTicket
open Runs Payments Reservations

/-! ## The page -/

/-- One call of `api`. A request that has not arrived is on its way, or lost. -/
structure Call where
  request : Request
  /-- The process that serves it. -/
  pid : Option Nat
deriving DecidableEq

/-- How far a press has come. It fails on an error, or for want of an answer. -/
inductive Progress where
  | starting
  | completing
  | reported (payment : Payment) (reservation : Reservation) (tickets : List Ticket)
  | failed (failure : Option Failure)
deriving DecidableEq

/-- One run of `pay`. -/
structure Press where
  outcome : PaymentOutcome
  /-- The visit of the page it belongs to. -/
  visit : Nat
  /-- The call it has made last. -/
  call : Call
  progress : Progress
deriving DecidableEq

/-- The server, and a browser tab on `/checkout/:reservationId`. -/
structure Checkout where
  world : World
  /-- What `sessionStorage` has under `narm-idempotency-` and the reservation's id. -/
  stored : Option Text
  visits : Nat
  terminal : Bool
  presses : List Press

def Press.reports (press : Press) : Bool :=
  match press.progress with
  | .reported _ _ _ => true
  | _ => false

/-- The key that is stored, or a new one. -/
def idempotencyKey (stored : Option Text) (scope random : Text) : Text :=
  stored.getD (scope ++ '-' :: random)

/-- What `pay` makes of an answer to the call it waits for. -/
def Press.receive (user : AuthenticatedUser) (press : Press) : Response → Option Press
  | .payment payment =>
    if press.progress = .starting then
      some { press with
        call := ⟨.complete user payment.id.text ⟨press.outcome, none⟩, none⟩
        progress := .completing }
    else none
  | .completed payment reservation tickets =>
    if press.progress = .completing then
      some { press with progress := .reported payment reservation tickets }
    else none
  | .error failure =>
    if press.progress = .starting ∨ press.progress = .completing then
      some { press with progress := .failed (some failure) }
    else none
  | _ => none

namespace Checkout

inductive Move where
  /-- The page is opened, again or for the first time. -/
  | visit
  /-- The button is pressed. `random` is drawn for a new key. -/
  | pay (outcome : PaymentOutcome) (random : Text)
  /-- A request arrives, however late. -/
  | deliver (press : Nat)
  /-- An answer arrives. -/
  | receive (press : Nat)
  /-- The call times out, or the connection is lost. -/
  | giveUp (press : Nat)
  /-- Anything the server does, and the requests of everybody else. -/
  | elsewhere (a : Action)
deriving DecidableEq

/-- The reservation is there, and the user's: the page shows the button. -/
def loaded (user : AuthenticatedUser) (reservationId : Uuid) (db : Db) : Bool :=
  (findReservation db reservationId).any (·.userId = user.sub)

theorem loaded_iff {user : AuthenticatedUser} {id : Uuid} {db : Db} :
    loaded user id db = true ↔ ∃ r, (db.booking id).reservation = some r ∧ r.userId = user.sub := by
  rw [loaded, findReservation_eq, Option.any_eq_true]
  simp only [decide_eq_true_eq]

/-- The user starts a payment for the reservation by other means than this tab. -/
def pays (user : AuthenticatedUser) (reservationId : Uuid) : Action → Bool
  | .request (.start asker body) =>
    asker.sub = user.sub && uuid? body.reservationId = some reservationId
  | _ => false

def step (cfg : Config) (user : AuthenticatedUser) (reservationId : Uuid) (s : Checkout) :
    Move → Option Checkout
  | .visit => some { s with visits := s.visits + 1, terminal := false }
  | .pay outcome random =>
    if s.terminal then some s
    else if loaded user reservationId s.world.db then
      let key := idempotencyKey s.stored reservationId.text random
      some { s with
        stored := some key
        presses := s.presses ++
          [⟨outcome, s.visits, ⟨.start user ⟨reservationId.text, key⟩, none⟩, .starting⟩] }
    else none
  | .deliver i => do
    let press ← s.presses[i]?
    if press.call.pid.isSome then none
    else
      let world ← KiTicket.step cfg s.world (.request press.call.request)
      some { s with
        world
        presses := s.presses.set i
          { press with call := { press.call with pid := some s.world.procs.length } } }
  | .receive i => do
    let press ← s.presses[i]?
    let pid ← press.call.pid
    match s.world.procs[pid]? with
    | some (.done response) => do
      let press' ← press.receive user response
      -- what an earlier visit is told no longer ends this one
      some { s with
        terminal := s.terminal || press'.reports && press.visit = s.visits
        presses := s.presses.set i press' }
    | _ => none
  | .giveUp i => do
    let press ← s.presses[i]?
    if press.progress = .starting ∨ press.progress = .completing then
      some { s with presses := s.presses.set i { press with progress := .failed none } }
    else none
  | .elsewhere a =>
    if pays user reservationId a then none
    else do
      let world ← KiTicket.step cfg s.world a
      some { s with world }

/-- Nothing reserved yet, and the page not opened. -/
def opened (catalog : Catalog) : Checkout := ⟨initial catalog, none, 0, false, []⟩

variable {cfg : Config} {catalog : Catalog} {user : AuthenticatedUser} {id : Uuid}
  {s s' : Checkout} {m : Move}

/-- What a move can do to the server and to the presses. -/
inductive Moved (cfg : Config) (user : AuthenticatedUser) (id : Uuid) (s s' : Checkout) : Prop where
  | page (world : s'.world = s.world) (stored : s'.stored = s.stored)
      (presses : s'.presses = s.presses)
  | pays {press : Press} {key : Text} (loaded : loaded user id s.world.db = true)
      (kept : ∀ old, s.stored = some old → old = key) (world : s'.world = s.world)
      (stored : s'.stored = some key) (presses : s'.presses = s.presses ++ [press])
      (call : press.call = ⟨.start user ⟨id.text, key⟩, none⟩) (progress : press.progress = .starting)
  | delivers {i : Nat} {press : Press} (serving : s.presses[i]? = some press)
      (taken : KiTicket.step cfg s.world (.request press.call.request) = some s'.world)
      (stored : s'.stored = s.stored) (presses : s'.presses = s.presses.set i
        { press with call := { press.call with pid := some s.world.procs.length } })
  | receives {i pid : Nat} {press press' : Press} {response : Response}
      (serving : s.presses[i]? = some press) (sent : press.call.pid = some pid)
      (answered : s.world.procs[pid]? = some (.done response))
      (heard : press.receive user response = some press') (world : s'.world = s.world)
      (stored : s'.stored = s.stored) (presses : s'.presses = s.presses.set i press')
  | givesUp {i : Nat} {press : Press} (serving : s.presses[i]? = some press)
      (world : s'.world = s.world) (stored : s'.stored = s.stored)
      (presses : s'.presses = s.presses.set i { press with progress := .failed none })
  | elsewhere {a : Action} (other : ¬ Checkout.pays user id a = true)
      (taken : KiTicket.step cfg s.world a = some s'.world) (stored : s'.stored = s.stored)
      (presses : s'.presses = s.presses)

theorem moved_of_step (taken : step cfg user id s m = some s') : Moved cfg user id s s' := by
  cases m
  case visit =>
    cases taken
    exact .page rfl rfl rfl
  case pay outcome random =>
    simp only [step] at taken
    split at taken
    · cases taken
      exact .page rfl rfl rfl
    split at taken <;> cases taken
    rename_i loaded
    refine .pays loaded ?_ rfl rfl rfl rfl rfl
    intro old stored
    rw [idempotencyKey, stored]
    rfl
  case deliver i =>
    obtain ⟨press, serving, taken⟩ := Option.bind_eq_some_iff.mp taken
    split at taken
    · cases taken
    obtain ⟨world, arrives, last⟩ := Option.bind_eq_some_iff.mp taken
    cases last
    exact .delivers serving arrives rfl rfl
  case receive i =>
    obtain ⟨press, serving, taken⟩ := Option.bind_eq_some_iff.mp taken
    obtain ⟨pid, sent, taken⟩ := Option.bind_eq_some_iff.mp taken
    split at taken
    · rename_i response answered
      obtain ⟨press', heard, last⟩ := Option.bind_eq_some_iff.mp taken
      cases last
      exact .receives serving sent answered heard rfl rfl rfl
    · cases taken
  case giveUp i =>
    obtain ⟨press, serving, taken⟩ := Option.bind_eq_some_iff.mp taken
    split at taken <;> cases taken
    exact .givesUp serving rfl rfl rfl
  case elsewhere a =>
    simp only [step] at taken
    split at taken
    · cases taken
    rename_i other
    obtain ⟨world, serves, last⟩ := Option.bind_eq_some_iff.mp taken
    cases last
    exact .elsewhere other serves rfl rfl

end Checkout

/-! ## One key -/

variable {cfg : Config} {catalog : Catalog} {user : AuthenticatedUser} {id : Uuid}
  {stored stored' : Option Text} {c : Choice} {held : List RowLock} {server server' : Server}
  {q q' : Proc} {p : Payment} {r : Reservation} {issued : List Ticket} {press : Press}
  {w w' : World} {a : Action} {s s' : Checkout} {ts us : List (Transition Checkout Checkout.Move)}

/-- A start of the user's for the reservation that may still insert carries the key. -/
def Proc.Keyed (user : AuthenticatedUser) (id : Uuid) (stored : Option Text) : Proc → Prop
  | .start (.findByKey asker body) | .start (.findReservation asker body) =>
    asker.sub = user.sub → uuid? body.reservationId = some id → stored = some body.idempotencyKey
  | .start (.save _ body r) => r.id = id → r.userId = user.sub → stored = some body.idempotencyKey
  | _ => True

theorem Proc.Keyed.mono (keyed : q.Keyed user id stored)
    (kept : ∀ key, stored = some key → stored' = some key) : q.Keyed user id stored' := by
  cases q
  case start state =>
    cases state
    case findByKey => exact fun mine named => kept _ (keyed mine named)
    case findReservation => exact fun mine named => kept _ (keyed mine named)
    case save => exact fun of mine => kept _ (keyed of mine)
    all_goals trivial
  all_goals trivial

theorem Proc.Keyed.turn (keyed : q.Keyed user id stored)
    (turn : q.turn cfg c held server = some (server', q')) : q'.Keyed user id stored := by
  cases q <;> simp only [Proc.turn, turnOf_eq_some] at turn
  case start state =>
    obtain ⟨next, turn, rfl⟩ := turn
    split at turn
    · cases state <;> simp only [Start.fault] at turn <;> cases turn <;> trivial
    cases state
    case findByKey asker body =>
      obtain ⟨-, ⟨existing, -, rfl⟩ | ⟨-, rfl⟩⟩ := key_cases turn
      · trivial
      · exact keyed
    case findLinked =>
      obtain ⟨-, response, rfl, -⟩ := linked_cases turn
      trivial
    case findReservation asker body =>
      obtain ⟨-, ⟨response, rfl, -⟩ | ⟨r, rfl, payable⟩⟩ := reservation_found_cases turn
      · trivial
      · intro of mine
        exact keyed (payable.owned.symm.trans mine) (of ▸ payable.named)
    case save =>
      obtain ⟨new, -, ⟨payments, -, -, rfl⟩ | ⟨-, -, rfl⟩⟩ := insert_cases turn <;> trivial
    all_goals
      simp only [Start.turn] at turn
      (repeat' split at turn) <;> cases turn <;> trivial
  case done => cases turn
  all_goals
    obtain ⟨next, -, rfl⟩ := turn
    cases next <;> trivial

/-- The payment of the user's reservation is recorded under the key. -/
def Db.Keyed (user : AuthenticatedUser) (id : Uuid) (stored : Option Text) (db : Db) : Prop :=
  ∀ p r, (db.booking id).payment = some p → (db.booking id).reservation = some r →
    r.userId = user.sub → ∃ key, stored = some key ∧ p.idempotencyKey = some key

/-- Every payment the user starts for the reservation carries the stored key. -/
structure World.Keyed (user : AuthenticatedUser) (id : Uuid) (stored : Option Text) (w : World) :
    Prop where
  sound : World.Sound (fun _ => True) w
  coherent : ∀ id, (w.db.booking id).Coherent
  procs : ∀ q ∈ w.procs, q.Keyed user id stored
  db : w.db.Keyed user id stored

theorem World.Keyed.mono (keyed : World.Keyed user id stored w)
    (kept : ∀ key, stored = some key → stored' = some key) : World.Keyed user id stored' w where
  sound := keyed.sound
  coherent := keyed.coherent
  procs q member := (keyed.procs q member).mono kept
  db p r paid of mine := by
    obtain ⟨key, before, named⟩ := keyed.db p r paid of mine
    exact ⟨key, kept key before, named⟩

theorem World.Keyed.next (keyed : World.Keyed user id stored w)
    (arrives : ∀ request, a = .request request → request.proc.Keyed user id stored)
    (taken : step cfg w a = some w') : World.Keyed user id stored w' := by
  obtain ⟨sound, coherent⟩ := keyed.sound.coherent_next keyed.coherent taken
  have stepped := (keyed.sound.next spelled_any taken).2
  refine ⟨sound, coherent, ?_, ?_⟩
  · cases step_cases taken
    case request request accepted =>
      intro q member
      rcases List.mem_append.mp member with old | new
      · exact keyed.procs q old
      · rw [List.mem_singleton.mp new]
        exact arrives request rfl
    case turn pid c q q' serving procs turn =>
      rw [procs]
      exact Pool.forall_set keyed.procs ((keyed.procs q (List.mem_of_getElem? serving)).turn turn)
        fun _ _ _ _ kept => kept
    case crash pid q serving =>
      exact Pool.forall_set keyed.procs trivial fun _ _ _ _ kept => kept
    case pass => exact keyed.procs
    case drop => exact keyed.procs
  · intro p r paid of mine
    rcases payment_cases keyed.sound taken paid with
      ⟨old, paid', -, key⟩ | ⟨pid, c, asker, body, r', new, -, serving, rfl, rfl⟩
    · obtain ⟨r', before⟩ := (keyed.coherent id).exists_of_payment paid'
      obtain ⟨state, after⟩ := stepped.reservation before
      rw [of, Option.some.injEq] at after
      subst after
      rw [key]
      exact keyed.db old r' paid' before mine
    · -- the insert carries the key that its request came with
      have member := List.mem_of_getElem? serving
      obtain ⟨-, state, before⟩ := keyed.sound.sound _ member
      obtain ⟨state', after⟩ := stepped.reservation before
      rw [of, Option.some.injEq] at after
      subst after
      exact ⟨body.idempotencyKey, keyed.procs _ member rfl mine, rfl⟩

/-- And so does every call of a press. -/
structure Checkout.Keyed (user : AuthenticatedUser) (id : Uuid) (s : Checkout) : Prop where
  world : World.Keyed user id s.stored s.world
  calls : ∀ press ∈ s.presses, ∀ asker body, press.call.request = .start asker body →
    s.stored = some body.idempotencyKey

namespace Checkout

theorem keyed_opened : (opened catalog).Keyed user id where
  world := ⟨sound_initial, fun _ => Booking.coherent_nothing,
    fun _ member => absurd member List.not_mem_nil, fun _ _ paid => by cases paid⟩
  calls _ member := absurd member List.not_mem_nil

theorem call_of_receive {press' : Press} {response : Response}
    (heard : press.receive user response = some press') :
    press'.call = press.call ∨ ∃ path body, press'.call.request = .complete user path body := by
  cases response <;> simp only [Press.receive] at heard
  case payment =>
    split at heard <;> cases heard
    exact .inr ⟨_, _, rfl⟩
  case completed =>
    split at heard <;> cases heard
    exact .inl rfl
  case error =>
    split at heard <;> cases heard
    exact .inl rfl
  all_goals cases heard

theorem Keyed.next (keyed : s.Keyed user id) (moved : Moved cfg user id s s') :
    s'.Keyed user id := by
  cases moved
  case page world stored presses =>
    refine ⟨?_, ?_⟩
    · rw [world, stored]
      exact keyed.world
    · rw [presses, stored]
      exact keyed.calls
  case pays press key loaded kept world stored presses call progress =>
    have kept' (old : Text) (before : s.stored = some old) : some key = some old := by
      rw [kept old before]
    refine ⟨?_, ?_⟩
    · rw [world, stored]
      exact keyed.world.mono kept'
    · rw [presses, stored]
      intro other member asker body asks
      rcases List.mem_append.mp member with old | new
      · exact kept' _ (keyed.calls other old asker body asks)
      · rw [List.mem_singleton.mp new, call] at asks
        cases asks
        rfl
  case delivers i press serving taken stored presses =>
    have known := keyed.calls press (List.mem_of_getElem? serving)
    refine ⟨?_, ?_⟩
    · rw [stored]
      refine keyed.world.next (fun request arrives => ?_) taken
      cases arrives
      cases request : press.call.request
      case start asker body => exact fun _ _ => known asker body request
      all_goals trivial
    · rw [presses, stored]
      exact Pool.forall_set keyed.calls known fun _ _ _ _ calls => calls
  case receives i pid press press' response serving sent answered heard world stored presses =>
    refine ⟨?_, ?_⟩
    · rw [world, stored]
      exact keyed.world
    · rw [presses, stored]
      refine Pool.forall_set keyed.calls ?_ fun _ _ _ _ calls => calls
      intro asker body asks
      rcases call_of_receive heard with same | ⟨path, body', completes⟩
      · rw [same] at asks
        exact keyed.calls press (List.mem_of_getElem? serving) asker body asks
      · rw [completes] at asks
        cases asks
  case givesUp i press serving world stored presses =>
    refine ⟨?_, ?_⟩
    · rw [world, stored]
      exact keyed.world
    · rw [presses, stored]
      exact Pool.forall_set keyed.calls (keyed.calls press (List.mem_of_getElem? serving))
        fun _ _ _ _ calls => calls
  case elsewhere a other taken stored presses =>
    refine ⟨?_, ?_⟩
    · rw [stored]
      refine keyed.world.next (fun request arrives => ?_) taken
      subst arrives
      cases request
      case start asker body =>
        intro mine named
        rw [pays, Bool.and_eq_true, decide_eq_true_eq, decide_eq_true_eq] at other
        exact absurd ⟨mine, named⟩ other
      all_goals trivial
    · rw [presses, stored]
      exact keyed.calls

theorem keyed_of_run (run : Run (step cfg user id) s ts s') (keyed : s.Keyed user id) :
    s'.Keyed user id :=
  run.invariant (fun _ _ => (trivial : True)) keyed fun _ _ _ keyed _ taken =>
    keyed.next (moved_of_step taken)

end Checkout

/-! ## Presses after the purchase -/

theorem World.Keyed.files {body : StartPaymentDto} (keyed : World.Keyed user id stored w)
    (paid : (w.db.booking id).payment = some p) (of : (w.db.booking id).reservation = some r)
    (mine : r.userId = user.sub) (canonical : id.text = body.reservationId)
    (carries : stored = some body.idempotencyKey) : w.db.Files user.sub body p.id := by
  obtain ⟨key, known, named⟩ := keyed.db p r paid of mine
  rw [known, Option.some.injEq] at carries
  subst carries
  exact ⟨id, p, canonical, ⟨canonical ▸ uuid?_text id, r, of, mine⟩, paid, rfl, named⟩

/-- Where a press stands whose reservation was paid for before it. -/
def Press.Follows (user : AuthenticatedUser) (id : Uuid) (stored : Option Text) (p : Payment)
    (r : Reservation) (issued : List Ticket) (w : World) (press : Press) : Prop :=
  match press.progress with
  | .starting => ∃ body, press.call.request = .start user body ∧ id.text = body.reservationId ∧
      stored = some body.idempotencyKey ∧ ∀ pid, press.call.pid = some pid →
        ∃ q, w.procs[pid]? = some q ∧ Replaying user.sub body p.id q
  | .completing => ∃ path body, press.call.request = .complete user path body ∧
      uuid? path = some p.id ∧ ∀ pid, press.call.pid = some pid →
        ∃ q, w.procs[pid]? = some q ∧ KiTicket.Follows p r issued q
  | .reported payment of tickets => payment = p ∧ of = r ∧ tickets.map Ticket.issued = issued
  | .failed failure => ∀ reason, failure = some reason → reason = .fault ∨ reason = .crash

/-- The reservation is paid for, by the user whose page it is. -/
structure World.Paid (user : AuthenticatedUser) (id : Uuid) (stored : Option Text) (p : Payment)
    (r : Reservation) (issued : List Ticket) (w : World) : Prop where
  keyed : World.Keyed user id stored w
  ended : p.state ≠ .pending
  paid : (w.db.booking id).payment = some p
  of : (w.db.booking id).reservation = some r
  tickets : (w.db.booking id).tickets = issued

/-- Its calls are served as replays, whatever the server does. -/
theorem Press.Follows.next (done : World.Paid user id stored p r issued w)
    (mine : r.userId = user.sub) (taken : step cfg w a = some w')
    (follows : press.Follows user id stored p r issued w) :
    press.Follows user id stored p r issued w' := by
  unfold Press.Follows at follows ⊢
  split at follows
  · obtain ⟨body, asks, canonical, carries, served⟩ := follows
    refine ⟨body, asks, canonical, carries, fun pid sent => ?_⟩
    obtain ⟨q, serving, replaying⟩ := served pid sent
    have files := done.keyed.files done.paid done.of mine canonical carries
    rcases proc_cases taken serving with ⟨same, -⟩ | ⟨-, crashed⟩ | ⟨c, q', -, served, turn⟩
    · exact ⟨q, same, replaying⟩
    · exact ⟨_, crashed, .inr rfl⟩
    · exact ⟨q', served, replaying.turn files turn⟩
  · obtain ⟨path, body, asks, named, served⟩ := follows
    refine ⟨path, body, asks, named, fun pid sent => ?_⟩
    obtain ⟨q, serving, follows⟩ := served pid sent
    obtain ⟨-, rfl⟩ := booking_reservation_eq_some.mp done.of
    rw [← done.tickets] at follows ⊢
    exact (follows_step done.keyed.sound spelled_any (done.keyed.coherent r.id) done.paid done.of
      done.ended taken rfl serving follows).2.1
  · exact follows
  · exact follows

theorem Press.Follows.mono (follows : press.Follows user id stored p r issued w)
    (kept : ∀ key, stored = some key → stored' = some key) :
    press.Follows user id stored' p r issued w := by
  obtain ⟨outcome, visit, call, progress⟩ := press
  cases progress
  case starting =>
    obtain ⟨body, asks, canonical, carries, served⟩ := follows
    exact ⟨body, asks, canonical, kept _ carries, served⟩
  all_goals exact follows

/-- A start that was answered was answered as a replay. -/
theorem Press.Follows.replayed {pid : Nat} {response : Response}
    (follows : press.Follows user id stored p r issued w) (starting : press.progress = .starting)
    (sent : press.call.pid = some pid) (answered : w.procs[pid]? = some (.done response)) :
    ∃ body, Replaying user.sub body p.id (.done response) := by
  simp only [Press.Follows, starting] at follows
  obtain ⟨body, -, -, -, served⟩ := follows
  obtain ⟨q, serving, replaying⟩ := served pid sent
  rw [answered, Option.some.injEq] at serving
  exact ⟨body, serving ▸ replaying⟩

/-- And so was a completion. -/
theorem Press.Follows.completed {pid : Nat} {response : Response}
    (follows : press.Follows user id stored p r issued w) (completing : press.progress = .completing)
    (sent : press.call.pid = some pid) (answered : w.procs[pid]? = some (.done response)) :
    KiTicket.Follows p r issued (.done response) := by
  simp only [Press.Follows, completing] at follows
  obtain ⟨path, body, -, -, served⟩ := follows
  obtain ⟨q, serving, follows⟩ := served pid sent
  rw [answered, Option.some.injEq] at serving
  exact serving ▸ follows

/-- An answer takes the press on. -/
theorem Press.Follows.receive {press' : Press} {pid : Nat} {response : Response}
    (follows : press.Follows user id stored p r issued w)
    (sent : press.call.pid = some pid) (answered : w.procs[pid]? = some (.done response))
    (heard : press.receive user response = some press') :
    press'.Follows user id stored p r issued w := by
  cases response <;> simp only [Press.receive] at heard
  case payment payment =>
    split at heard <;> cases heard
    rename_i starting
    obtain ⟨body, replaying⟩ := follows.replayed starting sent answered
    have named : payment.id = p.id := replaying
    exact ⟨_, _, rfl, by rw [named, uuid?_text], fun _ sent => by cases sent⟩
  case completed payment of tickets =>
    split at heard <;> cases heard
    rename_i completing
    exact follows.completed completing sent answered
  case error failure =>
    split at heard <;> cases heard
    rename_i waiting
    rintro reason same
    cases same
    rcases waiting with starting | completing
    · obtain ⟨body, replaying⟩ := follows.replayed starting sent answered
      exact replaying
    · exact follows.completed completing sent answered
  all_goals cases heard

/-- A request that arrives is served from the start. -/
theorem Press.Follows.deliver (mine : r.userId = user.sub)
    (taken : step cfg w (.request press.call.request) = some w')
    (follows : press.Follows user id stored p r issued w) :
    Press.Follows user id stored p r issued w'
      { press with call := { press.call with pid := some w.procs.length } } := by
  have serving := served_of_request taken
  obtain ⟨outcome, visit, call, progress⟩ := press
  cases progress
  case starting =>
    obtain ⟨body, asks, canonical, carries, -⟩ := follows
    refine ⟨body, asks, canonical, carries, fun pid sent => ?_⟩
    cases sent
    exact ⟨_, serving, by rw [asks]; exact ⟨rfl, rfl⟩⟩
  case completing =>
    obtain ⟨path, body, asks, named, -⟩ := follows
    refine ⟨path, body, asks, named, fun pid sent => ?_⟩
    cases sent
    exact ⟨_, serving, by rw [asks]; exact ⟨named, mine.symm⟩⟩
  case reported => exact follows
  case failed => exact follows

namespace Checkout
variable {b : Booking} {earlier : Nat}

/-- The booking stays as it is, and every later press follows. -/
structure Settled (user : AuthenticatedUser) (id : Uuid) (p : Payment) (r : Reservation)
    (b : Booking) (earlier : Nat) (s : Checkout) : Prop where
  keyed : s.Keyed user id
  booking : s.world.db.booking id = b
  size : earlier ≤ s.presses.length
  later : ∀ i press, earlier ≤ i → s.presses[i]? = some press →
    r.userId = user.sub ∧ press.Follows user id s.stored p r b.tickets s.world

/-- Only one press moves. -/
theorem Settled.set {i : Nat} {press press' : Press} (settled : s.Settled user id p r b earlier)
    (keyed : s'.Keyed user id) (booking : s'.world.db.booking id = b)
    (serving : s.presses[i]? = some press) (presses : s'.presses = s.presses.set i press')
    (own : r.userId = user.sub → press.Follows user id s.stored p r b.tickets s.world →
      press'.Follows user id s'.stored p r b.tickets s'.world)
    (others : ∀ other : Press, r.userId = user.sub →
      other.Follows user id s.stored p r b.tickets s.world →
        other.Follows user id s'.stored p r b.tickets s'.world) :
    s'.Settled user id p r b earlier where
  keyed := keyed
  booking := booking
  size := by
    rw [presses, List.length_set]
    exact settled.size
  later j other bound at' := by
    rw [presses] at at'
    rcases Pool.getElem?_set_cases at' with ⟨rfl, rfl, -⟩ | ⟨-, before⟩
    · obtain ⟨mine, follows⟩ := settled.later j press bound serving
      exact ⟨mine, own mine follows⟩
    · obtain ⟨mine, follows⟩ := settled.later j other bound before
      exact ⟨mine, others other mine follows⟩

theorem Settled.next (settled : s.Settled user id p r b earlier) (paid : b.payment = some p)
    (of : b.reservation = some r) (ended : p.state ≠ .pending) (moved : Moved cfg user id s s') :
    s'.Settled user id p r b earlier := by
  have keyed := settled.keyed.next moved
  have done : World.Paid user id s.stored p r b.tickets s.world := by
    obtain ⟨keyed, rfl, -, -⟩ := settled
    exact ⟨keyed.world, ended, paid, of, rfl⟩
  have closed {a : Action} (taken : KiTicket.step cfg s.world a = some s'.world) :
      s'.world.db.booking id = b := by
    have stepped := (done.keyed.sound.next spelled_any taken).2
    rw [closed_step (done.keyed.coherent id) stepped done.paid ended, settled.booking]
  cases moved
  case page world stored presses =>
    refine ⟨keyed, by rw [world, settled.booking], by rw [presses]; exact settled.size, ?_⟩
    rw [world, stored, presses]
    exact settled.later
  case pays press key loaded kept world stored presses call progress =>
    refine ⟨keyed, by rw [world, settled.booking], ?_, ?_⟩
    · rw [presses, List.length_append]
      exact Nat.le_add_right_of_le settled.size
    · intro i other bound at'
      have size := settled.size
      rw [presses, List.getElem?_append] at at'
      split at at'
      · obtain ⟨mine, follows⟩ := settled.later i other bound at'
        rw [world, stored]
        exact ⟨mine, follows.mono fun old before => by rw [kept old before]⟩
      · rw [List.getElem?_singleton] at at'
        split at at' <;> cases at'
        rw [loaded_iff] at loaded
        obtain ⟨r', found, mine⟩ := loaded
        rw [done.of, Option.some.injEq] at found
        subst found
        refine ⟨mine, ?_⟩
        rw [Press.Follows, progress, call]
        exact ⟨_, rfl, rfl, stored, fun pid sent => by cases sent⟩
  case delivers i press serving taken stored presses =>
    refine settled.set keyed (closed taken) serving presses ?_ ?_
    · rw [stored]
      exact fun mine follows => follows.deliver mine taken
    · rw [stored]
      exact fun other mine follows => follows.next done mine taken
  case receives i pid press press' response serving sent answered heard world stored presses =>
    refine settled.set keyed (by rw [world, settled.booking]) serving presses ?_ ?_
    · rw [world, stored]
      exact fun mine follows => follows.receive sent answered heard
    · rw [world, stored]
      exact fun other mine follows => follows
  case givesUp i press serving world stored presses =>
    refine settled.set keyed (by rw [world, settled.booking]) serving presses ?_ ?_
    · rintro - - reason ⟨⟩
    · rw [world, stored]
      exact fun other mine follows => follows
  case elsewhere a other taken stored presses =>
    refine ⟨keyed, closed taken, by rw [presses]; exact settled.size, ?_⟩
    rw [presses, stored]
    intro i press bound at'
    obtain ⟨mine, follows⟩ := settled.later i press bound at'
    exact ⟨mine, follows.next done mine taken⟩

theorem settled_of_run (run : Run (step cfg user id) s us s') (keyed : s.Keyed user id)
    (paid : (s.world.db.booking id).payment = some p)
    (of : (s.world.db.booking id).reservation = some r) (ended : p.state ≠ .pending) :
    s'.Settled user id p r (s.world.db.booking id) s.presses.length := by
  refine run.invariant (fun _ _ => (trivial : True)) ⟨keyed, rfl, Nat.le_refl _, ?_⟩ ?_
  · intro i press bound at'
    have := (List.getElem?_eq_some_iff.mp at').1
    omega
  · intro v m v' settled _ taken
    exact settled.next paid of ended (moved_of_step taken)

end Checkout

/-! ## The purchase -/

/-- The press reports this purchase, unless it is still waiting, a request or an
answer was lost, a call of the server failed or its process died. -/
def Press.Reports (p : Payment) (issued : List Ticket) (press : Press) : Prop :=
  match press.progress with
  | .starting | .completing => True
  | .reported payment _ tickets => payment = p ∧ tickets.map Ticket.issued = issued
  | .failed failure => ∀ reason, failure = some reason → reason = .fault ∨ reason = .crash

/-- An answer takes a press from its first call to its second, and from there to the
report of the purchase. -/
def Press.Advances (user : AuthenticatedUser) (p : Payment) (issued : List Ticket) (press : Press)
    (response : Response) : Prop :=
  ∃ press', press.receive user response = some press' ∧
    (press.progress = .starting ∧ press'.progress = .completing ∨
      ∃ r tickets, press'.progress = .reported p r tickets ∧ tickets.map Ticket.issued = issued)

theorem Press.Follows.reports (follows : press.Follows user id stored p r issued w) :
    press.Reports p issued := by
  obtain ⟨outcome, visit, call, progress⟩ := press
  cases progress
  case starting => trivial
  case completing => trivial
  case reported => exact ⟨follows.1, follows.2.2⟩
  case failed => exact follows

theorem Press.Follows.advances {pid : Nat} {response : Response}
    (follows : press.Follows user id stored p r issued w)
    (waits : press.progress = .starting ∨ press.progress = .completing)
    (sent : press.call.pid = some pid) (answered : w.procs[pid]? = some (.done response)) :
    response = .error .fault ∨ response = .error .crash ∨ press.Advances user p issued response := by
  rcases waits with waiting | waiting
  · obtain ⟨body, replaying⟩ := follows.replayed waiting sent answered
    obtain ⟨outcome, visit, call, progress⟩ := press
    subst waiting
    cases response
    case payment payment =>
      have heard : Press.receive user ⟨outcome, visit, call, .starting⟩ (.payment payment) =
          some ⟨outcome, visit, ⟨.complete user payment.id.text ⟨outcome, none⟩, none⟩,
            .completing⟩ := by simp [Press.receive]
      exact .inr (.inr ⟨_, heard, .inl ⟨rfl, rfl⟩⟩)
    case error failure => rcases replaying with rfl | rfl <;> simp
    all_goals cases replaying
  · have follows := follows.completed waiting sent answered
    obtain ⟨outcome, visit, call, progress⟩ := press
    subst waiting
    cases response
    case completed payment of tickets =>
      obtain ⟨rfl, rfl, same⟩ := follows
      have heard : Press.receive user ⟨outcome, visit, call, .completing⟩
          (.completed payment of tickets) =
            some ⟨outcome, visit, call, .reported payment of tickets⟩ := by simp [Press.receive]
      exact .inr (.inr ⟨_, heard, .inr ⟨_, _, rfl, same⟩⟩)
    case error failure => rcases follows with rfl | rfl <;> simp
    all_goals cases follows

/-- However often the user presses and whatever is lost or late, the reservation gets
one payment and a seat one ticket. From a state in which its payment has succeeded,
every later press is answered with that payment and those tickets. -/
theorem purchase_exactly_once
    (first : Run (Checkout.step cfg user id) (Checkout.opened catalog) ts s) :
    (s.world.db.payments.rows.filter (·.reservationId = id)).length ≤ 1 ∧
    (∀ seatId, (s.world.db.tickets.rows.filter fun ticket =>
      ticket.reservationId = id ∧ ticket.seatId = seatId).length ≤ 1) ∧
    ∀ p ∈ s.world.db.payments.rows, p.reservationId = id → p.state = .success →
      ∃ r ∈ s.world.db.reservations.rows, r.id = id ∧
        (s.world.db.ticketsOf r).map Ticket.seatId =
          (s.world.db.seatsOf r).map ReservationSeat.seatId ∧
        ∀ us s', Run (Checkout.step cfg user id) s us s' →
          ∀ i press, s.presses.length ≤ i → s'.presses[i]? = some press →
            press.Reports p ((s.world.db.ticketsOf r).map Ticket.issued) ∧
            ∀ pid response, press.progress = .starting ∨ press.progress = .completing →
              press.call.pid = some pid → s'.world.procs[pid]? = some (.done response) →
              response = .error .fault ∨ response = .error .crash ∨
                press.Advances user p ((s.world.db.ticketsOf r).map Ticket.issued) response := by
  have keyed := Checkout.keyed_of_run first Checkout.keyed_opened
  refine ⟨?_, ?_, ?_⟩
  · apply Table.length_filter_le_one
    intro a b left right
    simp_all [clash]
  · intro seatId
    apply Table.length_filter_le_one
    intro a b left right
    simp_all [clash]
  · intro p member of success
    have paid : (s.world.db.booking id).payment = some p := booking_payment_eq_some.mpr ⟨member, of⟩
    have ended : p.state ≠ .pending := by
      rw [success]
      exact fun same => by cases same
    have coherent := keyed.world.coherent id
    obtain ⟨r, found⟩ := coherent.exists_of_payment paid
    obtain ⟨stored, rfl⟩ := booking_reservation_eq_some.mp found
    refine ⟨r, stored, rfl, ?_, ?_⟩
    · rw [map_seatId_ticketsOf]
      exact (coherent.confirmed found (coherent.confirmed_of_success found paid success)).2.1
    · intro us s' rest i press bound at'
      have settled := Checkout.settled_of_run rest keyed paid found ended
      obtain ⟨mine, follows⟩ := settled.later i press bound at'
      exact ⟨follows.reports, fun pid response waits sent answered =>
        follows.advances waits sent answered⟩

/-- The customer reserves, opens the page and pays, and the last answer is lost. -/
def payOnce : List Checkout.Move :=
  reserve.map .elsewhere ++ [.visit, .pay .success ['x'], .deliver 0] ++
    (startTurns 1 1 (flat 3)).map .elsewhere ++ [.receive 0, .deliver 0] ++
    (completeTurns 2 2 [flat 4] [['r'], ['t']]).map .elsewhere ++ [.giveUp 0]

/-- The page is opened again and the button pressed once more, for a failure. -/
def payAgain : List Checkout.Move :=
  [.visit, .pay .failure ['y'], .deliver 1, .elsewhere (.turn 3 {}), .elsewhere (.turn 3 {}),
    .receive 1, .deliver 1, .elsewhere (.turn 4 {}), .elsewhere (.turn 4 {}),
    .elsewhere (.turn 4 {}), .elsewhere (.turn 4 {}), .receive 1]

theorem payOnce_enabled : (exec (Checkout.step sampleConfig customer (flat 1))
    (Checkout.opened sampleCatalog) payOnce).isSome = true := by
  decide +kernel

abbrev paidOnce : Checkout :=
  replay (Checkout.step sampleConfig customer (flat 1)) (Checkout.opened sampleCatalog) payOnce
    payOnce_enabled

theorem payAgain_enabled : (exec (Checkout.step sampleConfig customer (flat 1)) paidOnce
    payAgain).isSome = true := by
  decide +kernel

abbrev paidAgain : Checkout :=
  replay (Checkout.step sampleConfig customer (flat 1)) paidOnce payAgain payAgain_enabled

theorem purchase_exactly_once_again : paidAgain.presses.map Press.reports = [false, true] ∧
    ∃ p r, p ∈ paidOnce.world.db.payments.rows ∧ p.state = .success ∧
      r ∈ paidOnce.world.db.reservations.rows ∧ r.id = flat 1 ∧
      ∀ press, paidAgain.presses[1]? = some press →
        press.Reports p ((paidOnce.world.db.ticketsOf r).map Ticket.issued) := by
  have stored : { samplePayment with idempotencyKey := some (flatText '1' ++ ['-', 'x']) } ∈
      paidOnce.world.db.payments.rows := by decide +kernel
  obtain ⟨r, member, named, -, later⟩ :=
    (purchase_exactly_once (run_replay payOnce_enabled)).2.2 _ stored rfl rfl
  refine ⟨by decide +kernel, _, r, stored, rfl, member, named, fun press at' => ?_⟩
  exact (later _ _ (run_replay payAgain_enabled) 1 press (by decide +kernel) at').1

end KiTicket
