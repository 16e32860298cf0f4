import KiTicket.Lib.Pool
import KiTicket.Lib.Runs
import KiTicket.Payments
import KiTicket.Tickets

/-! The whole API: any number of requests of any users and any number of expiry
sweeps, from any number of replicas, over one database and one Redis. A step is
the arrival of a request, one turn of one of them, a crash, time passing on the
Redis server, or Redis losing a lock. -/
namespace KiTicket
open Reservations Payments WaitingRoom Tickets

inductive Request where
  | create (user : AuthenticatedUser) (body : CreateReservationDto)
  | cancel (user : AuthenticatedUser) (id : Text)
  /-- A tick of the sweep timer. -/
  | expire
  | start (user : AuthenticatedUser) (body : StartPaymentDto)
  | complete (user : AuthenticatedUser) (id : Text) (body : CompletePaymentDto)
  | checkIn (user : AuthenticatedUser) (id : Text)
  | join (user : AuthenticatedUser) (eventId : Text)
  | admitUsers (user : AuthenticatedUser) (eventId : Text) (body : AdmitUsersDto)
deriving DecidableEq

/-- What the guards and the validation pipe let through. -/
def Request.accepted : Request → Bool
  | .create _ body => body.accepted
  | .start _ body => body.accepted
  | .complete _ _ body => body.accepted
  | .checkIn user _ => user.role = .organizer ∨ user.role = .admin
  | .admitUsers user _ body => decide (user.role = .admin) && body.accepted
  | .cancel _ _ | .expire | .join _ _ => true

/-- Every id in the request is spelled as the API returns it. -/
def Request.asReturned : Request → Bool
  | .create _ body => KiTicket.asReturned body.eventId && body.seatIds.all KiTicket.asReturned
  | .start _ body => KiTicket.asReturned body.reservationId
  | .cancel _ id | .complete _ id _ | .checkIn _ id | .join _ id | .admitUsers _ id _ =>
    KiTicket.asReturned id
  | .expire => true

/-- A request being served, or one that was answered. -/
inductive Proc where
  | create (state : Create)
  | cancel (state : Cancel)
  | expire (state : Expire)
  | start (state : Start)
  | complete (state : Complete)
  | checkIn (state : CheckIn)
  | join (state : Join)
  | admitUsers (state : Admit)
  | done (response : Response)
deriving DecidableEq

def Request.proc : Request → Proc
  | .create user body => .create (.assertAdmission user body)
  | .cancel user id => .cancel (.findOne user id)
  | .expire => .expire .getMany
  | .start user body => .start (.findByKey user body)
  | .complete user id body => .complete (.findPayment user id body)
  | .checkIn user id => .checkIn (.findTicket user id)
  | .join user eventId => .join (.findEvent user eventId)
  | .admitUsers _ eventId body => .admitUsers (.findQueued eventId body)

/-- The outcome of a handler's turn, as a turn of its process. -/
def Next.proc (wrap : σ → Proc) : Next σ → Proc
  | .go state => wrap state
  | .done response => .done response

def turnOf (wrap : σ → Proc) (outcome : Option (Server × Next σ)) : Option (Server × Proc) :=
  outcome.map fun (server, next) => (server, next.proc wrap)

/-- One turn. `held` are the row locks of all other processes. -/
def Proc.turn (cfg : Config) (c : Choice) (held : List RowLock) (server : Server) :
    Proc → Option (Server × Proc)
  | .create state =>
    turnOf .create (if c.fault then state.fault server else state.turn cfg c server)
  | .cancel state =>
    turnOf .cancel (if c.fault then state.fault server else state.turn held server)
  | .expire state =>
    turnOf .expire (if c.fault then state.fault server else state.turn c held server)
  | .start state =>
    turnOf .start (if c.fault then state.fault server else state.turn c server)
  | .complete state =>
    turnOf .complete (if c.fault then state.fault server else state.turn cfg c held server)
  | .checkIn state =>
    turnOf .checkIn (if c.fault then server.refuse .fault else state.turn c server)
  | .join state =>
    turnOf .join (if c.fault then server.refuse .fault else state.turn cfg c server)
  | .admitUsers state =>
    turnOf .admitUsers (if c.fault then server.refuse .fault else state.turn cfg c server)
  | .done _ => none

/-- The row locks a process holds between two of its turns. -/
def Proc.held : Proc → List RowLock
  | .cancel state => state.held
  | .complete state => state.held
  | _ => []

abbrev World := Pool Server Proc

inductive Action where
  | request (request : Request)
  | turn (pid : Nat) (choice : Choice)
  /-- The process serving a request dies; its transaction rolls back. -/
  | crash (pid : Nat)
  /-- Time passes on the Redis server. -/
  | pass (elapsed : Nat)
  /-- Redis loses a lock. -/
  | drop (key : Text)
deriving DecidableEq

def step (cfg : Config) (w : World) : Action → Option World
  | .request r => if r.accepted then some { w with procs := w.procs ++ [r.proc] } else none
  | .turn pid c => do
    let proc ← w.procs[pid]?
    let (server, proc') ← proc.turn cfg c ((w.others pid).flatMap Proc.held) w.shared
    pure ⟨server, w.procs.set pid proc'⟩
  | .crash pid =>
    match w.procs[pid]? with
    | none | some (.done _) => none
    | some _ => some { w with procs := w.procs.set pid (.done (.error .crash)) }
  | .pass elapsed =>
    some { w with shared := { w.shared with locks := w.shared.locks.pass elapsed } }
  | .drop key =>
    some { w with shared := { w.shared with locks := w.shared.locks.del key } }

/-- What a step can do, action by action. -/
inductive Taken (cfg : Config) (w : World) : Action → World → Prop where
  | request {r : Request} (accepted : r.accepted = true) :
      Taken cfg w (.request r) ⟨w.shared, w.procs ++ [r.proc]⟩
  | turn {w' : World} {pid : Nat} {c : Choice} {p p' : Proc} (serving : w.procs[pid]? = some p)
      (procs : w'.procs = w.procs.set pid p')
      (turn : p.turn cfg c ((w.others pid).flatMap Proc.held) w.shared = some (w'.shared, p')) :
      Taken cfg w (.turn pid c) w'
  | crash {pid : Nat} {p : Proc} (serving : w.procs[pid]? = some p) :
      Taken cfg w (.crash pid) ⟨w.shared, w.procs.set pid (.done (.error .crash))⟩
  | pass {elapsed : Nat} : Taken cfg w (.pass elapsed)
      ⟨{ w.shared with locks := w.shared.locks.pass elapsed }, w.procs⟩
  | drop {key : Text} : Taken cfg w (.drop key)
      ⟨{ w.shared with locks := w.shared.locks.del key }, w.procs⟩

variable {cfg : Config} {w w' : World} {a : Action} {c : Choice} {pid : Nat}

theorem step_cases (taken : step cfg w a = some w') : Taken cfg w a w' := by
  cases a
  case request r =>
    simp only [step] at taken
    split at taken <;> cases taken
    exact .request (by assumption)
  case turn pid c =>
    obtain ⟨p, serving, taken⟩ := Option.bind_eq_some_iff.mp taken
    obtain ⟨⟨server, p'⟩, turn, last⟩ := Option.bind_eq_some_iff.mp taken
    cases last
    exact .turn serving rfl turn
  case crash pid =>
    simp only [step] at taken
    split at taken <;> cases taken
    exact .crash (by assumption)
  case pass =>
    cases taken
    exact .pass
  case drop =>
    cases taken
    exact .drop

/-- A turn that goes through. -/
theorem step_turn (taken : step cfg w (.turn pid c) = some w') : ∃ p p', w.procs[pid]? = some p ∧
    p.turn cfg c ((w.others pid).flatMap Proc.held) w.shared = some (w'.shared, p') ∧
      w'.procs = w.procs.set pid p' := by
  cases step_cases taken
  case turn p p' serving procs turn => exact ⟨p, p', serving, turn, procs⟩

/-- Nothing booked, nothing locked, nobody waiting. -/
def initial (catalog : Catalog) : World :=
  ⟨⟨.initial catalog, .empty, fun _ => 0, [], []⟩, []⟩

/-- The ids of a request are spelled as the API returns them. -/
def Action.AsReturned : Action → Prop
  | .request r => r.asReturned = true
  | _ => True

instance : DecidablePred Action.AsReturned
  | .request r => inferInstanceAs (Decidable (r.asReturned = true))
  | .turn _ _ | .crash _ | .pass _ | .drop _ => .isTrue trivial

/-- The database of a world. -/
abbrev Pool.db (w : World) : Db := w.shared.db

end KiTicket
