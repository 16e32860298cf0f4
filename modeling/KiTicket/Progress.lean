import KiTicket.Batches
import KiTicket.Site
import KiTicket.Lib.Waiting

/-! Every request is answered. A turn waits only for a row lock, and the locks are taken in
one order, payment rows before reservation rows, so the transactions cannot wait for each
other in a circle. And no request takes more than so many turns: the longest is a sweep,
with three for each of the hundred reservations it loads. What the process needs besides
the rows is an id `randomUUID` has not returned before. -/
namespace KiTicket
open Reservations Payments WaitingRoom Tickets Runs

variable {cfg : Config} {c : Choice} {held : List RowLock} {server server' : Server} {p p' : Proc}
  {listing listing' : Listing} {q q' : CatalogProc} {w w' : World} {s s' : Site} {now pid : Nat}
  {id : Uuid}

/-! ## Turns that are left -/

def Reservations.Create.work : Create → Nat
  | .assertAdmission _ _ => 9
  | .findEvent _ _ => 8
  | .findSectors _ _ _ => 7
  | .findSeats _ _ _ _ => 6
  | .findPricing _ _ _ _ => 5
  | .acquire _ => 4
  | .findOccupied _ => 3
  | .save _ => 2
  | .announce _ _ | .release _ _ => 1

def Reservations.Cancel.work : Cancel → Nat
  | .findOne _ _ => 4
  | .findSeats _ _ => 3
  | .commit _ _ _ => 2
  | .release _ _ => 1

def Reservations.Expire.work : Expire → Nat
  | .getMany => 301
  | .findSeats _ rest _ => 3 + 3 * rest.length
  | .commit _ _ rest _ => 2 + 3 * rest.length
  | .release _ _ rest _ => 1 + 3 * rest.length

def Payments.Start.work : Start → Nat
  | .findByKey _ _ => 4
  | .findReservation _ _ => 3
  | .findLinked _ _ _ | .save _ _ _ => 2
  | .announce _ _ | .findByReservation _ => 1

def Payments.Complete.work : Complete → Nat
  | .findPayment _ _ _ => 5
  | .findReservation _ _ _ => 4
  | .findSeats _ _ _ => 3
  | .commit _ _ _ _ => 2
  | .findTickets _ _ | .release _ => 1

def Tickets.CheckIn.work : CheckIn → Nat
  | .findTicket _ _ => 4
  | .findReservation _ _ => 3
  | .findEvent _ _ _ => 2
  | .save _ => 1

def WaitingRoom.Join.work : Join → Nat
  | .findEvent _ _ => 4
  | .findActive _ _ => 3
  | .incr _ _ => 2
  | .save _ _ _ => 1

def WaitingRoom.Admit.work : Admit → Nat
  | .findQueued _ _ => 2
  | .save _ => 1

/-- The turns a request can still take, at most. -/
def Proc.work : Proc → Nat
  | .create state => state.work
  | .cancel state => state.work
  | .expire state => state.work
  | .start state => state.work
  | .complete state => state.work
  | .checkIn state => state.work
  | .join state => state.work
  | .admitUsers state => state.work
  | .done _ => 0

def CatalogProc.work : CatalogProc → Nat
  | .createVenue _ => 1
  | .createSector (.findVenue _ _) => 3
  | .createSector (.saveSector _ _) => 2
  | .createSector (.saveSeats _ _) => 1
  | .createEvent (.findVenue _ _) => 2
  | .createEvent (.save _ _) => 1
  | .updateEvent (.findOwned _ _ _) => 2
  | .updateEvent (.save _) => 1
  | .addPricing (.findOwned _ _ _) => 3
  | .addPricing (.findSector _ _ _ _) => 2
  | .addPricing (.save _ _) => 1
  | .publish (.findOwned _ _) => 3
  | .publish (.exist _ _) => 2
  | .publish (.save _) => 1
  | .done _ => 0

/-- Only an answered request has nothing left to do. -/
theorem Proc.done_of_work (finished : p.work = 0) : ∃ response, p = .done response := by
  cases p with
  | done response => exact ⟨response, rfl⟩
  | create state => cases state <;> cases finished
  | cancel state => cases state <;> cases finished
  | expire state => cases state <;> simp [work, Expire.work] at finished
  | start state => cases state <;> cases finished
  | complete state => cases state <;> cases finished
  | checkIn state => cases state <;> cases finished
  | join state => cases state <;> cases finished
  | admitUsers state => cases state <;> cases finished

theorem CatalogProc.done_of_work (finished : q.work = 0) : ∃ reply, q = .done reply := by
  cases q with
  | done reply => exact ⟨reply, rfl⟩
  | createVenue state => cases finished
  | createSector state => cases state <;> cases finished
  | createEvent state => cases state <;> cases finished
  | updateEvent state => cases state <;> cases finished
  | addPricing state => cases state <;> cases finished
  | publish state => cases state <;> cases finished

def Next.work {σ : Type} (work : σ → Nat) : Next σ → Nat
  | .go state => work state
  | .done _ => 0

@[simp] theorem work_refuse {σ : Type} {work : σ → Nat} {next : Next σ} {failure : Failure}
    (refused : server.refuse failure = some (server', next)) : next.work work = 0 := by
  cases refused
  rfl

theorem Reservations.Create.work_turn {state : Create} {next : Next Create}
    (turn : state.turn cfg c server = some (server', next)) : next.work work < state.work := by
  cases state <;> simp only [Create.turn] at turn <;>
    grind [Server.refuse, Server.stay, Next.work, Create.work]

theorem Reservations.Create.work_fault {state : Create} {next : Next Create}
    (turn : state.fault server = some (server', next)) : next.work work < state.work := by
  cases state <;> simp only [Create.fault] at turn <;>
    grind [Server.refuse, Server.stay, Next.work, Create.work]

theorem Reservations.Cancel.work_turn {state : Cancel} {next : Next Cancel}
    (turn : state.turn held server = some (server', next)) : next.work work < state.work := by
  cases state <;> simp only [Cancel.turn] at turn <;>
    grind [Server.refuse, Server.stay, Next.work, Cancel.work, Cancel.finish]

theorem Reservations.Cancel.work_fault {state : Cancel} {next : Next Cancel}
    (turn : state.fault server = some (server', next)) : next.work work < state.work := by
  cases state <;> simp only [Cancel.fault] at turn <;>
    grind [Server.refuse, Next.work, Cancel.work, Cancel.finish]

/-- What the loop has left depends on the reservations it has not come to. -/
theorem Reservations.Expire.work_loop {expired : Nat} {rest : List Reservation} {next : Next Expire}
    (turn : Expire.loop server expired rest = some (server', next)) :
    next.work work ≤ 3 * rest.length := by
  cases rest <;> cases turn
  · exact Nat.le_refl 0
  · simp only [Next.work, Expire.work, List.length_cons]
    omega

theorem Reservations.Expire.work_turn {state : Expire} {next : Next Expire}
    (turn : state.turn c held server = some (server', next)) : next.work work < state.work := by
  cases state <;> simp only [Expire.turn] at turn
  case getMany =>
    obtain ⟨batch, found, turn⟩ := Option.bind_eq_some_iff.mp turn
    have most : batch.length ≤ 100 := (getStale_spec found).2.2.1 ▸ Nat.min_le_left _ _
    have left := work_loop turn
    simp only [Expire.work]
    omega
  case findSeats => grind [Server.stay, Next.work, Expire.work]
  case commit =>
    split at turn
    · split at turn <;> cases turn
      simp only [Next.work, Expire.work]
      omega
    · have left := work_loop turn
      simp only [Expire.work]
      omega
  case release =>
    have left := work_loop turn
    simp only [Expire.work]
    omega

theorem Reservations.Expire.work_fault {state : Expire} {next : Next Expire}
    (turn : state.fault server = some (server', next)) : next.work work < state.work := by
  cases state <;> simp only [Expire.fault] at turn
  case release =>
    have left := work_loop turn
    simp only [Expire.work]
    omega
  all_goals
    simp only [work_refuse turn, Expire.work]
    omega

theorem Payments.Start.work_turn {state : Start} {next : Next Start}
    (turn : state.turn c server = some (server', next)) : next.work work < state.work := by
  cases state <;> simp only [Start.turn] at turn <;>
    grind [Server.refuse, Server.stay, Next.work, Start.work]

theorem Payments.Start.work_fault {state : Start} {next : Next Start}
    (turn : state.fault server = some (server', next)) : next.work work < state.work := by
  cases state <;> simp only [Start.fault] at turn <;> grind [Server.refuse, Next.work, Start.work]

theorem Payments.Complete.work_turn {state : Complete} {next : Next Complete}
    (turn : state.turn cfg c held server = some (server', next)) : next.work work < state.work := by
  cases state <;> simp only [Complete.turn] at turn <;>
    grind [Server.refuse, Server.stay, Next.work, Complete.work, Complete.finish]

theorem Payments.Complete.work_fault {state : Complete} {next : Next Complete}
    (turn : state.fault server = some (server', next)) : next.work work < state.work := by
  cases state <;> simp only [Complete.fault] at turn <;>
    grind [Server.refuse, Next.work, Complete.work, Complete.finish]

theorem Tickets.CheckIn.work_fault {state : CheckIn} {next : Next CheckIn}
    (turn : server.refuse .fault = some (server', next)) : next.work work < state.work := by
  rw [work_refuse turn]
  cases state <;> exact Nat.succ_pos _

theorem Tickets.CheckIn.work_turn {state : CheckIn} {next : Next CheckIn}
    (turn : state.turn c server = some (server', next)) : next.work work < state.work := by
  cases state <;> simp only [CheckIn.turn] at turn <;>
    grind [Server.refuse, Server.stay, Next.work, CheckIn.work]

theorem WaitingRoom.Join.work_fault {state : Join} {next : Next Join}
    (turn : server.refuse .fault = some (server', next)) : next.work work < state.work := by
  rw [work_refuse turn]
  cases state <;> exact Nat.succ_pos _

theorem WaitingRoom.Join.work_turn {state : Join} {next : Next Join}
    (turn : state.turn cfg c server = some (server', next)) : next.work work < state.work := by
  cases state <;> simp only [Join.turn] at turn <;>
    grind [Server.refuse, Server.stay, Next.work, Join.work]

theorem WaitingRoom.Admit.work_fault {state : Admit} {next : Next Admit}
    (turn : server.refuse .fault = some (server', next)) : next.work work < state.work := by
  rw [work_refuse turn]
  cases state <;> exact Nat.succ_pos _

theorem WaitingRoom.Admit.work_turn {state : Admit} {next : Next Admit}
    (turn : state.turn cfg c server = some (server', next)) : next.work work < state.work := by
  cases state <;> simp only [Admit.turn] at turn <;>
    grind [Server.refuse, Server.stay, Next.work, Admit.work]

/-- What is left to the handler is left to its process. -/
private theorem work_next {σ : Type} {wrap : σ → Proc} {work : σ → Nat} {next : Next σ} {n : Nat}
    (same : ∀ state, (wrap state).work = work state) (less : next.work work < n) :
    (next.proc wrap).work < n := by
  cases next
  · exact same _ ▸ less
  · exact less

/-- A turn uses up some of the work that is left, whether its call fails or not. -/
theorem Proc.work_turn (turn : p.turn cfg c held server = some (server', p')) : p'.work < p.work := by
  cases p <;> simp only [Proc.turn, turnOf_eq_some] at turn
  case done => cases turn
  all_goals
    obtain ⟨next, turn, rfl⟩ := turn
    apply work_next fun _ => rfl
    split at turn
  · exact Create.work_fault turn
  · exact Create.work_turn turn
  · exact Cancel.work_fault turn
  · exact Cancel.work_turn turn
  · exact Expire.work_fault turn
  · exact Expire.work_turn turn
  · exact Start.work_fault turn
  · exact Start.work_turn turn
  · exact Complete.work_fault turn
  · exact Complete.work_turn turn
  · exact CheckIn.work_fault turn
  · exact CheckIn.work_turn turn
  · exact Join.work_fault turn
  · exact Join.work_turn turn
  · exact Admit.work_fault turn
  · exact Admit.work_turn turn

theorem Venues.Create.work_turn {state : Venues.Create} {after : After Venues.Create}
    (turn : state.turn c listing = some (listing', after)) :
    (after.proc .createVenue).work < (CatalogProc.createVenue state).work := by
  cases state
  simp only [Venues.Create.turn] at turn
  grind [Listing.refuse, Listing.stay, CatalogProc.work, After.proc]

theorem Venues.CreateSector.work_turn {state : Venues.CreateSector} {after : After Venues.CreateSector}
    (turn : state.turn c listing = some (listing', after)) :
    (after.proc .createSector).work < (CatalogProc.createSector state).work := by
  cases state <;> simp only [Venues.CreateSector.turn] at turn <;>
    grind [Listing.refuse, Listing.stay, CatalogProc.work, After.proc]

theorem Events.Create.work_turn {state : Events.Create} {after : After Events.Create}
    (turn : state.turn c listing = some (listing', after)) :
    (after.proc .createEvent).work < (CatalogProc.createEvent state).work := by
  cases state <;> simp only [Events.Create.turn] at turn <;>
    grind [Listing.refuse, Listing.stay, CatalogProc.work, After.proc]

theorem Events.Update.work_turn {state : Events.Update} {after : After Events.Update}
    (turn : state.turn c listing = some (listing', after)) :
    (after.proc .updateEvent).work < (CatalogProc.updateEvent state).work := by
  cases state <;> simp only [Events.Update.turn] at turn <;>
    grind [Listing.refuse, Listing.stay, CatalogProc.work, After.proc]

theorem Events.AddPricing.work_turn {state : Events.AddPricing} {after : After Events.AddPricing}
    (turn : state.turn c listing = some (listing', after)) :
    (after.proc .addPricing).work < (CatalogProc.addPricing state).work := by
  cases state <;> simp only [Events.AddPricing.turn] at turn <;>
    grind [Listing.refuse, Listing.stay, CatalogProc.work, After.proc]

theorem Events.Publish.work_turn {state : Events.Publish} {after : After Events.Publish}
    (turn : state.turn listing = some (listing', after)) :
    (after.proc .publish).work < (CatalogProc.publish state).work := by
  cases state <;> simp only [Events.Publish.turn] at turn <;>
    grind [Listing.refuse, Listing.stay, CatalogProc.work, After.proc]

theorem CatalogProc.work_turn (turn : q.turn c listing = some (listing', q')) : q'.work < q.work := by
  cases q <;> simp only [CatalogProc.turn, afterOf_eq_some] at turn
  case done => cases turn
  all_goals
    rename_i state
    obtain ⟨after, turn, rfl⟩ := turn
    split at turn
    · cases turn
      cases state <;> exact Nat.succ_pos _
  · exact Venues.Create.work_turn turn
  · exact Venues.CreateSector.work_turn turn
  · exact Events.Create.work_turn turn
  · exact Events.Update.work_turn turn
  · exact Events.AddPricing.work_turn turn
  · exact Events.Publish.work_turn turn

/-! ## Turns in a run -/

/-- The most turns a request can take. A sweep takes three for each of the hundred
reservations it loads. -/
def Request.turns : Request → Nat
  | .create _ _ => 9
  | .cancel _ _ | .start _ _ | .checkIn _ _ | .join _ _ => 4
  | .complete _ _ _ => 5
  | .admitUsers _ _ _ => 2
  | .expire => 301

def CatalogRequest.turns : CatalogRequest → Nat
  | .createVenue _ _ => 1
  | .createEvent _ _ | .updateEvent _ _ _ => 2
  | .createSector _ _ _ | .addPricing _ _ _ | .publish _ _ => 3

theorem Request.work_proc (r : Request) : r.proc.work = r.turns := by
  cases r <;> rfl

theorem CatalogRequest.work_proc (r : CatalogRequest) : r.proc.work = r.turns := by
  cases r <;> rfl

theorem Request.turns_le (r : Request) : r.turns ≤ 301 := by
  cases r <;> simp [Request.turns]

theorem CatalogRequest.turns_le (r : CatalogRequest) : r.turns ≤ 3 := by
  cases r <;> simp [CatalogRequest.turns]

/-- A turn of the booking request of that number. -/
def bookingTurn (pid : Nat) (t : Transition Site Site.Action) : Bool :=
  match t.action with
  | .booking (.turn i _) => i = pid
  | _ => false

def catalogTurn (pid : Nat) (t : Transition Site Site.Action) : Bool :=
  match t.action with
  | .turn i _ => i = pid
  | _ => false

private theorem left_of_booking {a : Action} (taken : step cfg w a = some w') :
    Pool.left 301 Proc.work w'.procs pid +
      (if bookingTurn pid ⟨s, .booking a, s'⟩ then 1 else 0) ≤ Pool.left 301 Proc.work w.procs pid := by
  cases step_cases taken
  case request r accepted => exact Pool.left_append 301 pid (r.work_proc ▸ r.turns_le)
  case turn i c p p' serving procs turn =>
    rw [procs]
    have less := Pool.left_set 301 pid serving (Proc.work_turn turn)
    simpa only [bookingTurn, decide_eq_true_eq] using less
  case crash i p serving => exact Pool.left_set_le 301 pid serving (Nat.zero_le _)
  all_goals exact Nat.le_refl _

theorem left_of_step {a : Site.Action} (taken : Site.step cfg s a = some s') :
    Pool.left 301 Proc.work s'.world.procs pid + (if bookingTurn pid ⟨s, a, s'⟩ then 1 else 0) ≤
      Pool.left 301 Proc.work s.world.procs pid := by
  cases Site.step_cases taken
  case booking a world moves => exact left_of_booking moves
  all_goals exact Nat.le_refl _

theorem catalogLeft_of_step {a : Site.Action} (taken : Site.step cfg s a = some s') :
    Pool.left 3 CatalogProc.work s'.procs pid + (if catalogTurn pid ⟨s, a, s'⟩ then 1 else 0) ≤
      Pool.left 3 CatalogProc.work s.procs pid := by
  cases Site.step_cases taken
  case booking => exact Nat.le_refl _
  case request r accepted => exact Pool.left_append 3 pid (r.work_proc ▸ r.turns_le)
  case turn i c q q' listing serving turn =>
    have less := Pool.left_set 3 pid serving (CatalogProc.work_turn turn)
    simpa only [catalogTurn, decide_eq_true_eq] using less
  case crash i q serving => exact Pool.left_set_le 3 pid serving (Nat.zero_le _)

/-- However the turns of all requests are interleaved, and whichever calls fail, a request
is answered after at most so many turns of its own. -/
theorem turns_bounded {ts : List (Transition Site Site.Action)} (run : Run (Site.step cfg) s ts s') :
    (∀ r : Request, s.world.procs[pid]? = some r.proc → ts.countP (bookingTurn pid) ≤ r.turns ∧
      (ts.countP (bookingTurn pid) = r.turns → ∃ response, s'.world.procs[pid]? = some (.done response))) ∧
    ∀ r : CatalogRequest, s.procs[pid]? = some r.proc → ts.countP (catalogTurn pid) ≤ r.turns ∧
      (ts.countP (catalogTurn pid) = r.turns → ∃ reply, s'.procs[pid]? = some (.done reply)) := by
  have booking := run.count_add_le (Pool.left 301 Proc.work ·.world.procs pid) (bookingTurn pid)
    (fun _ _ => (trivial : True)) fun _ _ _ _ => left_of_step
  have catalog := run.count_add_le (Pool.left 3 CatalogProc.work ·.procs pid) (catalogTurn pid)
    (fun _ _ => (trivial : True)) fun _ _ _ _ => catalogLeft_of_step
  refine ⟨fun r serving => ?_, fun r serving => ?_⟩
  · rw [Pool.left_of_getElem? serving, r.work_proc] at booking
    refine ⟨by omega, fun all => ?_⟩
    have finished : Pool.left 301 Proc.work s'.world.procs pid = 0 := by omega
    obtain ⟨p, serving', finished⟩ := Pool.exists_of_left_eq_zero (Nat.succ_pos _) finished
    obtain ⟨response, rfl⟩ := Proc.done_of_work finished
    exact ⟨response, serving'⟩
  · rw [Pool.left_of_getElem? serving, r.work_proc] at catalog
    refine ⟨by omega, fun all => ?_⟩
    have finished : Pool.left 3 CatalogProc.work s'.procs pid = 0 := by omega
    obtain ⟨q, serving', finished⟩ := Pool.exists_of_left_eq_zero (Nat.succ_pos _) finished
    obtain ⟨reply, rfl⟩ := CatalogProc.done_of_work finished
    exact ⟨reply, serving'⟩

/-- A site with those bookings and no catalog requests. -/
def Site.bare (w : World) : Site := ⟨w, .empty, fun _ => .blank, []⟩

def sampleCreate : Request := .create customer ⟨flatText 'e', [flatText 'a'], none⟩

theorem creating_enabled : (exec (Site.step sampleConfig) (.bare (initial sampleCatalog))
    [.booking (.request sampleCreate)]).isSome = true := by
  decide +kernel

/-- The site when that request has come in. -/
def creating : Site := replay (Site.step sampleConfig) _ _ creating_enabled

theorem created_enabled : (exec (Site.step sampleConfig) creating
    ((createTurns 0 0 (flat 1) [flat 2]).map .booking)).isSome = true := by
  decide +kernel

theorem turns_bounded_created : creating.world.procs[0]? = some sampleCreate.proc ∧
    (transitions (Site.step sampleConfig) creating
      ((createTurns 0 0 (flat 1) [flat 2]).map .booking)).countP (bookingTurn 0) = sampleCreate.turns ∧
    ∃ response, (replay (Site.step sampleConfig) creating _ created_enabled).world.procs[0]? =
      some (.done response) := by
  have serving : creating.world.procs[0]? = some sampleCreate.proc := by decide +kernel
  have all : (transitions (Site.step sampleConfig) creating
    ((createTurns 0 0 (flat 1) [flat 2]).map .booking)).countP (bookingTurn 0) =
      sampleCreate.turns := by decide +kernel
  exact ⟨serving, all, ((turns_bounded (run_replay created_enabled)).1 _ serving).2 all⟩

/-! ## Nobody waits for ever -/

/-- The ids a request can still draw with `randomUUID`. -/
def Reservations.Create.idsLeft : Create → Nat
  | .assertAdmission _ _ | .findEvent _ _ | .findSectors _ _ _ | .findSeats _ _ _ _
  | .findPricing _ _ _ _ => 1
  | _ => 0

def Proc.idsLeft : Proc → Nat
  | .create state => state.idsLeft
  | _ => 0

/-- The row locks the call it is about to make asks for. -/
def Proc.wants : Proc → List RowLock
  | .cancel (.findOne _ path) => (uuid? path).toList.map .reservation
  | .expire (.commit reservation _ _ _) => [.reservation reservation.id]
  | .complete (.findPayment _ path _) => (uuid? path).toList.map .payment
  | .complete (.findReservation _ _ payment) => [.reservation payment.reservationId]
  | _ => []

/-- A payment row is locked before its reservation's. -/
def RowLock.rank : RowLock → Nat
  | .payment _ => 0
  | .reservation _ => 1

theorem wants_above (x : RowLock) (wanted : x ∈ p.wants) (y : RowLock) (claimed : y ∈ p.held) :
    y.rank < x.rank := by
  cases p with
  | cancel state => cases state <;> simp_all [Proc.wants, Proc.held, Cancel.held]
  | complete state =>
    cases state <;> simp_all [Proc.wants, Proc.held, Complete.held, RowLock.rank]
  | _ => cases claimed

theorem busy_of_held (holds : p.held ≠ []) : ∀ response, p ≠ .done response := by
  rintro response rfl
  exact holds rfl

/-! Whatever the time is, a call whose rows are free goes through under some choice. -/

theorem Reservations.Create.exists_turn {state : Create} (unseen : 0 < state.idsLeft → id ∉ server.drawn) :
    ∃ c : Choice, c.now = now ∧ c.fault = false ∧ (0 < state.idsLeft → c.ids = [id]) ∧
      state.turn cfg c server ≠ none := by
  cases state
  case save draft =>
    refine ⟨{ now := now, ids := draft.seatIds.map fun _ => id }, rfl, rfl, ?_, ?_⟩
    · simp [idsLeft]
    · simp only [Create.turn]
      grind [Server.stay]
  all_goals
    refine ⟨{ now := now, ids := [id] }, rfl, rfl, fun _ => rfl, ?_⟩
    simp only [Create.turn]
    grind [Server.refuse, Server.stay, Create.idsLeft]

theorem Reservations.Cancel.turn_ne_none {state : Cancel}
    (free : ∀ x ∈ (Proc.cancel state).wants, x ∉ held) : state.turn held server ≠ none := by
  cases state <;> simp only [Cancel.turn] <;>
    grind [Server.refuse, Server.stay, Cancel.finish, Proc.wants]

theorem Reservations.Expire.loop_ne_none {expired : Nat} {rest : List Reservation} :
    Expire.loop server expired rest ≠ none := by
  cases rest <;> exact Option.some_ne_none _

theorem Reservations.Expire.exists_turn {state : Expire}
    (free : ∀ x ∈ (Proc.expire state).wants, x ∉ held) :
    ∃ c : Choice, c.now = now ∧ c.fault = false ∧ state.turn c held server ≠ none := by
  cases state
  case getMany =>
    obtain ⟨order, batch, found⟩ := exists_getStale server.db now
    refine ⟨{ now := now, order := order }, rfl, rfl, ?_⟩
    simp only [Expire.turn, found, Option.bind_some]
    exact loop_ne_none
  all_goals refine ⟨{ now := now }, rfl, rfl, ?_⟩
  case findSeats => exact Option.some_ne_none _
  case commit =>
    simp only [Expire.turn]
    rw [if_neg (free _ List.mem_cons_self)]
    split
    · exact Option.some_ne_none _
    · exact loop_ne_none
  case release => exact loop_ne_none

theorem Payments.Start.exists_turn {state : Start} :
    ∃ c : Choice, c.now = now ∧ c.fault = false ∧ state.turn c server ≠ none := by
  refine ⟨{ now := now, ids := [flat 0] }, rfl, rfl, ?_⟩
  cases state <;> simp only [Start.turn] <;> grind [Server.refuse, Server.stay]

theorem Payments.Complete.exists_turn {state : Complete}
    (free : ∀ x ∈ (Proc.complete state).wants, x ∉ held) :
    ∃ c : Choice, c.now = now ∧ c.fault = false ∧ state.turn cfg c held server ≠ none := by
  cases state
  case commit body payment reservation seats =>
    refine ⟨{ now := now, ids := seats.map fun _ => flat 0, tokens := [] :: seats.map fun _ => [] },
      rfl, rfl, ?_⟩
    simp only [Complete.turn]
    grind [Server.refuse]
  all_goals
    refine ⟨{ now := now }, rfl, rfl, ?_⟩
    simp only [Complete.turn]
  case findReservation user body payment =>
    cases found : Reservations.findReservation server.db payment.reservationId with
    | none => exact Option.some_ne_none _
    | some reservation =>
      have named : reservation.id = payment.reservationId := (booking_reservation_eq_some.mp found).2
      grind [Server.refuse, Server.stay, Proc.wants]
  all_goals grind [Server.refuse, Server.stay, Complete.finish, Proc.wants]

theorem Tickets.CheckIn.exists_turn {state : CheckIn} :
    ∃ c : Choice, c.now = now ∧ c.fault = false ∧ state.turn c server ≠ none := by
  refine ⟨{ now := now }, rfl, rfl, ?_⟩
  cases state <;> simp only [CheckIn.turn] <;> grind [Server.refuse, Server.stay]

theorem WaitingRoom.Join.exists_turn {state : Join} :
    ∃ c : Choice, c.now = now ∧ c.fault = false ∧ state.turn cfg c server ≠ none := by
  refine ⟨{ now := now, ids := [flat 0], tokens := [[]] }, rfl, rfl, ?_⟩
  cases state <;> simp only [Join.turn] <;> grind [Server.refuse, Server.stay]

theorem WaitingRoom.Admit.exists_turn {state : Admit} :
    ∃ c : Choice, c.now = now ∧ c.fault = false ∧ state.turn cfg c server ≠ none := by
  cases state
  case findQueued eventId body =>
    refine ⟨{ now := now, tokens := (((server.db.entries.rows.filter fun entry =>
      entry.eventId = eventId ∧ entry.state = .queued).insertionSort
        (·.position ≤ ·.position)).take body.count).map fun _ => [] }, rfl, rfl, ?_⟩
    simp [Admit.turn, Server.stay]
  case save =>
    refine ⟨{ now := now }, rfl, rfl, ?_⟩
    simp only [Admit.turn]
    grind [Server.refuse]

private theorem turn_of_call {σ : Type} {wrap : σ → Proc} {call : Choice → Option (Server × Next σ)}
    (served : ∀ c, c.fault = false → p.turn cfg c held server = turnOf wrap (call c))
    (through : ∃ c : Choice, c.now = now ∧ c.fault = false ∧ (0 < p.idsLeft → c.ids = [id]) ∧
      call c ≠ none) :
    ∃ c server' p', c.now = now ∧ c.fault = false ∧ (0 < p.idsLeft → c.ids = [id]) ∧
      p.turn cfg c held server = some (server', p') := by
  obtain ⟨c, at_now, sound, drawn, through⟩ := through
  obtain ⟨⟨server', next⟩, taken⟩ := Option.ne_none_iff_exists'.mp through
  exact ⟨c, server', next.proc wrap, at_now, sound, drawn, by rw [served c sound, taken]; rfl⟩

/-- Only creating a reservation draws an id that must be a new one. -/
private theorem any_ids {P : Choice → Prop} (quiet : p.idsLeft = 0)
    (through : ∃ c : Choice, c.now = now ∧ c.fault = false ∧ P c) :
    ∃ c : Choice, c.now = now ∧ c.fault = false ∧ (0 < p.idsLeft → c.ids = [id]) ∧ P c := by
  obtain ⟨c, at_now, sound, holds⟩ := through
  exact ⟨c, at_now, sound, fun drawing => by omega, holds⟩

theorem Proc.exists_turn (cfg : Config) (now : Nat) (busy : ∀ response, p ≠ .done response)
    (unseen : 0 < p.idsLeft → id ∉ server.drawn) (free : ∀ x ∈ p.wants, x ∉ held) :
    ∃ c server' p', c.now = now ∧ c.fault = false ∧ (0 < p.idsLeft → c.ids = [id]) ∧
      p.turn cfg c held server = some (server', p') := by
  cases p
  case done response => exact absurd rfl (busy response)
  all_goals
    apply turn_of_call fun c sound => by
      simp only [Proc.turn, sound, Bool.false_eq_true, if_false]
      rfl
  case create state => exact Create.exists_turn unseen
  all_goals apply any_ids rfl
  · exact ⟨{ now := now }, rfl, rfl, Cancel.turn_ne_none free⟩
  · exact Expire.exists_turn free
  · exact Start.exists_turn
  · exact Complete.exists_turn free
  · exact CheckIn.exists_turn
  · exact Join.exists_turn
  · exact Admit.exists_turn

theorem CatalogProc.exists_turn (listing : Listing) (now : Nat) (busy : ∀ reply, q ≠ .done reply) :
    ∃ c listing' q', c.now = now ∧ c.fault = false ∧ q.turn c listing = some (listing', q') := by
  suffices ∃ c : Choice, c.now = now ∧ c.fault = false ∧ q.turn c listing ≠ none by
    obtain ⟨c, at_now, sound, through⟩ := this
    obtain ⟨⟨listing', q'⟩, taken⟩ := Option.ne_none_iff_exists'.mp through
    exact ⟨c, listing', q', at_now, sound, taken⟩
  cases q
  case done reply => exact absurd rfl (busy reply)
  case createSector state =>
    cases state
    case saveSeats sector body =>
      refine ⟨{ now := now, ids := (Venues.newSeats sector body).map fun _ => flat 0 }, rfl, rfl, ?_⟩
      simp only [CatalogProc.turn, Venues.CreateSector.turn, Listing.refuse]
      grind [afterOf]
    all_goals
      refine ⟨{ now := now, ids := [flat 0] }, rfl, rfl, ?_⟩
      simp only [CatalogProc.turn, Venues.CreateSector.turn, Listing.refuse, Listing.stay]
      grind [afterOf]
  all_goals
    rename_i state
    refine ⟨{ now := now, ids := [flat 0] }, rfl, rfl, ?_⟩
    cases state
    all_goals
      simp only [CatalogProc.turn, Venues.Create.turn, Events.Create.turn, Events.Update.turn,
        Events.AddPricing.turn, Events.Publish.turn, Listing.refuse, Listing.stay]
      grind [afterOf]

theorem Proc.idsLeft_le (p : Proc) : p.idsLeft ≤ 1 := by
  cases p <;> try exact Nat.zero_le _
  case create state => cases state <;> simp [Proc.idsLeft, Create.idsLeft]

/-- A turn draws an id where it was going to draw one, and no id otherwise. -/
theorem Proc.drawn_turn (turn : p.turn cfg c held server = some (server', p')) :
    server'.drawn = server.drawn ∧ p'.idsLeft ≤ p.idsLeft ∨
      ∃ id, c.ids = [id] ∧ server'.drawn = id :: server.drawn ∧ p'.idsLeft < p.idsLeft := by
  by_cases creates : p.creates = true
  · cases p with
    | create state =>
      simp only [Proc.turn, turnOf_eq_some] at turn
      obtain ⟨next, turn, rfl⟩ := turn
      split at turn
      · cases state <;> simp only [Create.fault] at turn <;>
          grind [Server.refuse, Server.stay, Next.proc, Proc.idsLeft, Create.idsLeft]
      · cases state <;> simp only [Create.turn] at turn <;>
          grind [Server.refuse, Server.stay, Next.proc, Proc.idsLeft, Create.idsLeft, releaseLocks,
            Server.emit]
    | _ => cases creates
  · refine .inl ⟨((Proc.frame turn).2.2 (Bool.eq_false_iff.mpr creates)).drawn, ?_⟩
    cases p <;> simp only [Proc.turn, turnOf_eq_some] at turn
    case create => exact absurd rfl creates
    case done => cases turn
    all_goals
      obtain ⟨next, -, rfl⟩ := turn
      cases next <;> exact Nat.le_refl _

/-- There are as many new ids as the requests can still draw. -/
def Site.Supplied (s : Site) : Prop :=
  ∃ fresh : List Uuid, fresh.Nodup ∧ (∀ id ∈ fresh, id ∉ s.world.shared.drawn) ∧
    (s.world.procs.map Proc.idsLeft).sum ≤ fresh.length

def Site.work (s : Site) : Nat := (s.world.procs.map Proc.work).sum + (s.procs.map CatalogProc.work).sum

/-- A turn at that time of a request whose call does not fail. -/
def Site.Action.Working (now : Nat) : Site.Action → Prop
  | .booking (.turn _ c) | .turn _ c => c.now = now ∧ c.fault = false
  | _ => False

def Site.Answered (s : Site) : Prop :=
  (∀ p ∈ s.world.procs, ∃ response, p = .done response) ∧ ∀ q ∈ s.procs, ∃ reply, q = .done reply

theorem Site.catalog_goes_on (now : Nat) (supplied : s.Supplied) (member : q ∈ s.procs)
    (busy : ∀ reply, q ≠ .done reply) :
    ∃ a s', Site.Action.Working now a ∧ Site.step cfg s a = some s' ∧ s'.Supplied ∧ s'.work < s.work := by
  obtain ⟨pid, serving⟩ := List.mem_iff_getElem?.mp member
  obtain ⟨c, listing', q', at_now, sound, turn⟩ :=
    CatalogProc.exists_turn s.listing now busy
  refine ⟨.turn pid c, { s.relist listing' with procs := s.procs.set pid q' }, ⟨at_now, sound⟩, ?_,
    supplied, ?_⟩
  · simp only [Site.step, serving, turn, Option.bind_eq_bind, Option.bind_some]
  · have less := CatalogProc.work_turn turn
    have total : ((s.procs.set pid q').map CatalogProc.work).sum + q.work =
        (s.procs.map CatalogProc.work).sum + q'.work := Pool.sum_map_set CatalogProc.work serving
    simp only [Site.work, Site.relist]
    omega

theorem Site.booking_goes_on (now : Nat) (supplied : s.Supplied) (member : p ∈ s.world.procs)
    (busy : ∀ response, p ≠ .done response) :
    ∃ a s', Site.Action.Working now a ∧ Site.step cfg s a = some s' ∧ s'.Supplied ∧ s'.work < s.work := by
  obtain ⟨pid, p, serving, busy, moves⟩ : ∃ (pid : Nat) (p : Proc), s.world.procs[pid]? = some p ∧
      (∀ response, p ≠ .done response) ∧ ¬Pool.Waits Proc.held Proc.wants s.world.procs pid :=
    Pool.exists_free RowLock.rank (fun _ _ => wants_above) (fun _ _ => busy_of_held) ⟨p, member, busy⟩
  obtain ⟨fresh, distinct, unseen, enough⟩ := supplied
  have free : ∀ x ∈ p.wants, x ∉ (s.world.others pid).flatMap Proc.held := by
    intro x wanted claimed
    obtain ⟨q, other, claimed⟩ := List.mem_flatMap.mp claimed
    obtain ⟨j, different, at_j⟩ := Pool.mem_others.mp other
    exact moves ⟨p, serving, x, wanted, j, q, different, at_j, claimed⟩
  have room : p.idsLeft ≤ fresh.length :=
    (List.single_le_sum (fun _ _ => Nat.zero_le _) _
      (List.mem_map_of_mem (List.mem_of_getElem? serving))).trans enough
  have undrawn : 0 < p.idsLeft → fresh.headD (flat 0) ∉ s.world.shared.drawn := by
    intro drawing
    cases fresh with
    | nil => exact absurd room (Nat.not_le.mpr drawing)
    | cons id rest => exact unseen id List.mem_cons_self
  obtain ⟨c, server', p', at_now, sound, ids, turn⟩ := Proc.exists_turn cfg now busy undrawn free
  have less := Proc.work_turn turn
  have total : ((s.world.procs.set pid p').map Proc.work).sum + p.work =
      (s.world.procs.map Proc.work).sum + p'.work := Pool.sum_map_set Proc.work serving
  have drawing : ((s.world.procs.set pid p').map Proc.idsLeft).sum + p.idsLeft =
      (s.world.procs.map Proc.idsLeft).sum + p'.idsLeft := Pool.sum_map_set Proc.idsLeft serving
  refine ⟨.booking (.turn pid c), { s with world := ⟨server', s.world.procs.set pid p'⟩ },
    ⟨at_now, sound⟩, ?_, ?_, ?_⟩
  · simp only [Site.step, KiTicket.step, serving, turn, Option.bind_eq_bind, Option.bind_some,
      Option.pure_def, Option.map_some]
  · rcases Proc.drawn_turn turn with ⟨same, fewer⟩ | ⟨id, drew, more, fewer⟩
    · exact ⟨fresh, distinct, same ▸ unseen, by simp only; omega⟩
    · cases fresh with
      | nil => exact absurd (room.trans_lt' fewer) (Nat.not_lt_zero _)
      | cons head rest =>
        cases (ids (by omega)).symm.trans drew
        obtain ⟨another, distinct⟩ := List.nodup_cons.mp distinct
        refine ⟨rest, distinct, fun id member => ?_, ?_⟩
        · rw [more, List.mem_cons, not_or]
          refine ⟨?_, unseen id (List.mem_cons_of_mem _ member)⟩
          rintro rfl
          exact another member
        · simp only [List.length_cons] at enough ⊢
          omega
  · simp only [Site.work]
    omega

/-- Nothing is ever stuck: wherever the site stands, and whatever the clocks say, every
request that has arrived can be answered, as long as `randomUUID` has a new id for each. -/
theorem all_answered (clock : Site → Nat) (fresh : List Uuid) (distinct : fresh.Nodup)
    (unseen : ∀ id ∈ fresh, id ∉ s.world.shared.drawn)
    (enough : s.world.procs.length ≤ fresh.length) :
    ∃ ts s', Run (Site.step cfg) s ts s' ∧
      (∀ t ∈ ts, t.action.Working (clock t.source)) ∧ s'.Answered := by
  have most : (s.world.procs.map Proc.idsLeft).sum ≤ s.world.procs.length := by
    have bound := List.sum_le_card_nsmul (s.world.procs.map Proc.idsLeft) 1 fun n member => by
      obtain ⟨p, -, rfl⟩ := List.mem_map.mp member
      exact p.idsLeft_le
    simpa using bound
  have finished : ∃ ts s', Run (Site.step cfg) s ts s' ∧
      (∀ t ∈ ts, t.action.Working (clock t.source)) ∧ s'.Supplied ∧ s'.Answered := by
    refine exists_run_to_end Site.work ?_ ⟨fresh, distinct, unseen, most.trans enough⟩
    intro s supplied unanswered
    by_cases catalog : ∀ q ∈ s.procs, ∃ reply, q = .done reply
    · have booking : ¬∀ p ∈ s.world.procs, ∃ response, p = .done response :=
        fun all => unanswered ⟨all, catalog⟩
      push Not at booking
      obtain ⟨p, member, busy⟩ := booking
      exact s.booking_goes_on (clock s) supplied member busy
    · push Not at catalog
      obtain ⟨q, member, busy⟩ := catalog
      exact s.catalog_goes_on (clock s) supplied member busy
  obtain ⟨ts, s', run, working, -, answered⟩ := finished
  exact ⟨ts, s', run, working, answered⟩

/-- A completion holds the payment row and waits for the reservation row, which a
cancellation holds, and a third request has just come in. -/
def heldUp : List Action :=
  reserve ++ pay ++ [.request (.cancel customer (flatText '1')), .turn 2 {},
    .request (.complete customer (flatText '3') ⟨.success, none⟩), .turn 3 {}, .request sampleCreate]

theorem heldUp_enabled :
    (exec (step sampleConfig) (initial sampleCatalog) heldUp).isSome = true := by
  decide +kernel

theorem all_answered_heldUp :
    step sampleConfig (replayed heldUp heldUp_enabled) (.turn 3 {}) = none ∧
    ∃ ts s', Run (Site.step sampleConfig) (.bare (replayed heldUp heldUp_enabled)) ts s' ∧
      (∀ t ∈ ts, t.action.Working 2) ∧ s'.Answered :=
  ⟨by decide +kernel, all_answered (fun _ => 2) ((List.range' 5 5).map flat) (by decide +kernel)
    (by decide +kernel) (by decide +kernel)⟩

end KiTicket
