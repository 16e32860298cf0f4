import KiTicket.Leaks
import KiTicket.Queue
import KiTicket.CheckIns
import KiTicket.Site

/-! Whose data is whose. A request of a customer works for that customer's reservations
alone: those it has read it has compared with its user, and the one it is about to store
bears an id nobody else works under. So no turn of it writes a row of anybody else, and it
gives seat locks back in its own names only. The endpoints that only read, and those of the
accounts, write none of these rows. -/
namespace KiTicket
open Reservations Payments WaitingRoom Tickets Runs LockService

variable {cfg : Config} {w w' : World} {a : Action} {c : Choice} {held : List RowLock}
  {server server' : Server} {p p' : Proc} {r : Reservation} {id : Uuid} {pid : Nat}
  {user : AuthenticatedUser} {bookings bookings' : Uuid → Booking} {lock v : Text}

/-! ## Names -/

/-- The id a create stores its reservation under, or would have. -/
def Proc.name : Proc → List Uuid
  | .create (.acquire draft) | .create (.findOccupied draft) | .create (.save draft)
  | .create (.release draft _) => [draft.id]
  | _ => []

/-- A name was drawn, is no reservation's yet, and one request's only. -/
structure World.Named (w : World) : Prop where
  fresh : ∀ p ∈ w.procs, ∀ id ∈ p.name, id ∈ w.shared.drawn ∧ (w.db.booking id).reservation = none
  exclusive : Pool.Exclusive Proc.name w.procs

/-- A turn keeps its name, gives it up, or draws one. -/
theorem Proc.name_cases (turn : p.turn cfg c held server = some (server', p'))
    (mine : id ∈ p'.name) : id ∈ p.name ∨ id ∉ server.drawn ∧ id ∈ server'.drawn := by
  cases p <;> simp only [Proc.turn, turnOf_eq_some] at turn
  case done => cases turn
  case create state =>
    obtain ⟨next, turn, rfl⟩ := turn
    split at turn
    · cases state <;> simp only [Create.fault] at turn
      case findOccupied | save =>
        cases turn
        exact .inl mine
      all_goals cases turn <;> cases mine
    cases state <;> simp only [Create.turn] at turn
    case assertAdmission => split at turn <;> cases turn <;> cases mine
    case findEvent =>
      split at turn
      · cases turn
        cases mine
      split at turn
      · cases turn
        cases mine
      split at turn <;> cases turn <;> cases mine
    case findSectors =>
      cases turn
      cases mine
    case findSeats => split at turn <;> cases turn <;> cases mine
    case findPricing =>
      split at turn
      · cases turn
        cases mine
      split at turn
      · split at turn <;> cases turn
        rename_i new
        rw [List.mem_singleton.mp mine]
        exact .inr ⟨new, List.mem_cons_self⟩
      · cases turn
    case acquire => split at turn <;> cases turn <;> first | exact .inl mine | cases mine
    case findOccupied => split at turn <;> cases turn <;> exact .inl mine
    case save =>
      split at turn
      · cases turn
      split at turn <;> cases turn
      · exact .inl mine
      · cases mine
    case announce =>
      cases turn
      cases mine
    case release =>
      cases turn
      cases mine
  all_goals
    obtain ⟨next, -, rfl⟩ := turn
    cases next <;> cases mine

/-- The turn that stores a reservation gives its name up. -/
theorem Created.named (created : Created cfg w w' (.turn pid c) id r)
    (serving : w.procs[pid]? = some p) (going : w'.procs[pid]? = some p') :
    id ∈ p.name ∧ p'.name = [] := by
  obtain ⟨at_pid, after, -, -, -⟩ := created
  rw [serving, Option.some.injEq] at at_pid
  rw [going, Option.some.injEq] at after
  subst at_pid after
  exact ⟨List.mem_cons_self, rfl⟩

theorem Created.userId {draft : Draft} (created : Created cfg w w' (.turn pid c) id r)
    (serving : w.procs[pid]? = some (.create (.save draft))) : r.userId = draft.userId := by
  obtain ⟨at_pid, -, -, -, -⟩ := created
  rw [serving, Option.some.injEq] at at_pid
  cases at_pid
  rfl

theorem World.Named.turn (named : World.Named w) (locked : World.Locked w)
    (sound : World.Sound (fun _ => True) w) (taken : step cfg w (.turn pid c) = some w') :
    World.Named w' := by
  obtain ⟨p, p', serving, turn, procs⟩ := step_turn taken
  have size := (List.getElem?_eq_some_iff.mp serving).1
  have going : w'.procs[pid]? = some p' := procs ▸ List.getElem?_set_self size
  have mine := named.fresh p (List.mem_of_getElem? serving)
  have drawn {id : Uuid} (old : id ∈ w.shared.drawn) : id ∈ w'.shared.drawn :=
    (Proc.locking turn).drawn old
  have absent {id : Uuid} (before : (w.db.booking id).reservation = none)
      (other : id ∈ p.name → id ∉ p'.name → False) : (w'.db.booking id).reservation = none := by
    rw [Option.eq_none_iff_forall_ne_some]
    intro r after
    rcases reservation_cases sound taken after with ⟨old, stored, -⟩ | created
    · rw [before] at stored
      cases stored
    · obtain ⟨own, none⟩ := created.named serving going
      exact other own (none ▸ List.not_mem_nil)
  constructor
  case fresh =>
    rw [procs]
    refine Pool.forall_set named.fresh ?_ ?_
    · intro id own
      rcases p.name_cases turn own with old | ⟨undrawn, now⟩
      · exact ⟨drawn (mine id old).1, absent (mine id old).2 fun _ lost => lost own⟩
      · exact ⟨now, absent (locked.undrawn id undrawn).1 fun _ lost => lost own⟩
    · intro j q different at_j kept id theirs
      refine ⟨drawn (kept id theirs).1, absent (kept id theirs).2 fun own _ => ?_⟩
      exact named.exclusive pid j p q different.symm serving at_j id own theirs
  case exclusive =>
    rw [procs]
    refine named.exclusive.set fun j q different at_j id own theirs => ?_
    rcases p.name_cases turn own with old | ⟨undrawn, -⟩
    · exact named.exclusive pid j p q different.symm serving at_j id old theirs
    · exact undrawn (named.fresh q (List.mem_of_getElem? at_j) id theirs).1

theorem World.Named.next (named : World.Named w) (locked : World.Locked w)
    (sound : World.Sound (fun _ => True) w) (taken : step cfg w a = some w') : World.Named w' := by
  cases step_cases taken
  case turn => exact named.turn locked sound taken
  case request r accepted =>
    have none : r.proc.name = [] := by
      cases r <;> rfl
    refine ⟨fun p member id mine => ?_, named.exclusive.append none⟩
    rcases List.mem_append.mp member with old | new
    · exact named.fresh p old id mine
    · rw [List.mem_singleton.mp new, none] at mine
      cases mine
  case crash pid p serving =>
    exact ⟨Pool.forall_set named.fresh (fun _ mine => absurd mine List.not_mem_nil)
      fun _ _ _ _ kept => kept,
      named.exclusive.release serving fun _ mine => absurd mine List.not_mem_nil⟩
  case pass => exact ⟨named.fresh, named.exclusive⟩
  case drop => exact ⟨named.fresh, named.exclusive⟩

theorem named_initial {catalog : Catalog} : World.Named (initial catalog) where
  fresh p member := absurd member List.not_mem_nil
  exclusive i j p q _ at_i := by simp [initial] at at_i

/-! ## For whom a request works -/

/-- The reservation is there and is the user's. -/
def Owned (bookings : Uuid → Booking) (user : AuthenticatedUser) (id : Uuid) : Prop :=
  ∃ r, (bookings id).reservation = some r ∧ r.userId = user.sub

def Reservations.Create.For (user : AuthenticatedUser) : Create → Prop
  | .assertAdmission by' _ | .findEvent by' _ | .findSectors by' _ _ | .findSeats by' _ _ _
  | .findPricing by' _ _ _ => by' = user
  | .acquire draft | .findOccupied draft | .save draft | .release draft _ => draft.userId = user.sub
  | .announce _ _ => True

def Reservations.Cancel.For (bookings : Uuid → Booking) (user : AuthenticatedUser) : Cancel → Prop
  | .findOne by' _ => by' = user
  | .findSeats _ r | .commit _ r _ | .release r _ => Owned bookings user r.id

def Payments.Start.For (bookings : Uuid → Booking) (user : AuthenticatedUser) : Start → Prop
  | .findByKey by' _ | .findLinked by' _ _ | .findReservation by' _ => by' = user
  | .save _ _ r => Owned bookings user r.id
  | .announce _ _ | .findByReservation _ => True

def Payments.Complete.For (bookings : Uuid → Booking) (user : AuthenticatedUser) :
    Complete → Prop
  | .findPayment by' _ _ | .findReservation by' _ _ => by' = user
  | .findSeats _ _ r | .findTickets _ r | .commit _ _ r _ => Owned bookings user r.id
  | .release result => Owned bookings user result.reservation.id

def WaitingRoom.Join.For (user : AuthenticatedUser) : Join → Prop
  | .findEvent by' _ | .findActive by' _ | .incr by' _ | .save by' _ _ => by' = user

/-- The request is the customer's, and so are the reservations it works for. -/
def Proc.For (bookings : Uuid → Booking) (user : AuthenticatedUser) : Proc → Prop
  | .create state => state.For user
  | .cancel state => state.For bookings user
  | .start state => state.For bookings user
  | .complete state => state.For bookings user
  | .join state => state.For user
  | .expire _ | .checkIn _ | .admitUsers _ => False
  | .done _ => True

theorem Proc.For.mono (works : p.For bookings user)
    (kept : ∀ id, Owned bookings user id → Owned bookings' user id) : p.For bookings' user := by
  cases p <;> try exact works
  case cancel state =>
    cases state
    case findOne => exact works
    all_goals exact kept _ works
  case start state =>
    cases state
    case save => exact kept _ works
    all_goals exact works
  case complete state =>
    cases state
    case findPayment | findReservation => exact works
    all_goals exact kept _ works

theorem Reservations.Create.for_turn {state : Create} {next : Next Create}
    (works : state.For user) (turn : state.turn cfg c server = some (server', next)) :
    (next.proc .create).For bookings user := by
  cases state <;> simp only [Create.turn] at turn
  case assertAdmission => split at turn <;> cases turn <;> first | exact works | trivial
  case findEvent =>
    split at turn
    · cases turn
      trivial
    split at turn
    · cases turn
      trivial
    split at turn <;> cases turn <;> first | exact works | trivial
  case findSectors =>
    cases turn
    exact works
  case findSeats => split at turn <;> cases turn <;> first | exact works | trivial
  case findPricing by' body event selectedSeats =>
    have mine : by'.sub = user.sub := congrArg AuthenticatedUser.sub works
    split at turn
    · cases turn
      trivial
    split at turn
    · split at turn <;> cases turn
      exact mine
    · cases turn
  case acquire => split at turn <;> cases turn <;> first | exact works | trivial
  case findOccupied => split at turn <;> cases turn <;> exact works
  case save =>
    split at turn
    · cases turn
    split at turn <;> cases turn <;> first | exact works | trivial
  case announce | release =>
    cases turn
    trivial

theorem Reservations.Cancel.for_turn {state : Cancel} {next : Next Cancel}
    (works : state.For server.db.booking user) (customer : user.role = .customer)
    (turn : state.turn held server = some (server', next)) :
    (next.proc .cancel).For server.db.booking user := by
  cases state <;> simp only [Cancel.turn] at turn
  case findOne by' path =>
    obtain rfl : by' = user := works
    split at turn
    · cases turn
      trivial
    split at turn
    · cases turn
      trivial
    rename_i id _ _ r found
    split at turn
    · cases turn
    split at turn
    · cases turn
      trivial
    rename_i allowed
    split at turn <;> cases turn
    · trivial
    have mine : r.userId = by'.sub := by
      by_contra other
      exact allowed ⟨other, fun admin => by rw [customer] at admin; cases admin⟩
    rw [findReservation_eq] at found
    have named := (booking_reservation_eq_some.mp found).2
    exact ⟨r, named ▸ found, mine⟩
  case findSeats =>
    cases turn
    exact works
  case commit =>
    cases turn
    exact works
  case release =>
    cases turn
    trivial

theorem Payments.Start.for_turn {state : Start} {next : Next Start}
    (works : state.For server.db.booking user)
    (turn : state.turn c server = some (server', next)) :
    (next.proc .start).For server.db.booking user := by
  cases state <;> simp only [Start.turn] at turn
  case findByKey => split at turn <;> cases turn <;> exact works
  case findLinked =>
    split at turn
    · cases turn
      trivial
    · split at turn <;> cases turn <;> trivial
  case findReservation by' body =>
    obtain rfl : by' = user := works
    split at turn
    · cases turn
      trivial
    split at turn
    · cases turn
      trivial
    rename_i id _ _ r found
    split at turn
    · cases turn
      trivial
    rename_i mine
    split at turn <;> cases turn
    · trivial
    rw [findReservation_eq] at found
    have named := (booking_reservation_eq_some.mp found).2
    exact ⟨r, named ▸ found, not_not.mp mine⟩
  case save =>
    split at turn
    · split at turn <;> cases turn <;> trivial
    · cases turn
  case announce =>
    cases turn
    trivial
  case findByReservation => split at turn <;> cases turn <;> trivial

theorem Payments.Complete.for_turn {state : Complete} {next : Next Complete}
    (works : state.For server.db.booking user)
    (turn : state.turn cfg c held server = some (server', next)) :
    (next.proc .complete).For server.db.booking user := by
  cases state
  case findPayment =>
    simp only [Complete.turn] at turn
    split at turn
    · cases turn
      trivial
    split at turn
    · cases turn
      trivial
    split at turn <;> cases turn
    exact works
  case findReservation by' body payment =>
    obtain rfl : by' = user := works
    simp only [Complete.turn] at turn
    split at turn
    · cases turn
      trivial
    rename_i r found
    split at turn
    · cases turn
    split at turn <;> cases turn
    · trivial
    rename_i mine
    rw [findReservation_eq] at found
    have named := (booking_reservation_eq_some.mp found).2
    exact ⟨r, named ▸ found, not_not.mp mine⟩
  case findSeats =>
    simp only [Complete.turn] at turn
    split at turn <;> cases turn <;> exact works
  case findTickets =>
    cases turn
    trivial
  case commit body payment r seats =>
    cases next
    case done => trivial
    case go after =>
      obtain ⟨result, rfl, named, -, -⟩ := commit_result turn
      change Owned server.db.booking user result.reservation.id
      rw [named]
      exact works
  case release =>
    cases turn
    trivial

theorem WaitingRoom.Join.for_turn {state : Join} {next : Next Join} (works : state.For user)
    (turn : state.turn cfg c server = some (server', next)) :
    (next.proc .join).For bookings user := by
  cases state <;> simp only [Join.turn] at turn
  case findEvent =>
    split at turn
    · cases turn
      trivial
    split at turn
    · cases turn
      trivial
    split at turn <;> cases turn <;> first | exact works | trivial
  case findActive =>
    split at turn
    · cases turn
      exact works
    split at turn <;> cases turn <;> first | exact works | trivial
  case incr =>
    cases turn
    exact works
  case save =>
    split at turn
    · split at turn <;> cases turn <;> trivial
    · cases turn

/-- A failing call leaves nothing to work for, or the locks of the draft. -/
theorem Reservations.Create.for_fault {state : Create} {next : Next Create}
    (works : state.For user) (turn : state.fault server = some (server', next)) :
    (next.proc .create).For bookings user := by
  cases state <;> simp only [Create.fault] at turn
  case findOccupied | save =>
    cases turn
    exact works
  all_goals
    cases turn
    try trivial

theorem Proc.For.turn (works : p.For server.db.booking user) (customer : user.role = .customer)
    (turn : p.turn cfg c held server = some (server', p')) : p'.For server.db.booking user := by
  cases p <;> simp only [Proc.turn, turnOf_eq_some] at turn
  case expire | checkIn | admitUsers => cases works
  case done => cases turn
  case create state =>
    obtain ⟨next, turn, rfl⟩ := turn
    split at turn
    · exact Create.for_fault works turn
    · exact Create.for_turn works turn
  case cancel state =>
    obtain ⟨next, turn, rfl⟩ := turn
    split at turn
    · cases state <;> cases turn <;> trivial
    · exact Cancel.for_turn works customer turn
  case start state =>
    obtain ⟨next, turn, rfl⟩ := turn
    split at turn
    · cases state <;> cases turn <;> trivial
    · exact Start.for_turn works turn
  case complete state =>
    obtain ⟨next, turn, rfl⟩ := turn
    split at turn
    · cases state <;> cases turn <;> trivial
    · exact Complete.for_turn works turn
  case join state =>
    obtain ⟨next, turn, rfl⟩ := turn
    split at turn
    · cases turn
      trivial
    · exact Join.for_turn works turn

/-! ## What a turn writes -/

theorem Stepped.stays_owned {a : Action} (stepped : Stepped (fun _ => True) w a w')
    (owned : Owned w.db.booking user id) : Owned w'.db.booking user id := by
  obtain ⟨r, stored, mine⟩ := owned
  obtain ⟨state, after⟩ := stepped.reservation stored
  exact ⟨_, after, mine⟩

/-- The booking a turn moves is the customer's, before and after. -/
theorem moved_own {m : Move} (named : World.Named w) (sound : World.Sound (fun _ => True) w)
    (taken : step cfg w (.turn pid c) = some w') (serving : w.procs[pid]? = some p)
    (works : p.For w.db.booking user) (performs : p.Performs c m id) :
    (∀ r, (w.db.booking id).reservation = some r → r.userId = user.sub) ∧
      ∀ r, (w'.db.booking id).reservation = some r → r.userId = user.sub := by
  have stepped := (sound.next spelled_any taken).2
  have member := List.mem_of_getElem? serving
  have own (owned : Owned w.db.booking user id) :
      (∀ r, (w.db.booking id).reservation = some r → r.userId = user.sub) ∧
        ∀ r, (w'.db.booking id).reservation = some r → r.userId = user.sub := by
    constructor
    · intro r stored
      obtain ⟨r', same, mine⟩ := owned
      rw [stored, Option.some.injEq] at same
      exact same ▸ mine
    · intro r stored
      obtain ⟨r', same, mine⟩ := stepped.stays_owned owned
      rw [stored, Option.some.injEq] at same
      exact same ▸ mine
  cases performs
  case expire => cases works
  case cancel => exact own works
  case start => exact own works
  case complete => exact own works
  case create draft =>
    have absent := (named.fresh _ member draft.id List.mem_cons_self).2
    constructor
    · intro r stored
      rw [absent] at stored
      cases stored
    · intro r stored
      rcases reservation_cases sound taken stored with ⟨old, before, -⟩ | created
      · rw [absent] at before
        cases before
      · exact (created.userId serving).trans works

/-- The booking of another user is not moved. -/
theorem booking_of_other (named : World.Named w) (sound : World.Sound (fun _ => True) w)
    (taken : step cfg w (.turn pid c) = some w') (serving : w.procs[pid]? = some p)
    (works : p.For w.db.booking user) (different : r.userId ≠ user.sub)
    (stored : (w.db.booking id).reservation = some r ∨ (w'.db.booking id).reservation = some r) :
    w'.db.booking id = w.db.booking id := by
  cases (sound.next spelled_any taken).2
  case same unchanged => exact unchanged id
  case moves pid' c' q m moved turn serving' calls performs spelling move elsewhere =>
    cases turn
    rw [serving, Option.some.injEq] at serving'
    subst serving'
    refine elsewhere id ?_
    rintro rfl
    obtain ⟨before, after⟩ := moved_own named sound taken serving works performs
    rcases stored with stored | stored
    · exact different (before r stored)
    · exact different (after r stored)

/-- The names a request holds locks in are its own. -/
theorem own_debts (named : World.Named w) (serving : w.procs[pid]? = some p)
    (works : p.For w.db.booking user) (stored : (w.db.booking id).reservation = some r)
    (different : r.userId ≠ user.sub) : ∀ debt ∈ p.owes, debt.1 ≠ id := by
  have fresh := named.fresh p (List.mem_of_getElem? serving)
  have absent (mine : id ∈ p.name) : False := by
    rw [(fresh id mine).2] at stored
    cases stored
  have own (owned : Owned w.db.booking user id) : False := by
    obtain ⟨r', same, mine⟩ := owned
    rw [stored, Option.some.injEq] at same
    exact different (same ▸ mine)
  rintro debt owes rfl
  cases p
  case create state =>
    cases state
    case findOccupied | save | release =>
      rw [List.mem_singleton.mp owes] at absent
      exact absent List.mem_cons_self
    all_goals cases owes
  case cancel state =>
    cases state
    case release =>
      rw [List.mem_singleton.mp owes] at own
      exact own works
    all_goals cases owes
  case complete state =>
    cases state
    case release =>
      rw [List.mem_singleton.mp owes] at own
      exact own works
    all_goals cases owes
  case expire => cases works
  all_goals cases owes

/-- A turn takes the locks it asks for, or gives some back in a name it owes, or leaves
the locks alone. -/
theorem locks_cases (turn : p.turn cfg c held server = some (server', p')) :
    server'.locks = server.locks ∨
    (∃ draft, p = .create (.acquire draft) ∧ acquire cfg server.locks draft.event.id.text
      draft.seatIds draft.id.text = .ok server'.locks) ∨
    ∃ debt ∈ p.owes, ∃ eventId seatIds,
      server'.locks = (release server.locks eventId seatIds debt.1.text).1 := by
  cases p <;> simp only [Proc.turn, turnOf_eq_some] at turn
  case done => cases turn
  case create state =>
    obtain ⟨next, turn, -⟩ := turn
    split at turn
    · left
      cases state <;> simp only [Create.fault] at turn <;> cases turn <;> rfl
    cases state
    case acquire draft =>
      simp only [Create.turn] at turn
      split at turn <;> cases turn
      · exact .inl rfl
      · rename_i locks acquired
        exact .inr (.inl ⟨draft, rfl, acquired⟩)
    case release draft failure =>
      cases turn
      exact .inr (.inr ⟨_, List.mem_cons_self, _, _, rfl⟩)
    all_goals
      left
      grind [Create.turn, Server.refuse, Server.stay, Server.emit]
  case cancel state =>
    obtain ⟨next, turn, -⟩ := turn
    split at turn
    · left
      cases state <;> simp only [Cancel.fault] at turn <;> cases turn <;> rfl
    cases state
    case release r seats =>
      cases turn
      exact .inr (.inr ⟨_, List.mem_cons_self, _, _, rfl⟩)
    all_goals
      left
      grind [Cancel.turn, Server.refuse, Server.stay]
  case expire state =>
    obtain ⟨next, turn, -⟩ := turn
    split at turn
    · left
      cases state <;> simp only [Expire.fault, Expire.finish] at turn
      case release => exact (Expire.loop_locks turn).trans rfl
      all_goals
        cases turn
        rfl
    cases state <;> simp only [Expire.turn] at turn
    case getMany =>
      obtain ⟨selected, -, turn⟩ := Option.bind_eq_some_iff.mp turn
      exact .inl (Expire.loop_locks turn)
    case findSeats =>
      cases turn
      exact .inl rfl
    case commit =>
      split at turn
      · split at turn <;> cases turn
        exact .inl rfl
      · exact .inl (Expire.loop_locks turn)
    case release r seats rest expired =>
      exact .inr (.inr ⟨_, List.mem_cons_self, _, _, Expire.loop_locks turn⟩)
  case start state =>
    obtain ⟨next, turn, -⟩ := turn
    left
    split at turn
    · cases state <;> simp only [Start.fault] at turn <;> cases turn <;> rfl
    · cases state <;> grind [Start.turn, Server.refuse, Server.stay, Server.emit]
  case complete state =>
    obtain ⟨next, turn, -⟩ := turn
    split at turn
    · left
      cases state <;> simp only [Complete.fault] at turn <;> cases turn <;> rfl
    cases state
    case release result =>
      cases turn
      exact .inr (.inr ⟨_, List.mem_cons_self, _, _, rfl⟩)
    all_goals
      left
      grind [Complete.turn, Server.refuse, Server.stay]
  case checkIn state =>
    obtain ⟨next, turn, -⟩ := turn
    left
    split at turn
    · cases turn
      rfl
    · cases state <;> grind [CheckIn.turn, Server.refuse, Server.stay]
  case join state =>
    obtain ⟨next, turn, -⟩ := turn
    left
    split at turn
    · cases turn
      rfl
    · cases state <;> grind [Join.turn, Server.refuse, Server.stay]
  case admitUsers state =>
    obtain ⟨next, turn, -⟩ := turn
    left
    split at turn
    · cases turn
      rfl
    · cases state <;> grind [Admit.turn, Server.refuse, Server.stay]

/-- A lock that holds is not taken again, and given back in its own name only. -/
theorem lock_kept {held' : Cell Text} (turn : p.turn cfg c held server = some (server', p'))
    (other : ∀ debt ∈ p.owes, debt.1.text ≠ held'.value)
    (cell : server.locks.cell lock = some held') (early : server.locks.now < held'.expiresAt) :
    server'.locks.now = server.locks.now ∧ server'.locks.cell lock = some held' := by
  have live : server.locks.get lock = some held'.value := KeyStore.get_eq_some.mpr ⟨_, cell, early, rfl⟩
  rcases locks_cases turn with same | ⟨draft, -, acquired⟩ | ⟨debt, owes, eventId, seatIds, released⟩
  · rw [same]
    exact ⟨rfl, cell⟩
  · obtain ⟨-, free, sets⟩ := acquire_eq_ok_iff.mp acquired
    rw [sets, KeyStore.setAll_spec.2, KeyStore.setAll_spec.1, if_neg, cell]
    · exact ⟨rfl, rfl⟩
    · intro listed
      rw [free lock (mem_seatKeys.mp listed)] at live
      cases live
  · rw [released, releases.deletes, releases.now, if_neg, cell]
    · exact ⟨rfl, rfl⟩
    · rintro ⟨-, mine⟩
      rw [live, Option.some.injEq] at mine
      exact other debt owes mine.symm

/-! ## What a customer leaves alone -/

/-- Every row of a user is what it was, and every lock of a reservation of the user's is
held until its time has come. -/
structure Untouched (v : Text) (w w' : World) : Prop where
  reservations : ∀ r, r.userId = v →
    (r ∈ w.db.reservations.rows ↔ r ∈ w'.db.reservations.rows)
  seats : ∀ r ∈ w.db.reservations.rows, r.userId = v → ∀ row, row.reservationId = r.id →
    (row ∈ w.db.reservationSeats.rows ↔ row ∈ w'.db.reservationSeats.rows)
  payments : ∀ r ∈ w.db.reservations.rows, r.userId = v → ∀ row, row.reservationId = r.id →
    (row ∈ w.db.payments.rows ↔ row ∈ w'.db.payments.rows)
  tickets : ∀ r ∈ w.db.reservations.rows, r.userId = v → ∀ row, row.reservationId = r.id →
    (row ∈ w.db.tickets.rows ↔ row ∈ w'.db.tickets.rows)
  entries : ∀ row, row.userId = v → (row ∈ w.db.entries.rows ↔ row ∈ w'.db.entries.rows)
  clock : w.shared.locks.now ≤ w'.shared.locks.now
  locks : ∀ r ∈ w.db.reservations.rows, r.userId = v → ∀ lock cell,
    w.shared.locks.cell lock = some cell → cell.value = r.id.text →
      w'.shared.locks.now < cell.expiresAt → w'.shared.locks.cell lock = some cell

/-- Neither the catalog nor the clock of Redis is anybody's. -/
theorem Untouched.of_quiet {catalog : Catalog} (db : w'.db = { w.db with catalog })
    (clock : w.shared.locks.now ≤ w'.shared.locks.now)
    (locks : w'.shared.locks.cell = w.shared.locks.cell) : Untouched v w w' where
  reservations _ _ := by rw [db]
  seats _ _ _ _ _ := by rw [db]
  payments _ _ _ _ _ := by rw [db]
  tickets _ _ _ _ _ := by rw [db]
  entries _ _ := by rw [db]
  clock := clock
  locks _ _ _ _ _ held _ _ := by rw [locks, held]

theorem Untouched.refl : Untouched v w w := .of_quiet rfl (Nat.le_refl _) rfl

theorem Untouched.trans {w'' : World} (first : Untouched v w w') (second : Untouched v w' w'') :
    Untouched v w w'' where
  reservations r mine := (first.reservations r mine).trans (second.reservations r mine)
  seats r stored mine row of := (first.seats r stored mine row of).trans
    (second.seats r ((first.reservations r mine).mp stored) mine row of)
  payments r stored mine row of := (first.payments r stored mine row of).trans
    (second.payments r ((first.reservations r mine).mp stored) mine row of)
  tickets r stored mine row of := (first.tickets r stored mine row of).trans
    (second.tickets r ((first.reservations r mine).mp stored) mine row of)
  entries row mine := (first.entries row mine).trans (second.entries row mine)
  clock := Nat.le_trans first.clock second.clock
  locks r stored mine lock cell held named early := by
    have middle := first.locks r stored mine lock cell held named
      (Nat.lt_of_le_of_lt second.clock early)
    exact second.locks r ((first.reservations r mine).mp stored) mine lock cell middle named early

/-- Where tickets are only added and a booking has none more, its rows are what they were. -/
theorem tickets_of_same {db db' : Db} {new : List Ticket} {row : Ticket}
    (added : db'.tickets.rows = db.tickets.rows ++ new)
    (same : (db'.booking id).tickets = (db.booking id).tickets) (of : row.reservationId = id) :
    row ∈ db.tickets.rows ↔ row ∈ db'.tickets.rows := by
  have none : new.filter (·.reservationId = id) = [] := by
    simpa [Db.booking, added] using same
  rw [added, List.mem_append]
  refine ⟨.inl, fun member => member.resolve_right fun fresh => ?_⟩
  have both : row ∈ new.filter (·.reservationId = id) :=
    List.mem_filter.mpr ⟨fresh, decide_eq_true of⟩
  rw [none] at both
  cases both

/-- The entries of another user are not touched. -/
theorem entries_of_other {row : WaitingRoomEntry} (taken : step cfg w (.turn pid c) = some w')
    (serving : w.procs[pid]? = some p) (works : p.For w.db.booking user)
    (different : row.userId ≠ user.sub) : row ∈ w.db.entries.rows ↔ row ∈ w'.db.entries.rows := by
  cases entries_cases taken
  case same entries _ _ => rw [entries]
  case join by' eventId position new token at_pid _ rows _ _ =>
    rw [serving, Option.some.injEq] at at_pid
    subst at_pid
    obtain rfl : by' = user := works
    rw [rows, List.mem_append]
    refine ⟨.inl, fun member => member.resolve_right fun fresh => different ?_⟩
    rw [List.mem_singleton.mp fresh, newEntry]
    split <;> rfl
  case admits queued _ at_pid _ _ =>
    rw [serving, Option.some.injEq] at at_pid
    subst at_pid
    cases works

theorem untouched_turn (named : World.Named w) (sound : World.Sound (fun _ => True) w)
    (taken : step cfg w (.turn pid c) = some w') (serving : w.procs[pid]? = some p)
    (works : p.For w.db.booking user) (different : v ≠ user.sub) : Untouched v w w' := by
  obtain ⟨p, p', at_pid, turn, -⟩ := step_turn taken
  rw [serving, Option.some.injEq] at at_pid
  subst at_pid
  have other {r : Reservation} (mine : r.userId = v) : r.userId ≠ user.sub := mine ▸ different
  have kept {r : Reservation} (stored : r ∈ w.db.reservations.rows) (mine : r.userId = v) :
      w'.db.booking r.id = w.db.booking r.id :=
    booking_of_other named sound taken serving works (other mine)
      (.inl (booking_reservation_eq_some.mpr ⟨stored, rfl⟩))
  have clock : w.shared.locks.now ≤ w'.shared.locks.now := by
    rcases locks_cases turn with same | ⟨draft, -, acquired⟩ | ⟨debt, -, eventId, seatIds, released⟩
    · rw [same]
    · rw [(acquires.sets _ acquired).2.1]
    · rw [released, releases.now]
  constructor
  case reservations =>
    intro r mine
    constructor
    · intro stored
      have here := booking_reservation_eq_some.mpr ⟨stored, rfl⟩
      rw [← kept stored mine] at here
      exact (booking_reservation_eq_some.mp here).1
    · intro stored
      have here := booking_reservation_eq_some.mpr ⟨stored, rfl⟩
      rw [booking_of_other named sound taken serving works (other mine) (.inr here)] at here
      exact (booking_reservation_eq_some.mp here).1
  case seats =>
    intro r stored mine row of
    have same := congrArg (row ∈ ·.seats) (kept stored mine)
    simpa [mem_booking_seats, of] using same.symm
  case payments =>
    intro r stored mine row of
    have same := congrArg (·.payment = some row) (kept stored mine)
    simpa [booking_payment_eq_some, of] using same.symm
  case tickets =>
    intro r stored mine row of
    rcases tickets_cases turn with ⟨new, added, -⟩ | ⟨ticket, rfl, -⟩
    · exact tickets_of_same added (congrArg Booking.tickets (kept stored mine)) of
    · cases works
  case entries =>
    intro row mine
    exact entries_of_other taken serving works (mine ▸ different)
  case clock => exact clock
  case locks =>
    intro r stored mine lock cell held value early
    have debts := own_debts named serving works (booking_reservation_eq_some.mpr ⟨stored, rfl⟩)
      (other mine)
    refine (lock_kept turn ?_ held (Nat.lt_of_le_of_lt clock early)).2
    intro debt owes same
    exact debts debt owes (Uuid.text_injective (same.trans value))

/-! ## Over the whole site -/

/-- On whose behalf a request is served; a tick of the timer is nobody's. -/
def Request.requester? : Request → Option AuthenticatedUser
  | .create user _ | .cancel user _ | .start user _ | .complete user _ _ | .checkIn user _
  | .join user _ | .admitUsers user _ _ => some user
  | .expire => none

def CatalogRequest.requester : CatalogRequest → AuthenticatedUser
  | .createVenue user _ | .createSector user _ _ | .createEvent user _ | .updateEvent user _ _
  | .addPricing user _ _ | .publish user _ => user

/-- What lets a customer's request in keeps it to that customer. -/
theorem Request.for_proc {r : Request} (accepted : r.accepted = true) (of : r.requester? = some user)
    (customer : user.role = .customer) : r.proc.For bookings user := by
  cases r <;> cases of
  case checkIn => simp [Request.accepted, customer] at accepted
  case admitUsers => simp [Request.accepted, customer] at accepted
  all_goals rfl

/-- The request goes on working for its customer. -/
theorem Proc.For.step (sound : World.Sound (fun _ => True) w) (taken : step cfg w a = some w')
    (serving : w.procs[pid]? = some p) (works : p.For w.db.booking user)
    (customer : user.role = .customer) :
    ∃ p', w'.procs[pid]? = some p' ∧ p'.For w'.db.booking user := by
  have stepped := (sound.next spelled_any taken).2
  have kept {q : Proc} (works : q.For w.db.booking user) : q.For w'.db.booking user :=
    works.mono fun _ owned => stepped.stays_owned owned
  rcases proc_cases taken serving with ⟨same, -⟩ | ⟨-, crashed⟩ | ⟨c, p', -, going, turn⟩
  · exact ⟨p, same, kept works⟩
  · exact ⟨_, crashed, trivial⟩
  · exact ⟨p', going, kept (works.turn customer turn)⟩

namespace Site

variable {listing : Listing} {s s' : Site} {ts us : List (Transition Site Site.Action)}
  {t : Transition Site Site.Action}

/-- Whose booking request arrives. -/
def Action.books : Site.Action → Option AuthenticatedUser
  | .booking (.request r) => r.requester?
  | _ => none

/-- Whose catalog request arrives. -/
def Action.edits : Site.Action → Option AuthenticatedUser
  | .request r => some r.requester
  | _ => none

/-- The booking request that arrived as number `pid` is the user's. -/
def Booked (ts : List (Transition Site Site.Action)) (pid : Nat) (user : AuthenticatedUser) :
    Prop :=
  ∃ t ∈ ts, t.source.world.procs.length = pid ∧ t.action.books = some user

/-- The catalog request that arrived as number `pid` is the user's. -/
def Edited (ts : List (Transition Site Site.Action)) (pid : Nat) (user : AuthenticatedUser) :
    Prop :=
  ∃ t ∈ ts, t.source.procs.length = pid ∧ t.action.edits = some user

/-- The action is the arrival of a request of the user, a turn of one, or its crash. -/
def Serves (ts : List (Transition Site Site.Action)) (user : AuthenticatedUser) :
    Site.Action → Prop
  | .booking (.turn pid _) | .booking (.crash pid) => Booked ts pid user
  | .turn pid _ | .crash pid => Edited ts pid user
  | a => a.books = some user ∨ a.edits = some user

/-- What the bookings of every reachable site satisfy. -/
structure Consistent (s : Site) : Prop where
  sound : World.Sound (fun _ => True) s.world
  locked : World.Locked s.world
  named : World.Named s.world

theorem Consistent.next {a : Site.Action} (consistent : Consistent s)
    (taken : Site.step cfg s a = some s') : Consistent s' := by
  obtain ⟨sound, locked, named⟩ := consistent
  cases step_cases taken
  case booking a world moves =>
    exact ⟨(sound.next spelled_any moves).1, locked.next sound moves, named.next locked sound moves⟩
  case request => exact ⟨sound, locked, named⟩
  case crash => exact ⟨sound, locked, named⟩
  case turn =>
    exact ⟨⟨sound.sound, sound.exclusive⟩,
      ⟨locked.undrawn, locked.claims, locked.exclusive, locked.pending⟩,
      ⟨named.fresh, named.exclusive⟩⟩

theorem standing_of_run (run : Run (Site.step cfg) (.unbooked listing) ts s) : Consistent s :=
  run.invariant (fun _ _ => (trivial : True)) ⟨sound_initial, locked_initial, named_initial⟩
    fun _ _ _ consistent _ taken => consistent.next taken

/-- A customer's request works for that customer, as long as it is served. -/
theorem works_of_run (run : Run (Site.step cfg) (.unbooked listing) ts s)
    (booked : Booked ts pid user) (customer : user.role = .customer) :
    ∃ p, s.world.procs[pid]? = some p ∧ p.For s.db.booking user := by
  refine run.history (P := fun ts s => Booked ts pid user →
    ∃ p, s.world.procs[pid]? = some p ∧ p.For s.db.booking user) (fun _ _ => (trivial : True))
    (fun ⟨t, member, _⟩ => absurd member List.not_mem_nil) ?_ booked
  rintro ts s a s' run - ih - taken ⟨t, member, number, arrives⟩
  rcases List.mem_append.mp member with old | new
  · obtain ⟨p, serving, works⟩ := ih ⟨t, old, number, arrives⟩
    cases step_cases taken
    case booking a world moves =>
      exact works.step (standing_of_run run).sound moves serving customer
    all_goals exact ⟨p, serving, works⟩
  · rw [List.mem_singleton.mp new] at arrives number
    subst number
    cases a
    case booking a =>
      cases a
      case request r =>
        cases step_cases taken
        rename_i world moves
        refine ⟨_, served_of_request moves, ?_⟩
        cases KiTicket.step_cases moves
        exact Request.for_proc (by assumption) arrives customer
      all_goals cases arrives
    all_goals cases arrives

/-- One step on behalf of a customer. -/
theorem untouched_step (run : Run (Site.step cfg) (.unbooked listing) ts s) {a : Site.Action}
    (taken : Site.step cfg s a = some s') (customer : user.role = .customer)
    (serves : Serves ts user a ∨ ∃ elapsed, a = .booking (.pass elapsed)) (different : v ≠ user.sub) :
    Untouched v s.world s'.world := by
  obtain ⟨sound, -, named⟩ := standing_of_run run
  cases step_cases taken
  case booking a world moves =>
    cases a
    case turn pid c =>
      obtain ⟨p, serving, works⟩ := works_of_run run (serves.resolve_right nofun) customer
      exact untouched_turn named sound moves serving works different
    case drop => rcases serves with (own | own) | ⟨_, own⟩ <;> cases own
    case pass =>
      cases moves
      exact .of_quiet rfl (Nat.le_add_right _ _) rfl
    case request =>
      cases KiTicket.step_cases moves
      exact .of_quiet rfl (Nat.le_refl _) rfl
    case crash =>
      cases KiTicket.step_cases moves
      exact .of_quiet rfl (Nat.le_refl _) rfl
  case request => exact .of_quiet rfl (Nat.le_refl _) rfl
  case turn => exact .of_quiet rfl (Nat.le_refl _) rfl
  case crash => exact .of_quiet rfl (Nat.le_refl _) rfl

/-- Customers cannot touch each other's data. Wherever the site stands, whatever is done
on behalf of a customer from there, other requests being under way, leaves the rows of any
other user and the locks of that user's reservations alone. -/
theorem customers_apart (run : Run (Site.step cfg) (.unbooked listing) ts s)
    (more : Run (Site.step cfg) s us s') (customer : user.role = .customer)
    (serves : ∀ before t, before ++ [t] <+: us →
      Serves (ts ++ before) user t.action ∨ ∃ elapsed, t.action = .booking (.pass elapsed))
    (different : v ≠ user.sub) : Untouched v s.world s'.world := by
  refine more.history (P := fun us s' => (∀ before t, before ++ [t] <+: us →
    Serves (ts ++ before) user t.action ∨ ∃ elapsed, t.action = .booking (.pass elapsed)) →
      Untouched v s.world s'.world) (fun _ _ => (trivial : True)) (fun _ => .refl) ?_ serves
  rintro us s₁ a s₂ more - ih - taken serves
  have earlier := ih fun before t front => serves before t (front.trans (List.prefix_append _ _))
  exact earlier.trans (untouched_step (run.append more) taken customer
    (serves us _ List.prefix_rfl) different)

/-! ## A customer tries another's reservation -/

def Serves.decidable (ts : List (Transition Site Site.Action)) (user : AuthenticatedUser) :
    (a : Site.Action) → Decidable (Serves ts user a)
  | .booking (.turn pid _) | .booking (.crash pid) =>
    inferInstanceAs (Decidable (∃ t ∈ ts, t.source.world.procs.length = pid ∧
      t.action.books = some user))
  | .turn pid _ | .crash pid =>
    inferInstanceAs (Decidable (∃ t ∈ ts, t.source.procs.length = pid ∧
      t.action.edits = some user))
  | .booking (.request r) =>
    inferInstanceAs (Decidable (r.requester? = some user ∨ none = some user))
  | .booking (.pass _) | .booking (.drop _) =>
    inferInstanceAs (Decidable ((none : Option AuthenticatedUser) = some user ∨ none = some user))
  | .request r => inferInstanceAs (Decidable (none = some user ∨ some r.requester = some user))

instance (ts : List (Transition Site Site.Action)) (user : AuthenticatedUser) :
    DecidablePred (Serves ts user) := Serves.decidable ts user

/-- The site of the small catalog. -/
def sampleSite : Site := .unbooked ⟨sampleCatalog, .empty, fun _ => .blank⟩

def stranger : AuthenticatedUser := ⟨['x'], .customer⟩

/-- Seat `a…` is reserved as `1…`. -/
def reserved : List Site.Action := reserve.map .booking

/-- A stranger cancels reservation `1…`, then reserves its seat. -/
def intrusion : List Site.Action :=
  (.request (.cancel stranger (flatText '1')) :: (cancelTurns 1).take 1 ++
    .request (.create stranger ⟨flatText 'e', [flatText 'a'], none⟩) ::
      (createTurns 2 0 (flat 6) []).take 6).map .booking

theorem reserved_enabled : (exec (Site.step sampleConfig) sampleSite reserved).isSome = true := by
  decide +kernel

theorem intrusion_enabled : (exec (Site.step sampleConfig) (replay _ _ _ reserved_enabled)
    intrusion).isSome = true := by
  decide +kernel

theorem customers_apart_intrusion : Untouched ['u'] (replay _ _ _ reserved_enabled).world
    (replay _ _ _ intrusion_enabled).world :=
  have role : stranger.role = .customer := rfl
  customers_apart (run_replay reserved_enabled) (run_replay intrusion_enabled) role
    (Lists.forall_prefix_iff.mpr fun i h => .inl (by revert i; decide +kernel)) (by decide)

end Site

end KiTicket
