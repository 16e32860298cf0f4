import KiTicket.Reachable

/-! What a turn leaves alone besides bookings. Nobody writes the catalog; the
entries and the counters belong to the waiting room; the seat locks belong to
the handlers that make and end reservations. A process is moved by its own
turns and by its own crash. -/
namespace KiTicket
open Reservations Payments WaitingRoom Tickets Runs

variable {cfg : Config} {c : Choice} {held : List RowLock} {server server' : Server} {p p' : Proc}
  {w w' : World} {a : Action} {r : Reservation} {user : AuthenticatedUser} {body : StartPaymentDto}
  {pid : Nat}

/-- The waiting room is not touched, nor the catalog. -/
structure Server.Aside (server server' : Server) : Prop where
  catalog : server'.db.catalog = server.db.catalog
  entries : server'.db.entries = server.db.entries
  counters : server'.counters = server.counters

/-- No id is drawn and no lock is taken, though some may be given back. -/
structure Server.Releases (server server' : Server) : Prop where
  drawn : server'.drawn = server.drawn
  locks : server'.locks = server.locks ∨ ∃ eventId seatIds owner,
    server'.locks = (LockService.release server.locks eventId seatIds owner).1

structure Server.Quiet (server server' : Server) : Prop extends
  server.Aside server', server.Releases server'

theorem Server.quiet_refl : server.Quiet server := ⟨⟨rfl, rfl, rfl⟩, rfl, .inl rfl⟩

theorem Server.quiet_of_refused {failure : Failure} {next : Next σ}
    (turn : server.refuse failure = some (server', next)) : server.Quiet server' := by
  cases turn
  exact quiet_refl

/-! ## One handler after the other -/

theorem Reservations.Create.aside {state : Create} {next : Next Create}
    (turn : state.turn cfg c server = some (server', next)) : server.Aside server' := by
  cases state <;> constructor <;>
    grind [Create.turn, Server.refuse, Server.stay, releaseLocks, Server.emit, Draft.insert]

theorem Reservations.Cancel.quiet {state : Cancel} {next : Next Cancel}
    (turn : state.turn held server = some (server', next)) : server.Quiet server' := by
  cases state <;> refine ⟨⟨?_, ?_, ?_⟩, ?_, ?_⟩ <;>
    grind [Cancel.turn, Cancel.finish, Server.refuse, Server.stay, releaseLocks, Server.emit,
      removeSeats, setState]

theorem Reservations.Expire.loop_quiet {rest : List Reservation} {expired : Nat}
    {next : Next Expire} {between : Server}
    (turn : Expire.loop between expired rest = some (server', next))
    (kept : server.Quiet between) : server.Quiet server' := by
  cases rest <;> cases turn <;> exact kept

theorem Reservations.Expire.quiet {state : Expire} {next : Next Expire}
    (turn : state.turn c held server = some (server', next)) : server.Quiet server' := by
  cases state <;> simp only [Expire.turn, Expire.finish] at turn
  case getMany =>
    obtain ⟨selected, -, turn⟩ := Option.bind_eq_some_iff.mp turn
    exact loop_quiet turn Server.quiet_refl
  case findSeats =>
    cases turn
    exact Server.quiet_refl
  case commit =>
    split at turn
    · split at turn <;> cases turn
      exact ⟨⟨rfl, rfl, rfl⟩, rfl, .inl rfl⟩
    · exact loop_quiet turn Server.quiet_refl
  case release => exact loop_quiet turn ⟨⟨rfl, rfl, rfl⟩, rfl, .inr ⟨_, _, _, rfl⟩⟩

theorem Payments.Start.quiet {state : Start} {next : Next Start}
    (turn : state.turn c server = some (server', next)) : server.Quiet server' := by
  cases state <;> refine ⟨⟨?_, ?_, ?_⟩, ?_, ?_⟩ <;>
    grind [Start.turn, Server.refuse, Server.stay, Server.emit]

theorem Payments.Complete.quiet {state : Complete} {next : Next Complete}
    (turn : state.turn cfg c held server = some (server', next)) : server.Quiet server' := by
  cases state <;> refine ⟨⟨?_, ?_, ?_⟩, ?_, ?_⟩ <;>
    grind [Complete.turn, Complete.finish, Server.refuse, Server.stay, releaseLocks, Server.emit,
      removeSeats, setState, confirm, compensate, savePayment]

theorem Tickets.CheckIn.quiet {state : CheckIn} {next : Next CheckIn}
    (turn : state.turn c server = some (server', next)) : server.Quiet server' := by
  cases state <;> refine ⟨⟨?_, ?_, ?_⟩, ?_, ?_⟩ <;>
    grind [CheckIn.turn, Server.refuse, Server.stay, saveCheckedIn]

theorem WaitingRoom.Join.releases {state : Join} {next : Next Join}
    (turn : state.turn cfg c server = some (server', next)) :
    server'.db.catalog = server.db.catalog ∧ server.Releases server' := by
  cases state <;> refine ⟨?_, ?_, ?_⟩ <;> grind [Join.turn, Server.refuse, Server.stay]

theorem WaitingRoom.Admit.releases {state : Admit} {next : Next Admit}
    (turn : state.turn cfg c server = some (server', next)) :
    server'.db.catalog = server.db.catalog ∧ server.Releases server' := by
  cases state <;> refine ⟨?_, ?_, ?_⟩ <;> grind [Admit.turn, Server.refuse, Server.stay]

/-! ## A turn of any process -/

/-- A handler of the waiting room. -/
def Proc.waits : Proc → Bool
  | .join _ | .admitUsers _ => true
  | _ => false

def Proc.creates : Proc → Bool
  | .create _ => true
  | _ => false

/-- Only a create draws ids and takes locks, only the waiting room touches its
entries and counters, and nobody the catalog. -/
theorem Proc.frame (turn : p.turn cfg c held server = some (server', p')) :
    server'.db.catalog = server.db.catalog ∧ (p.waits = false → server.Aside server') ∧
      (p.creates = false → server.Releases server') := by
  have quiet (kept : server.Quiet server') : server'.db.catalog = server.db.catalog ∧
      (p.waits = false → server.Aside server') ∧ (p.creates = false → server.Releases server') :=
    ⟨kept.catalog, fun _ => kept.toAside, fun _ => kept.toReleases⟩
  cases p <;> simp only [Proc.turn, turnOf_eq_some] at turn
  case create state =>
    obtain ⟨next, turn, -⟩ := turn
    split at turn
    · cases state <;> simp only [Create.fault] at turn
      case announce => cases turn
      case findOccupied | save =>
        cases turn
        exact quiet Server.quiet_refl
      all_goals exact quiet (Server.quiet_of_refused turn)
    · have aside := Create.aside turn
      exact ⟨aside.catalog, fun _ => aside, fun other => by cases other⟩
  case cancel state =>
    obtain ⟨next, turn, -⟩ := turn
    split at turn
    · cases state <;> simp only [Cancel.fault] at turn
      case release =>
        cases turn
        exact quiet ⟨⟨rfl, rfl, rfl⟩, rfl, .inl rfl⟩
      all_goals exact quiet (Server.quiet_of_refused turn)
    · exact quiet (Cancel.quiet turn)
  case expire state =>
    obtain ⟨next, turn, -⟩ := turn
    split at turn
    · cases state <;> simp only [Expire.fault, Expire.finish] at turn
      case release => exact quiet (Expire.loop_quiet turn ⟨⟨rfl, rfl, rfl⟩, rfl, .inl rfl⟩)
      all_goals exact quiet (Server.quiet_of_refused turn)
    · exact quiet (Expire.quiet turn)
  case start state =>
    obtain ⟨next, turn, -⟩ := turn
    split at turn
    · cases state <;> simp only [Start.fault] at turn
      case announce => cases turn
      all_goals exact quiet (Server.quiet_of_refused turn)
    · exact quiet (Start.quiet turn)
  case complete state =>
    obtain ⟨next, turn, -⟩ := turn
    split at turn
    · cases state <;> simp only [Complete.fault] at turn
      case release =>
        cases turn
        exact quiet ⟨⟨rfl, rfl, rfl⟩, rfl, .inl rfl⟩
      all_goals exact quiet (Server.quiet_of_refused turn)
    · exact quiet (Complete.quiet turn)
  case checkIn state =>
    obtain ⟨next, turn, -⟩ := turn
    split at turn
    · exact quiet (Server.quiet_of_refused turn)
    · exact quiet (CheckIn.quiet turn)
  case join state =>
    obtain ⟨next, turn, -⟩ := turn
    split at turn
    · exact quiet (Server.quiet_of_refused turn)
    · obtain ⟨catalog, releases⟩ := Join.releases turn
      exact ⟨catalog, (fun other => by cases other), fun _ => releases⟩
  case admitUsers state =>
    obtain ⟨next, turn, -⟩ := turn
    split at turn
    · exact quiet (Server.quiet_of_refused turn)
    · obtain ⟨catalog, releases⟩ := Admit.releases turn
      exact ⟨catalog, (fun other => by cases other), fun _ => releases⟩
  case done => cases turn

theorem catalog_of_step (taken : step cfg w a = some w') : w'.db.catalog = w.db.catalog := by
  cases step_cases taken
  case request r accepted =>
    rfl
  case turn pid c p p' _ _ turn =>
    exact p.frame turn |>.1
  case crash pid p serving =>
    rfl
  case pass => rfl
  case drop => rfl

/-! ## One process -/

/-- What a step makes of one process. -/
theorem proc_cases (taken : step cfg w a = some w') (serving : w.procs[pid]? = some p) :
    (w'.procs[pid]? = some p ∧ ∀ c, a ≠ .turn pid c) ∨
    (a = .crash pid ∧ w'.procs[pid]? = some (.done (.error .crash))) ∨
    ∃ c p', a = .turn pid c ∧ w'.procs[pid]? = some p' ∧
      p.turn cfg c ((w.others pid).flatMap Proc.held) w.shared = some (w'.shared, p') := by
  have size : pid < w.procs.length := (List.getElem?_eq_some_iff.mp serving).1
  cases step_cases taken
  case request r accepted =>
    exact .inl ⟨by rw [List.getElem?_append_left size, serving], fun _ same => by cases same⟩
  case turn other c q q' at_other procs turn =>
    rw [procs]
    by_cases same : other = pid
    · subst same
      rw [serving, Option.some.injEq] at at_other
      subst at_other
      exact .inr (.inr ⟨c, q', rfl, List.getElem?_set_self size, turn⟩)
    · refine .inl ⟨by rw [List.getElem?_set_ne same, serving], fun _ mine => ?_⟩
      cases mine
      exact same rfl
  case crash other _ _ =>
    by_cases same : other = pid
    · subst same
      exact .inr (.inl ⟨rfl, List.getElem?_set_self size⟩)
    · exact .inl ⟨(List.getElem?_set_ne same).trans serving, fun _ mine => by cases mine⟩
  case pass =>
    exact .inl ⟨serving, fun _ mine => by cases mine⟩
  case drop =>
    exact .inl ⟨serving, fun _ mine => by cases mine⟩

/-- The processes after a step: one has taken a turn, or died, or arrived. -/
theorem forall_procs {P Q : Proc → Prop} (taken : step cfg w a = some w')
    (before : ∀ p ∈ w.procs, P p) (kept : ∀ p, P p → Q p) (arrives : ∀ r : Request, Q r.proc)
    (answered : ∀ response, Q (.done response))
    (turn : ∀ pid c p p', a = .turn pid c → P p →
      p.turn cfg c ((w.others pid).flatMap Proc.held) w.shared = some (w'.shared, p') → Q p') :
    ∀ p ∈ w'.procs, Q p := by
  cases step_cases taken
  case request r accepted =>
    intro p member
    rcases List.mem_append.mp member with old | new
    · exact kept p (before p old)
    · exact List.mem_singleton.mp new ▸ arrives r
  case turn pid c p p' serving procs taken =>
    rw [procs]
    refine Pool.forall_set before ?_ fun _ q _ _ => kept q
    exact turn pid c p p' rfl (before p (List.mem_of_getElem? serving)) taken
  case crash pid p serving =>
    exact Pool.forall_set before (answered _) fun _ q _ _ => kept q
  case pass => exact fun p member => kept p (before p member)
  case drop => exact fun p member => kept p (before p member)

/-- A request that arrives is served last. -/
theorem served_of_request {r : Request} (taken : step cfg w (.request r) = some w') :
    w'.procs[w.procs.length]? = some r.proc := by
  cases step_cases taken
  exact List.getElem?_concat_length

/-- What a process's own turns and its crash keep, a run keeps of it. -/
theorem proc_of_run {P : Proc → Prop} {ts : List (Transition World Action)}
    (run : Run (step cfg) w ts w') (serving : w.procs[pid]? = some p) (holds : P p)
    (crash : P (.done (.error .crash)))
    (own : ∀ {c held server server' p p'}, p.turn cfg c held server = some (server', p') → P p → P p') :
    ∃ p', w'.procs[pid]? = some p' ∧ P p' := by
  refine run.invariant (P := fun w => ∃ p, w.procs[pid]? = some p ∧ P p) within_any ⟨p, serving, holds⟩ ?_
  rintro w a w' ⟨p, serving, holds⟩ - taken
  rcases proc_cases taken serving with ⟨same, -⟩ | ⟨-, crashed⟩ | ⟨c, p', -, served, turn⟩
  · exact ⟨p, same, holds⟩
  · exact ⟨_, crashed, crash⟩
  · exact ⟨p', served, own turn holds⟩

/-! ## The commit of a create -/

/-- The turn in which a create stores its reservation stores it, or changes
nothing and goes on to give its locks back. -/
theorem save_cases {draft : Draft}
    (turn : (Proc.create (.save draft)).turn cfg c held server = some (server', p')) :
    (server' = server ∧ ∃ failure, p' = .create (.release draft failure)) ∨
    ∃ db r, server' = { server with db } ∧ p' = .create (.announce r draft.seatIds) ∧
      draft.insert cfg c server.db = .ok (db, r) ∧ c.ids.length = draft.seatIds.length := by
  simp only [Proc.turn, turnOf_eq_some] at turn
  obtain ⟨next, turn, rfl⟩ := turn
  split at turn
  · cases turn
    exact .inl ⟨rfl, _, rfl⟩
  simp only [Create.turn] at turn
  split at turn
  · cases turn
  rename_i lengths
  split at turn
  · cases turn
    exact .inl ⟨rfl, _, rfl⟩
  · rename_i db r inserted
    cases turn
    exact .inr ⟨db, r, rfl, rfl, inserted, not_not.mp lengths⟩

/-- A step that stores a reservation: a create's, of what it has drafted. -/
inductive Created (cfg : Config) (w w' : World) : Action → Uuid → Reservation → Prop where
  | intro {pid : Nat} {c : Choice} {draft : Draft} {total : Amount}
      (serving : w.procs[pid]? = some (.create (.save draft)))
      (going : w'.procs[pid]? =
        some (.create (.announce (draft.reservation cfg c.now total) draft.seatIds)))
      (absent : (w.db.booking draft.id).reservation = none)
      (lengths : c.ids.length = draft.seatIds.length)
      (rows : (w'.db.booking draft.id).seats =
        (w.db.booking draft.id).seats ++ List.zipWith draft.seat c.ids draft.seatIds) :
      Created cfg w w' (.turn pid c) draft.id (draft.reservation cfg c.now total)

/-- A reservation was there before the step, or it was stored by a create. -/
theorem reservation_cases {id : Uuid} {r : Reservation} (sound : World.Sound (fun _ => True) w)
    (taken : step cfg w a = some w') (after : (w'.db.booking id).reservation = some r) :
    (∃ old, (w.db.booking id).reservation = some old ∧ (r.state = .pending → old = r ∧
      (w'.db.booking id).seats = (w.db.booking id).seats)) ∨ Created cfg w w' a id r := by
  cases (sound.next spelled_any taken).2
  case same unchanged =>
    rw [unchanged] at after ⊢
    exact .inl ⟨r, after, fun _ => ⟨rfl, rfl⟩⟩
  case moves pid c p m moved turn serving calls performs spelling move elsewhere =>
    by_cases same : id = moved
    case neg =>
      rw [elsewhere id same] at after ⊢
      exact .inl ⟨r, after, fun _ => ⟨rfl, rfl⟩⟩
    subst same turn
    cases before : (w.db.booking id).reservation with
    | some old => exact .inl ⟨old, rfl, fun pending => move.of_pending before after pending⟩
    | none =>
      right
      cases performs
      case create draft =>
        obtain ⟨q, q', at_pid, turn, procs⟩ := step_turn taken
        rw [serving, Option.some.injEq] at at_pid
        subst at_pid
        have size := (List.getElem?_eq_some_iff.mp serving).1
        rcases save_cases turn with ⟨kept, -⟩ | ⟨db, new, stores, rfl, inserted, lengths⟩
        · rw [Pool.db, kept] at after
          cases before.symm.trans after
        · have stored : w'.db = db := congrArg Server.db stores
          obtain ⟨total, -, rfl, -, -, booking⟩ := draft_insert inserted
          have going := (congrArg (·[pid]?) procs).trans (List.getElem?_set_self size)
          rw [stored, booking, if_pos rfl] at after
          cases after
          exact ⟨serving, going, before, lengths, by rw [stored, booking, if_pos rfl]⟩
      all_goals
        generalize w.db.booking _ = b at move before
        generalize w'.db.booking _ = b' at move
        cases move <;> cases before

/-! ## The insert of a start -/

/-- An insert is accepted, or refused and nothing changes. -/
theorem insert_cases {next : Next Start}
    (turn : (Start.save user body r).turn c server = some (server', next)) :
    ∃ id, c.ids = [id] ∧
      ((∃ payments, server.db.payments.insert? [newPayment id body r] = some payments ∧
          server'.db = { server.db with payments } ∧
          next = .go (.announce user (newPayment id body r))) ∨
        server.db.payments.insert? [newPayment id body r] = none ∧ server' = server ∧
          next = .go (.findByReservation r)) := by
  simp only [Start.turn] at turn
  split at turn
  · rename_i id drawn
    refine ⟨id, drawn, ?_⟩
    split at turn
    · rename_i payments inserted
      cases turn
      exact .inl ⟨payments, inserted, rfl, rfl⟩
    · rename_i refused
      cases turn
      exact .inr ⟨refused, rfl, rfl⟩
  · cases turn

/-- A payment was there before the step, or a start inserted it. -/
theorem payment_cases {id : Uuid} {payment : Payment} (sound : World.Sound (fun _ => True) w)
    (taken : step cfg w a = some w') (after : (w'.db.booking id).payment = some payment) :
    (∃ old, (w.db.booking id).payment = some old ∧ payment.id = old.id ∧
      payment.idempotencyKey = old.idempotencyKey) ∨
    ∃ pid c user body r new, a = .turn pid c ∧ w.procs[pid]? = some (.start (.save user body r)) ∧
      r.id = id ∧ payment = newPayment new body r := by
  have stepped := (sound.next spelled_any taken).2
  cases before : (w.db.booking id).payment with
  | some old =>
    obtain ⟨payment', after', named, key⟩ := stepped.payment before
    rw [after, Option.some.injEq] at after'
    subst after'
    exact .inl ⟨old, rfl, named, key⟩
  | none =>
    right
    cases stepped
    case same unchanged =>
      rw [unchanged, before] at after
      cases after
    case moves pid c p m moved turn serving calls performs spelling move elsewhere =>
      by_cases same : id = moved
      case neg =>
        rw [elsewhere id same, before] at after
        cases after
      subst same turn
      obtain ⟨rfl, -⟩ := move.payment_new after fun old found => by rw [before] at found; cases found
      obtain ⟨user, body, r, rfl, rfl⟩ : ∃ user body r, p = .start (.save user body r) ∧ r.id = id := by
        cases performs
        exact ⟨_, _, _, rfl, rfl⟩
      obtain ⟨q, q', at_pid, turn, -⟩ := step_turn taken
      rw [serving, Option.some.injEq] at at_pid
      subst at_pid
      simp only [Proc.turn, turnOf_eq_some, if_neg calls] at turn
      obtain ⟨next, turn, -⟩ := turn
      obtain ⟨new, -, outcome⟩ := insert_cases turn
      refine ⟨pid, c, user, body, r, new, rfl, serving, rfl, ?_⟩
      rcases outcome with ⟨payments, inserted, db, -⟩ | ⟨-, same, -⟩
      · have paid : ({ w.shared.db with payments } : Db).booking r.id =
            { w.shared.db.booking r.id with payment := some (newPayment new body r) } :=
          (booking_insertPayment inserted).2.trans (if_pos rfl)
        rw [Pool.db, db, paid, Option.some.injEq] at after
        exact after.symm
      · rw [Pool.db, same, before] at after
        cases after

end KiTicket
