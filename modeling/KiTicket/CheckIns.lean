import KiTicket.Placement

/-! Checking a ticket in. The handler reads the ticket, tests `checkedInAt` and saves,
in separate calls and without a lock or a guard on the save, so a ticket admits once
exactly when no save finds the ticket checked in by then. -/
namespace KiTicket
open Runs Reservations Payments WaitingRoom Tickets KiTicket.Lists

variable {cfg : Config} {catalog : Catalog} {w w' : World} {a : Action} {c : Choice}
  {held : List RowLock} {server server' : Server} {p p' : Proc} {id : Uuid} {ticket : Ticket}
  {pid : Nat} {ts us : List (Transition World Action)}

/-! ## What a turn does to the tickets -/

theorem Reservations.Expire.loop_tickets {rest : List Reservation} {expired : Nat}
    {next : Next Expire} {between : Server}
    (turn : Expire.loop between expired rest = some (server', next))
    (kept : between.db.tickets = server.db.tickets) : server'.db.tickets = server.db.tickets := by
  cases rest <;> cases turn <;> exact kept

theorem Reservations.Expire.tickets {state : Expire} {next : Next Expire}
    (turn : state.turn c held server = some (server', next)) :
    server'.db.tickets = server.db.tickets := by
  cases state <;> simp only [Expire.turn, Expire.finish] at turn
  case getMany =>
    obtain ⟨selected, -, turn⟩ := Option.bind_eq_some_iff.mp turn
    exact loop_tickets turn rfl
  case findSeats =>
    cases turn
    rfl
  case commit =>
    split at turn
    · split at turn <;> cases turn
      rfl
    · exact loop_tickets turn rfl
  case release => exact loop_tickets turn rfl

/-- A completion issues tickets nobody has checked in. -/
theorem Payments.Complete.tickets {state : Complete} {next : Next Complete}
    (turn : state.turn cfg c held server = some (server', next)) :
    ∃ new, server'.db.tickets.rows = server.db.tickets.rows ++ new ∧
      ∀ ticket ∈ new, ticket.checkedInAt = none := by
  have none (same : server'.db.tickets = server.db.tickets) :
      ∃ new, server'.db.tickets.rows = server.db.tickets.rows ++ new ∧
        ∀ ticket ∈ new, ticket.checkedInAt = none :=
    ⟨[], by simp [same], fun ticket member => by cases member⟩
  cases state
  case commit body p r seats =>
    simp only [Complete.turn] at turn
    split at turn
    · split at turn
      · cases turn
        exact none rfl
      split at turn
      · split at turn
        · cases turn
        split at turn <;> cases turn
        · exact none rfl
        rename_i db result confirmed
        unfold confirm at confirmed
        dsimp only at confirmed
        split at confirmed <;> cases confirmed
        rename_i issued
        refine ⟨_, Table.insert?_eq_some.mp issued, fun ticket member => ?_⟩
        obtain ⟨_, -, _, -, rfl⟩ := exists_of_mem_zipWith member
        rfl
      · cases turn
    · cases turn
      exact none rfl
  all_goals
    apply none
    grind [Complete.turn, Complete.finish, Server.refuse, Server.stay, releaseLocks, Server.emit]

theorem Tickets.CheckIn.tickets {state : CheckIn} {next : Next CheckIn}
    (turn : state.turn c server = some (server', next)) :
    server'.db.tickets = server.db.tickets ∨ ∃ ticket, state = .save ticket ∧
      server'.db = saveCheckedIn server.db ticket ∧ next = .done (.ticket ticket) := by
  cases state
  case save ticket =>
    cases turn
    exact .inr ⟨ticket, rfl, rfl, rfl⟩
  all_goals
    left
    grind [CheckIn.turn, Server.refuse, Server.stay]

/-- A turn saves a check-in, or at most adds tickets that are not checked in. -/
theorem tickets_cases (turn : p.turn cfg c held server = some (server', p')) :
    (∃ new, server'.db.tickets.rows = server.db.tickets.rows ++ new ∧
      ∀ ticket ∈ new, ticket.checkedInAt = none) ∨
    ∃ ticket, p = .checkIn (.save ticket) ∧ ¬c.fault = true ∧
      server'.db = saveCheckedIn server.db ticket ∧ p' = .done (.ticket ticket) := by
  have none (same : server'.db.tickets = server.db.tickets) :
      ∃ new, server'.db.tickets.rows = server.db.tickets.rows ++ new ∧
        ∀ ticket ∈ new, ticket.checkedInAt = none :=
    ⟨[], by simp [same], fun ticket member => by cases member⟩
  have refused {σ : Type} {failure : Failure} {next : Next σ}
      (turn : server.refuse failure = some (server', next)) :
      server'.db.tickets = server.db.tickets := by
    cases turn
    rfl
  cases p <;> simp only [Proc.turn, turnOf_eq_some] at turn
  case create state =>
    obtain ⟨next, turn, -⟩ := turn
    left
    apply none
    split at turn
    · cases state <;> simp only [Create.fault] at turn <;> cases turn <;> rfl
    · cases state <;>
        grind [Create.turn, Server.refuse, Server.stay, releaseLocks, Server.emit, Draft.insert]
  case cancel state =>
    obtain ⟨next, turn, -⟩ := turn
    left
    apply none
    split at turn
    · cases state <;> simp only [Cancel.fault] at turn <;> cases turn <;> rfl
    · cases state <;>
        grind [Cancel.turn, Cancel.finish, Server.refuse, Server.stay, releaseLocks, Server.emit,
          removeSeats, setState]
  case expire state =>
    obtain ⟨next, turn, -⟩ := turn
    left
    apply none
    split at turn
    · cases state <;> simp only [Expire.fault, Expire.finish] at turn
      case release => exact Expire.loop_tickets turn rfl
      all_goals exact refused turn
    · exact Expire.tickets turn
  case start state =>
    obtain ⟨next, turn, -⟩ := turn
    left
    apply none
    split at turn
    · cases state <;> simp only [Start.fault] at turn <;> cases turn <;> rfl
    · cases state <;> grind [Start.turn, Server.refuse, Server.stay, Server.emit]
  case complete state =>
    obtain ⟨next, turn, -⟩ := turn
    left
    split at turn
    · apply none
      cases state <;> simp only [Complete.fault] at turn <;> cases turn <;> rfl
    · exact Complete.tickets turn
  case checkIn state =>
    obtain ⟨next, turn, rfl⟩ := turn
    split at turn
    · exact .inl (none (refused turn))
    rename_i calls
    rcases CheckIn.tickets turn with same | ⟨ticket, rfl, saved, rfl⟩
    · exact .inl (none same)
    · exact .inr ⟨ticket, rfl, calls, saved, rfl⟩
  case join state =>
    obtain ⟨next, turn, -⟩ := turn
    left
    apply none
    split at turn
    · exact refused turn
    · cases state <;> grind [Join.turn, Server.refuse, Server.stay]
  case admitUsers state =>
    obtain ⟨next, turn, -⟩ := turn
    left
    apply none
    split at turn
    · exact refused turn
    · cases state <;> grind [Admit.turn, Server.refuse, Server.stay]
  case done => cases turn

/-- A sweep answers with a count. -/
theorem Reservations.Expire.loop_answer {rest : List Reservation} {expired : Nat}
    {response : Response} (turn : Expire.loop server expired rest = some (server', .done response)) :
    response = .swept expired := by
  cases rest <;> cases turn
  rfl

theorem Reservations.Expire.not_ticket {state : Expire} :
    state.turn c held server ≠ some (server', .done (.ticket ticket)) := by
  intro turn
  cases state <;> simp only [Expire.turn, Expire.finish] at turn
  case getMany =>
    obtain ⟨selected, -, turn⟩ := Option.bind_eq_some_iff.mp turn
    cases loop_answer turn
  case findSeats => cases turn
  case commit =>
    split at turn
    · split at turn <;> cases turn
    · cases loop_answer turn
  case release => cases loop_answer turn

/-- Only a saved check-in is answered with the ticket. -/
theorem answers_ticket (turn : p.turn cfg c held server = some (server', .done (.ticket ticket))) :
    p = .checkIn (.save ticket) ∧ ¬c.fault = true := by
  cases p <;> simp only [Proc.turn, turnOf_eq_some] at turn
  case done => cases turn
  case checkIn state =>
    obtain ⟨next, turn, answer⟩ := turn
    cases next <;> cases answer
    split at turn
    · cases turn
    rename_i calls
    rcases CheckIn.tickets turn with same | ⟨ticket, rfl, saved, same⟩
    · cases state <;> grind [CheckIn.turn, Server.refuse, Server.stay]
    · cases same
      exact ⟨rfl, calls⟩
  case expire state =>
    obtain ⟨next, turn, answer⟩ := turn
    cases next <;> cases answer
    split at turn
    · cases state <;> simp only [Expire.fault, Expire.finish] at turn
      case release => cases Expire.loop_answer turn
      all_goals cases turn
    · exact absurd turn Expire.not_ticket
  all_goals
    rename_i state
    obtain ⟨next, turn, answer⟩ := turn
    cases next <;> cases answer
    cases state <;>
      grind [Create.turn, Create.fault, Cancel.turn, Cancel.fault, Cancel.finish, Start.turn, Start.fault,
        Complete.turn, Complete.fault, Complete.finish, Join.turn, Admit.turn, Server.refuse, Server.stay]

/-! ## What requests have read of a ticket -/

/-- The ticket was issued: its row is there, whatever became of `checkedInAt`. -/
def Ticket.IssuedIn (ticket : Ticket) (rows : List Ticket) : Prop :=
  ∃ row ∈ rows, row.issued = ticket.issued

/-- A check-in works on a ticket that was issued, and saves it checked in. -/
def Proc.Reads (rows : List Ticket) : Proc → Prop
  | .checkIn (.findReservation _ ticket) | .checkIn (.findEvent _ ticket _) => ticket.IssuedIn rows
  | .checkIn (.save ticket) => ticket.IssuedIn rows ∧ ticket.checkedInAt.isSome
  | _ => True

/-- The ticket has been checked in. -/
def Db.Scanned (db : Db) (id : Uuid) : Prop :=
  ∃ row ∈ db.tickets.rows, row.id = id ∧ row.checkedInAt.isSome

/-- The request is about to save the check-in of the ticket. -/
def Proc.saves (id : Uuid) : Proc → Bool
  | .checkIn (.save ticket) => ticket.id = id
  | _ => false

/-- The request was answered with the ticket, checked in. -/
def Proc.admitted (id : Uuid) : Proc → Bool
  | .done (.ticket ticket) => ticket.id = id
  | _ => false

/-- A step that saves a check-in of the ticket. -/
def checksIn (id : Uuid) (t : Transition World Action) : Bool :=
  match t.action with
  | .turn pid c => !c.fault && (t.source.procs[pid]?).any (Proc.saves id)
  | _ => false

theorem id_of_issued {row other : Ticket} (same : row.issued = other.issued) : row.id = other.id :=
  (congrArg Ticket.id same : row.issued.id = other.issued.id)

theorem rows_saveCheckedIn {db : Db} : (saveCheckedIn db ticket).tickets.rows = db.tickets.rows.map
    fun row => if row.id = ticket.id then { row with checkedInAt := ticket.checkedInAt } else row :=
  rfl

/-- Tickets stay issued. -/
theorem Ticket.IssuedIn.turn (turn : p.turn cfg c held server = some (server', p'))
    (issued : ticket.IssuedIn server.db.tickets.rows) : ticket.IssuedIn server'.db.tickets.rows := by
  obtain ⟨row, member, same⟩ := issued
  rcases tickets_cases turn with ⟨new, rows, -⟩ | ⟨saved, -, -, db, -⟩
  · exact ⟨row, rows ▸ List.mem_append_left _ member, same⟩
  · rw [db, rows_saveCheckedIn]
    refine ⟨_, List.mem_map_of_mem member, ?_⟩
    split
    · exact same
    · exact same

theorem Ticket.IssuedIn.next (issued : ticket.IssuedIn w.db.tickets.rows)
    (taken : step cfg w a = some w') : ticket.IssuedIn w'.db.tickets.rows := by
  cases step_cases taken
  case turn turn => exact issued.turn turn
  all_goals exact issued

theorem Proc.Reads.mono {rows rows' : List Ticket} (reads : p.Reads rows)
    (kept : ∀ ticket : Ticket, ticket.IssuedIn rows → ticket.IssuedIn rows') : p.Reads rows' := by
  cases p
  case checkIn state =>
    cases state
    case findTicket => trivial
    case save ticket => exact ⟨kept _ reads.1, reads.2⟩
    all_goals exact kept _ reads
  all_goals trivial

/-- What a check-in reads was issued. -/
theorem Tickets.CheckIn.reads {state : CheckIn} {next : Next CheckIn}
    (turn : state.turn c server = some (server', next))
    (reads : (Proc.checkIn state).Reads server.db.tickets.rows) :
    (next.proc .checkIn).Reads server.db.tickets.rows := by
  cases state <;> simp only [CheckIn.turn] at turn
  case findTicket =>
    split at turn
    · cases turn
      trivial
    split at turn <;> cases turn
    · trivial
    · rename_i ticket found
      exact ⟨ticket, List.mem_of_find?_eq_some found, rfl⟩
  case findReservation =>
    split at turn <;> cases turn
    · trivial
    · exact reads
  case findEvent =>
    split at turn
    · cases turn
      trivial
    split at turn
    · cases turn
      trivial
    split at turn <;> cases turn
    · trivial
    · exact ⟨reads, rfl⟩
  case save =>
    cases turn
    trivial

theorem Proc.reads (turn : p.turn cfg c held server = some (server', p'))
    (reads : p.Reads server.db.tickets.rows) : p'.Reads server.db.tickets.rows := by
  cases p <;> simp only [Proc.turn, turnOf_eq_some] at turn
  case checkIn state =>
    obtain ⟨next, turn, rfl⟩ := turn
    split at turn
    · cases turn
      trivial
    · exact CheckIn.reads turn reads
  case done => cases turn
  all_goals
    obtain ⟨next, -, rfl⟩ := turn
    cases next <;> trivial

theorem reads_next (reads : ∀ p ∈ w.procs, p.Reads w.db.tickets.rows)
    (taken : step cfg w a = some w') : ∀ p ∈ w'.procs, p.Reads w'.db.tickets.rows := by
  refine forall_procs taken reads (fun p mine => mine.mono fun _ issued => issued.next taken) ?_ ?_ ?_
  · intro r
    cases r <;> trivial
  · exact fun _ => trivial
  · exact fun _ _ _ _ _ mine turn => (Proc.reads turn mine).mono fun _ issued => issued.turn turn

/-! ## Check-ins along a run -/

theorem saves_iff : p.saves id = true ↔ ∃ ticket, p = .checkIn (.save ticket) ∧ ticket.id = id := by
  constructor
  · intro saves
    cases p <;> try cases saves
    rename_i state
    cases state <;> try cases saves
    exact ⟨_, rfl, of_decide_eq_true saves⟩
  · rintro ⟨ticket, rfl, rfl⟩
    exact decide_eq_true rfl

theorem checksIn_iff : checksIn id ⟨w, a, w'⟩ = true ↔ ∃ pid c ticket, a = .turn pid c ∧
    ¬c.fault = true ∧ w.procs[pid]? = some (.checkIn (.save ticket)) ∧ ticket.id = id := by
  cases a
  case turn pid c =>
    simp only [checksIn, Bool.and_eq_true, Bool.not_eq_true', Option.any_eq_true, saves_iff]
    constructor
    · rintro ⟨calls, p, serving, ticket, rfl, named⟩
      exact ⟨pid, c, ticket, rfl, by simp [calls], serving, named⟩
    · rintro ⟨_, _, ticket, same, calls, serving, named⟩
      cases same
      exact ⟨by simpa using calls, _, serving, ticket, rfl, named⟩
  all_goals simp [checksIn]

/-- A turn that saves a check-in answers with it. -/
theorem save_of_turn (calls : ¬c.fault = true)
    (turn : (Proc.checkIn (.save ticket)).turn cfg c held server = some (server', p')) :
    server'.db = saveCheckedIn server.db ticket ∧ p' = .done (.ticket ticket) := by
  simp only [Proc.turn, turnOf_eq_some, if_neg calls] at turn
  obtain ⟨next, turn, rfl⟩ := turn
  cases turn
  exact ⟨rfl, rfl⟩

theorem scanned_saveCheckedIn {db : Db} (issued : ticket.IssuedIn db.tickets.rows)
    (marked : ticket.checkedInAt.isSome = true) :
    (saveCheckedIn db ticket).Scanned id ↔ db.Scanned id ∨ ticket.id = id := by
  simp only [Db.Scanned, rows_saveCheckedIn]
  constructor
  · rintro ⟨row', member, named, scanned⟩
    obtain ⟨row, before, rfl⟩ := List.mem_map.mp member
    split at named
    · rename_i mine
      exact .inr (mine.symm.trans named)
    · rename_i other
      rw [if_neg other] at scanned
      exact .inl ⟨row, before, named, scanned⟩
  · rintro (⟨row, before, named, scanned⟩ | rfl)
    · refine ⟨_, List.mem_map_of_mem before, ?_⟩
      split
      · exact ⟨named, marked⟩
      · exact ⟨named, scanned⟩
    · obtain ⟨row, before, same⟩ := issued
      refine ⟨_, List.mem_map_of_mem before, ?_⟩
      rw [if_pos (id_of_issued same)]
      exact ⟨id_of_issued same, marked⟩

/-- A ticket becomes checked in by the save of a check-in, and stays so. -/
theorem scanned_step (reads : ∀ p ∈ w.procs, p.Reads w.db.tickets.rows)
    (taken : step cfg w a = some w') :
    w'.db.Scanned id ↔ w.db.Scanned id ∨ checksIn id ⟨w, a, w'⟩ = true := by
  by_cases saves : checksIn id ⟨w, a, w'⟩ = true
  case pos =>
    obtain ⟨pid, c, ticket, rfl, calls, serving, named⟩ := checksIn_iff.mp saves
    obtain ⟨p, p', at_pid, turn, -⟩ := step_turn taken
    rw [serving, Option.some.injEq] at at_pid
    subst at_pid
    obtain ⟨issued, marked⟩ := reads _ (List.mem_of_getElem? serving)
    rw [Pool.db, (save_of_turn calls turn).1, scanned_saveCheckedIn issued marked, named]
    simp [saves]
  case neg =>
    simp only [saves, or_false, Bool.false_eq_true]
    cases step_cases taken
    case turn pid c p p' serving procs turn =>
      rcases tickets_cases turn with ⟨new, rows, unscanned⟩ | ⟨ticket, rfl, calls, stored, -⟩
      · simp only [Db.Scanned, rows, List.mem_append, or_and_right, exists_or]
        refine ⟨fun either => either.resolve_right ?_, .inl⟩
        rintro ⟨row, fresh, -, scanned⟩
        simp [unscanned row fresh] at scanned
      · obtain ⟨issued, marked⟩ := reads _ (List.mem_of_getElem? serving)
        have other : ticket.id ≠ id := fun named =>
          saves (checksIn_iff.mpr ⟨pid, c, ticket, rfl, calls, serving, named⟩)
        rw [Pool.db, stored, scanned_saveCheckedIn issued marked]
        simp [other]
    all_goals exact Iff.rfl

theorem admitted_iff : p.admitted id = true ↔ ∃ ticket, p = .done (.ticket ticket) ∧ ticket.id = id := by
  constructor
  · intro admitted
    cases p <;> try cases admitted
    rename_i response
    cases response <;> try cases admitted
    exact ⟨_, rfl, of_decide_eq_true admitted⟩
  · rintro ⟨ticket, rfl, rfl⟩
    exact decide_eq_true rfl

/-- Only a request that is not answered yet can die. -/
theorem serving_of_crash (taken : step cfg w (.crash pid) = some w') :
    ∃ p, w.procs[pid]? = some p ∧ (∀ response, p ≠ .done response) ∧
      w'.procs = w.procs.set pid (.done (.error .crash)) := by
  simp only [step] at taken
  split at taken <;> cases taken
  rename_i p unanswered serving
  exact ⟨p, serving, unanswered, rfl⟩

/-- Every save of a check-in is answered with the ticket, and nothing else is. -/
theorem admitted_step (taken : step cfg w a = some w') :
    w'.procs.countP (Proc.admitted id) =
      w.procs.countP (Proc.admitted id) + (checksIn id ⟨w, a, w'⟩).toNat := by
  cases step_cases taken
  case request r accepted =>
    have none : r.proc.admitted id = false := by cases r <;> rfl
    simp [none, checksIn]
  case turn pid c p p' serving procs turn =>
    obtain ⟨size, here⟩ := List.getElem?_eq_some_iff.mp serving
    have before : p.admitted id = false := by
      cases p <;> try rfl
      cases turn
    have after : p'.admitted id = checksIn id ⟨w, .turn pid c, w'⟩ := by
      rw [Bool.eq_iff_iff, admitted_iff, checksIn_iff]
      constructor
      · rintro ⟨ticket, rfl, named⟩
        obtain ⟨rfl, calls⟩ := answers_ticket turn
        exact ⟨pid, c, ticket, rfl, calls, serving, named⟩
      · rintro ⟨_, _, ticket, same, calls, at_pid, named⟩
        cases same
        rw [serving, Option.some.injEq] at at_pid
        subst at_pid
        exact ⟨ticket, (save_of_turn calls turn).2, named⟩
    rw [procs, List.countP_set size, here, before, after]
    cases checksIn id ⟨w, .turn pid c, w'⟩ <;> rfl
  case crash pid p serving =>
    obtain ⟨q, at_pid, unanswered, -⟩ := serving_of_crash taken
    obtain ⟨size, here⟩ := List.getElem?_eq_some_iff.mp at_pid
    have before : q.admitted id = false := by
      cases q <;> try rfl
      exact absurd rfl (unanswered _)
    rw [List.countP_set size, here, before]
    rfl
  case pass => rfl
  case drop => rfl

/-- As many requests were answered with the ticket as saved its check-in. -/
theorem admitted_of_run (run : Run (step cfg) (initial catalog) ts w) :
    w.procs.countP (Proc.admitted id) = ts.countP (checksIn id) := by
  refine run.history (P := fun ts w => w.procs.countP (Proc.admitted id) = ts.countP (checksIn id))
    within_any rfl ?_
  rintro ts w a w' - - counted - taken
  rw [admitted_step taken, counted, List.countP_append, List.countP_singleton]
  cases checksIn id ⟨w, a, w'⟩ <;> rfl

theorem admitted_once_iff (run : Run (step cfg) (initial catalog) ts w) :
    w.procs.countP (Proc.admitted id) ≤ 1 ↔
      ∀ t ∈ ts, checksIn id t = true → ¬ t.source.db.Scanned id := by
  rw [admitted_of_run run]
  refine run.count_le_one_iff (P := fun w => ∀ p ∈ w.procs, p.Reads w.db.tickets.rows)
    (Q := fun w => w.db.Scanned id) (checksIn id) (fun p member => absurd member List.not_mem_nil) ?_ ?_ ?_
  · rintro ⟨row, member, -⟩
    cases member
  · exact fun _ _ _ reads taken => reads_next reads taken
  · exact fun _ _ _ reads taken => scanned_step reads taken

/-! ## What an authorised request is answered -/

/-- The user is an administrator or organizes the event the ticket is for. -/
def Db.Authorises (db : Db) (user : AuthenticatedUser) (ticket : Ticket) : Prop :=
  user.role = .admin ∨ ∃ r ∈ db.reservations.rows, r.id = ticket.reservationId ∧
    ∃ event ∈ db.catalog.events.rows, event.id = r.eventId ∧ event.organizerId = user.sub

/-- The event is there, and the user may check tickets in for it. -/
def Catalog.Authorises (catalog : Catalog) (user : AuthenticatedUser) (eventId : Uuid) : Prop :=
  ∃ event ∈ catalog.events.rows, event.id = eventId ∧
    (user.role = .admin ∨ event.organizerId = user.sub)

/-- All a check-in of the ticket looks up is there. -/
def Db.Resolves (db : Db) (user : AuthenticatedUser) (ticket : Ticket) : Prop :=
  ticket.IssuedIn db.tickets.rows ∧ ∃ r, (db.booking ticket.reservationId).reservation = some r ∧
    db.catalog.Authorises user r.eventId

def alreadyCheckedIn : Failure := .forbidden "Ticket was already checked in"

/-- Checked in now, or refused because it was, unless a call failed or the process died. -/
def CheckedIn (id : Uuid) (response : Response) : Prop :=
  (∃ ticket, response = .ticket ticket ∧ ticket.id = id) ∨ response = .error alreadyCheckedIn ∨
    response = .error .fault ∨ response = .error .crash

/-- Where an authorised check-in of the ticket stands. -/
def Checking (catalog : Catalog) (user : AuthenticatedUser) (ticket : Ticket) : Proc → Prop
  | .checkIn (.findTicket asking path) => asking = user ∧ uuid? path = some ticket.id
  | .checkIn (.findReservation asking found) => asking = user ∧ found.issued = ticket.issued
  | .checkIn (.findEvent asking found r) =>
    asking = user ∧ found.issued = ticket.issued ∧ catalog.Authorises user r.eventId
  | .checkIn (.save found) => found.id = ticket.id
  | .done response => CheckedIn ticket.id response
  | _ => False

variable {user : AuthenticatedUser}

theorem find_of_issued {db : Db} (issued : ticket.IssuedIn db.tickets.rows) :
    ∃ row, db.tickets.rows.find? (·.id = ticket.id) = some row ∧ row.issued = ticket.issued := by
  obtain ⟨row, member, same⟩ := issued
  refine ⟨row, ?_, same⟩
  apply Table.find?_eq_some_of_mem member (decide_eq_true (id_of_issued same))
  intro a b left right
  simp_all [clash]

theorem Checking.turn (checking : Checking server.db.catalog user ticket p)
    (resolves : server.db.Resolves user ticket)
    (turn : p.turn cfg c held server = some (server', p')) :
    Checking server.db.catalog user ticket p' := by
  obtain ⟨issued, r, stored, event, member, named, allowed⟩ := resolves
  cases p
  case checkIn state =>
    simp only [Proc.turn, turnOf_eq_some] at turn
    obtain ⟨next, turn, rfl⟩ := turn
    split at turn
    · cases turn
      exact .inr (.inr (.inl rfl))
    cases state <;> simp only [CheckIn.turn] at turn
    case findTicket asking path =>
      obtain ⟨rfl, names⟩ := checking
      obtain ⟨row, found, same⟩ := find_of_issued issued
      simp only [names, found] at turn
      cases turn
      exact ⟨rfl, same⟩
    case findReservation asking found =>
      obtain ⟨rfl, same⟩ := checking
      have of : found.reservationId = ticket.reservationId :=
        (congrArg Ticket.reservationId same : found.issued.reservationId = _)
      rw [of, findReservation_eq, stored] at turn
      cases turn
      exact ⟨rfl, same, event, member, named, allowed⟩
    case findEvent asking found read =>
      obtain ⟨rfl, same, event, member, named, allowed⟩ := checking
      have hit : server.db.catalog.events.rows.find? (·.id = read.eventId) = some event := by
        apply Table.find?_eq_some_of_mem member (decide_eq_true named)
        intro a b left right
        simp_all [clash]
      have admitted : ¬ (asking.role ≠ .admin ∧ event.organizerId ≠ asking.sub) := by
        rintro ⟨customer, other⟩
        exact allowed.elim customer other
      simp only [hit, if_neg admitted] at turn
      split at turn <;> cases turn
      · exact .inr (.inl rfl)
      · exact id_of_issued same
    case save found =>
      cases turn
      exact .inl ⟨found, rfl, checking⟩
  case done => cases turn
  all_goals cases checking

theorem Db.Resolves.next (resolves : w.db.Resolves user ticket)
    (sound : World.Sound (fun _ => True) w) (taken : step cfg w a = some w') :
    w'.db.Resolves user ticket := by
  obtain ⟨issued, r, stored, authorised⟩ := resolves
  obtain ⟨state, after⟩ := reservation_of_run (.single taken) sound stored
  refine ⟨issued.next taken, _, after, ?_⟩
  rw [catalog_of_step taken]
  exact authorised

/-- An authorised check-in of an issued ticket stays on its way to such an answer. -/
theorem checking_of_run {q : Proc} (run : Run (step cfg) w us w')
    (sound : World.Sound (fun _ => True) w) (resolves : w.db.Resolves user ticket)
    (serving : w.procs[pid]? = some q) (checking : Checking w.db.catalog user ticket q) :
    ∃ q', w'.procs[pid]? = some q' ∧ Checking w'.db.catalog user ticket q' := by
  refine (run.invariant (P := fun w => World.Sound (fun _ => True) w ∧ w.db.Resolves user ticket ∧
    ∃ q, w.procs[pid]? = some q ∧ Checking w.db.catalog user ticket q) within_any
    ⟨sound, resolves, q, serving, checking⟩ ?_).2.2
  rintro w a w' ⟨sound, resolves, q, serving, checking⟩ - taken
  refine ⟨(sound.next spelled_any taken).1, resolves.next sound taken, ?_⟩
  rw [catalog_of_step taken]
  rcases proc_cases taken serving with ⟨same, -⟩ | ⟨-, crashed⟩ | ⟨c, q', -, served, turn⟩
  · exact ⟨q, same, checking⟩
  · exact ⟨_, crashed, .inr (.inr (.inr rfl))⟩
  · exact ⟨q', served, checking.turn resolves turn⟩

theorem resolves_of_run (run : Run (step cfg) (initial catalog) ts w)
    (issued : ticket ∈ w.db.tickets.rows) (authorised : w.db.Authorises user ticket) :
    w.db.Resolves user ticket := by
  refine ⟨⟨ticket, issued, rfl⟩, ?_⟩
  have coherent : (w.db.booking ticket.reservationId).Coherent := coherent_of_run run
  obtain ⟨r, stored⟩ :=
    coherent.exists_of_ticket (mem_booking_tickets.mpr ⟨ticket, issued, rfl, rfl⟩)
  refine ⟨r, stored, ?_⟩
  rcases authorised with admin | ⟨other, member, of, event, hosted, named, organizer⟩
  · obtain ⟨-, venueId, ⟨event, hosted, named, -⟩, -⟩ := (placed_of_run run).stored _ r stored
    exact ⟨event, hosted, named, .inl admin⟩
  · have same := booking_reservation_eq_some.mpr ⟨member, of⟩
    rw [stored, Option.some.injEq] at same
    subst same
    exact ⟨event, hosted, named, .inr organizer⟩

/-! ## A ticket admits once -/

/-- One request at most is answered with the ticket, and the check-ins that come
when it is issued are answered with it or refused because it was checked in. -/
structure AdmitsOnce (us : List (Transition World Action)) (w w' : World) (ticket : Ticket) : Prop where
  once : w'.procs.countP (Proc.admitted ticket.id) ≤ 1
  refused : ∀ t ∈ us, ∀ user path response, t.action = .request (.checkIn user path) →
    uuid? path = some ticket.id → w.db.Authorises user ticket →
    w'.procs[t.source.procs.length]? = some (.done response) → CheckedIn ticket.id response

/-- A ticket admits once exactly when no check-in is saved over an earlier one. -/
theorem admits_once_iff (first : Run (step cfg) (initial catalog) ts w)
    (rest : Run (step cfg) w us w') (issued : ticket ∈ w.db.tickets.rows) :
    AdmitsOnce us w w' ticket ↔
      ∀ t ∈ ts ++ us, checksIn ticket.id t = true → ¬ t.source.db.Scanned ticket.id := by
  rw [← admitted_once_iff (first.append rest)]
  refine ⟨AdmitsOnce.once, fun once => ⟨once, ?_⟩⟩
  intro t member user path response asks names authorised answered
  obtain ⟨before, after, rfl, reaches, taken, later⟩ := rest.split member
  rw [asks] at taken
  have sound : World.Sound (fun _ => True) w := sound_of_run first within_any
  have sound' := sound.run (reaches.append (.single taken)) within_any
  have resolves : t.target.db.Resolves user ticket := by
    refine ((reaches.append (.single taken)).invariant (P := fun w => World.Sound (fun _ => True) w ∧
      w.db.Resolves user ticket) within_any ⟨sound, resolves_of_run first issued authorised⟩ ?_).2
    exact fun _ _ _ both _ taken => ⟨(both.1.next spelled_any taken).1, both.2.next both.1 taken⟩
  obtain ⟨q, served, checking⟩ :=
    checking_of_run later sound' resolves (served_of_request taken) ⟨rfl, names⟩
  rw [answered, Option.some.injEq] at served
  subst served
  exact checking

instance {db : Db} : Decidable (db.Scanned id) :=
  inferInstanceAs (Decidable (∃ row ∈ db.tickets.rows, row.id = id ∧ row.checkedInAt.isSome))

/-- The ticket of the replays. -/
def sampleTicket : Ticket := ⟨flat 4, flat 1, flatText 'a', ['t'], sampleDigest, none⟩

/-- The organizer's request to check the ticket in. -/
def scan : Action := .request (.checkIn organizer (flatText '4'))

def scanTurns (pid : Nat) : List Action := [.turn pid {}, .turn pid {}, .turn pid {}, .turn pid {}]

/-- Two check-ins one after the other: the second is refused. -/
def scanTwice : List Action := scan :: scanTurns 3 ++ scan :: (scanTurns 4).take 3

/-- Two check-ins that both read the ticket before either saves it. -/
def scanTogether : List Action :=
  [scan, scan] ++ (scanTurns 3).take 3 ++ (scanTurns 4).take 3 ++ [.turn 3 {}, .turn 4 {}]

theorem scanTwice_enabled : (exec (step sampleConfig) (replayed purchase purchase_enabled)
    scanTwice).isSome = true := by
  decide +kernel

theorem scanTogether_enabled : (exec (step sampleConfig) (replayed purchase purchase_enabled)
    scanTogether).isSome = true := by
  decide +kernel

theorem admits_once_twice : AdmitsOnce
    (transitions (step sampleConfig) (replayed purchase purchase_enabled) scanTwice)
    (replayed purchase purchase_enabled)
    (replay (step sampleConfig) (replayed purchase purchase_enabled) scanTwice scanTwice_enabled)
    sampleTicket :=
  (admits_once_iff (run_replay purchase_enabled) (run_replay scanTwice_enabled)
    (by decide +kernel)).mpr (by decide +kernel)

/-- Both are let in. -/
theorem admits_twice : ¬ ∀ (cfg : Config) (catalog : Catalog) (ts us : List (Transition World Action))
    (w w' : World) (ticket : Ticket), Run (step cfg) (initial catalog) ts w →
    Run (step cfg) w us w' → ticket ∈ w.db.tickets.rows → AdmitsOnce us w w' ticket := by
  intro always
  have once := (always _ _ _ _ _ _ sampleTicket (run_replay purchase_enabled)
    (run_replay scanTogether_enabled) (by decide +kernel)).once
  revert once
  decide +kernel

end KiTicket
