import KiTicket.Leaks
import KiTicket.Replays

/-! Payment starts side by side. A start that runs alone looks its key up, looks the
reservation up and inserts in one go. Started together, each still behaves as if it
ran alone at one moment: where its insert goes through or is refused, or where it
looked its key up. The exception is an insert refused for a key that belongs to
another reservation's payment. -/
namespace KiTicket
open Reservations Payments Runs

variable {cfg : Config} {w w' : World} {a : Action} {c : Choice} {held : List RowLock}
  {server server' : Server} {p p' : Proc} {r : Reservation} {user : AuthenticatedUser}
  {body : StartPaymentDto} {response : Response} {pid : Nat}
  {ts us : List (Transition World Action)}

/-! ## One start after the other -/

/-- A start run to its end with nobody in between. -/
def Payments.Start.alone (c : Choice) : Nat → Server → Start → Option (Server × Response)
  | 0, _, _ => none
  | fuel + 1, server, state =>
    match state.turn c server with
    | none => none
    | some (server', .done response) => some (server', response)
    | some (server', .go next) => Start.alone c fuel server' next

/-- A request, what it reads off its clock and draws, and its answer. -/
structure Attempt where
  pid : Nat
  user : AuthenticatedUser
  body : StartPaymentDto
  choice : Choice
  response : Response

/-- The whole request at once, when it is answered so. No start takes more than
four turns. -/
def serve (server : Server) (attempt : Attempt) : Option Server :=
  match (Start.findByKey attempt.user attempt.body).alone attempt.choice 4 server with
  | none => none
  | some (server', response) => if response = attempt.response then some server' else none

/-- The attempt is one of the requests of the run, answered as it was there, with a
clock reading and ids of its own. -/
structure Attempt.Of (ts : List (Transition World Action)) (w' : World) (attempt : Attempt) :
    Prop where
  issued : ∃ t ∈ ts, t.action = .request (.start attempt.user attempt.body) ∧
    t.source.procs.length = attempt.pid
  read : ∃ t ∈ ts, ∃ c, t.action = .turn attempt.pid c ∧ c.now = attempt.choice.now
  drew : ∃ t ∈ ts, ∃ c, t.action = .turn attempt.pid c ∧ c.ids = attempt.choice.ids
  answered : w'.procs[attempt.pid]? = some (.done attempt.response)

/-- Some order of the requests, each served alone, leaves the same database and
answers each the same. -/
def Serializable (w : World) (ts : List (Transition World Action)) (w' : World) : Prop :=
  ∃ us server, Run serve w.shared us server ∧ server.db = w'.db ∧
    (us.map (·.action.pid)).Perm
      (List.range' w.procs.length (w'.procs.length - w.procs.length)) ∧
    ∀ u ∈ us, u.action.Of ts w'

/-- Only starts come in, no call fails and no process dies. -/
def OnlyStarts (t : Transition World Action) : Prop :=
  match t.action with
  | .request (.start _ _) | .pass _ | .drop _ => True
  | .turn _ c => ¬c.fault = true
  | .request _ | .crash _ => False

/-- A start's insert is accepted, or its reservation has a payment, and the key is
on no payment but that one, started for the id as it is stored. -/
def Proc.Settled (c : Choice) (db : Db) : Proc → Prop
  | .start (.save _ body r) => ∀ id ∈ c.ids, db.payments.insert? [newPayment id body r] = none →
    ∃ p ∈ db.payments.rows, p.reservationId = r.id ∧ ∀ other ∈ db.payments.rows,
      other.idempotencyKey = some body.idempotencyKey → other = p ∧ r.id.text = body.reservationId
  | _ => True

def Settled (t : Transition World Action) : Prop :=
  match t.action with
  | .turn pid c => ∀ p ∈ t.source.procs[pid]?, p.Settled c t.source.db
  | _ => True

/-! ## A start served alone -/

theorem serve_of_alone {attempt : Attempt}
    (alone : (Start.findByKey attempt.user attempt.body).alone attempt.choice 4 server =
      some (server', attempt.response)) : serve server attempt = some server' := by
  simp [serve, alone]

/-- The payment a key is recorded on. -/
abbrev Db.keyed (db : Db) (key : Text) : Option Payment :=
  db.payments.rows.find? (·.idempotencyKey = some key)

theorem alone_linked {existing : Payment} (found : server.db.keyed body.idempotencyKey = some existing)
    (linked : (Start.findLinked user body existing).turn c server = some (server, .done response)) :
    (Start.findByKey user body).alone c 4 server = some (server, response) := by
  have first : (Start.findByKey user body).turn c server =
      some (server, .go (.findLinked user body existing)) := by
    simp [Start.turn, found, Server.stay]
  simp only [Start.alone, first, linked]

theorem alone_refused (unknown : server.db.keyed body.idempotencyKey = none)
    (refused : (Start.findReservation user body).turn c server = some (server, .done response)) :
    (Start.findByKey user body).alone c 4 server = some (server, response) := by
  have first : (Start.findByKey user body).turn c server =
      some (server, .go (.findReservation user body)) := by
    simp [Start.turn, unknown, Server.stay]
  simp only [Start.alone, first, refused]

/-- The reservation a start has found is there, the user's, and payable by the clock. -/
structure Payable (db : Db) (user : AuthenticatedUser) (body : StartPaymentDto) (r : Reservation)
    (now : Nat) : Prop where
  named : uuid? body.reservationId = some r.id
  stored : findReservation db r.id = some r
  owned : r.userId = user.sub
  pending : r.state = .pending
  early : now < r.expiresAt

theorem Payable.turn (payable : Payable server.db user body r c.now) :
    (Start.findReservation user body).turn c server = some (server, .go (.save user body r)) := by
  have open' : ¬ (r.state ≠ .pending ∨ r.expiresAt ≤ c.now) := by
    rw [not_or, not_not, Nat.not_le]
    exact ⟨payable.pending, payable.early⟩
  simp only [Start.turn, payable.named, payable.stored, if_neg (not_not.mpr payable.owned),
    if_neg open']
  rfl

theorem alone_inserted {id : Uuid} {payments : Table Payment} (drawn : c.ids = [id])
    (unknown : server.db.keyed body.idempotencyKey = none)
    (payable : Payable server.db user body r c.now)
    (inserted : server.db.payments.insert? [newPayment id body r] = some payments) :
    ∃ server', (Start.findByKey user body).alone c 4 server =
        some (server', .payment (newPayment id body r)) ∧
      server'.db = { server.db with payments } ∧ server'.locks = server.locks ∧
        server'.drawn = server.drawn := by
  have first : (Start.findByKey user body).turn c server =
      some (server, .go (.findReservation user body)) := by
    simp [Start.turn, unknown, Server.stay]
  have third : (Start.save user body r).turn c server =
      some ({ server with db := { server.db with payments } },
        .go (.announce user (newPayment id body r))) := by
    simp only [Start.turn, drawn, inserted]
  simp only [Start.alone, first, payable.turn, third]
  exact ⟨_, rfl, rfl, rfl, rfl⟩

theorem alone_fallback {id : Uuid} (drawn : c.ids = [id])
    (unknown : server.db.keyed body.idempotencyKey = none)
    (payable : Payable server.db user body r c.now)
    (refused : server.db.payments.insert? [newPayment id body r] = none) {q : Payment}
    (paid : (server.db.booking r.id).payment = some q) :
    (Start.findByKey user body).alone c 4 server = some (server, .payment q) := by
  have first : (Start.findByKey user body).turn c server =
      some (server, .go (.findReservation user body)) := by
    simp [Start.turn, unknown, Server.stay]
  have third : (Start.save user body r).turn c server =
      some (server, .go (.findByReservation r)) := by
    simp only [Start.turn, drawn, refused]
    rfl
  have fourth : (Start.findByReservation r).turn c server = some (server, .done (.payment q)) := by
    have found : server.db.payments.rows.find? (·.reservationId = r.id) = some q := paid
    simp only [Start.turn, found]
  simp only [Start.alone, first, payable.turn, third, fourth]

/-! ## What other starts leave as it is -/

/-- The rest of the database is the same, and payments were at most added. -/
structure Db.Extends (db db' : Db) : Prop where
  reservations : db'.reservations = db.reservations
  payments : db.payments.rows <+: db'.payments.rows

theorem Db.extends_refl {db : Db} : db.Extends db := ⟨rfl, List.prefix_rfl⟩

theorem Db.Extends.find {db db' : Db} (extends' : db.Extends db') {f : Payment → Bool} {q : Payment}
    (found : db.payments.rows.find? f = some q) : db'.payments.rows.find? f = some q := by
  obtain ⟨new, same⟩ := extends'.payments
  rw [← same, List.find?_append, found]
  rfl

theorem Payable.extends {db db' : Db} {now : Nat} (payable : Payable db user body r now)
    (extends' : db.Extends db') : Payable db' user body r now where
  named := payable.named
  stored := by
    rw [findReservation, extends'.reservations]
    exact payable.stored
  owned := payable.owned
  pending := payable.pending
  early := payable.early

/-- The request came in as this process. -/
def Issued (ts : List (Transition World Action)) (pid : Nat) (user : AuthenticatedUser)
    (body : StartPaymentDto) : Prop :=
  ∃ t ∈ ts, t.action = .request (.start user body) ∧ t.source.procs.length = pid

/-- One of the process's turns read the clock so. -/
def Read (ts : List (Transition World Action)) (pid now : Nat) : Prop :=
  ∃ t ∈ ts, ∃ c, t.action = .turn pid c ∧ c.now = now

/-- A start that has not come to its moment yet, and what it has read. -/
def Standing (visits : Server → Prop) (db : Db) (ts : List (Transition World Action)) (pid : Nat) :
    Proc → Prop
  | .start (.findByKey user body) => Issued ts pid user body
  | .start (.findLinked user body existing) =>
    Issued ts pid user body ∧ db.keyed body.idempotencyKey = some existing
  | .start (.findReservation user body) => Issued ts pid user body ∧ ∃ server, visits server ∧
      server.db.keyed body.idempotencyKey = none ∧ server.db.Extends db
  | .start (.save user body r) =>
    Issued ts pid user body ∧ ∃ now, Read ts pid now ∧ Payable db user body r now
  | _ => False

/-- A start whose answer is settled. -/
def Ended (db : Db) (response : Response) : Proc → Prop
  | .start (.announce _ payment) => response = .payment payment
  | .start (.findByReservation r) =>
    ∃ payment, (db.booking r.id).payment = some payment ∧ response = .payment payment
  | .done answer => response = answer
  | _ => False

theorem Standing.mono {visits visits' : Server → Prop} {db db' : Db}
    (standing : Standing visits db ts pid p) (more : ts ⊆ us)
    (still : ∀ server, visits server → visits' server) (extends' : db.Extends db') :
    Standing visits' db' us pid p := by
  have issued {user : AuthenticatedUser} {body : StartPaymentDto} (before : Issued ts pid user body) :
      Issued us pid user body := by
    obtain ⟨t, member, asks⟩ := before
    exact ⟨t, more member, asks⟩
  cases p
  case start state =>
    cases state
    case findByKey => exact issued standing
    case findLinked => exact ⟨issued standing.1, extends'.find standing.2⟩
    case findReservation =>
      obtain ⟨before, server, visited, unknown, later⟩ := standing
      refine ⟨issued before, server, still server visited, unknown, ?_, ?_⟩
      · exact extends'.reservations.trans later.reservations
      · exact later.payments.trans extends'.payments
    case save =>
      obtain ⟨before, now, ⟨t, member, reads⟩, payable⟩ := standing
      exact ⟨issued before, now, ⟨t, more member, reads⟩, payable.extends extends'⟩
    all_goals cases standing
  all_goals cases standing

theorem Ended.mono {db db' : Db} (ended : Ended db response p) (extends' : db.Extends db') :
    Ended db' response p := by
  cases p
  case start state =>
    cases state
    case findByReservation =>
      obtain ⟨payment, paid, answer⟩ := ended
      exact ⟨payment, extends'.find paid, answer⟩
    all_goals exact ended
  all_goals exact ended

/-! ## The order so far -/

/-- What the run says about an attempt that has come to its moment. -/
structure Attempt.Fits (ts : List (Transition World Action)) (attempt : Attempt) : Prop where
  issued : Issued ts attempt.pid attempt.user attempt.body
  read : Read ts attempt.pid attempt.choice.now
  drew : ∃ t ∈ ts, ∃ c, t.action = .turn attempt.pid c ∧ c.ids = attempt.choice.ids

theorem Attempt.Fits.mono {attempt : Attempt} (fits : attempt.Fits ts) (more : ts ⊆ us) :
    attempt.Fits us := by
  obtain ⟨⟨t, asked, asks⟩, ⟨t', reading, reads⟩, ⟨t'', drawing, draws⟩⟩ := fits
  exact ⟨⟨t, more asked, asks⟩, ⟨t', more reading, reads⟩, ⟨t'', more drawing, draws⟩⟩

variable {v v' : World} {order order' : List (Transition Server Attempt)}

/-- The requests that have come to their moment, in an order in which each, served
alone, is answered as it is going to be. -/
structure Linearized (w : World) (ts : List (Transition World Action)) (v : World)
    (order : List (Transition Server Attempt)) (server : Server) : Prop where
  run : Run serve w.shared order server
  db : server.db = v.db
  size : w.procs.length ≤ v.procs.length
  nodup : (order.map (·.action.pid)).Nodup
  fits : ∀ u ∈ order, u.action.Fits ts
  ended : ∀ u ∈ order, w.procs.length ≤ u.action.pid ∧
    ∃ p, v.procs[u.action.pid]? = some p ∧ Ended v.db u.action.response p
  standing : ∀ pid p, w.procs.length ≤ pid → v.procs[pid]? = some p →
    (∃ u ∈ order, u.action.pid = pid) ∨ Standing (Visits w.shared order) v.db ts pid p
  old : ∀ pid p, pid < w.procs.length → v.procs[pid]? = some p → p.answered = true

/-- A turn after which the order is the same. -/
theorem Linearized.keep (linear : Linearized w ts v order server) (serving : v.procs[pid]? = some p)
    (procs : v'.procs = v.procs.set pid p') (same : v'.db = v.db) {t : Transition World Action}
    (new : w.procs.length ≤ pid)
    (own : ∀ u ∈ order, u.action.pid = pid → Ended v.db u.action.response p → Ended v.db u.action.response p')
    (moves : (∀ u ∈ order, u.action.pid ≠ pid) →
      Standing (Visits w.shared order) v.db (ts ++ [t]) pid p') :
    Linearized w (ts ++ [t]) v' order server where
  run := linear.run
  db := linear.db.trans same.symm
  size := by
    rw [procs, List.length_set]
    exact linear.size
  nodup := linear.nodup
  fits u member := (linear.fits u member).mono (List.subset_append_left _ _)
  ended u member := by
    obtain ⟨bound, q, at', ends⟩ := linear.ended u member
    refine ⟨bound, ?_⟩
    rw [procs, same]
    by_cases mine : u.action.pid = pid
    · rw [mine, serving, Option.some.injEq] at at'
      subst at'
      rw [mine]
      exact ⟨p', List.getElem?_set_self (List.getElem?_eq_some_iff.mp serving).1, own u member mine ends⟩
    · exact ⟨q, (List.getElem?_set_ne (Ne.symm mine)).trans at', ends⟩
  standing j q bound at' := by
    rw [procs] at at'
    rw [same]
    rcases Pool.getElem?_set_cases at' with ⟨rfl, rfl, -⟩ | ⟨-, before⟩
    · by_cases settled : ∃ u ∈ order, u.action.pid = j
      · exact .inl settled
      · refine .inr (moves fun u member mine => settled ⟨u, member, mine⟩)
    · exact (linear.standing j q bound before).imp_right fun standing =>
        standing.mono (List.subset_append_left _ _) (fun _ visited => visited) Db.extends_refl
  old j q bound at' := by
    rw [procs] at at'
    rcases Pool.getElem?_set_cases at' with ⟨rfl, -, -⟩ | ⟨-, before⟩
    · omega
    · exact linear.old j q bound before

/-- A turn with which a request comes to its moment. -/
theorem Linearized.add (linear : Linearized w ts v order server) (serving : v.procs[pid]? = some p)
    (procs : v'.procs = v.procs.set pid p') {t : Transition World Action}
    (new : w.procs.length ≤ pid) (first : ∀ u ∈ order, u.action.pid ≠ pid)
    {u : Transition Server Attempt} (perm : order'.Perm (u :: order))
    (run : Run serve w.shared order' server') (db : server'.db = v'.db)
    (extends' : v.db.Extends v'.db) (mine : u.action.pid = pid) (fits : u.action.Fits (ts ++ [t]))
    (ends : Ended v'.db u.action.response p') : Linearized w (ts ++ [t]) v' order' server' where
  run := run
  db := db
  size := by
    rw [procs, List.length_set]
    exact linear.size
  nodup := by
    rw [(perm.map _).nodup_iff, List.map_cons, List.nodup_cons]
    refine ⟨fun other => ?_, linear.nodup⟩
    obtain ⟨u', member, same⟩ := List.mem_map.mp other
    exact first u' member (same.trans mine)
  fits u' member := by
    rcases List.mem_cons.mp (perm.mem_iff.mp member) with rfl | before
    · exact fits
    · exact (linear.fits u' before).mono (List.subset_append_left _ _)
  ended u' member := by
    rw [procs]
    rcases List.mem_cons.mp (perm.mem_iff.mp member) with rfl | before
    · rw [mine]
      exact ⟨new, p', List.getElem?_set_self (List.getElem?_eq_some_iff.mp serving).1, ends⟩
    · obtain ⟨bound, q, at', ends⟩ := linear.ended u' before
      exact ⟨bound, q, (List.getElem?_set_ne (Ne.symm (first u' before))).trans at', ends.mono extends'⟩
  standing j q bound at' := by
    have more : order ⊆ order' := fun u' before => perm.mem_iff.mpr (List.mem_cons_of_mem _ before)
    rw [procs] at at'
    rcases Pool.getElem?_set_cases at' with ⟨rfl, rfl, -⟩ | ⟨-, before⟩
    · exact .inl ⟨u, perm.mem_iff.mpr List.mem_cons_self, mine⟩
    · rcases linear.standing j q bound before with ⟨u', member, same⟩ | standing
      · exact .inl ⟨u', more member, same⟩
      · exact .inr (standing.mono (List.subset_append_left _ _)
          (fun _ visited => visited.mono more) extends')
  old j q bound at' := by
    rw [procs] at at'
    rcases Pool.getElem?_set_cases at' with ⟨rfl, -, -⟩ | ⟨-, before⟩
    · omega
    · exact linear.old j q bound before

/-! ## One turn -/

theorem key_cases {next : Next Start}
    (turn : (Start.findByKey user body).turn c server = some (server', next)) : server' = server ∧
    ((∃ existing, server.db.keyed body.idempotencyKey = some existing ∧
        next = .go (.findLinked user body existing)) ∨
      server.db.keyed body.idempotencyKey = none ∧ next = .go (.findReservation user body)) := by
  simp only [Start.turn] at turn
  split at turn
  · rename_i existing found
    cases turn
    exact ⟨rfl, .inl ⟨existing, found, rfl⟩⟩
  · rename_i unknown
    cases turn
    exact ⟨rfl, .inr ⟨unknown, rfl⟩⟩

/-- Looking the linked reservation up answers, whatever else there is. -/
theorem linked_cases {existing : Payment} {next : Next Start}
    (turn : (Start.findLinked user body existing).turn c server = some (server', next)) :
    server' = server ∧ ∃ response, next = .done response ∧ ∀ other : Server,
      other.db.reservations = server.db.reservations →
      (Start.findLinked user body existing).turn c other = some (other, .done response) := by
  simp only [Start.turn, findReservation] at turn ⊢
  split at turn
  · rename_i lost
    cases turn
    exact ⟨rfl, _, rfl, fun other same => by rw [same, lost]; rfl⟩
  · rename_i linked found
    split at turn
    · rename_i foreign
      cases turn
      exact ⟨rfl, _, rfl, fun other same => by simp only [same, found, if_pos foreign]; rfl⟩
    · rename_i mine
      cases turn
      exact ⟨rfl, _, rfl, fun other same => by simp only [same, found, if_neg mine]⟩

/-- Looking the reservation up refuses the request, or finds the reservation payable. -/
theorem reservation_found_cases {next : Next Start}
    (turn : (Start.findReservation user body).turn c server = some (server', next)) :
    server' = server ∧ ((∃ response, next = .done response ∧ ∀ other : Server,
        other.db.reservations = server.db.reservations →
        (Start.findReservation user body).turn c other = some (other, .done response)) ∨
      ∃ r, next = .go (.save user body r) ∧ Payable server.db user body r c.now) := by
  simp only [Start.turn] at turn ⊢
  split at turn
  · rename_i unread
    cases turn
    exact ⟨rfl, .inl ⟨_, rfl, fun _ _ => rfl⟩⟩
  rename_i id named
  split at turn
  · rename_i lost
    cases turn
    refine ⟨rfl, .inl ⟨_, rfl, fun other same => ?_⟩⟩
    rw [findReservation] at lost
    simp only [findReservation, same, lost]
    rfl
  rename_i r found
  have found' (other : Server) (same : other.db.reservations = server.db.reservations) :
      findReservation other.db id = some r := by rw [findReservation, same]; exact found
  split at turn
  · rename_i foreign
    cases turn
    refine ⟨rfl, .inl ⟨_, rfl, fun other same => ?_⟩⟩
    simp only [found' other same, if_pos foreign]
    rfl
  rename_i mine
  split at turn
  · rename_i closed
    cases turn
    refine ⟨rfl, .inl ⟨_, rfl, fun other same => ?_⟩⟩
    simp only [found' other same, if_neg mine, if_pos closed]
    rfl
  · rename_i open'
    cases turn
    rw [not_or, not_not, Nat.not_le] at open'
    obtain ⟨-, rfl⟩ := booking_reservation_eq_some.mp found
    exact ⟨rfl, .inr ⟨r, rfl, named, found, not_not.mp mine, open'.1, open'.2⟩⟩

/-- A start that still stands is not on the order. -/
theorem Linearized.first (linear : Linearized w ts v order server)
    (serving : v.procs[pid]? = some p) {visits : Server → Prop}
    (standing : Standing visits v.db us pid p) : ∀ u ∈ order, u.action.pid ≠ pid := by
  intro u member mine
  obtain ⟨-, q, at', ends⟩ := linear.ended u member
  rw [mine, serving, Option.some.injEq] at at'
  subst at'
  cases p
  case start state => cases state <;> first | exact ends.elim | exact standing.elim
  all_goals cases standing

section Turn
variable (linear : Linearized w ts v order server) (new : w.procs.length ≤ pid)
include linear new

/-- A start past its moment gives the answer it is on the order with. -/
theorem Linearized.turn_of_settled (serving : v.procs[pid]? = some p)
    (procs : v'.procs = v.procs.set pid p') (calls : ¬c.fault = true)
    (turn : p.turn cfg c held v.shared = some (v'.shared, p'))
    {u : Transition Server Attempt} (member : u ∈ order) (mine : u.action.pid = pid) :
    ∃ order' server', Linearized w (ts ++ [⟨v, .turn pid c, v'⟩]) v' order' server' := by
  obtain ⟨-, q, at', ends⟩ := linear.ended u member
  rw [mine, serving, Option.some.injEq] at at'
  subst at'
  have only {u' : Transition Server Attempt} (member' : u' ∈ order) (mine' : u'.action.pid = pid) :
      u' = u := List.inj_on_of_nodup_map linear.nodup member' member (mine'.trans mine.symm)
  have keep (same : v'.db = v.db) (still : Ended v.db u.action.response p') :
      ∃ order' server', Linearized w (ts ++ [⟨v, .turn pid c, v'⟩]) v' order' server' :=
    ⟨order, server, linear.keep serving procs same new
      (fun u' member' mine' _ => only member' mine' ▸ still) fun none => absurd mine (none u member)⟩
  cases p
  case start state =>
    simp only [Proc.turn, turnOf_eq_some, if_neg calls] at turn
    obtain ⟨next, turn, rfl⟩ := turn
    cases state
    case announce user payment =>
      simp only [Start.turn, Option.some.injEq, Prod.mk.injEq] at turn
      obtain ⟨same, rfl⟩ := turn
      exact keep (congrArg Server.db same).symm ends
    case findByReservation r =>
      obtain ⟨payment, paid, answer⟩ := ends
      have found : v.db.payments.rows.find? (·.reservationId = r.id) = some payment := paid
      simp only [Start.turn, found, Option.some.injEq, Prod.mk.injEq] at turn
      obtain ⟨same, rfl⟩ := turn
      exact keep (congrArg Server.db same).symm answer
    all_goals exact ends.elim
  case done => cases turn
  all_goals exact ends.elim

variable {state : Start} {next : Next Start} (serving : v.procs[pid]? = some (.start state))
  (procs : v'.procs = v.procs.set pid (next.proc .start))
  (turn : state.turn c v.shared = some (v'.shared, next))
include serving procs turn

theorem Linearized.turn_by_key
    (standing : Standing (Visits w.shared order) v.db ts pid (.start state))
    (at_key : state = .findByKey user body) :
    ∃ order' server', Linearized w (ts ++ [⟨v, .turn pid c, v'⟩]) v' order' server' := by
  have first := linear.first serving standing
  subst at_key
  obtain ⟨t, asked, asks⟩ := standing
  have issued : Issued (ts ++ [⟨v, .turn pid c, v'⟩]) pid user body :=
    ⟨t, List.mem_append_left _ asked, asks⟩
  obtain ⟨same, next⟩ := key_cases turn
  refine ⟨order, server, linear.keep serving procs (by rw [Pool.db, Pool.db, same]) new ?_ ?_⟩
  · exact fun u member mine => absurd mine (first u member)
  · intro _
    rcases next with ⟨existing, found, rfl⟩ | ⟨unknown, rfl⟩
    · exact ⟨issued, found⟩
    · refine ⟨issued, server, linear.run.visits_last, ?_, ?_⟩
      · rw [linear.db]
        exact unknown
      · rw [linear.db]
        exact Db.extends_refl

/-- Its key is known: the start comes to its moment here, at the end of the order. -/
theorem Linearized.turn_by_linked {existing : Payment}
    (standing : Standing (Visits w.shared order) v.db ts pid (.start state))
    (at_linked : state = .findLinked user body existing) :
    ∃ order' server', Linearized w (ts ++ [⟨v, .turn pid c, v'⟩]) v' order' server' := by
  have first := linear.first serving standing
  subst at_linked
  obtain ⟨⟨t, asked, asks⟩, found⟩ := standing
  obtain ⟨same, response, rfl, answers⟩ := linked_cases turn
  have known : server.db.keyed body.idempotencyKey = some existing := by
    rw [linear.db]
    exact found
  have alone := alone_linked known (answers server (by rw [linear.db]))
  have served : serve server ⟨pid, user, body, c, response⟩ = some server := serve_of_alone alone
  refine ⟨_, server, linear.add serving procs new first (List.perm_append_singleton _ _)
    (.snoc linear.run served) ?_ ?_ rfl
    ⟨⟨t, List.mem_append_left _ asked, asks⟩, ⟨_, List.mem_concat_self, c, rfl, rfl⟩,
      ⟨_, List.mem_concat_self, c, rfl, rfl⟩⟩ rfl⟩
  · rw [linear.db, Pool.db, Pool.db, same]
  · rw [Pool.db, Pool.db, same]
    exact Db.extends_refl

/-- Its reservation is not payable: the start had its moment when it looked its key up. -/
theorem Linearized.turn_by_reservation
    (standing : Standing (Visits w.shared order) v.db ts pid (.start state))
    (at_reservation : state = .findReservation user body) :
    ∃ order' server', Linearized w (ts ++ [⟨v, .turn pid c, v'⟩]) v' order' server' := by
  have first := linear.first serving standing
  subst at_reservation
  obtain ⟨⟨t, asked, asks⟩, at', visited, unknown, later⟩ := standing
  have issued : Issued (ts ++ [⟨v, .turn pid c, v'⟩]) pid user body :=
    ⟨t, List.mem_append_left _ asked, asks⟩
  have reads : Read (ts ++ [⟨v, .turn pid c, v'⟩]) pid c.now :=
    ⟨_, List.mem_concat_self, c, rfl, rfl⟩
  obtain ⟨same, ⟨response, rfl, answers⟩ | ⟨r, rfl, payable⟩⟩ := reservation_found_cases turn
  · have alone := alone_refused unknown (answers at' later.reservations.symm)
    have idle : serve at' ⟨pid, user, body, c, response⟩ = some at' := serve_of_alone alone
    obtain ⟨order', perm, run⟩ := linear.run.insert visited idle
    refine ⟨order', server, linear.add serving procs new first perm run ?_ ?_ rfl
      ⟨issued, reads, ⟨_, List.mem_concat_self, c, rfl, rfl⟩⟩ rfl⟩
    · rw [linear.db, Pool.db, Pool.db, same]
    · rw [Pool.db, Pool.db, same]
      exact Db.extends_refl
  · refine ⟨order, server, linear.keep serving procs (by rw [Pool.db, Pool.db, same]) new ?_ ?_⟩
    · exact fun u member mine => absurd mine (first u member)
    · exact fun _ => ⟨issued, c.now, reads, payable⟩

/-- The insert is the moment, whether it goes through or is refused. -/
theorem Linearized.turn_by_save
    (standing : Standing (Visits w.shared order) v.db ts pid (.start state))
    (at_save : state = .save user body r) (settled : Settled ⟨v, .turn pid c, v'⟩) :
    ∃ order' server', Linearized w (ts ++ [⟨v, .turn pid c, v'⟩]) v' order' server' := by
  have first := linear.first serving standing
  subst at_save
  obtain ⟨⟨t, asked, asks⟩, now, ⟨t', reading, read⟩, payable⟩ := standing
  obtain ⟨id, drawn, outcome⟩ := insert_cases turn
  have payable' : Payable server.db user body r now := by
    rw [linear.db]
    exact payable
  have fits (response : Response) :
      Attempt.Fits (ts ++ [⟨v, .turn pid c, v'⟩]) ⟨pid, user, body, { c with now }, response⟩ :=
    ⟨⟨t, List.mem_append_left _ asked, asks⟩, ⟨t', List.mem_append_left _ reading, read⟩,
      ⟨_, List.mem_concat_self, c, rfl, rfl⟩⟩
  rcases outcome with ⟨payments, inserted, db, rfl⟩ | ⟨refused, same, rfl⟩
  · have unknown : server.db.keyed body.idempotencyKey = none := by
      rw [linear.db, Db.keyed, List.find?_eq_none]
      intro other member key
      have apart := Table.clash_false_of_insert? inserted member List.mem_cons_self
      simp [clash, newPayment, of_decide_eq_true key] at apart
    obtain ⟨server', alone, db', -⟩ := alone_inserted (c := { c with now }) drawn unknown payable'
      (by rw [linear.db]; exact inserted)
    have served : serve server ⟨pid, user, body, { c with now }, _⟩ = some server' :=
      serve_of_alone alone
    refine ⟨_, server', linear.add serving procs new first (List.perm_append_singleton _ _)
      (.snoc linear.run served) ?_ ?_ rfl (fits _) rfl⟩
    · rw [db', linear.db]
      exact db.symm
    · rw [Pool.db, Pool.db, db]
      exact ⟨rfl, _, (Table.insert?_eq_some.mp inserted).symm⟩
  · -- the reservation has its payment, and the key is unused or on just that one
    have met : (Proc.start (.save user body r)).Settled c v.db := settled _ serving
    obtain ⟨q, member, of, only⟩ := met id (drawn ▸ List.mem_cons_self) refused
    have paid : (v.db.booking r.id).payment = some q := booking_payment_eq_some.mpr ⟨member, of⟩
    have served : serve server ⟨pid, user, body, { c with now }, .payment q⟩ = some server := by
      apply serve_of_alone
      cases key : server.db.keyed body.idempotencyKey with
      | none =>
        refine alone_fallback (c := { c with now }) drawn key payable' ?_ ?_
        · rw [linear.db]
          exact refused
        · rw [linear.db]
          exact paid
      | some other =>
        have known := List.mem_of_find?_eq_some key
        rw [linear.db] at known
        obtain ⟨rfl, canonical⟩ := only other known (by simpa using List.find?_some key)
        refine alone_linked key ?_
        have mine : ¬ (r.userId ≠ user.sub ∨ r.id.text ≠ body.reservationId) := by
          rw [not_or, not_not, not_not]
          exact ⟨payable.owned, canonical⟩
        have found := payable'.stored
        rw [← of] at found
        simp only [Start.turn, found, if_neg mine]
    refine ⟨_, server, linear.add serving procs new first (List.perm_append_singleton _ _)
      (.snoc linear.run served) ?_ ?_ rfl (fits _) ⟨q, ?_, rfl⟩⟩
    · rw [linear.db, Pool.db, Pool.db, same]
    · rw [Pool.db, Pool.db, same]
      exact Db.extends_refl
    · rw [Pool.db, same]
      exact paid

end Turn

theorem Linearized.turn (linear : Linearized w ts v order server)
    (taken : step cfg v (.turn pid c) = some v') (calls : ¬c.fault = true)
    (settled : Settled ⟨v, .turn pid c, v'⟩) :
    ∃ order' server', Linearized w (ts ++ [⟨v, .turn pid c, v'⟩]) v' order' server' := by
  obtain ⟨p, p', serving, turn, procs⟩ := step_turn taken
  have new : w.procs.length ≤ pid := by
    by_contra old
    have answered := linear.old pid p (Nat.lt_of_not_le old) serving
    cases p <;> cases answered
    cases turn
  -- a start that is on the order is past its moment, and the others are standing
  rcases linear.standing pid p new serving with ⟨u, member, mine⟩ | standing
  · exact linear.turn_of_settled new serving procs calls turn member mine
  · cases p
    case start state =>
      simp only [Proc.turn, turnOf_eq_some, if_neg calls] at turn
      obtain ⟨next, turn, rfl⟩ := turn
      cases state
      case findByKey => exact linear.turn_by_key new serving procs turn standing rfl
      case findLinked => exact linear.turn_by_linked new serving procs turn standing rfl
      case findReservation => exact linear.turn_by_reservation new serving procs turn standing rfl
      case save => exact linear.turn_by_save new serving procs turn standing rfl settled
      all_goals exact standing.elim
    all_goals exact standing.elim

/-! ## The whole run -/

theorem Linearized.next (linear : Linearized w ts v order server) (taken : step cfg v a = some v')
    (only : OnlyStarts ⟨v, a, v'⟩) (settled : Settled ⟨v, a, v'⟩) :
    ∃ order' server', Linearized w (ts ++ [⟨v, a, v'⟩]) v' order' server' := by
  have more : ts ⊆ ts ++ [⟨v, a, v'⟩] := List.subset_append_left _ _
  have idle (procs : v'.procs = v.procs) (same : v'.db = v.db) :
      Linearized w (ts ++ [⟨v, a, v'⟩]) v' order server := by
    refine ⟨linear.run, linear.db.trans same.symm, procs ▸ linear.size, linear.nodup,
      fun u member => (linear.fits u member).mono more, ?_, ?_, ?_⟩
    · rw [procs, same]
      exact linear.ended
    · rw [procs, same]
      exact fun pid p bound at' => (linear.standing pid p bound at').imp_right fun standing =>
        standing.mono more (fun _ visited => visited) Db.extends_refl
    · rw [procs]
      exact linear.old
  cases step_cases taken
  case turn pid c p p' serving procs turn => exact linear.turn taken only settled
  case crash => cases only
  case pass => exact ⟨order, server, idle rfl rfl⟩
  case drop => exact ⟨order, server, idle rfl rfl⟩
  case request r accepted =>
    cases r <;> try cases only
    case start user body =>
    refine ⟨order, server, linear.run, linear.db, ?_, linear.nodup,
      fun u member => (linear.fits u member).mono more, ?_, ?_, ?_⟩
    · rw [List.length_append]
      exact Nat.le_add_right_of_le linear.size
    · intro u member
      obtain ⟨bound, p, at', ends⟩ := linear.ended u member
      refine ⟨bound, p, ?_, ends⟩
      rw [List.getElem?_append_left (List.getElem?_eq_some_iff.mp at').1, at']
    · intro pid p bound at'
      rw [List.getElem?_append] at at'
      split at at'
      · exact (linear.standing pid p bound at').imp_right fun standing =>
          standing.mono more (fun _ visited => visited) Db.extends_refl
      · rw [List.getElem?_singleton] at at'
        split at at' <;> cases at'
        exact .inr ⟨_, List.mem_concat_self, rfl, by dsimp only; omega⟩
    · intro pid p old at'
      rw [List.getElem?_append_left (Nat.lt_of_lt_of_le old linear.size)] at at'
      exact linear.old pid p old at'

/-- Starts served at the same time come to what they come to in some order one after the
other, as long as an insert that is refused finds the reservation paid for already. -/
theorem starts_serializable (run : Run (step cfg) w ts w') (idle : ∀ p ∈ w.procs, p.answered = true)
    (only : ∀ t ∈ ts, OnlyStarts t) (done : ∀ p ∈ w'.procs, p.answered = true)
    (settled : ∀ t ∈ ts, Settled t) : Serializable w ts w' := by
  have linear : ∃ order server, Linearized w ts w' order server := by
    have both : ∀ t ∈ ts, OnlyStarts t ∧ Settled t := fun t member =>
      ⟨only t member, settled t member⟩
    refine run.history (P := fun ts v => ∃ order server, Linearized w ts v order server) both
      ⟨[], w.shared, .nil, rfl, Nat.le_refl _, .nil, ?_, ?_, ?_, ?_⟩ ?_
    · exact fun u member => absurd member List.not_mem_nil
    · exact fun u member => absurd member List.not_mem_nil
    · intro pid p bound at'
      have := (List.getElem?_eq_some_iff.mp at').1
      omega
    · exact fun pid p _ at' => idle p (List.mem_of_getElem? at')
    · rintro ts v a v' - - ⟨order, server, linear⟩ ⟨only, settled⟩ taken
      exact linear.next taken only settled
  obtain ⟨order, server, linear⟩ := linear
  refine ⟨order, server, linear.run, linear.db, ?_, ?_⟩
  · rw [List.perm_ext_iff_of_nodup linear.nodup List.nodup_range']
    intro pid
    rw [List.mem_map, List.mem_range'_1]
    have size := linear.size
    constructor
    · rintro ⟨u, member, rfl⟩
      obtain ⟨bound, p, at', -⟩ := linear.ended u member
      have := (List.getElem?_eq_some_iff.mp at').1
      omega
    · rintro ⟨bound, above⟩
      have at' : w'.procs[pid]? = some w'.procs[pid] := List.getElem?_eq_getElem (by omega)
      rcases linear.standing pid _ bound at' with settled | standing
      · exact settled
      · have answered := done _ (List.mem_of_getElem? at')
        generalize w'.procs[pid] = p at standing answered
        cases p <;> cases answered
        exact standing.elim
  · intro u member
    obtain ⟨issued, read, drew⟩ := linear.fits u member
    refine ⟨issued, read, drew, ?_⟩
    obtain ⟨-, p, at', ends⟩ := linear.ended u member
    have answered := done p (List.mem_of_getElem? at')
    cases p <;> cases answered
    rw [at', ends]

instance : DecidablePred OnlyStarts
  | ⟨_, .request (.start _ _), _⟩ | ⟨_, .pass _, _⟩ | ⟨_, .drop _, _⟩ => .isTrue trivial
  | ⟨_, .turn _ c, _⟩ => inferInstanceAs (Decidable (¬c.fault = true))
  | ⟨_, .request (.create _ _), _⟩ | ⟨_, .request (.cancel _ _), _⟩ | ⟨_, .request .expire, _⟩
  | ⟨_, .request (.complete _ _ _), _⟩ | ⟨_, .request (.checkIn _ _), _⟩
  | ⟨_, .request (.join _ _), _⟩ | ⟨_, .request (.admitUsers _ _ _), _⟩
  | ⟨_, .crash _, _⟩ => .isFalse fun never => never

instance {db : Db} : Decidable (p.Settled c db) := by
  unfold Proc.Settled
  split
  · infer_instance
  · infer_instance

instance : DecidablePred Settled
  | ⟨w, .turn pid c, _⟩ => inferInstanceAs (Decidable (∀ p ∈ w.procs[pid]?, p.Settled c w.db))
  | ⟨_, .request _, _⟩ | ⟨_, .crash _, _⟩ | ⟨_, .pass _, _⟩ | ⟨_, .drop _, _⟩ => .isTrue trivial

/-- One request sent twice; both copies find the key unused. -/
def doubled : List Action :=
  [.request (.start customer ⟨flatText '1', List.replicate 8 'k'⟩),
    .request (.start customer ⟨flatText '1', List.replicate 8 'k'⟩),
    .turn 1 {}, .turn 2 {}, .turn 1 {}, .turn 2 {}, .turn 1 { ids := [flat 3] },
    .turn 2 { ids := [flat 5] }, .turn 1 {}, .turn 2 {}]

theorem doubled_enabled : (exec (step sampleConfig) (replayed reserve reserve_enabled)
    doubled).isSome = true := by
  decide +kernel

theorem starts_serializable_doubled : Serializable (replayed reserve reserve_enabled)
    (transitions (step sampleConfig) (replayed reserve reserve_enabled) doubled)
    (replay (step sampleConfig) (replayed reserve reserve_enabled) doubled doubled_enabled) :=
  starts_serializable (run_replay doubled_enabled) (by decide +kernel) (by decide +kernel)
    (by decide +kernel) (by decide +kernel)

/-! ## One key for two reservations -/

/-- What a start reads off a choice is the clock and the ids. -/
theorem turn_congr {c' : Choice} {state : Start} (now : c.now = c'.now) (ids : c.ids = c'.ids) :
    state.turn c server = state.turn c' server := by
  cases state <;> simp only [Start.turn, now, ids]

theorem alone_congr {c' : Choice} (now : c.now = c'.now) (ids : c.ids = c'.ids) {fuel : Nat}
    {state : Start} : state.alone c fuel server = state.alone c' fuel server := by
  induction fuel generalizing server state with
  | zero => rfl
  | succ fuel ih => simp only [Start.alone, turn_congr now ids, ih]

/-- Both reservations paid under one key, which neither start finds in use. -/
def crossed : List Action :=
  [.request (.start customer ⟨flatText '1', List.replicate 8 'k'⟩),
    .request (.start customer ⟨flatText '6', List.replicate 8 'k'⟩),
    .turn 2 {}, .turn 3 {}, .turn 2 {}, .turn 3 {}, .turn 2 { ids := [flat 3] },
    .turn 3 { ids := [flat 5] }, .turn 2 {}, .turn 3 {}]

theorem crossed_enabled : (exec (step sampleConfig) (replayed reserveBoth reserveBoth_enabled)
    crossed).isSome = true := by
  decide +kernel

abbrev crossedWorld : World := replayed reserveBoth reserveBoth_enabled

abbrev crossedRun : List (Transition World Action) :=
  transitions (step sampleConfig) crossedWorld crossed

abbrev crossedEnd : World := replay (step sampleConfig) crossedWorld crossed crossed_enabled

/-- Both requests, as they come in. -/
theorem crossed_sizes : ∀ t ∈ crossedRun, ∀ text ∈ [flatText '1', flatText '6'],
    t.action = .request (.start customer ⟨text, List.replicate 8 'k'⟩) →
      t.source.procs.length = if text = flatText '1' then 2 else 3 := by
  decide +kernel

/-- All clocks of the run read zero, and each start draws one id. -/
theorem crossed_turn {pid : Nat} {c : Choice} (taken : Action.turn pid c ∈ crossed) :
    c.now = 0 ∧ c.ids ∈ [[], [if pid = 2 then flat 3 else flat 5]] := by
  simp only [crossed, List.mem_cons, List.not_mem_nil, Action.turn.injEq, reduceCtorEq, false_or,
    or_false] at taken
  rcases taken with ⟨rfl, rfl⟩ | ⟨rfl, rfl⟩ | ⟨rfl, rfl⟩ | ⟨rfl, rfl⟩ | ⟨rfl, rfl⟩ | ⟨rfl, rfl⟩ |
    ⟨rfl, rfl⟩ | ⟨rfl, rfl⟩ <;> simp

/-- What the run says of an attempt, up to what no start reads. -/
theorem crossed_attempt {attempt : Attempt} (of : attempt.Of crossedRun crossedEnd) :
    ∃ text drawn, (attempt.pid, text, drawn) ∈ [(2, flatText '1', flat 3), (3, flatText '6', flat 5)] ∧
      ∃ ids ∈ [[], [drawn]], ∀ server, serve server attempt = serve server
        ⟨attempt.pid, customer, ⟨text, List.replicate 8 'k'⟩, { ids }, attempt.response⟩ := by
  obtain ⟨pid, user, body, choice, response⟩ := attempt
  obtain ⟨⟨t, asked, asks, size⟩, ⟨t', reading, c, turn, now⟩, ⟨t'', drawing, c', turn', ids⟩, -⟩ := of
  dsimp only at asks size now ids turn turn' ⊢
  have among {t : Transition World Action} (member : t ∈ crossedRun) : t.action ∈ crossed := by
    rw [← actions_of_exec (Option.some_get crossed_enabled).symm]
    exact List.mem_map_of_mem member
  have early : choice.now = 0 := now ▸ (crossed_turn (turn ▸ among reading)).1
  have drew : choice.ids ∈ [[], [if pid = 2 then flat 3 else flat 5]] :=
    ids ▸ (crossed_turn (turn' ▸ among drawing)).2
  have same (server : Server) : serve server ⟨pid, user, body, choice, response⟩ =
      serve server ⟨pid, user, body, { ids := choice.ids }, response⟩ := by
    have drawn : choice.ids = ({ ids := choice.ids } : Choice).ids := rfl
    have reads {fuel : Nat} {state : Start} : state.alone choice fuel server =
        state.alone { ids := choice.ids } fuel server := alone_congr early drawn
    simp only [serve, reads]
  have issued := among asked
  rw [asks] at issued
  simp only [crossed, List.mem_cons, List.not_mem_nil, Action.request.injEq, Request.start.injEq,
    reduceCtorEq, or_false] at issued
  rcases issued with ⟨rfl, rfl⟩ | ⟨rfl, rfl⟩
  · have first : pid = 2 := size.symm.trans (crossed_sizes t asked _ (by simp) asks)
    subst first
    exact ⟨_, _, List.mem_cons_self, _, drew, same⟩
  · have second : pid = 3 := size.symm.trans (crossed_sizes t asked _ (by simp) asks)
    subst second
    exact ⟨_, _, List.mem_cons_of_mem _ List.mem_cons_self, _, drew, same⟩

/-- The row the first request inserts. -/
def crossedPayment : Payment :=
  newPayment (flat 3) ⟨flatText '1', List.replicate 8 'k'⟩ (sampleReservation .pending)

/-- The key ends up on the first request's payment, and the second one is told that
its reservation has none. -/
theorem crossed_answers :
    crossedEnd.procs[2]? = some (.done (.payment crossedPayment)) ∧
      crossedEnd.procs[3]? = some (.done (.error .entityNotFound)) := by
  decide +kernel

/-- Alone, the second request is not answered so, neither before the first … -/
theorem crossed_earlier : ∀ ids ∈ [[], [flat 5]], serve crossedWorld.shared
    ⟨3, customer, ⟨flatText '6', List.replicate 8 'k'⟩, { ids }, .error .entityNotFound⟩ =
      none := by
  simp only [← Option.isNone_iff_eq_none]
  decide +kernel

/-- … nor after it. -/
theorem crossed_later : ∀ ids ∈ [[], [flat 3]], ∀ ids' ∈ [[], [flat 5]], ((serve crossedWorld.shared
    ⟨2, customer, ⟨flatText '1', List.replicate 8 'k'⟩, { ids }, .payment crossedPayment⟩).bind
      (serve · ⟨3, customer, ⟨flatText '6', List.replicate 8 'k'⟩, { ids := ids' },
        .error .entityNotFound⟩)) = none := by
  simp only [← Option.isNone_iff_eq_none]
  decide +kernel

theorem start_not_serializable : ¬ ∀ (cfg : Config) (w : World) (ts : List (Transition World Action))
    (w' : World), Run (step cfg) w ts w' → (∀ p ∈ w.procs, p.answered = true) →
      (∀ t ∈ ts, OnlyStarts t) → (∀ p ∈ w'.procs, p.answered = true) → Serializable w ts w' := by
  intro every
  have serializable := every sampleConfig crossedWorld crossedRun crossedEnd
    (run_replay crossed_enabled) (by decide +kernel) (by decide +kernel) (by decide +kernel)
  obtain ⟨us, server, run, -, perm, each⟩ := serializable
  have two : crossedEnd.procs.length - crossedWorld.procs.length = 2 := by decide +kernel
  have size : crossedWorld.procs.length = 2 := by decide +kernel
  rw [two, size] at perm
  obtain ⟨u, u', rfl⟩ := List.length_eq_two.mp ((List.length_map _).symm.trans perm.length_eq)
  rw [← List.singleton_append] at run
  obtain ⟨middle, first, last⟩ := run.of_append
  obtain ⟨source, served, target⟩ := first.of_single
  obtain ⟨source', served', -⟩ := last.of_single
  rw [source, target] at served
  rw [source'] at served'
  have of := each u List.mem_cons_self
  have of' := each u' (List.mem_cons_of_mem _ List.mem_cons_self)
  obtain ⟨text, drawn, named, ids, read, same⟩ := crossed_attempt of
  obtain ⟨text', drawn', named', ids', read', same'⟩ := crossed_attempt of'
  have answered := of.answered
  have answered' := of'.answered
  rw [same] at served
  rw [same'] at served'
  have both : 2 ∈ [u, u'].map (·.action.pid) ∧ 3 ∈ [u, u'].map (·.action.pid) := by
    rw [perm.mem_iff, perm.mem_iff]
    decide
  simp only [List.map_cons, List.map_nil, List.mem_cons, List.not_mem_nil, or_false,
    Prod.mk.injEq] at both named named'
  rcases named with ⟨pid, rfl, rfl⟩ | ⟨pid, rfl, rfl⟩
  · rcases named' with ⟨pid', rfl, rfl⟩ | ⟨pid', rfl, rfl⟩
    · omega
    · rw [pid, crossed_answers.1, Option.some.injEq, Proc.done.injEq] at answered
      rw [pid', crossed_answers.2, Option.some.injEq, Proc.done.injEq] at answered'
      have refused := crossed_later ids read ids' read'
      rw [answered, ← pid, served, Option.bind_some, answered', ← pid', served'] at refused
      cases refused
  · rw [pid, crossed_answers.2, Option.some.injEq, Proc.done.injEq] at answered
    have refused := crossed_earlier ids read
    rw [answered, ← pid, served] at refused
    cases refused

end KiTicket
