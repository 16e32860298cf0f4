import KiTicket.Frames
import KiTicket.Outcomes

/-! Completing a payment. However many complete calls race on it, one commits;
its side effects follow that commit, once; and every later call finds what the
first one left and reports it. -/
namespace KiTicket
open Runs Reservations Payments

variable {cfg : Config} {catalog : Catalog} {spelled : Text → Prop} {w w' : World} {a : Action}
  {c : Choice} {held : List RowLock} {server server' : Server}
  {ts us : List (Transition World Action)} {id : Uuid}

/-- The payment of this id. -/
def Db.payment (db : Db) (id : Uuid) : Option Payment :=
  db.payments.rows.find? (·.id = id)

theorem payment_eq_some {db : Db} {p : Payment} :
    db.payment id = some p ↔ p.id = id ∧ (db.booking p.reservationId).payment = some p := by
  rw [booking_payment_eq_some]
  constructor
  · intro found
    exact ⟨by simpa using List.find?_some found, List.mem_of_find?_eq_some found, rfl⟩
  · rintro ⟨rfl, member, -⟩
    apply Table.find?_eq_some_of_mem member (by simp)
    intro a b ha hb
    simp_all [clash]

/-- A step that completes the payment: before it the payment is PENDING. -/
def completes (id : Uuid) (t : Transition World Action) : Bool :=
  (t.source.db.payment id).any (·.state = .pending) &&
    (t.target.db.payment id).any (·.state ≠ .pending)

/-- A call that has committed and not yet released the locks and told anybody. -/
def Proc.announces (id : Uuid) : Proc → Nat
  | .complete (.release result) => if result.payment.id = id then 1 else 0
  | _ => 0

/-- The turn of a complete call that releases the seats' locks and emits and
publishes the outcome. -/
def announces (id : Uuid) (t : Transition World Action) : Bool :=
  match t.action with
  | .turn pid _ => (t.source.procs[pid]?).any fun p => p.announces id = 1
  | _ => false

/-! ## One turn of a complete call -/

/-- A turn of a complete call reads, fails, commits, or announces what it has
committed; only announcing touches the locks and the log. -/
theorem complete_cases {state : Complete} {p' : Proc} (sound : state.Sound server.db.booking)
    (turn : (Proc.complete state).turn cfg c held server = some (server', p')) :
    (server' = server ∧ ∀ id, (Proc.complete state).announces id = 0 ∧ p'.announces id = 0) ∨
    (∃ body p r seats db result, state = .commit body p r seats ∧ server' = { server with db } ∧
      p' = .complete (.release result) ∧ result.payment.id = p.id ∧ result.payment.state ≠ .pending ∧
      (db.booking r.id).payment = some result.payment) ∨
    ∃ result, state = .release result ∧ server'.db = server.db ∧
      p' = .done (.completed result.payment result.reservation result.tickets) := by
  simp only [Proc.turn, turnOf_eq_some] at turn
  obtain ⟨next, turn, rfl⟩ := turn
  have quiet (none : ∀ id, (Proc.complete state).announces id = 0) (same : server' = server)
      (after : ∀ id, (next.proc .complete).announces id = 0) : server' = server ∧
        ∀ id, (Proc.complete state).announces id = 0 ∧ (next.proc .complete).announces id = 0 :=
    ⟨same, fun id => ⟨none id, after id⟩⟩
  split at turn
  · cases state <;> simp only [Complete.fault] at turn
    case release result =>
      cases turn
      exact .inr (.inr ⟨result, rfl, rfl, rfl⟩)
    all_goals
      cases turn
      exact .inl (quiet (fun _ => rfl) rfl fun _ => rfl)
  · cases state
    case release result =>
      cases turn
      exact .inr (.inr ⟨result, rfl, rfl, rfl⟩)
    case commit body p r seats =>
      obtain ⟨paid, stored, loaded, opened⟩ := sound
      rcases commit_cases paid stored loaded opened turn with
        ⟨failure, rfl, rfl⟩ | ⟨db, result, rfl, rfl, step, -, paid', same⟩
      · exact .inl (quiet (fun _ => rfl) rfl fun _ => rfl)
      · obtain ⟨q, stored', ended⟩ := step.payment_ended
        rw [paid', Option.some.injEq] at stored'
        subst stored'
        exact .inr (.inl ⟨body, p, r, seats, db, result, rfl, rfl, rfl, same, ended, paid'⟩)
    all_goals
      left
      simp only [Complete.turn] at turn
      (repeat' split at turn) <;> cases turn <;> exact quiet (fun _ => rfl) rfl fun _ => rfl

/-! ## Once -/

/-- A completed payment freezes its whole booking. -/
theorem closed_step {p : Payment} (coherent : (w.db.booking id).Coherent)
    (stepped : Stepped spelled w a w') (paid : (w.db.booking id).payment = some p)
    (ended : p.state ≠ .pending) : w'.db.booking id = w.db.booking id := by
  rcases stepped.booking id with same | ⟨m, -, step⟩
  · exact same
  · exact absurd step (coherent.closed paid ended)

theorem completes_iff {t : Transition World Action} : completes id t = true ↔
    (∃ p, t.source.db.payment id = some p ∧ p.state = .pending) ∧
      ∃ p, t.target.db.payment id = some p ∧ p.state ≠ .pending := by
  simp [completes, Option.any_eq_true]

theorem completes_once (run : Run (step cfg) (initial catalog) ts w) :
    ts.countP (completes id) ≤ 1 := by
  refine run.count_le_one
    (P := fun w => World.Sound (fun _ => True) w ∧ ∀ id, (w.db.booking id).Coherent)
    (Q := fun w => ∃ p, w.db.payment id = some p ∧ p.state ≠ .pending)
    (completes id) within_any ⟨sound_initial, fun _ => Booking.coherent_nothing⟩ ?_ ?_ ?_
  · rintro w a w' ⟨sound, coherent⟩ - taken
    exact sound.coherent_next coherent taken
  · rintro w a w' ⟨sound, coherent⟩ allowed taken ⟨p, found, ended⟩
    obtain ⟨named, paid⟩ := payment_eq_some.mp found
    have same := closed_step (coherent _) (sound.next allowed taken).2 paid ended
    exact ⟨p, payment_eq_some.mpr ⟨named, by rw [same, paid]⟩, ended⟩
  · rintro w a w' - - - commits
    obtain ⟨⟨p, before, opened⟩, after⟩ := completes_iff.mp commits
    refine ⟨?_, after⟩
    rintro ⟨q, before', ended⟩
    rw [before, Option.some.injEq] at before'
    exact ended (before' ▸ opened)

/-- No other request announces an outcome. -/
private theorem announces_of_other {p p' : Proc} (other : ∀ state, p ≠ .complete state)
    (turn : p.turn cfg c held server = some (server', p')) : p'.announces id = 0 := by
  cases p <;> simp only [Proc.turn, turnOf_eq_some] at turn
  case complete state => exact absurd rfl (other state)
  case done => cases turn
  all_goals
    obtain ⟨next, -, rfl⟩ := turn
    cases next <;> rfl

private theorem toNat_announces {pid : Nat} {p : Proc} (serving : w.procs[pid]? = some p) :
    (announces id ⟨w, .turn pid c, w'⟩).toNat = p.announces id := by
  simp only [announces, serving, Option.any_some]
  unfold Proc.announces
  split
  · split <;> rfl
  · rfl

/-- Only a call that has committed announces, and it announces once. -/
theorem announces_step (sound : World.Sound spelled w) (taken : step cfg w a = some w') :
    (announces id ⟨w, a, w'⟩).toNat + (w'.procs.map (Proc.announces id)).sum ≤
      (w.procs.map (Proc.announces id)).sum + (completes id ⟨w, a, w'⟩).toNat := by
  cases step_cases taken
  case request r accepted =>
    have none : r.proc.announces id = 0 := by cases r <;> rfl
    simp [announces, none]
  case turn pid c p p' serving procs turn =>
    have sums := @Pool.sum_map_set _ w.procs pid p p' (Proc.announces id) serving
    rw [← procs] at sums
    rw [toNat_announces serving]
    have commits : p'.announces id ≤ (completes id ⟨w, .turn pid c, w'⟩).toNat := by
      by_cases completing : ∃ state, p = .complete state
      case neg =>
        rw [announces_of_other (fun state same => completing ⟨state, same⟩) turn]
        exact Nat.zero_le _
      obtain ⟨state, rfl⟩ := completing
      have sound := sound.sound _ (List.mem_of_getElem? serving)
      rcases complete_cases sound turn with
        ⟨-, quiet⟩ | ⟨body, p, r, seats, db, result, rfl, same, rfl, named, ended, paid⟩ |
        ⟨result, -, -, rfl⟩
      · rw [(quiet id).2]
        exact Nat.zero_le _
      · by_cases mine : result.payment.id = id
        case neg => simp [Proc.announces, mine]
        obtain ⟨paid₀, -, -, opened⟩ := sound
        have of := (booking_payment_eq_some.mp paid₀).2
        have of' := (booking_payment_eq_some.mp paid).2
        have before : w.db.payment id = some p :=
          payment_eq_some.mpr ⟨named.symm.trans mine, of.symm ▸ paid₀⟩
        have written : w'.db = db := congrArg Server.db same
        have after : w'.db.payment id = some result.payment :=
          payment_eq_some.mpr ⟨mine, by rw [of', written]; exact paid⟩
        have once : completes id ⟨w, .turn pid c, w'⟩ = true :=
          completes_iff.mpr ⟨⟨p, before, opened⟩, _, after, ended⟩
        simp [Proc.announces, mine, once]
      · exact Nat.zero_le _
    omega
  case crash pid p serving =>
    have sums := @Pool.sum_map_set _ w.procs pid p (.done (.error .crash)) (Proc.announces id) serving
    have none : (Proc.done (.error .crash)).announces id = 0 := rfl
    simp only [announces, Bool.toNat_false]
    omega
  case pass elapsed =>
    simp [announces]
  case drop key =>
    simp [announces]

theorem announces_le_completes (run : Run (step cfg) (initial catalog) ts w) :
    ts.countP (announces id) ≤ ts.countP (completes id) := by
  have counted : World.Sound (fun _ => True) w ∧
      ts.countP (announces id) + (w.procs.map (Proc.announces id)).sum ≤ ts.countP (completes id) := by
    refine run.history (P := fun ts w => World.Sound (fun _ => True) w ∧
      ts.countP (announces id) + (w.procs.map (Proc.announces id)).sum ≤ ts.countP (completes id))
      within_any ⟨sound_initial, Nat.le_refl 0⟩ ?_
    rintro ts w a w' - - ⟨sound, most⟩ allowed taken
    refine ⟨(sound.next allowed taken).1, ?_⟩
    have last := @announces_step _ _ _ _ _ id sound taken
    have one (changes : Transition World Action → Bool) (t : Transition World Action) :
        (ts ++ [t]).countP changes = ts.countP changes + (changes t).toNat := by
      rw [List.countP_append, List.countP_singleton]
      cases changes t <;> rfl
    rw [one, one]
    omega
  omega

/-! ## Afterwards -/

theorem closed_of_run {p : Payment} (first : Run (step cfg) (initial catalog) ts w)
    (rest : Run (step cfg) w us w') (paid : (w.db.booking id).payment = some p)
    (ended : p.state ≠ .pending) : w'.db.booking id = w.db.booking id :=
  (sound_of_run first within_any).booking (P := (· = w.db.booking id)) rest within_any rfl
    fun _ _ _ _ same step => absurd (same ▸ step) ((coherent_of_run first).closed paid ended)

/-- Where a complete call stands that came after the payment was completed. -/
def Follows (p : Payment) (r : Reservation) (issued : List Ticket) : Proc → Prop
  | .complete (.findPayment user path _) => uuid? path = some p.id ∧ user.sub = r.userId
  | .complete (.findReservation user _ found) => found = p ∧ user.sub = r.userId
  | .complete (.findSeats _ found of) | .complete (.findTickets found of) => found = p ∧ of = r
  | .done (.completed found of tickets) => found = p ∧ of = r ∧ tickets.map Ticket.issued = issued
  | .done (.error failure) => failure = .fault ∨ failure = .crash
  | _ => False

/-- Its turns change nothing at all and lead to the answer the first call got. -/
theorem Follows.turn {p : Payment} {r : Reservation} {q q' : Proc}
    (follows : Follows p r (server.db.booking r.id).tickets q)
    (paid : (server.db.booking r.id).payment = some p)
    (stored : (server.db.booking r.id).reservation = some r) (ended : p.state ≠ .pending)
    (turn : q.turn cfg c held server = some (server', q')) :
    server' = server ∧ Follows p r (server.db.booking r.id).tickets q' := by
  obtain ⟨member, of⟩ := booking_payment_eq_some.mp paid
  cases q
  case complete state =>
    simp only [Proc.turn, turnOf_eq_some] at turn
    obtain ⟨next, turn, rfl⟩ := turn
    split at turn
    · cases state <;> simp only [Complete.fault] at turn
      case release => cases follows
      all_goals
        cases turn
        exact ⟨rfl, .inl rfl⟩
    · cases state <;> simp only [Complete.turn] at turn
      case findPayment user path body =>
        obtain ⟨named, owner⟩ := follows
        have found : server.db.payments.rows.find? (·.id = p.id) = some p :=
          payment_eq_some.mpr ⟨rfl, of.symm ▸ paid⟩
        simp only [named, found] at turn
        split at turn <;> cases turn
        exact ⟨rfl, rfl, owner⟩
      case findReservation user body found =>
        obtain ⟨rfl, owner⟩ := follows
        have found : findReservation server.db found.reservationId = some r := by rw [of]; exact stored
        simp only [found] at turn
        split at turn
        · cases turn
        · simp only [owner, ne_eq, not_true_eq_false, if_false] at turn
          cases turn
          exact ⟨rfl, rfl, rfl⟩
      case findSeats body found of =>
        obtain ⟨rfl, rfl⟩ := follows
        rw [if_pos ended] at turn
        cases turn
        exact ⟨rfl, rfl, rfl⟩
      case findTickets found of =>
        obtain ⟨rfl, rfl⟩ := follows
        cases turn
        exact ⟨rfl, rfl, rfl, rfl⟩
      case commit => cases follows
      case release => cases follows
  case done => cases turn
  all_goals cases follows

section Later
variable {p : Payment} {r : Reservation} {pid : Nat} {user : AuthenticatedUser} {path : Text}
  {body : CompletePaymentDto}

theorem follows_step {b : Booking} {q : Proc} (sound : World.Sound spelled w)
    (allowed : a.Spelled spelled) (coherent : b.Coherent) (paid : b.payment = some p)
    (stored : b.reservation = some r) (ended : p.state ≠ .pending)
    (taken : step cfg w a = some w') (still : w.db.booking r.id = b)
    (serving : w.procs[pid]? = some q) (follows : Follows p r b.tickets q) :
    w'.db.booking r.id = b ∧ (∃ q', w'.procs[pid]? = some q' ∧ Follows p r b.tickets q') ∧
      ∀ c, a = .turn pid c → w'.shared = w.shared := by
  subst still
  refine ⟨closed_step coherent (sound.next allowed taken).2 paid ended, ?_⟩
  rcases proc_cases taken serving with ⟨same, other⟩ | ⟨rfl, crashed⟩ | ⟨c, q', rfl, served, turn⟩
  · exact ⟨⟨q, same, follows⟩, fun c mine => absurd mine (other c)⟩
  · exact ⟨⟨_, crashed, .inr rfl⟩, fun c mine => by cases mine⟩
  · obtain ⟨unchanged, follows'⟩ := follows.turn paid stored ended turn
    exact ⟨⟨q', served, follows'⟩, fun _ _ => unchanged⟩

/-- Every later call by the owner is answered, if it is answered, as the first
one was, and none of its turns changes anything. -/
theorem later_call (first : Run (step cfg) (initial catalog) ts w) (rest : Run (step cfg) w us w')
    (paid : (w.db.booking r.id).payment = some p)
    (stored : (w.db.booking r.id).reservation = some r) (ended : p.state ≠ .pending)
    (named : uuid? path = some p.id) (owner : user.sub = r.userId)
    (serving : w.procs[pid]? = some (.complete (.findPayment user path body))) :
    (∃ q, w'.procs[pid]? = some q ∧ Follows p r (w.db.booking r.id).tickets q) ∧
      ∀ t ∈ us, ∀ c, t.action = .turn pid c → t.target.shared = t.source.shared := by
  have coherent : (w.db.booking r.id).Coherent := coherent_of_run first
  have keeps : ∀ v a v', (World.Sound (fun _ => True) v ∧ v.db.booking r.id = w.db.booking r.id ∧
      ∃ q, v.procs[pid]? = some q ∧ Follows p r (w.db.booking r.id).tickets q) → step cfg v a = some v' →
      (World.Sound (fun _ => True) v' ∧ v'.db.booking r.id = w.db.booking r.id ∧
        ∃ q, v'.procs[pid]? = some q ∧ Follows p r (w.db.booking r.id).tickets q) ∧
      ∀ c, a = .turn pid c → v'.shared = v.shared := by
    rintro v a v' ⟨sound, still, q, serving, follows⟩ taken
    obtain ⟨same, follows', quiet⟩ :=
      follows_step sound spelled_any coherent paid stored ended taken still serving follows
    exact ⟨⟨(sound.next spelled_any taken).1, same, follows'⟩, quiet⟩
  have start : World.Sound (fun _ => True) w ∧ w.db.booking r.id = w.db.booking r.id ∧
      ∃ q, w.procs[pid]? = some q ∧ Follows p r (w.db.booking r.id).tickets q :=
    ⟨sound_of_run first within_any, rfl, _, serving, named, owner⟩
  refine ⟨?_, ?_⟩
  · exact (rest.invariant (within_any : Within (Action.Spelled fun _ => True) us) start
      fun v a v' good _ taken => (keeps v a v' good taken).1).2.2
  · exact rest.forall_transitions (within_any : Within (Action.Spelled fun _ => True) us) start
      (fun v a v' good _ taken => (keeps v a v' good taken).1)
      fun v a v' good _ taken => (keeps v a v' good taken).2

theorem step_of_turn {q q' : Proc} (serving : w.procs[pid]? = some q)
    (turn : q.turn cfg c ((w.others pid).flatMap Proc.held) w.shared = some (server', q')) :
    step cfg w (.turn pid c) = some ⟨server', w.procs.set pid q'⟩ := by
  simp [step, serving, turn]

/-- A turn that only moves its process on. -/
theorem step_of_stay {q q' : Proc} (bound : pid < w.procs.length)
    (turn : q.turn cfg c ((w.others pid).flatMap Proc.held) w.shared = some (w.shared, q')) :
    step cfg { w with procs := w.procs.set pid q } (.turn pid c) =
      some { w with procs := w.procs.set pid q' } := by
  have others : Pool.others { w with procs := w.procs.set pid q } pid = w.others pid :=
    List.eraseIdx_set_eq
  have taken := @step_of_turn cfg { w with procs := w.procs.set pid q } c w.shared pid q q'
    (List.getElem?_set_self bound) (by rw [others]; exact turn)
  rw [taken, List.set_set]

/-- And it is answered once it is let run: four turns, none of which waits when no
other transaction holds the two rows. -/
theorem later_call_answered (paid : (w.db.booking r.id).payment = some p)
    (stored : (w.db.booking r.id).reservation = some r) (ended : p.state ≠ .pending)
    (named : uuid? path = some p.id) (owner : user.sub = r.userId)
    (serving : w.procs[pid]? = some (.complete (.findPayment user path body)))
    (free : .payment p.id ∉ (w.others pid).flatMap Proc.held)
    (free' : .reservation r.id ∉ (w.others pid).flatMap Proc.held) :
    exec (step cfg) w [.turn pid {}, .turn pid {}, .turn pid {}, .turn pid {}] =
      some { w with procs := w.procs.set pid (.done (.completed p r (w.db.ticketsOf r))) } := by
  have bound := (List.getElem?_eq_some_iff.mp serving).1
  have of := (booking_payment_eq_some.mp paid).2
  have found : w.db.payments.rows.find? (·.id = p.id) = some p :=
    payment_eq_some.mpr ⟨rfl, of.symm ▸ paid⟩
  have found' : findReservation w.db p.reservationId = some r := by
    rw [of]
    exact stored
  have advance {q q' : Proc}
      (turn : q.turn cfg {} ((w.others pid).flatMap Proc.held) w.shared = some (w.shared, q')) :
      step cfg { w with procs := w.procs.set pid q } (.turn pid {}) =
        some { w with procs := w.procs.set pid q' } := step_of_stay bound turn
  have located : w.procs.set pid (.complete (.findPayment user path body)) = w.procs := by
    obtain ⟨_, here⟩ := List.getElem?_eq_some_iff.mp serving
    rw [← here, List.set_getElem_self]
  have finds : (Proc.complete (.findPayment user path body)).turn cfg {}
      ((w.others pid).flatMap Proc.held) w.shared =
        some (w.shared, .complete (.findReservation user body p)) := by
    simp [Proc.turn, turnOf, Complete.turn, named, found, free, Server.stay, Next.proc]
  have locks : (Proc.complete (.findReservation user body p)).turn cfg {}
      ((w.others pid).flatMap Proc.held) w.shared =
        some (w.shared, .complete (.findSeats body p r)) := by
    simp [Proc.turn, turnOf, Complete.turn, found', free', owner, Server.stay, Next.proc]
  have sees : (Proc.complete (.findSeats body p r)).turn cfg {}
      ((w.others pid).flatMap Proc.held) w.shared =
        some (w.shared, .complete (.findTickets p r)) := by
    simp [Proc.turn, turnOf, Complete.turn, ended, Server.stay, Next.proc]
  have answers : (Proc.complete (.findTickets p r)).turn cfg {}
      ((w.others pid).flatMap Proc.held) w.shared =
        some (w.shared, .done (.completed p r (w.db.ticketsOf r))) := rfl
  have start := advance finds
  rw [located] at start
  simp only [exec, start, advance locks, advance sees, advance answers, Option.bind_some]

end Later

/-- What a call that finds the payment completed answers: the payment, the
reservation and the tickets as they are, unless a call to the database failed or
the process died. -/
def Reports (p : Payment) (r : Reservation) (issued : List Ticket) (response : Response) : Prop :=
  (∃ tickets, response = .completed p r tickets ∧ tickets.map Ticket.issued = issued) ∨
    response = .error .fault ∨ response = .error .crash

private theorem reports_of_follows {p : Payment} {r : Reservation} {issued : List Ticket}
    {response : Response} (follows : Follows p r issued (.done response)) :
    Reports p r issued response := by
  cases response
  case completed found of tickets =>
    obtain ⟨rfl, rfl, same⟩ := follows
    exact .inl ⟨tickets, rfl, same⟩
  case error failure => exact .inr (by rcases follows with rfl | rfl <;> simp)
  all_goals cases follows

theorem quiet_of_complete {t : Transition World Action} {pid : Nat} {state : Complete}
    (sound : World.Sound spelled t.source) (taken : step cfg t.source t.action = some t.target)
    (turn : t.action = .turn pid c) (serving : t.source.procs[pid]? = some (.complete state))
    (other : ∀ result, state ≠ .release result) :
    t.target.shared.locks = t.source.shared.locks ∧ t.target.shared.log = t.source.shared.log := by
  rw [turn] at taken
  obtain ⟨q, q', serving', went, -⟩ := step_turn taken
  rw [serving, Option.some.injEq] at serving'
  subst serving'
  rcases complete_cases (sound.sound _ (List.mem_of_getElem? serving)) went with
    ⟨same, -⟩ | ⟨_, _, _, _, db, _, -, same, -⟩ | ⟨result, released, -⟩
  · rw [same]
    exact ⟨rfl, rfl⟩
  · rw [same]
    exact ⟨rfl, rfl⟩
  · exact absurd released (other result)

/-- Completion is exactly-once. Over a whole run a payment is completed by at most
one step and announced by at most one, and a turn of a complete call that does
not announce leaves locks and log alone. From a state in which the payment has
ended, payment, reservation and issued tickets stay as they are, and a call by
the owner that looks the payment up from then on changes nothing, answers with
just these, and is answered in four turns when nobody holds its rows. -/
theorem completion_exactly_once (first : Run (step cfg) (initial catalog) ts w)
    (rest : Run (step cfg) w us w') :
    (∀ id, (ts ++ us).countP (completes id) ≤ 1 ∧
      (ts ++ us).countP (announces id) ≤ (ts ++ us).countP (completes id)) ∧
    (∀ t ∈ ts ++ us, ∀ pid c state, t.action = .turn pid c →
      t.source.procs[pid]? = some (.complete state) → (∀ result, state ≠ .release result) →
      t.target.shared.locks = t.source.shared.locks ∧ t.target.shared.log = t.source.shared.log) ∧
    ∀ p ∈ w.db.payments.rows, p.state ≠ .pending →
      (∃ r ∈ w.db.reservations.rows, r.id = p.reservationId) ∧
      ∀ r ∈ w.db.reservations.rows, r.id = p.reservationId →
        p ∈ w'.db.payments.rows ∧ r ∈ w'.db.reservations.rows ∧
        (w'.db.ticketsOf r).map Ticket.issued = (w.db.ticketsOf r).map Ticket.issued ∧
        ∀ pid user path body, w.procs[pid]? = some (.complete (.findPayment user path body)) →
          uuid? path = some p.id → user.sub = r.userId →
          (∀ response, w'.procs[pid]? = some (.done response) →
            Reports p r ((w.db.ticketsOf r).map Ticket.issued) response) ∧
          (∀ t ∈ us, ∀ c, t.action = .turn pid c → t.target.shared = t.source.shared) ∧
          (.payment p.id ∉ (w.others pid).flatMap Proc.held →
            .reservation r.id ∉ (w.others pid).flatMap Proc.held →
            exec (step cfg) w [.turn pid {}, .turn pid {}, .turn pid {}, .turn pid {}] =
              some { w with
                procs := w.procs.set pid (.done (.completed p r (w.db.ticketsOf r))) }) := by
  have whole := first.append rest
  refine ⟨fun id => ⟨completes_once whole, announces_le_completes whole⟩, ?_, ?_⟩
  · intro t member pid c state turn serving other
    obtain ⟨before, -, reaches, taken⟩ := whole.reaches member
    exact quiet_of_complete (sound_of_run reaches within_any) taken turn serving other
  · intro p stored ended
    have paid : (w.db.booking p.reservationId).payment = some p :=
      booking_payment_eq_some.mpr ⟨stored, rfl⟩
    have same := closed_of_run first rest paid ended
    refine ⟨?_, ?_⟩
    · have coherent : (w.db.booking p.reservationId).Coherent := coherent_of_run first
      obtain ⟨r, found⟩ := coherent.exists_of_payment paid
      exact ⟨r, booking_reservation_eq_some.mp found⟩
    · intro r member of
      rw [← of] at paid same
      have found : (w.db.booking r.id).reservation = some r :=
        booking_reservation_eq_some.mpr ⟨member, rfl⟩
      refine ⟨(booking_payment_eq_some.mp (by rw [same]; exact paid)).1,
        (booking_reservation_eq_some.mp (by rw [same]; exact found)).1,
        congrArg Booking.tickets same, ?_⟩
      intro pid user path body serving named owner
      obtain ⟨⟨q, at', follows⟩, quiet⟩ := later_call first rest paid found ended named owner serving
      refine ⟨fun response done => ?_, quiet, later_call_answered paid found ended named owner serving⟩
      rw [done, Option.some.injEq] at at'
      subst at'
      exact reports_of_follows follows

/-- The owner asks again, for a failure this time, once the purchase is through. -/
def repeated : List Action :=
  purchase ++ [.request (.complete customer (flatText '3') ⟨.failure, none⟩)]

theorem repeated_enabled :
    (exec (step sampleConfig) (initial sampleCatalog) repeated).isSome = true := by
  decide +kernel

/-- The payment of the replays, once it has succeeded. -/
def samplePayment : Payment :=
  ⟨flat 3, flat 1, some (List.replicate 8 'k'), .success, samplePrice, ['I', 'R', 'R'], some ['r'],
    none⟩

theorem completion_exactly_once_repeated :
    exec (step sampleConfig) (replayed repeated repeated_enabled)
      [.turn 3 {}, .turn 3 {}, .turn 3 {}, .turn 3 {}] =
    some { replayed repeated repeated_enabled with
      procs := (replayed repeated repeated_enabled).procs.set 3
        (.done (.completed samplePayment (sampleReservation .confirmed)
          ((replayed repeated repeated_enabled).db.ticketsOf (sampleReservation .confirmed)))) } :=
  ((((completion_exactly_once (run_replay repeated_enabled) .nil).2.2 samplePayment
    (by decide +kernel) nofun).2 (sampleReservation .confirmed) (by decide +kernel) rfl).2.2.2 3 customer
      (flatText '3') ⟨.failure, none⟩ (by decide +kernel) (by decide +kernel) rfl).2.2
    (by decide +kernel) (by decide +kernel)

/-! ## Payments that are still open -/

/-- A reservation leaves PENDING together with its payment when the payment is
completed; a cancel and a sweep leave the payment as it is. -/
theorem payment_of_leaving (sound : World.Sound spelled w) (allowed : a.Spelled spelled)
    (taken : step cfg w a = some w') (leaves : leavesPending id ⟨w, a, w'⟩ = true) :
    ∃ pid c q, a = .turn pid c ∧ w.procs[pid]? = some q ∧
      ((∃ state, q = .complete state) ∧
          (∃ p, (w'.db.booking id).payment = some p ∧ p.state ≠ .pending) ∨
        ((∃ state, q = .cancel state) ∨ ∃ state, q = .expire state) ∧
          (w'.db.booking id).payment = (w.db.booking id).payment) := by
  obtain ⟨before, after⟩ := of_decide_eq_true leaves
  cases (sound.next allowed taken).2
  case same unchanged =>
    rw [World.stateOf, findReservation_eq, unchanged] at after
    exact absurd before after
  case moves pid c q m moved turn serving calls performs spelling step elsewhere =>
    by_cases same : id = moved
    case neg =>
      rw [World.stateOf, findReservation_eq, elsewhere id same] at after
      exact absurd before after
    subst same
    obtain ⟨r, stored, pending⟩ := stateOf_eq_some.mp before
    have left := step.leaves_pending stored pending fun r' stored' pending' =>
      after (stateOf_eq_some.mpr ⟨r', stored', pending'⟩)
    refine ⟨pid, c, q, turn, serving, ?_⟩
    rcases left with ends | ⟨requested, expired, rfl⟩
    · refine .inr ⟨?_, step.payment_of_end ends⟩
      rcases ends with ⟨path, rfl⟩ | rfl
      · cases performs
        exact .inl ⟨_, rfl⟩
      · cases performs
        exact .inr ⟨_, rfl⟩
    · cases performs
      exact .inl ⟨⟨_, rfl⟩, step.payment_ended⟩

/-- A new payment comes from a `start` that read its reservation as PENDING. -/
theorem start_of_new {p : Payment} (sound : World.Sound spelled w) (allowed : a.Spelled spelled)
    (taken : step cfg w a = some w') (stored : p ∈ w'.db.payments.rows)
    (new : ∀ old ∈ w.db.payments.rows, old.id ≠ p.id) :
    ∃ pid c user body r, a = .turn pid c ∧ w.procs[pid]? = some (.start (.save user body r)) ∧
      r.id = p.reservationId ∧ r.state = .pending ∧
      ∀ old ∈ w.db.payments.rows, old.reservationId ≠ p.reservationId := by
  have paid : (w'.db.booking p.reservationId).payment = some p :=
    booking_payment_eq_some.mpr ⟨stored, rfl⟩
  have unknown : ∀ old, (w.db.booking p.reservationId).payment = some old → old.id ≠ p.id :=
    fun old found => new old (booking_payment_eq_some.mp found).1
  cases (sound.next allowed taken).2
  case same unchanged =>
    rw [unchanged] at paid
    exact absurd rfl (unknown p paid)
  case moves pid c q m moved turn serving calls performs spelling step elsewhere =>
    by_cases same : p.reservationId = moved
    case neg =>
      rw [elsewhere _ same] at paid
      exact absurd rfl (unknown p paid)
    rw [← same] at step
    obtain ⟨rfl, unpaid⟩ := step.payment_new paid unknown
    obtain ⟨user, body, r, rfl, rfl⟩ : ∃ user body r, q = .start (.save user body r) ∧ r.id = moved := by
      cases performs
      exact ⟨_, _, _, rfl, rfl⟩
    have read : ReadPending w.db.booking r := sound.sound _ (List.mem_of_getElem? serving)
    refine ⟨pid, c, user, body, r, turn, serving, same.symm, read.1, fun old member of => ?_⟩
    rw [booking_payment_eq_some.mpr ⟨member, of⟩] at unpaid
    cases unpaid

/-- A `start` gets to its insert only through a lookup that found the reservation
PENDING before its deadline. -/
theorem payable_of_save {pid : Nat} {user : AuthenticatedUser} {body : StartPaymentDto}
    {r : Reservation} (taken : step cfg w (.turn pid c) = some w')
    (after : w'.procs[pid]? = some (.start (.save user body r))) :
    r ∈ w.db.reservations.rows ∧ r.state = .pending ∧ c.now < r.expiresAt := by
  obtain ⟨q, q', serving, turn, procs⟩ := step_turn taken
  rw [procs, List.getElem?_set_self (List.getElem?_eq_some_iff.mp serving).1, Option.some.injEq] at after
  subst after
  generalize w'.shared = server' at turn
  cases q <;> simp only [Proc.turn, turnOf_eq_some] at turn
  case start state =>
    obtain ⟨next, turn, reached⟩ := turn
    cases next <;> cases reached
    split at turn
    · cases state <;> cases turn
    · cases state <;> simp only [Start.turn] at turn
      case findReservation user' body' =>
        split at turn
        · cases turn
        split at turn
        · cases turn
        rename_i found
        split at turn
        · cases turn
        split at turn
        · cases turn
        rename_i payable
        cases turn
        rw [not_or, not_not, Nat.not_le] at payable
        exact ⟨List.mem_of_find?_eq_some found, payable⟩
      all_goals (repeat' split at turn) <;> cases turn
  case done => cases turn
  all_goals
    obtain ⟨next, -, reached⟩ := turn
    cases next <;> cases reached

/-- What an open payment says about its reservation: not that it is PENDING, since
a cancel and a sweep leave the payment row alone, but that it was not confirmed.
A completion ends both, and `start` adds a payment only to a reservation without
one that it has read as PENDING, before its deadline. -/
theorem open_payments (run : Run (step cfg) (initial catalog) ts w) :
    (∀ p ∈ w.db.payments.rows, ∃ r ∈ w.db.reservations.rows, r.id = p.reservationId ∧
      (p.state = .pending → r.state ≠ .confirmed) ∧ (p.state ≠ .pending → r.state ≠ .pending)) ∧
    (∀ t ∈ ts, ∀ id, leavesPending id t = true →
      ∃ pid c q, t.action = .turn pid c ∧ t.source.procs[pid]? = some q ∧
        ((∃ state, q = .complete state) ∧
            (∃ p, (t.target.db.booking id).payment = some p ∧ p.state ≠ .pending) ∨
          ((∃ state, q = .cancel state) ∨ ∃ state, q = .expire state) ∧
            (t.target.db.booking id).payment = (t.source.db.booking id).payment)) ∧
    (∀ t ∈ ts, ∀ p ∈ t.target.db.payments.rows, (∀ old ∈ t.source.db.payments.rows, old.id ≠ p.id) →
      ∃ pid c user body r, t.action = .turn pid c ∧
        t.source.procs[pid]? = some (.start (.save user body r)) ∧ r.id = p.reservationId ∧
        r.state = .pending ∧ ∀ old ∈ t.source.db.payments.rows, old.reservationId ≠ p.reservationId) ∧
    ∀ t ∈ ts, ∀ pid c user body r, t.action = .turn pid c →
      t.target.procs[pid]? = some (.start (.save user body r)) →
      r ∈ t.source.db.reservations.rows ∧ r.state = .pending ∧ c.now < r.expiresAt := by
  have reachable : ∀ t ∈ ts, World.Sound (fun _ => True) t.source ∧
      step cfg t.source t.action = some t.target := by
    intro t member
    obtain ⟨before, -, reaches, taken⟩ := run.reaches member
    exact ⟨sound_of_run reaches within_any, taken⟩
  refine ⟨?_, ?_, ?_, ?_⟩
  · intro p stored
    have paid : (w.db.booking p.reservationId).payment = some p :=
      booking_payment_eq_some.mpr ⟨stored, rfl⟩
    have coherent : (w.db.booking p.reservationId).Coherent := coherent_of_run run
    obtain ⟨r, found⟩ := coherent.exists_of_payment paid
    obtain ⟨member, named⟩ := booking_reservation_eq_some.mp found
    exact ⟨r, member, named, fun opened => (coherent.open_payment found paid opened).1,
      fun ended pending => ended ((coherent.pending found pending).2.2 p paid)⟩
  · intro t member id leaves
    obtain ⟨sound, taken⟩ := reachable t member
    exact payment_of_leaving sound spelled_any taken leaves
  · intro t member p stored new
    obtain ⟨sound, taken⟩ := reachable t member
    exact start_of_new sound spelled_any taken stored new
  · intro t member pid c user body r turn after
    obtain ⟨-, taken⟩ := reachable t member
    rw [turn] at taken
    exact payable_of_save taken after

theorem open_payments_cancelled :
    ∃ r ∈ (replayed cancelled cancelled_enabled).db.reservations.rows, r.id = flat 1 ∧
      r.state ≠ .confirmed := by
  obtain ⟨r, member, named, unconfirmed, -⟩ := (open_payments (run_replay cancelled_enabled)).1
    { samplePayment with state := .pending, reference := none } (by decide +kernel)
  exact ⟨r, member, named, unconfirmed rfl⟩

/-- A cancel leaves a PENDING payment without a PENDING reservation. -/
theorem payment_left_open :
    ¬ ∀ (cfg : Config) (catalog : Catalog) (ts : List (Transition World Action)) (w : World),
      Run (step cfg) (initial catalog) ts w → ∀ p ∈ w.db.payments.rows, p.state = .pending →
        ∃ r ∈ w.db.reservations.rows, r.id = p.reservationId ∧ r.state = .pending := by
  intro pending
  have found := pending _ _ _ _ (run_replay cancelled_enabled)
    { samplePayment with state := .pending, reference := none } (by decide +kernel) rfl
  revert found
  decide +kernel

end KiTicket
