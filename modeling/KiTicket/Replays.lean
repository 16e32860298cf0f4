import KiTicket.Completion

/-! Starting a payment again. A start is answered with the payment its key names, with
the one it has just inserted, or, when the insert is refused, with the one its
reservation has; only the first two are found again under the key. -/
namespace KiTicket
open Reservations Payments Runs

variable {cfg : Config} {catalog : Catalog} {spelled : Text → Prop} {w w' : World} {a : Action}
  {c : Choice} {held : List RowLock} {server server' : Server} {q q' : Proc} {p : Payment}
  {user : AuthenticatedUser} {body : StartPaymentDto} {sub path : Text} {id paymentId : Uuid}
  {pid : Nat} {ts us : List (Transition World Action)}

/-- The reservation a path names is there, and the user's. -/
def Db.Owned (db : Db) (sub path : Text) (id : Uuid) : Prop :=
  uuid? path = some id ∧ ∃ r, (db.booking id).reservation = some r ∧ r.userId = sub

/-- And this is its payment. -/
def Db.Paid (db : Db) (sub path : Text) (paymentId : Uuid) : Prop :=
  ∃ id p, db.Owned sub path id ∧ (db.booking id).payment = some p ∧ p.id = paymentId

/-- And the payment is recorded under the key of the request. -/
def Db.Files (db : Db) (sub : Text) (body : StartPaymentDto) (paymentId : Uuid) : Prop :=
  ∃ id p, id.text = body.reservationId ∧ db.Owned sub body.reservationId id ∧
    (db.booking id).payment = some p ∧ p.id = paymentId ∧
      p.idempotencyKey = some body.idempotencyKey

theorem Stepped.owned (stepped : Stepped spelled w a w') (owned : w.db.Owned sub path id) :
    w'.db.Owned sub path id := by
  obtain ⟨named, r, stored, mine⟩ := owned
  obtain ⟨state, after⟩ := stepped.reservation stored
  exact ⟨named, _, after, mine⟩

theorem Stepped.paid (stepped : Stepped spelled w a w') (paid : w.db.Paid sub path paymentId) :
    w'.db.Paid sub path paymentId := by
  obtain ⟨id, p, owned, stored, named⟩ := paid
  obtain ⟨p', after, same, -⟩ := stepped.payment stored
  exact ⟨id, p', stepped.owned owned, after, same.trans named⟩

theorem Stepped.files (stepped : Stepped spelled w a w') (files : w.db.Files sub body paymentId) :
    w'.db.Files sub body paymentId := by
  obtain ⟨id, p, canonical, owned, stored, named, key⟩ := files
  obtain ⟨p', after, same, key'⟩ := stepped.payment stored
  exact ⟨id, p', canonical, stepped.owned owned, after, same.trans named, key'.trans key⟩

/-! ## The first request -/

/-- Where a start of the user's stands, and what it has read. -/
def Starting (db : Db) (sub : Text) (body : StartPaymentDto) : Proc → Prop
  | .start (.findByKey user asked) | .start (.findReservation user asked) =>
    user.sub = sub ∧ asked = body
  | .start (.findLinked user asked existing) =>
    user.sub = sub ∧ asked = body ∧
      ∃ p, (db.booking existing.reservationId).payment = some p ∧ p.id = existing.id
  | .start (.save user asked r) =>
    user.sub = sub ∧ asked = body ∧ db.Owned sub body.reservationId r.id
  | .start (.announce _ p) => db.Paid sub body.reservationId p.id
  | .start (.findByReservation r) => db.Owned sub body.reservationId r.id
  | .done (.payment p) => db.Paid sub body.reservationId p.id
  | .done _ => True
  | _ => False

theorem Stepped.starting (stepped : Stepped spelled w a w') (starting : Starting w.db sub body q) :
    Starting w'.db sub body q := by
  cases q
  case start state =>
    cases state
    case findLinked =>
      obtain ⟨mine, same, p, stored, named⟩ := starting
      obtain ⟨p', after, same', -⟩ := stepped.payment stored
      exact ⟨mine, same, p', after, same'.trans named⟩
    case save => exact ⟨starting.1, starting.2.1, stepped.owned starting.2.2⟩
    case announce => exact stepped.paid starting
    case findByReservation => exact stepped.owned starting
    all_goals exact starting
  case done response =>
    cases response <;> try trivial
    exact stepped.paid starting
  all_goals exact starting

/-- A turn of a start. -/
theorem Starting.turn (starting : Starting server.db sub body q)
    (turn : q.turn cfg c held server = some (server', q')) : Starting server'.db sub body q' := by
  cases q
  case start state =>
    simp only [Proc.turn, turnOf_eq_some] at turn
    obtain ⟨next, turn, rfl⟩ := turn
    split at turn
    · cases state <;> simp only [Start.fault] at turn <;> cases turn <;> trivial
    cases state <;> simp only [Start.turn] at turn
    case findByKey user asked =>
      obtain ⟨mine, rfl⟩ := starting
      split at turn <;> cases turn
      · rename_i existing found
        refine ⟨mine, rfl, existing, ?_, rfl⟩
        exact booking_payment_eq_some.mpr ⟨List.mem_of_find?_eq_some found, rfl⟩
      · exact ⟨mine, rfl⟩
    case findLinked user asked existing =>
      obtain ⟨mine, rfl, p, stored, named⟩ := starting
      split at turn
      · cases turn
        trivial
      rename_i linked found
      split at turn <;> cases turn
      · trivial
      rename_i same
      rw [not_or, not_not, not_not] at same
      obtain ⟨-, of⟩ := booking_reservation_eq_some.mp found
      refine ⟨existing.reservationId, p, ⟨?_, linked, found, same.1.trans mine⟩, stored, named⟩
      rw [← same.2, uuid?_text, of]
    case findReservation user asked =>
      obtain ⟨mine, rfl⟩ := starting
      split at turn
      · cases turn
        trivial
      rename_i id named
      split at turn
      · cases turn
        trivial
      rename_i r found
      split at turn
      · cases turn
        trivial
      rename_i owner
      split at turn <;> cases turn
      · trivial
      obtain ⟨-, rfl⟩ := booking_reservation_eq_some.mp found
      exact ⟨mine, rfl, named, r, found, (not_not.mp owner).trans mine⟩
    case save user asked r =>
      obtain ⟨mine, rfl, owned⟩ := starting
      split at turn
      · split at turn <;> cases turn
        · rename_i new _ _ payments inserted
          have after : ({ server.db with payments } : Db).booking r.id =
              { server.db.booking r.id with payment := some (newPayment new asked r) } :=
            (booking_insertPayment inserted).2.trans (if_pos rfl)
          refine ⟨r.id, _, ⟨owned.1, ?_⟩, congrArg Booking.payment after, rfl⟩
          obtain ⟨stored, found, mine⟩ := owned.2
          exact ⟨stored, (congrArg Booking.reservation after).trans found, mine⟩
        · exact owned
      · cases turn
    case announce =>
      cases turn
      exact starting
    case findByReservation r =>
      split at turn <;> cases turn
      · trivial
      rename_i p found
      exact ⟨r.id, p, starting, found, rfl⟩
  case done => cases turn
  all_goals cases starting

/-! ## The later request -/

/-- Where a start stands whose key names the payment already. -/
def Replaying (sub : Text) (body : StartPaymentDto) (paymentId : Uuid) : Proc → Prop
  | .start (.findByKey user asked) => user.sub = sub ∧ asked = body
  | .start (.findLinked user asked existing) => user.sub = sub ∧ asked = body ∧
      existing.id = paymentId ∧ existing.reservationId.text = body.reservationId
  | .done (.payment p) => p.id = paymentId
  | .done (.error failure) => failure = .fault ∨ failure = .crash
  | _ => False

/-- The key finds the payment. -/
theorem Db.Files.find {db : Db} (files : db.Files sub body paymentId) :
    ∃ p r, db.payments.rows.find? (·.idempotencyKey = some body.idempotencyKey) = some p ∧
      p.id = paymentId ∧ p.reservationId.text = body.reservationId ∧
      findReservation db p.reservationId = some r ∧ r.userId = sub ∧
      r.id.text = body.reservationId := by
  obtain ⟨id, p, canonical, ⟨-, r, stored, mine⟩, paid, named, key⟩ := files
  obtain ⟨member, rfl⟩ := booking_payment_eq_some.mp paid
  refine ⟨p, r, ?_, named, canonical, stored, mine, ?_⟩
  · apply Table.find?_eq_some_of_mem member (decide_eq_true key)
    intro a b left right
    simp_all [clash]
  · rw [(booking_reservation_eq_some.mp stored).2, canonical]

theorem Replaying.turn (replaying : Replaying sub body paymentId q)
    (files : server.db.Files sub body paymentId)
    (turn : q.turn cfg c held server = some (server', q')) :
    Replaying sub body paymentId q' := by
  obtain ⟨p, r, found, named, canonical, stored, mine, of⟩ := files.find
  cases q
  case start state =>
    simp only [Proc.turn, turnOf_eq_some] at turn
    obtain ⟨next, turn, rfl⟩ := turn
    split at turn
    · cases state <;> simp only [Start.fault] at turn
      case announce => cases turn
      all_goals
        cases turn
        exact .inl rfl
    cases state <;> simp only [Start.turn] at turn
    case findByKey user asked =>
      obtain ⟨same, rfl⟩ := replaying
      rw [found] at turn
      cases turn
      exact ⟨same, rfl, named, canonical⟩
    case findLinked user asked existing =>
      obtain ⟨same, rfl, theirs, spelled⟩ := replaying
      have at' : existing.reservationId = p.reservationId :=
        Uuid.text_injective (spelled.trans canonical.symm)
      rw [at', stored] at turn
      have granted : ¬ (r.userId ≠ user.sub ∨ r.id.text ≠ asked.reservationId) := by
        rw [not_or, not_not, not_not]
        exact ⟨mine.trans same.symm, of⟩
      simp only [if_neg granted] at turn
      cases turn
      exact theirs
    all_goals cases replaying
  case done => cases turn
  all_goals cases replaying

/-! ## Replays -/

/-- Every later start with the user, the reservation and the key of an answered one
is answered with the same payment, unless a call failed or the process died, and
two turns are enough. -/
structure Replays (cfg : Config) (w : World) (sub : Text) (body : StartPaymentDto)
    (paymentId : Uuid) : Prop where
  answers : ∀ us vs w₁ w₂ w₃ user response, user.sub = sub → Run (step cfg) w us w₁ →
    step cfg w₁ (.request (.start user body)) = some w₂ → Run (step cfg) w₂ vs w₃ →
    w₃.procs[w₁.procs.length]? = some (.done response) →
    (∃ p, response = .payment p ∧ p.id = paymentId) ∨ response = .error .fault ∨
      response = .error .crash
  soon : ∀ us w₁ w₂ user, user.sub = sub → Run (step cfg) w us w₁ →
    step cfg w₁ (.request (.start user body)) = some w₂ →
    ∃ p, p.id = paymentId ∧
      exec (step cfg) w₂ [.turn w₁.procs.length {}, .turn w₁.procs.length {}] =
        some { w₂ with procs := w₂.procs.set w₁.procs.length (.done (.payment p)) }

/-- A payment for the reservation, spelled as it is stored, is recorded under the key. -/
def Db.Records (db : Db) (body : StartPaymentDto) : Prop :=
  ∃ p ∈ db.payments.rows, p.idempotencyKey = some body.idempotencyKey ∧
    p.reservationId.text = body.reservationId

instance {db : Db} : Decidable (db.Records body) :=
  inferInstanceAs (Decidable (∃ p ∈ db.payments.rows,
    p.idempotencyKey = some body.idempotencyKey ∧ p.reservationId.text = body.reservationId))

theorem files_of_records {db : Db} (paid : db.Paid sub body.reservationId paymentId)
    (records : db.Records body) : db.Files sub body paymentId := by
  obtain ⟨id, p, owned, stored, named⟩ := paid
  obtain ⟨row, member, key, canonical⟩ := records
  have same : row.reservationId = id := by
    have read := owned.1
    rw [← canonical, uuid?_text, Option.some.injEq] at read
    exact read
  have mine := booking_payment_eq_some.mpr ⟨member, same⟩
  rw [stored, Option.some.injEq] at mine
  subst mine
  exact ⟨id, p, by rw [← same, canonical], owned, stored, named, key⟩

/-- Two turns of a process that leave everything else alone. -/
theorem exec_of_stays {c c' : Choice} {q q' q'' : Proc} (serving : w.procs[pid]? = some q)
    (first : q.turn cfg c ((w.others pid).flatMap Proc.held) w.shared = some (w.shared, q'))
    (second : q'.turn cfg c' ((w.others pid).flatMap Proc.held) w.shared = some (w.shared, q'')) :
    exec (step cfg) w [.turn pid c, .turn pid c'] =
      some { w with procs := w.procs.set pid q'' } := by
  obtain ⟨bound, here⟩ := List.getElem?_eq_some_iff.mp serving
  have located : w.procs.set pid q = w.procs := by rw [← here, List.set_getElem_self]
  have start := step_of_stay bound first
  rw [located] at start
  simp only [exec, start, step_of_stay bound second, Option.bind_some]

/-- What a whole run keeps of what is filed. -/
theorem files_of_run (run : Run (step cfg) w us w') (sound : World.Sound (fun _ => True) w)
    (files : w.db.Files sub body paymentId) :
    World.Sound (fun _ => True) w' ∧ w'.db.Files sub body paymentId :=
  run.invariant (P := fun w => World.Sound (fun _ => True) w ∧ w.db.Files sub body paymentId)
    within_any ⟨sound, files⟩ fun _ _ _ both _ taken =>
      ⟨(both.1.next spelled_any taken).1, (both.1.next spelled_any taken).2.files both.2⟩

theorem replays_of_files (sound : World.Sound (fun _ => True) w)
    (files : w.db.Files sub body paymentId) : Replays cfg w sub body paymentId := by
  constructor
  case answers =>
    intro us vs w₁ w₂ w₃ user response mine before asks after answered
    obtain ⟨sound₂, files₂⟩ := files_of_run (before.append (.single asks)) sound files
    have served : ∃ q, w₃.procs[w₁.procs.length]? = some q ∧ Replaying sub body paymentId q := by
      refine (after.invariant (P := fun w => World.Sound (fun _ => True) w ∧
        w.db.Files sub body paymentId ∧
        ∃ q, w.procs[w₁.procs.length]? = some q ∧ Replaying sub body paymentId q) within_any
        ⟨sound₂, files₂, _, served_of_request asks, mine, rfl⟩ ?_).2.2
      rintro w a w' ⟨sound, files, q, serving, replaying⟩ - taken
      obtain ⟨sound', stepped⟩ := sound.next spelled_any taken
      refine ⟨sound', stepped.files files, ?_⟩
      rcases proc_cases taken serving with ⟨same, -⟩ | ⟨-, crashed⟩ | ⟨c, q', -, served, turn⟩
      · exact ⟨q, same, replaying⟩
      · exact ⟨_, crashed, .inr rfl⟩
      · exact ⟨q', served, replaying.turn files turn⟩
    obtain ⟨q, at', replaying⟩ := served
    rw [answered, Option.some.injEq] at at'
    subst at'
    cases response
    case payment p => exact .inl ⟨p, rfl, replaying⟩
    case error failure => exact .inr (by rcases replaying with rfl | rfl <;> simp)
    all_goals cases replaying
  case soon =>
    intro us w₁ w₂ user mine before asks
    obtain ⟨-, files₂⟩ := files_of_run (before.append (.single asks)) sound files
    obtain ⟨p, r, found, named, canonical, stored, owner, of⟩ := files₂.find
    have granted : ¬ (r.userId ≠ user.sub ∨ r.id.text ≠ body.reservationId) := by
      rw [not_or, not_not, not_not]
      exact ⟨owner.trans mine.symm, of⟩
    have linked (held : List RowLock) : (Proc.start (.findLinked user body p)).turn cfg {} held
        w₂.shared = some (w₂.shared, .done (.payment p)) := by
      simp only [Proc.turn, turnOf, Start.turn, stored, if_neg granted]
      rfl
    refine ⟨p, named, exec_of_stays (served_of_request asks) ?_ (linked _)⟩
    simp [Request.proc, Proc.turn, turnOf, Start.turn, found, Server.stay, Next.proc]

/-- Without a record under the key, a start that comes after the reservation has
expired is refused. -/
theorem records_of_replays (paid : w.db.Paid user.sub body.reservationId paymentId)
    (replays : Replays cfg w user.sub body paymentId)
    (accepted : (Request.start user body).accepted = true) : w.db.Records body := by
  have asks : step cfg w (.request (.start user body)) =
      some ⟨w.shared, w.procs ++ [.start (.findByKey user body)]⟩ := if_pos accepted
  have answered {c c' : Choice} {q' : Proc} {response : Response}
      (first : (Proc.start (.findByKey user body)).turn cfg c
        ((Pool.others ⟨w.shared, w.procs ++ [.start (.findByKey user body)]⟩ w.procs.length).flatMap
          Proc.held) w.shared = some (w.shared, q'))
      (second : q'.turn cfg c'
        ((Pool.others ⟨w.shared, w.procs ++ [.start (.findByKey user body)]⟩ w.procs.length).flatMap
          Proc.held) w.shared = some (w.shared, .done response)) :
      (∃ p, response = .payment p ∧ p.id = paymentId) ∨ response = .error .fault ∨
        response = .error .crash := by
    have served := exec_of_stays (served_of_request asks) first second
    refine replays.answers _ _ _ _ _ user response rfl .nil asks (run_of_exec served) ?_
    exact List.getElem?_set_self (by simp)
  obtain ⟨id, p, ⟨named, r, stored, mine⟩, -, -⟩ := paid
  cases lookup : w.db.payments.rows.find? (·.idempotencyKey = some body.idempotencyKey) with
  | none =>
    have late := @answered {} { now := r.expiresAt } (.start (.findReservation user body))
      (.error (.conflict "Reservation is no longer payable"))
      (by simp [Proc.turn, turnOf, Start.turn, lookup, Server.stay, Next.proc])
      (by simp [Proc.turn, turnOf, Start.turn, named, findReservation_eq, stored, mine, Server.refuse, Next.proc])
    rcases late with ⟨_, other, -⟩ | other | other <;> cases other
  | some existing =>
    have finds : ∀ {held : List RowLock}, (Proc.start (.findByKey user body)).turn cfg {} held w.shared =
        some (w.shared, .start (.findLinked user body existing)) := by
      intro held
      simp [Proc.turn, turnOf, Start.turn, lookup, Server.stay, Next.proc]
    cases linked : findReservation w.db existing.reservationId with
    | none =>
      have lost := @answered {} {} _ (.error .entityNotFound) finds
        (by simp [Proc.turn, turnOf, Start.turn, linked, Server.refuse, Next.proc])
      rcases lost with ⟨_, other, -⟩ | other | other <;> cases other
    | some found =>
      by_cases foreign : found.userId ≠ user.sub ∨ found.id.text ≠ body.reservationId
      · have refused := @answered {} {} _
          (.error (.conflict "Idempotency key belongs to another request")) finds
          (by simp only [Proc.turn, turnOf, Start.turn, linked, if_pos foreign]; rfl)
        rcases refused with ⟨_, other, -⟩ | other | other <;> cases other
      · rw [not_or, not_not, not_not] at foreign
        refine ⟨existing, List.mem_of_find?_eq_some lookup, ?_, ?_⟩
        · simpa using List.find?_some lookup
        · rw [← (booking_reservation_eq_some.mp linked).2, foreign.2]

/-- A start that was answered with a payment replays exactly when that payment is
recorded under the key it was asked with, for the id it was asked with. -/
theorem start_replays_iff {w₀ w₁ : World} (first : Run (step cfg) (initial catalog) ts w₀)
    (asked : step cfg w₀ (.request (.start user body)) = some w₁) (served : Run (step cfg) w₁ us w)
    (answered : w.procs[w₀.procs.length]? = some (.done (.payment p))) :
    Replays cfg w user.sub body p.id ↔ w.db.Records body := by
  have sound : World.Sound (fun _ => True) w₁ :=
    sound_of_run (first.append (.single asked)) within_any
  have started : ∃ q, w.procs[w₀.procs.length]? = some q ∧ Starting w.db user.sub body q := by
    refine (served.invariant (P := fun w => World.Sound (fun _ => True) w ∧
      ∃ q, w.procs[w₀.procs.length]? = some q ∧ Starting w.db user.sub body q) within_any
      ⟨sound, _, served_of_request asked, rfl, rfl⟩ ?_).2
    rintro w a w' ⟨sound, q, serving, starting⟩ - taken
    obtain ⟨sound', stepped⟩ := sound.next spelled_any taken
    refine ⟨sound', ?_⟩
    rcases proc_cases taken serving with ⟨same, -⟩ | ⟨-, crashed⟩ | ⟨c, q', -, going, turn⟩
    · exact ⟨q, same, stepped.starting starting⟩
    · exact ⟨_, crashed, trivial⟩
    · exact ⟨q', going, starting.turn turn⟩
  obtain ⟨q, at', paid⟩ := started
  rw [answered, Option.some.injEq] at at'
  subst at'
  constructor
  · intro replays
    refine records_of_replays paid replays ?_
    by_contra refused
    rw [step, if_neg refused] at asked
    cases asked
  · intro records
    exact replays_of_files (sound.run served within_any) (files_of_records paid records)

/-- Seat `a…` is reserved, and a payment asked for. -/
def asking : List Action :=
  reserve ++ [.request (.start customer ⟨flatText '1', List.replicate 8 'k'⟩)]

theorem asking_enabled :
    (exec (step sampleConfig) (initial sampleCatalog) asking).isSome = true := by
  decide +kernel

theorem startTurns_enabled : (exec (step sampleConfig) (replayed asking asking_enabled)
    (startTurns 1 1 (flat 3))).isSome = true := by
  decide +kernel

/-- A start whose own insert went through replays. -/
theorem start_replays_inserted : Replays sampleConfig
    (replay (step sampleConfig) (replayed asking asking_enabled) (startTurns 1 1 (flat 3))
      startTurns_enabled)
    customer.sub ⟨flatText '1', List.replicate 8 'k'⟩ (flat 3) :=
  (start_replays_iff (p := { samplePayment with state := .pending, reference := none })
    (run_replay (enabled_of_append asking_enabled)) (step_replay asking_enabled)
    (run_replay startTurns_enabled) (by decide +kernel)).mpr (by decide +kernel)

/-- With a payment started under the key `k…`, the customer asks again under `j…`. -/
def askingAgain : List Action :=
  reserve ++ pay ++ [.request (.start customer ⟨flatText '1', List.replicate 8 'j'⟩)]

theorem askingAgain_enabled :
    (exec (step sampleConfig) (initial sampleCatalog) askingAgain).isSome = true := by
  decide +kernel

/-- The insert is refused, and the request is answered with the payment that is there. -/
theorem fallback_enabled : (exec (step sampleConfig) (replayed askingAgain askingAgain_enabled)
    (startTurns 2 1 (flat 5))).isSome = true := by
  decide +kernel

abbrev fallenBack : World :=
  replay (step sampleConfig) (replayed askingAgain askingAgain_enabled) (startTurns 2 1 (flat 5))
    fallback_enabled

/-- The payment succeeds, and the customer repeats the second request. -/
def paidMeanwhile : List Action :=
  .request (.complete customer (flatText '3') ⟨.success, none⟩) ::
    completeTurns 3 2 [flat 4] [['r'], ['t']] ++
    [.request (.start customer ⟨flatText '1', List.replicate 8 'j'⟩)]

theorem paidMeanwhile_enabled :
    (exec (step sampleConfig) fallenBack paidMeanwhile).isSome = true := by
  decide +kernel

theorem repeatedStart_enabled : (exec (step sampleConfig)
    (replay (step sampleConfig) fallenBack paidMeanwhile paidMeanwhile_enabled)
    [.turn 4 {}, .turn 4 { now := 3 }]).isSome = true := by
  decide +kernel

/-- It is refused now, though it was answered with the payment before. -/
theorem start_not_replayed : ¬ ∀ (cfg : Config) (catalog : Catalog)
    (ts us : List (Transition World Action)) (w₀ w₁ w : World) (user : AuthenticatedUser)
    (body : StartPaymentDto) (p : Payment), Run (step cfg) (initial catalog) ts w₀ →
    step cfg w₀ (.request (.start user body)) = some w₁ → Run (step cfg) w₁ us w →
    w.procs[w₀.procs.length]? = some (.done (.payment p)) → Replays cfg w user.sub body p.id := by
  intro always
  have replays := always _ _ _ _ _ _ _ customer ⟨flatText '1', List.replicate 8 'j'⟩
    { samplePayment with state := .pending, reference := none }
    (run_replay (enabled_of_append askingAgain_enabled)) (step_replay askingAgain_enabled)
    (run_replay fallback_enabled) (by decide +kernel)
  have refused := replays.answers _ _ _ _ _ customer
    (.error (.conflict "Reservation is no longer payable")) rfl
    (run_replay (enabled_of_append paidMeanwhile_enabled)) (step_replay paidMeanwhile_enabled)
    (run_replay repeatedStart_enabled) (by decide +kernel)
  rcases refused with ⟨_, other, -⟩ | other | other <;> cases other

end KiTicket
