import KiTicket.Atomic
import KiTicket.Broker
import KiTicket.SeatLocks

/-! `http-exception.filter.ts`, and what can go wrong with each request of the booking side.
A request is answered with one of the errors its handler throws on purpose; the answer is a
server error only where a call of its own failed, or where the total of a reservation is too
large for its column. -/
namespace KiTicket
open Reservations Payments WaitingRoom Tickets Runs
open Broker (Json)

/-! ## `ApiExceptionFilter` -/

/-- What `getResponse()` of an `HttpException` returns. -/
inductive Body where
  | text (message : Text)
  | fields (details : List (Text × Json))

/-- Errors, as far as the filter tells them apart. -/
inductive Exception where
  | http (status : Nat) (body : Body) (message : Text)
  | entityNotFound
  /-- `QueryFailedError`, with the driver's code where it has one. -/
  | queryFailed (code : Option String)
  | other

structure ErrorResponse where
  status : Nat
  message : Json
  details : List (Text × Json)

/-- `details.message`, where it is a string or an array. -/
def provided (details : List (Text × Json)) : Option Json :=
  match details.lookup "message".toList with
  | some (.string text) => some (.string text)
  | some (.array items) => some (.array items)
  | _ => none

def internal : Json := .string "خطای داخلی سرور رخ داد.".toList

/-- `ApiExceptionFilter.catch`, up to the response it sends. -/
def ErrorResponse.of : Exception → ErrorResponse
  | .http status (.text message) _ => ⟨status, .string message, []⟩
  | .http status (.fields details) message =>
    ⟨status, (provided details).getD (.string message), details⟩
  | .entityNotFound => ⟨404, .string "رکورد موردنظر پیدا نشد.".toList, []⟩
  | .queryFailed (some "23505") => ⟨409, .string "این اطلاعات قبلاً ثبت شده است.".toList, []⟩
  | .queryFailed (some "23503") => ⟨409, .string "اطلاعات وابسته معتبر نیست.".toList, []⟩
  | .queryFailed (some "22P02") => ⟨400, .string "شناسه یا مقدار ورودی نامعتبر است.".toList, []⟩
  | .queryFailed _ | .other => ⟨500, internal, []⟩

/-- The body that is sent. A member overrides what `details` says under its name. -/
def ErrorResponse.members (response : ErrorResponse) (path timestamp requestId : Text) :
    List (Text × Json) :=
  [("requestId".toList, .string requestId), ("timestamp".toList, .string timestamp),
    ("path".toList, .string path), ("message".toList, response.message),
    ("statusCode".toList, .number (toString response.status).toList)] ++ response.details

/-- The exceptions of Nest with a message: `{ message, error, statusCode }`. -/
def named (status : Nat) (error message : String) : Exception :=
  .http status (.fields [("message".toList, .string message.toList), ("error".toList, .string error.toList),
    ("statusCode".toList, .number (toString status).toList)]) message.toList

/-- What is thrown; a process that died throws nothing. -/
def Failure.exception : Failure → Option Exception
  | .conflict message => some (named 409 "Conflict" message)
  | .forbidden message => some (named 403 "Forbidden" message)
  | .unauthorized message => some (named 401 "Unauthorized" message)
  | .notFound message => some (named 404 "Not Found" message)
  | .entityNotFound => some .entityNotFound
  | .invalidUuid => some (.queryFailed (some "22P02"))
  | .duplicateKey => some (.queryFailed (some "23505"))
  | .notNull => some (.queryFailed (some "23502"))
  | .numericOverflow => some (.queryFailed (some "22003"))
  | .fault => some .other
  | .crash => none

/-- The status a failed request is answered with. -/
def Failure.status (failure : Failure) : Option Nat :=
  failure.exception.map fun exception => (ErrorResponse.of exception).status

theorem lookup_cons_ite {β : Type} (name key : Text) (value : β) (rest : List (Text × β)) :
    ((key, value) :: rest).lookup name = if name = key then some value else rest.lookup name := by
  rw [List.lookup_cons]
  by_cases same : name = key
  · rw [if_pos same, beq_iff_eq.mpr same]
  · rw [if_neg same, beq_eq_false_iff_ne.mpr same]

/-- What the filter says itself stands, whatever the exception brings along. -/
theorem lookup_members (response : ErrorResponse) (path timestamp requestId name : Text) :
    (response.members path timestamp requestId).lookup name =
      if name = "requestId".toList then some (.string requestId)
      else if name = "timestamp".toList then some (.string timestamp)
      else if name = "path".toList then some (.string path)
      else if name = "message".toList then some response.message
      else if name = "statusCode".toList then some (.number (toString response.status).toList)
      else response.details.lookup name := by
  simp only [ErrorResponse.members, List.cons_append, List.nil_append, lookup_cons_ite]

/-! ## The errors of each request -/

/-- What the handler of a request throws, besides what its calls do. -/
def Request.failures : Request → List Failure
  | .create _ _ => [.forbidden "Waiting-room admission token is required",
      .forbidden "Admission token is invalid or expired", .conflict "Event is unavailable",
      .conflict "One or more seats do not belong to the event venue",
      .conflict "Selected seat has no pricing category",
      .conflict "At least one selected seat is currently locked", unavailable, .numericOverflow]
  | .cancel _ _ => [.invalidUuid, .notFound "Reservation not found",
      .forbidden "Reservation belongs to another user",
      .conflict "Only pending reservations can be cancelled"]
  | .expire => []
  | .start _ _ => [.conflict "Idempotency key belongs to another request", .entityNotFound,
      .forbidden "Reservation belongs to another user",
      .conflict "Reservation is no longer payable"]
  | .complete _ _ _ => [.invalidUuid, .conflict "Payment not found",
      .conflict "Reservation not found", .forbidden "Payment belongs to another user",
      .conflict "Reservation has no locked seats", .duplicateKey]
  | .checkIn _ _ => [.invalidUuid, .notFound "Ticket not found", .entityNotFound,
      .forbidden "Ticket belongs to another organizer",
      .forbidden "Ticket was already checked in"]
  | .join _ _ => [.invalidUuid, .conflict "Event is unavailable", .duplicateKey]
  | .admitUsers _ _ _ => [.duplicateKey]

variable {cfg : Config} {c : Choice} {held : List RowLock} {server server' : Server} {p p' : Proc}
  {s s' : Site} {pid : Nat} {ts : List (Transition Site Site.Action)} {r : Request}
  {failure : Failure} {allowed : Failure → Prop}

/-- A process of this request, and whatever it is going to be answered with is allowed. What
`create` and `start` read of their bodies has passed the pipe. -/
def Proc.Answers (r : Request) (allowed : Failure → Prop) : Proc → Prop
  | .create state => (∃ user body, r = .create user body) ∧
    match state with
    | .assertAdmission _ body | .findEvent _ body | .findSectors _ body _ | .findSeats _ body _ _
    | .findPricing _ body _ _ => body.accepted = true
    | .acquire draft | .findOccupied draft | .save draft => draft.seatIds.Nodup
    | .announce _ _ => True
    | .release _ failure => allowed failure
  | .cancel _ => ∃ user path, r = .cancel user path
  | .expire _ => r = .expire
  | .start state => (∃ user body, r = .start user body) ∧
    match state with
    | .findByKey _ body | .findLinked _ body _ | .findReservation _ body => body.accepted = true
    | _ => True
  | .complete _ => ∃ user path body, r = .complete user path body
  | .checkIn _ => ∃ user path, r = .checkIn user path
  | .join _ => ∃ user path, r = .join user path
  | .admitUsers _ => ∃ user path body, r = .admitUsers user path body
  | .done (.error failure) => allowed failure
  | .done _ => True

theorem Proc.Answers.mono {more : Failure → Prop} (answers : p.Answers r allowed)
    (fewer : ∀ f, allowed f → more f) : p.Answers r more := by
  cases p with
  | create state =>
    refine ⟨answers.1, ?_⟩
    cases state <;> first | exact answers.2 | exact fewer _ answers.2
  | done response => cases response <;> first | trivial | exact fewer _ answers
  | _ => exact answers

theorem Request.answers_proc (accepted : r.accepted = true) : r.proc.Answers r allowed := by
  cases r
  case create user body => exact ⟨⟨user, body, rfl⟩, accepted⟩
  case start user body => exact ⟨⟨user, body, rfl⟩, accepted⟩
  all_goals simp [Request.proc, Proc.Answers]

theorem assertAdmission_error {entries : List WaitingRoomEntry} {now : Nat} {eventId userId : Text}
    {token : Option Text}
    (refused : assertAdmission cfg entries now eventId userId token = .error failure) :
    failure = .forbidden "Waiting-room admission token is required" ∨
      failure = .forbidden "Admission token is invalid or expired" := by
  unfold assertAdmission at refused
  grind

/-- The pipe has refused duplicates before the lock service can. -/
theorem acquire_error {store : KeyStore Text Text} {eventId owner : Text} {seatIds : List Text}
    (distinct : seatIds.Nodup)
    (refused : LockService.acquire cfg store eventId seatIds owner = .error failure) :
    failure = .conflict "At least one selected seat is currently locked" := by
  have whole : (LockService.normalized seatIds).length = seatIds.length :=
    LockService.nodup_iff.mpr distinct
  unfold LockService.acquire at refused
  grind

theorem insert_error {draft : Draft} {db : Db} (refused : draft.insert cfg c db = .error failure) :
    failure = .numericOverflow ∨ failure = unavailable := by
  unfold Draft.insert at refused
  grind

theorem Reservations.Create.answers {state : Create} {next : Next Create}
    (turn : state.turn cfg c server = some (server', next)) (expected : ∀ f ∈ r.failures, allowed f)
    (answers : (Proc.create state).Answers r allowed) : (next.proc Proc.create).Answers r allowed := by
  obtain ⟨⟨user, body, rfl⟩, asked⟩ := answers
  simp only [Request.failures, List.forall_mem_cons] at expected
  cases state <;> simp only [Create.turn] at turn
  case assertAdmission =>
    split at turn <;> cases turn
    · rename_i refused
      rcases assertAdmission_error refused with rfl | rfl
      · exact expected.1
      · exact expected.2.1
    · exact ⟨⟨user, body, rfl⟩, asked⟩
  case findEvent =>
    rename_i user body
    have valid : isUUID body.eventId = true := by grind [CreateReservationDto.accepted]
    obtain ⟨id, read⟩ := exists_uuid_of_isUUID valid
    rw [read] at turn
    grind [Server.refuse, Server.stay, Next.proc, Proc.Answers]
  case acquire =>
    split at turn <;> cases turn
    · rename_i refused
      exact acquire_error asked refused ▸ expected.2.2.2.2.2.1
    · exact ⟨⟨user, body, rfl⟩, asked⟩
  case findOccupied =>
    split at turn <;> cases turn
    · exact ⟨⟨user, body, rfl⟩, expected.2.2.2.2.2.2.1⟩
    · exact ⟨⟨user, body, rfl⟩, asked⟩
  case save =>
    split at turn
    · cases turn
    split at turn <;> cases turn
    · rename_i refused
      rcases insert_error refused with rfl | rfl
      · exact ⟨⟨user, body, rfl⟩, expected.2.2.2.2.2.2.2.1⟩
      · exact ⟨⟨user, body, rfl⟩, expected.2.2.2.2.2.2.1⟩
    · exact ⟨⟨user, body, rfl⟩, trivial⟩
  all_goals
    grind [Server.refuse, Server.stay, Next.proc, Proc.Answers, CreateReservationDto.accepted]

theorem Reservations.Cancel.answers {state : Cancel} {next : Next Cancel}
    (turn : state.turn held server = some (server', next)) (expected : ∀ f ∈ r.failures, allowed f)
    (answers : (Proc.cancel state).Answers r allowed) : (next.proc Proc.cancel).Answers r allowed := by
  obtain ⟨user, path, rfl⟩ := answers
  simp only [Request.failures, List.forall_mem_cons] at expected
  cases state <;> simp only [Cancel.turn] at turn
  all_goals grind [Server.refuse, Server.stay, Next.proc, Proc.Answers, Cancel.finish]

theorem Tickets.CheckIn.answers {state : CheckIn} {next : Next CheckIn}
    (turn : state.turn c server = some (server', next)) (expected : ∀ f ∈ r.failures, allowed f)
    (answers : (Proc.checkIn state).Answers r allowed) : (next.proc Proc.checkIn).Answers r allowed := by
  obtain ⟨user, path, rfl⟩ := answers
  simp only [Request.failures, List.forall_mem_cons] at expected
  cases state <;> simp only [CheckIn.turn] at turn
  all_goals grind [Server.refuse, Server.stay, Next.proc, Proc.Answers]

theorem WaitingRoom.Join.answers {state : Join} {next : Next Join}
    (turn : state.turn cfg c server = some (server', next)) (expected : ∀ f ∈ r.failures, allowed f)
    (answers : (Proc.join state).Answers r allowed) : (next.proc Proc.join).Answers r allowed := by
  obtain ⟨user, path, rfl⟩ := answers
  simp only [Request.failures, List.forall_mem_cons] at expected
  cases state <;> simp only [Join.turn] at turn
  all_goals grind [Server.refuse, Server.stay, Next.proc, Proc.Answers]

theorem WaitingRoom.Admit.answers {state : Admit} {next : Next Admit}
    (turn : state.turn cfg c server = some (server', next)) (expected : ∀ f ∈ r.failures, allowed f)
    (answers : (Proc.admitUsers state).Answers r allowed) :
    (next.proc Proc.admitUsers).Answers r allowed := by
  obtain ⟨user, path, body, rfl⟩ := answers
  simp only [Request.failures, List.forall_mem_cons] at expected
  cases state <;> simp only [Admit.turn] at turn
  all_goals grind [Server.refuse, Server.stay, Next.proc, Proc.Answers]

theorem Payments.Complete.answers {state : Complete} {next : Next Complete}
    (turn : state.turn cfg c held server = some (server', next)) (expected : ∀ f ∈ r.failures, allowed f)
    (answers : (Proc.complete state).Answers r allowed) : (next.proc Proc.complete).Answers r allowed := by
  obtain ⟨user, path, body, rfl⟩ := answers
  simp only [Request.failures, List.forall_mem_cons] at expected
  cases state <;> simp only [Complete.turn] at turn
  all_goals grind [Server.refuse, Server.stay, Next.proc, Proc.Answers, Complete.finish, confirm]

theorem Payments.Start.answers {state : Start} {next : Next Start}
    (turn : state.turn c server = some (server', next)) (expected : ∀ f ∈ r.failures, allowed f)
    (answers : (Proc.start state).Answers r allowed) : (next.proc Proc.start).Answers r allowed := by
  obtain ⟨⟨user, body, rfl⟩, asked⟩ := answers
  simp only [Request.failures, List.forall_mem_cons] at expected
  cases state <;> simp only [Start.turn] at turn
  case findReservation user body =>
    have valid : isUUID body.reservationId = true := by grind [StartPaymentDto.accepted]
    obtain ⟨id, read⟩ := exists_uuid_of_isUUID valid
    rw [read] at turn
    grind [Server.refuse, Server.stay, Next.proc, Proc.Answers]
  all_goals grind [Server.refuse, Server.stay, Next.proc, Proc.Answers]

theorem Reservations.Expire.answers_loop {expired : Nat} {rest : List Reservation} {next : Next Expire}
    (turn : Expire.loop server expired rest = some (server', next)) :
    (next.proc Proc.expire).Answers .expire allowed := by
  cases rest <;> cases turn
  · trivial
  · rfl

theorem Reservations.Expire.answers {state : Expire} {next : Next Expire}
    (turn : state.turn c held server = some (server', next)) :
    (next.proc Proc.expire).Answers .expire allowed := by
  cases state <;> simp only [Expire.turn] at turn
  case getMany =>
    obtain ⟨batch, -, turn⟩ := Option.bind_eq_some_iff.mp turn
    exact answers_loop turn
  case findSeats =>
    cases turn
    rfl
  case commit =>
    split at turn
    · split at turn <;> cases turn
      rfl
    · exact answers_loop turn
  case release => exact answers_loop turn

/-- A call that fails ends the request with that, or is made up for. -/
theorem Proc.answers_fault (turn : p.turn cfg c held server = some (server', p')) (failing : c.fault = true)
    (expected : allowed .fault) (answers : p.Answers r allowed) : p'.Answers r allowed := by
  cases p <;> simp only [Proc.turn, turnOf_eq_some, failing, if_true] at turn
  case done => cases turn
  all_goals
    rename_i state
    obtain ⟨next, turn, rfl⟩ := turn
  case create =>
    obtain ⟨⟨user, body, rfl⟩, asked⟩ := answers
    cases state <;> simp only [Create.fault] at turn <;> cases turn
    case findOccupied | save => exact ⟨⟨user, body, rfl⟩, expected⟩
    case release => exact asked
    all_goals exact expected
  case cancel => cases state <;> cases turn <;> first | exact expected | trivial
  case expire =>
    obtain rfl : r = .expire := answers
    cases state
    case release => exact Expire.answers_loop turn
    all_goals
      cases turn
      exact expected
  case start => cases state <;> cases turn <;> exact expected
  case complete => cases state <;> cases turn <;> first | exact expected | trivial
  all_goals
    cases turn
    exact expected

theorem Proc.answers_turn (turn : p.turn cfg c held server = some (server', p'))
    (expected : ∀ f ∈ r.failures, allowed f) (failing : c.fault = true → allowed .fault)
    (answers : p.Answers r allowed) : p'.Answers r allowed := by
  by_cases fault : c.fault = true
  · exact Proc.answers_fault turn fault (failing fault) answers
  rw [Bool.not_eq_true] at fault
  cases p <;> simp only [Proc.turn, turnOf_eq_some, fault, Bool.false_eq_true, if_false] at turn
  case done => cases turn
  all_goals obtain ⟨next, turn, rfl⟩ := turn
  · exact Create.answers turn expected answers
  · exact Cancel.answers turn expected answers
  · obtain rfl : r = .expire := answers
    exact Expire.answers turn
  · exact Start.answers turn expected answers
  · exact Complete.answers turn expected answers
  · exact CheckIn.answers turn expected answers
  · exact Join.answers turn expected answers
  · exact Admit.answers turn expected answers

/-- One of the calls of the request failed. -/
def FailedCall (pid : Nat) (t : Transition Site Site.Action) : Prop :=
  ∃ c, t.action = .booking (.turn pid c) ∧ c.fault = true

/-- What the request can be answered with after these transitions. -/
def Request.Expects (r : Request) (pid : Nat) (ts : List (Transition Site Site.Action))
    (failure : Failure) : Prop :=
  failure ∈ r.failures ∨ failure = .crash ∨ failure = .fault ∧ ∃ t ∈ ts, FailedCall pid t

theorem Request.Expects.later {us : List (Transition Site Site.Action)}
    (expects : r.Expects pid ts failure) : r.Expects pid (ts ++ us) failure := by
  rcases expects with thrown | died | ⟨fault, t, member, failed⟩
  · exact .inl thrown
  · exact .inr (.inl died)
  · exact .inr (.inr ⟨fault, t, List.mem_append_left _ member, failed⟩)

theorem answers_of_run (run : Run (Site.step cfg) s ts s') (accepted : r.accepted = true)
    (serving : s.world.procs[pid]? = some r.proc) :
    ∃ p, s'.world.procs[pid]? = some p ∧ p.Answers r (r.Expects pid ts) := by
  refine run.history (P := fun ts s => ∃ p, s.world.procs[pid]? = some p ∧ p.Answers r (r.Expects pid ts))
    (fun _ _ => (trivial : True)) ⟨r.proc, serving, r.answers_proc accepted⟩ ?_
  rintro ts s a s' - - ⟨p, serving, answers⟩ - taken
  have wider : p.Answers r (r.Expects pid (ts ++ [⟨s, a, s'⟩])) := answers.mono fun _ => .later
  obtain ⟨p', served, ⟨rfl, -⟩ | ⟨rfl, -⟩ | ⟨c, held, rfl, turn⟩⟩ := Site.booking_cases serving taken
  · exact ⟨p', served, wider⟩
  · exact ⟨_, served, .inr (.inl rfl)⟩
  · refine ⟨p', served, Proc.answers_turn turn (fun _ => .inl) (fun failing => ?_) wider⟩
    exact .inr (.inr ⟨rfl, _, List.mem_concat_self, c, rfl, failing⟩)

theorem overflow_of_status (thrown : failure ∈ r.failures) (status : failure.status = some 500) :
    failure = .numericOverflow ∧ ∃ user body, r = .create user body := by
  cases r <;> simp only [Request.failures, List.mem_cons, List.not_mem_nil, or_false] at thrown
  case create user body =>
    refine ⟨?_, user, body, rfl⟩
    rcases thrown with rfl | rfl | rfl | rfl | rfl | rfl | rfl | rfl <;>
      first | rfl | cases status
  all_goals
    exfalso
    revert status
    rcases thrown with rfl | rfl | rfl | rfl | rfl | rfl <;>
      simp [Failure.status, Failure.exception, named, ErrorResponse.of]

/-- What an error in an answer says: it is one that the handler throws, or a call of the
request failed. Only a failed call, or a total too large for its column, is a server error. -/
theorem errors_explained (run : Run (Site.step cfg) s ts s') (accepted : r.accepted = true)
    (serving : s.world.procs[pid]? = some r.proc)
    (answered : s'.world.procs[pid]? = some (.done (.error failure))) :
    r.Expects pid ts failure ∧ (failure.status = some 500 → (∃ t ∈ ts, FailedCall pid t) ∨
      failure = .numericOverflow ∧ ∃ user body, r = .create user body) := by
  obtain ⟨p, served, answers⟩ := answers_of_run run accepted serving
  cases served.symm.trans answered
  refine ⟨answers, fun status => ?_⟩
  rcases answers with thrown | rfl | ⟨-, failed⟩
  · exact .inr (overflow_of_status thrown status)
  · cases status
  · exact .inl failed

/-- The seats are locked, then the database does not answer. -/
def outage : List Site.Action :=
  ([{}, {}, {}, {}, { ids := [flat 1] }, {}, { fault := true }, {}] : List Choice).map
    fun c => .booking (.turn 0 c)

theorem outage_enabled : (exec (Site.step sampleConfig) creating outage).isSome = true := by
  decide +kernel

theorem errors_explained_outage :
    (replay (Site.step sampleConfig) creating outage outage_enabled).world.procs[0]? =
        some (.done (.error .fault)) ∧
      ∃ t ∈ transitions (Site.step sampleConfig) creating outage, FailedCall 0 t := by
  have serving : creating.world.procs[0]? = some sampleCreate.proc := by decide +kernel
  have answered : (replay (Site.step sampleConfig) creating outage outage_enabled).world.procs[0]? =
      some (.done (.error .fault)) := by decide +kernel
  obtain ⟨-, server⟩ := errors_explained (run_replay outage_enabled) (by decide +kernel) serving answered
  exact ⟨answered, (server rfl).resolve_right nofun⟩

end KiTicket
