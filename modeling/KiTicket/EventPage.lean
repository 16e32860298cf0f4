import KiTicket.Lib.Effects
import KiTicket.Admission
import KiTicket.Fetch
import KiTicket.Reserving

/-! `EventPage.tsx`: choosing seats and reserving them from the browser. The page asks for its
event every ten seconds, `reserve` joins the waiting room, asks for its place and posts the
reservation, and meanwhile requests and answers are late or lost. What one input or callback
sets is rendered before the next. -/
namespace KiTicket.EventPage
open Runs Effects Api
open Broker (Json)
open Events (EventDetail InventorySeat detail)

/-! ## The page -/

inductive Phase where
  | view | waiting | reserving
deriving DecidableEq

/-- How far a run of `reserve` has come. A request has a process from when it arrives. -/
inductive Stage where
  | joining (call : Api.Progress WaitingRoomEntry) (pid : Option Nat)
  | queued (attempt : Nat) (admission : WaitingRoomEntry)
  | polling (attempt : Nat) (admission : WaitingRoomEntry) (call : Api.Progress WaitingRoomEntry)
  | creating (token : Text) (call : Api.Progress Reservation) (pid : Option Nat)
  /-- `navigate` to the checkout. -/
  | left (reservation : Reservation)
  | failed

/-- A run of `reserve`, with what it has closed over. -/
structure Attempt where
  user : AuthenticatedUser
  eventId : Text
  seatIds : List Text
  event : EventDetail
  stage : Stage

/-- `narm-pending-reservation` -/
structure Pending where
  eventId : Text
  seatIds : List Text

/-- `narm-reservation` -/
structure Kept where
  reservation : Reservation
  seats : List InventorySeat
  total : Amount

/-- Where `navigate` has led. -/
inductive Destination where
  | login
  | checkout (id : Uuid)
deriving DecidableEq

structure View where
  id : Text
  event : Option EventDetail
  selected : List Text
  phase : Phase
  queuePosition : Option Nat
  error : Text
  session : Option AuthenticatedUser
  /-- `location.state` asks for the reservation to be resumed. -/
  resumeReservation : Bool
  resumed : Bool
  pending : Option Pending
  kept : Option Kept
  destination : Option Destination
  attempts : List Attempt

/-! ### The effect that refreshes -/

inductive Refresh where
  | calling (progress : Api.Progress EventDetail)
  /-- The timer of ten seconds. -/
  | resting
  | done

inductive Choice where
  | proceed
  | serve (now : Nat)
  | refuse (status : Nat) (body : Option Json)
  | lose (timedOut : Bool)

def offered (event : EventDetail) (seatId : Text) : Bool :=
  event.inventory.any fun seat => seat.id.text = seatId ∧ seat.state = .available

def View.show (view : View) (event : EventDetail) : View :=
  { view with event := some event, error := [], selected := view.selected.filter (offered event) }

def Choice.fetched (s : Site) (id : Text) : Choice → Option (Fetched EventDetail)
  | .proceed => none
  | .serve now => (detail s.venues s.db now id).toOption.map .ok
  | .refuse status body => some (.refused status body)
  | .lose timedOut => some (.lost timedOut)

def callback (active : Bool) (view : View) : Api.Progress EventDetail → Option (Refresh × View)
  | .resolved event => some (if active then (.resting, view.show event) else (.done, view))
  | .rejected error =>
    some (if active then (.resting, { view with error := error.message }) else (.done, view))
  | .aborted => some (.done, view)
  | progress => (progress.fetch !active).map fun progress => (.calling progress, view)

def turn (s : Site) (id : Text) (active : Bool) (choice : Choice) (view : View) :
    Refresh → Option (Refresh × View)
  | .calling progress =>
    match choice with
    | .proceed => callback active view progress
    | _ => (choice.fetched s id).bind fun fetched =>
      (progress.settle true (!active) fetched).map fun progress => (.calling progress, view)
  | .resting =>
    match choice with
    | .proceed => if active then some (.calling (.ready 0), view) else none
    | _ => none
  | .done => none

/-! ### `toggle` and `reserve` -/

def includes (seatIds : List Text) (seatId : Text) : Bool := seatIds.any (· = seatId)

def toggle (seatId : Text) (selected : List Text) : List Text :=
  if includes selected seatId then selected.filter (· ≠ seatId)
  else if selected.length < 10 then selected ++ [seatId]
  else selected

def View.reserve (view : View) (event : EventDetail) (seatIds : List Text) : View :=
  match view.session with
  | none => { view with pending := some ⟨view.id, seatIds⟩, destination := some .login }
  | some user => { view with
      error := []
      phase := .waiting
      attempts := view.attempts ++ [⟨user, view.id, seatIds, event, .joining (.ready 0) none⟩] }

/-- The second effect has something to do. It runs before the next input. -/
def View.resumes (view : View) : Bool :=
  view.session.isSome && view.event.isSome && !view.resumed && view.resumeReservation

def takenMeanwhile : Text :=
  "صندلی‌های انتخاب‌شده در این فاصله رزرو شده‌اند؛ لطفاً دوباره انتخاب کنید.".toList

def View.resume (view : View) (event : EventDetail) : View :=
  let view := { view with resumed := true, resumeReservation := false }
  match view.pending with
  | none => view
  | some pending =>
    if pending.eventId ≠ view.id then view
    else
      match pending.seatIds.filter (offered event) with
      | [] => { view with error := takenMeanwhile, pending := none }
      | available => { view with selected := available }.reserve event available

/-- What the user does and what becomes of the calls of `reserve`, by their number. -/
inductive Input where
  | toggle (seatId : Text)
  | press
  | resume
  | session (user : Option AuthenticatedUser)
  /-- A request arrives. -/
  | deliver (i : Nat)
  /-- Its answer arrives. -/
  | answer (i : Nat)
  /-- The server answers the request for the place in the queue. -/
  | poll (i : Nat)
  | refuse (i : Nat) (status : Nat) (body : Option Json)
  | lose (i : Nat) (timedOut : Bool)
  /-- A call begins, a timer goes off, or `reserve` goes on with what a call has come to. -/
  | proceed (i : Nat)

/-- The request a run of `reserve` has sent and that has not arrived. -/
def Attempt.request (attempt : Attempt) : Option Request :=
  match attempt.stage with
  | .joining (.sent _) none => some (.join attempt.user attempt.eventId)
  | .creating token (.sent _) none =>
    some (.create attempt.user ⟨attempt.eventId, attempt.seatIds, some token⟩)
  | _ => none

def Attempt.arrive (attempt : Attempt) (pid : Nat) : Attempt :=
  match attempt.stage with
  | .joining call _ => { attempt with stage := .joining call (some pid) }
  | .creating token call _ => { attempt with stage := .creating token call (some pid) }
  | _ => attempt

/-- The answer of the process that serves it. -/
def Attempt.answer (attempt : Attempt) (procs : List Proc) : Option Attempt :=
  match attempt.stage with
  | .joining (.sent _) (some pid) =>
    match procs[pid]? with
    | some (.done (.entry admission)) =>
      some { attempt with stage := .joining (.resolved admission) (some pid) }
    | _ => none
  | .creating token (.sent _) (some pid) =>
    match procs[pid]? with
    | some (.done (.reservation reservation)) =>
      some { attempt with stage := .creating token (.resolved reservation) (some pid) }
    | _ => none
  | _ => none

def Attempt.poll (attempt : Attempt) (db : Db) : Option Attempt :=
  match attempt.stage with
  | .polling n admission (.sent _) =>
    (WaitingRoom.status db attempt.user admission.id.text).toOption.map fun entry =>
      { attempt with stage := .polling n admission (.resolved entry) }
  | _ => none

/-- A call ends without what it asked for. Only the polls are tried again. -/
def Attempt.fault (attempt : Attempt) (status : Option (Nat × Option Json)) (timedOut : Bool) :
    Option Attempt :=
  let fetched {β : Type} : Fetched β :=
    match status with
    | some (status, body) => .refused status body
    | none => .lost timedOut
  match attempt.stage with
  | .joining call pid => (call.settle false false fetched).map fun call =>
    { attempt with stage := .joining call pid }
  | .polling n admission call => (call.settle true false fetched).map fun call =>
    { attempt with stage := .polling n admission call }
  | .creating token call pid => (call.settle false false fetched).map fun call =>
    { attempt with stage := .creating token call pid }
  | _ => none

def waitedTooLong : Text :=
  "زمان انتظار طولانی شد؛ جایگاه شما حفظ شده و می‌توانید دوباره وضعیت را بررسی کنید.".toList

/-- The `catch` of `reserve`. -/
def fail (view : View) (attempt : Attempt) (message : Text) : View × Attempt :=
  ({ view with error := message, phase := .view, queuePosition := none },
    { attempt with stage := .failed })

/-- The loop of `reserve`, and the guard after it. -/
def admitted (view : View) (attempt : Attempt) (n : Nat) (admission : WaitingRoomEntry) :
    View × Attempt :=
  let view := { view with queuePosition := some admission.position }
  if admission.state = .queued ∧ n < 60 then (view, { attempt with stage := .queued n admission })
  else if admission.state = .admitted then
    match admission.admissionToken with
    | none | some [] => fail view attempt waitedTooLong
    | some token =>
      ({ view with phase := .reserving }, { attempt with stage := .creating token (.ready 0) none })
  else fail view attempt waitedTooLong

/-- The reservation is there: off to the checkout. -/
def leave (view : View) (attempt : Attempt) (reservation : Reservation) : View × Attempt :=
  ({ view with
      kept := some ⟨reservation,
        attempt.event.inventory.filter fun seat => includes attempt.seatIds seat.id.text,
        reservation.totalAmount⟩
      pending := none
      destination := some (.checkout reservation.id) },
    { attempt with stage := .left reservation })

def proceed (view : View) (attempt : Attempt) : Option (View × Attempt) :=
  match attempt.stage with
  | .joining (.resolved admission) _ => some (admitted view attempt 0 admission)
  | .joining (.rejected error) _ => some (fail view attempt error.message)
  | .joining call pid => (call.fetch false).map fun call =>
    (view, { attempt with stage := .joining call pid })
  | .queued n admission => some (view, { attempt with stage := .polling n admission (.ready 0) })
  | .polling n _ (.resolved admission) => some (admitted view attempt (n + 1) admission)
  | .polling _ _ (.rejected error) => some (fail view attempt error.message)
  | .polling n admission call => (call.fetch false).map fun call =>
    (view, { attempt with stage := .polling n admission call })
  | .creating _ (.resolved reservation) _ => some (leave view attempt reservation)
  | .creating _ (.rejected error) _ => some (fail view attempt error.message)
  | .creating token call pid => (call.fetch false).map fun call =>
    (view, { attempt with stage := .creating token call pid })
  | .left _ | .failed => none

/-- The inputs are there, and nothing is to be resumed first. -/
def View.ready (view : View) : Bool := view.destination.isNone && !view.resumes

def View.update (view : View) (i : Nat) (attempt : Attempt) : View :=
  { view with attempts := view.attempts.set i attempt }

def act (cfg : Config) (s : Site) (view : View) : Input → Option (Site × View)
  | .toggle seatId =>
    if view.ready && view.event.any (offered · seatId) then
      some (s, { view with selected := toggle seatId view.selected })
    else none
  | .press => view.event.bind fun event =>
    if view.ready ∧ event.bookable = true ∧ view.selected ≠ [] ∧ view.phase = .view then
      some (s, view.reserve event view.selected)
    else none
  | .resume => view.event.bind fun event =>
    if view.destination.isNone && view.resumes then some (s, view.resume event) else none
  | .session user => some (s, { view with session := user })
  | .deliver i => view.attempts[i]?.bind fun attempt => attempt.request.bind fun request =>
    (s.step cfg (.booking (.request request))).map fun s' =>
      (s', view.update i (attempt.arrive s.world.procs.length))
  | .answer i => view.attempts[i]?.bind fun attempt =>
    (attempt.answer s.world.procs).map fun attempt => (s, view.update i attempt)
  | .poll i => view.attempts[i]?.bind fun attempt =>
    (attempt.poll s.db).map fun attempt => (s, view.update i attempt)
  | .refuse i status body => view.attempts[i]?.bind fun attempt =>
    (attempt.fault (some (status, body)) false).map fun attempt => (s, view.update i attempt)
  | .lose i timedOut => view.attempts[i]?.bind fun attempt =>
    (attempt.fault none timedOut).map fun attempt => (s, view.update i attempt)
  | .proceed i => view.attempts[i]?.bind fun attempt =>
    (proceed view attempt).map fun moved => (s, moved.1.update i moved.2)

variable {cfg : Config} {s s' : Site} {id : Text} {active : Bool} {choice : Choice}
  {state state' : Refresh} {view view' : View}

/-- What a turn of the refreshing effect can be. -/
inductive Turned (s : Site) (id : Text) (active : Bool) (choice : Choice) (view : View) :
    Refresh → Refresh → View → Prop where
  | began {n : Nat} :
      Turned s id active choice view (.calling (.ready n))
        (.calling (if !active then .aborted else .sent n)) view
  | ended {n : Nat} {fetched : Fetched EventDetail} (fetches : choice.fetched s id = some fetched) :
      Turned s id active choice view (.calling (.sent n))
        (.calling (Api.receive true (!active) n fetched)) view
  | shows {event : EventDetail} (on : active = true) :
      Turned s id active choice view (.calling (.resolved event)) .resting (view.show event)
  | fails {error : ApiError} (on : active = true) :
      Turned s id active choice view (.calling (.rejected error)) .resting
        { view with error := error.message }
  | stops {call : Api.Progress EventDetail} : Turned s id active choice view (.calling call) .done view
  | again (on : active = true) :
      Turned s id active choice view .resting (.calling (.ready 0)) view

theorem turned_callback {call : Api.Progress EventDetail}
    (moves : callback active view call = some (state', view')) :
    Turned s id active choice view (.calling call) state' view' := by
  cases call with
  | ready =>
    cases moves
    exact .began
  | sent => cases moves
  | aborted =>
    cases moves
    exact .stops
  | resolved =>
    cases active with
    | false =>
      cases moves
      exact .stops
    | true =>
      cases moves
      exact .shows rfl
  | rejected =>
    cases active with
    | false =>
      cases moves
      exact .stops
    | true =>
      cases moves
      exact .fails rfl

theorem turned_of_turn (moves : turn s id active choice view state = some (state', view')) :
    Turned s id active choice view state state' view' := by
  have settled {call : Api.Progress EventDetail}
      (moves : (choice.fetched s id).bind (fun fetched =>
        (call.settle true (!active) fetched).map fun call => (Refresh.calling call, view)) =
          some (state', view')) : Turned s id active choice view (.calling call) state' view' := by
    obtain ⟨fetched, fetches, moves⟩ := Option.bind_eq_some_iff.mp moves
    obtain ⟨call', settles, last⟩ := Option.map_eq_some_iff.mp moves
    cases last
    cases call with
    | sent =>
      cases settles
      exact .ended fetches
    | _ => cases settles
  cases state with
  | calling call =>
    cases choice with
    | proceed => exact turned_callback moves
    | _ => exact settled moves
  | resting =>
    cases choice with
    | proceed =>
      cases active with
      | false => cases moves
      | true =>
        cases moves
        exact .again rfl
    | _ => cases moves
  | done => cases moves

theorem Turned.quiet (turned : Turned s id false choice view state state' view') : view' = view := by
  cases turned with
  | shows on | fails on => cases on
  | _ => rfl

def hook (cfg : Config) : Hook Site Site.Action Text Refresh View Choice Input where
  env s a := s.step cfg a
  start _ := .calling (.ready 0)
  enter id view := { view with id }
  turn s id active choice state view := turn s id active choice view state
  act s input view := act cfg s view input
  quiet moves := (turned_of_turn moves).quiet

/-- A visit begins. -/
def fresh (session : Option AuthenticatedUser) (resumeReservation : Bool) (pending : Option Pending) :
    View :=
  ⟨[], none, [], .view, none, [], session, resumeReservation, false, pending, none, none, []⟩

/-! ## What inputs do -/

variable {event : EventDetail} {attempt attempt' : Attempt} {input : Input} {i : Nat}

/-- Before the request for the reservation. -/
def Stage.early : Stage → Bool
  | .joining _ _ | .queued _ _ | .polling _ _ _ => true
  | _ => false

def Stage.underway : Stage → Bool
  | .left _ | .failed => false
  | _ => true

def Attempt.underway (attempt : Attempt) : Bool := attempt.stage.underway

/-- A call of `reserve` goes on, or ends without what it asked for. The reservation is not
there, and whether its request has arrived is as it was. -/
inductive Stage.Calls : Stage → Stage → Prop where
  | joining {call call' : Api.Progress WaitingRoomEntry} {pid : Option Nat} :
      Calls (.joining call pid) (.joining call' pid)
  | polls {n : Nat} {admission : WaitingRoomEntry} {call : Api.Progress WaitingRoomEntry} :
      Calls (.queued n admission) (.polling n admission call)
  | polling {n : Nat} {admission : WaitingRoomEntry} {call call' : Api.Progress WaitingRoomEntry} :
      Calls (.polling n admission call) (.polling n admission call')
  | creating {token : Text} {call call' : Api.Progress Reservation} {pid : Option Nat}
      (open' : ∀ r, call' ≠ .resolved r) : Calls (.creating token call pid) (.creating token call' pid)

/-- Another stage of the same run of `reserve`. -/
def Attempt.Becomes (attempt attempt' : Attempt) (related : Stage → Stage → Prop) : Prop :=
  attempt' = { attempt with stage := attempt'.stage } ∧ related attempt.stage attempt'.stage

theorem becomes_of_poll {db : Db} (moves : attempt.poll db = some attempt') :
    attempt.Becomes attempt' Stage.Calls := by
  unfold Attempt.poll at moves
  split at moves
  · rename_i stage
    obtain ⟨entry, -, rfl⟩ := Option.map_eq_some_iff.mp moves
    exact ⟨rfl, stage ▸ .polling⟩
  · cases moves

/-- A call that is not tried again and fetches nothing resolves to nothing. -/
theorem unresolved_of_settle {β : Type} {call call' : Api.Progress β} {fetched : Fetched β}
    (none : ∀ body, fetched ≠ .ok body)
    (settles : call.settle false false fetched = some call') (body : β) : call' ≠ .resolved body := by
  cases call with
  | sent n =>
    cases settles
    rcases receive_cases false n fetched with
      ⟨body, ok, -⟩ | ⟨-, again⟩ | ⟨error, -, rejected⟩
    · exact absurd ok (none body)
    · rw [again]
      intro same
      cases same
    · rw [rejected]
      intro same
      cases same
  | _ => cases settles

theorem becomes_of_fault {status : Option (Nat × Option Json)} {timedOut : Bool}
    (moves : attempt.fault status timedOut = some attempt') :
    attempt.Becomes attempt' Stage.Calls := by
  unfold Attempt.fault at moves
  simp only at moves
  split at moves
  · rename_i stage
    obtain ⟨call, -, rfl⟩ := Option.map_eq_some_iff.mp moves
    exact ⟨rfl, stage ▸ .joining⟩
  · rename_i stage
    obtain ⟨call, -, rfl⟩ := Option.map_eq_some_iff.mp moves
    exact ⟨rfl, stage ▸ .polling⟩
  · rename_i stage
    obtain ⟨call, settles, rfl⟩ := Option.map_eq_some_iff.mp moves
    refine ⟨rfl, stage ▸ .creating (unresolved_of_settle (fun body => ?_) settles)⟩
    cases status <;> exact fun ok => (by cases ok)
  · cases moves

/-- What `reserve` does when it goes on. -/
inductive Proceeds (view : View) (attempt : Attempt) : View × Attempt → Prop where
  | calls {stage : Stage} (goes : attempt.stage.Calls stage) :
      Proceeds view attempt (view, { attempt with stage })
  | admitted {n : Nat} {admission : WaitingRoomEntry} (early : attempt.stage.early = true) :
      Proceeds view attempt (EventPage.admitted view attempt n admission)
  | fails {message : Text} (underway : attempt.stage.underway = true) :
      Proceeds view attempt (fail view attempt message)
  | leaves {token : Text} {r : Reservation} {pid : Option Nat}
      (there : attempt.stage = .creating token (.resolved r) pid) :
      Proceeds view attempt (leave view attempt r)

theorem unresolved_of_fetch {β : Type} {call call' : Api.Progress β}
    (begins : call.fetch false = some call') (body : β) : call' ≠ .resolved body := by
  cases call with
  | ready =>
    cases begins
    intro same
    cases same
  | _ => cases begins

theorem proceeds_of_proceed {moved : View × Attempt} (moves : proceed view attempt = some moved) :
    Proceeds view attempt moved := by
  obtain ⟨user, eventId, seatIds, event, stage⟩ := attempt
  cases stage with
  | queued n admission =>
    cases moves
    exact .calls .polls
  | left | failed => cases moves
  | joining call pid | polling n admission call =>
    cases call with
    | resolved admission =>
      cases moves
      exact .admitted rfl
    | rejected error =>
      cases moves
      exact .fails rfl
    | _ =>
      simp only [proceed, Option.map_eq_some_iff] at moves
      obtain ⟨call', -, rfl⟩ := moves
      exact .calls (by constructor)
  | creating token call pid =>
    cases call with
    | resolved r =>
      cases moves
      exact .leaves rfl
    | rejected error =>
      cases moves
      exact .fails rfl
    | _ =>
      simp only [proceed, Option.map_eq_some_iff] at moves
      obtain ⟨call', begins, rfl⟩ := moves
      exact .calls (.creating (unresolved_of_fetch begins))

/-- What an input can do. -/
inductive Acted (cfg : Config) (s : Site) (view : View) : Input → Site → View → Prop where
  | toggled {seatId : Text} {event : EventDetail} (shown : view.event = some event)
      (free : offered event seatId = true) :
      Acted cfg s view (.toggle seatId) s { view with selected := toggle seatId view.selected }
  | pressed {event : EventDetail} (ready : view.ready = true) (shown : view.event = some event)
      (chosen : view.selected ≠ []) (idle : view.phase = .view) :
      Acted cfg s view .press s (view.reserve event view.selected)
  | resumed {event : EventDetail} (shown : view.event = some event) (due : view.resumes = true) :
      Acted cfg s view .resume s (view.resume event)
  | session {user : Option AuthenticatedUser} :
      Acted cfg s view (.session user) s { view with session := user }
  | delivered {i : Nat} {attempt : Attempt} {request : Request} {s' : Site}
      (here : view.attempts[i]? = some attempt) (sent : attempt.request = some request)
      (arrives : s.step cfg (.booking (.request request)) = some s') :
      Acted cfg s view (.deliver i) s' (view.update i (attempt.arrive s.world.procs.length))
  | answered {i : Nat} {attempt attempt' : Attempt} (here : view.attempts[i]? = some attempt)
      (answers : attempt.answer s.world.procs = some attempt') :
      Acted cfg s view (.answer i) s (view.update i attempt')
  | heard {input : Input} {i : Nat} {attempt attempt' : Attempt} (undelivered : ∀ j, input ≠ .deliver j)
      (here : view.attempts[i]? = some attempt) (becomes : attempt.Becomes attempt' Stage.Calls) :
      Acted cfg s view input s (view.update i attempt')
  | proceeded {i : Nat} {attempt : Attempt} {moved : View × Attempt}
      (here : view.attempts[i]? = some attempt) (proceeds : Proceeds view attempt moved) :
      Acted cfg s view (.proceed i) s (moved.1.update i moved.2)

theorem acted_of_act (moves : act cfg s view input = some (s', view')) :
    Acted cfg s view input s' view' := by
  cases input with
  | toggle seatId =>
    simp only [act] at moves
    split at moves
    · rename_i guard
      cases moves
      obtain ⟨event, shown, free⟩ := (Option.any_eq_true _ _).mp (Bool.and_eq_true _ _ ▸ guard).2
      exact .toggled shown free
    · cases moves
  | press =>
    obtain ⟨event, shown, moves⟩ := Option.bind_eq_some_iff.mp moves
    split at moves
    · rename_i guard
      cases moves
      exact .pressed guard.1 shown guard.2.2.1 guard.2.2.2
    · cases moves
  | resume =>
    obtain ⟨event, shown, moves⟩ := Option.bind_eq_some_iff.mp moves
    split at moves
    · rename_i guard
      cases moves
      exact .resumed shown (Bool.and_eq_true _ _ ▸ guard).2
    · cases moves
  | session user =>
    cases moves
    exact .session
  | deliver i =>
    obtain ⟨attempt, here, moves⟩ := Option.bind_eq_some_iff.mp moves
    obtain ⟨request, sent, moves⟩ := Option.bind_eq_some_iff.mp moves
    obtain ⟨site, arrives, last⟩ := Option.map_eq_some_iff.mp moves
    cases last
    exact .delivered here sent arrives
  | answer i =>
    obtain ⟨attempt, here, moves⟩ := Option.bind_eq_some_iff.mp moves
    obtain ⟨attempt', answers, last⟩ := Option.map_eq_some_iff.mp moves
    cases last
    exact .answered here answers
  | poll i =>
    obtain ⟨attempt, here, moves⟩ := Option.bind_eq_some_iff.mp moves
    obtain ⟨attempt', polls, last⟩ := Option.map_eq_some_iff.mp moves
    cases last
    exact .heard (fun _ same => (by cases same)) here (becomes_of_poll polls)
  | refuse i | lose i =>
    obtain ⟨attempt, here, moves⟩ := Option.bind_eq_some_iff.mp moves
    obtain ⟨attempt', faults, last⟩ := Option.map_eq_some_iff.mp moves
    cases last
    exact .heard (fun _ same => (by cases same)) here (becomes_of_fault faults)
  | proceed i =>
    obtain ⟨attempt, here, moves⟩ := Option.bind_eq_some_iff.mp moves
    obtain ⟨moved, proceeds, last⟩ := Option.map_eq_some_iff.mp moves
    cases last
    exact .proceeded here (proceeds_of_proceed proceeds)

/-! ## What is selected, and what is asked for -/

/-- At most ten seats, no two of them the same. -/
def Picked (seatIds : List Text) : Prop := seatIds.Nodup ∧ seatIds.length ≤ 10

theorem picked_toggle {seatId : Text} {selected : List Text} (picked : Picked selected) :
    Picked (toggle seatId selected) := by
  obtain ⟨distinct, few⟩ := picked
  unfold toggle
  split
  · exact ⟨distinct.filter _, (List.length_filter_le _ _).trans few⟩
  · rename_i new
    split
    · rename_i room
      refine ⟨List.nodup_append.mpr ⟨distinct, List.nodup_singleton _, ?_⟩, ?_⟩
      · rintro x member y other rfl
        exact new (List.any_eq_true.mpr ⟨x, member, decide_eq_true (List.mem_singleton.mp other)⟩)
      · rw [List.length_append]
        exact room
    · exact ⟨distinct, few⟩

theorem Picked.filter {selected : List Text} (picked : Picked selected) (p : Text → Bool) :
    Picked (selected.filter p) :=
  ⟨picked.1.filter _, (List.length_filter_le _ _).trans picked.2⟩

/-- What is selected is offered by the event that is shown. Each run of `reserve` is for one to
ten seats its event offered; one at most is under way, and then no other can be started. -/
structure View.Orderly (view : View) : Prop where
  selected : Picked view.selected
  free : ∀ x ∈ view.selected, ∃ event, view.event = some event ∧ offered event x = true
  pending : ∀ p, view.pending = some p → Picked p.seatIds
  attempts : ∀ a ∈ view.attempts, a.seatIds ≠ [] ∧ Picked a.seatIds ∧
    ∀ x ∈ a.seatIds, offered a.event x = true
  single : view.attempts.countP Attempt.underway ≤ 1
  idle : view.phase = .view → view.attempts.countP Attempt.underway = 0
  resumed : view.attempts ≠ [] → view.resumed = true ∨ view.resumeReservation = false

theorem orderly_fresh {session : Option AuthenticatedUser} {resumeReservation : Bool}
    {pending : Option Pending} (stored : ∀ p, pending = some p → Picked p.seatIds) :
    (fresh session resumeReservation pending).Orderly where
  selected := ⟨List.nodup_nil, Nat.zero_le _⟩
  free := fun _ member => absurd member List.not_mem_nil
  pending := stored
  attempts := fun _ member => absurd member List.not_mem_nil
  single := Nat.zero_le _
  idle := fun _ => rfl
  resumed := fun attempted => absurd rfl attempted

theorem View.Orderly.show (orderly : view.Orderly) (event : EventDetail) : (view.show event).Orderly where
  selected := orderly.selected.filter _
  free := fun _ member => ⟨event, rfl, (List.mem_filter.mp member).2⟩
  pending := orderly.pending
  attempts := orderly.attempts
  single := orderly.single
  idle := orderly.idle
  resumed := orderly.resumed

theorem View.Orderly.reserve {seatIds : List Text} (orderly : view.Orderly) (picked : Picked seatIds)
    (chosen : seatIds ≠ []) (free : ∀ x ∈ seatIds, offered event x = true)
    (idle : view.attempts.countP Attempt.underway = 0)
    (resumed : view.resumed = true ∨ view.resumeReservation = false ∨ view.session = none) :
    (view.reserve event seatIds).Orderly := by
  unfold View.reserve
  split
  · exact { orderly with pending := fun p stored => Option.some.inj stored ▸ picked }
  · rename_i user signedIn
    have begun : (view.attempts ++ [(⟨user, view.id, seatIds, event, .joining (.ready 0) none⟩ :
        Attempt)]).countP Attempt.underway = 1 := by
      rw [List.countP_append, idle]
      rfl
    refine { orderly with attempts := ?_, single := begun.le, idle := fun same => ?_, resumed := fun _ => ?_ }
    · intro a member
      rcases List.mem_append.mp member with earlier | new
      · exact orderly.attempts a earlier
      · obtain rfl := List.mem_singleton.mp new
        exact ⟨chosen, picked, free⟩
    · cases same
    · rcases resumed with done | none | unsigned
      · exact .inl done
      · exact .inr none
      · rw [signedIn] at unsigned
        cases unsigned

theorem View.Orderly.resume (orderly : view.Orderly) (due : view.resumes = true)
    (shown : view.event = some event) :
    (view.resume event).Orderly := by
  simp only [View.resumes, Bool.and_eq_true, Bool.not_eq_true'] at due
  obtain ⟨⟨-, unresumed⟩, asked⟩ := due
  have unattempted : view.attempts = [] := by
    by_contra attempted
    rcases orderly.resumed attempted with done | none
    · rw [unresumed] at done
      cases done
    · rw [asked] at none
      cases none
  have marked : ({ view with resumed := true, resumeReservation := false } : View).Orderly :=
    { orderly with resumed := fun _ => .inl rfl }
  unfold View.resume
  generalize takenMeanwhile = message
  simp only
  split
  · exact marked
  rename_i p stored
  split
  · exact marked
  split
  · exact { marked with pending := fun _ gone => (by cases gone) }
  · rename_i available chosen
    have free : ∀ x ∈ p.seatIds.filter (offered event), offered event x = true :=
      fun x member => (List.mem_filter.mp member).2
    have picked : Picked (p.seatIds.filter (offered event)) := (orderly.pending p stored).filter _
    have restored : ({ view with
        resumed := true, resumeReservation := false, selected := p.seatIds.filter (offered event) } :
          View).Orderly :=
      { marked with selected := picked, free := fun x member => ⟨event, shown, free x member⟩ }
    refine restored.reserve picked chosen free ?_ (.inl rfl)
    rw [unattempted]
    rfl

/-- The page after one of the runs of `reserve` has come further. -/
structure View.Advances (view : View) (attempt : Attempt) (moved : View) (attempt' : Attempt) : Prop where
  same : attempt' = { attempt with stage := attempt'.stage }
  selected : moved.selected = view.selected
  event : moved.event = view.event
  attempts : moved.attempts = view.attempts
  resumed : moved.resumed = view.resumed
  resumeReservation : moved.resumeReservation = view.resumeReservation
  pending : ∀ p, moved.pending = some p → view.pending = some p
  underway : attempt'.underway = true → attempt.underway = true
  phase : moved.phase = .view → view.phase = .view ∨
    attempt.underway = true ∧ attempt'.underway = false

theorem advances_of_stage (becomes : attempt' = { attempt with stage := attempt'.stage })
    (underway : attempt'.underway = true → attempt.underway = true) :
    view.Advances attempt view attempt' :=
  ⟨becomes, rfl, rfl, rfl, rfl, rfl, fun _ stored => stored, underway, .inl⟩

theorem Stage.Calls.underway {stage stage' : Stage} (calls : stage.Calls stage') :
    stage.underway = true := by
  cases calls <;> rfl

theorem underway_of_early {stage : Stage} (early : stage.early = true) : stage.underway = true := by
  cases stage with
  | left | failed | creating => cases early
  | _ => rfl

theorem advances_fail {message : Text} (underway : attempt.underway = true) :
    view.Advances attempt (fail view attempt message).1 (fail view attempt message).2 :=
  ⟨rfl, rfl, rfl, rfl, rfl, rfl, fun _ stored => stored, fun _ => underway, fun _ => .inr ⟨underway, rfl⟩⟩

theorem Proceeds.advances {moved : View × Attempt} (proceeds : Proceeds view attempt moved) :
    view.Advances attempt moved.1 moved.2 := by
  cases proceeds with
  | calls goes => exact advances_of_stage rfl fun _ => goes.underway
  | fails underway => exact advances_fail underway
  | leaves there =>
    have underway : attempt.underway = true := by
      rw [Attempt.underway, there]
      rfl
    exact ⟨rfl, rfl, rfl, rfl, rfl, rfl, fun _ gone => (by cases gone), fun _ => underway, .inl⟩
  | @admitted n admission early =>
    have underway : attempt.underway = true := underway_of_early early
    unfold EventPage.admitted
    generalize waitedTooLong = message
    have failed : ({ view with queuePosition := some admission.position } : View).Advances attempt
        (fail { view with queuePosition := some admission.position } attempt message).1
        (fail { view with queuePosition := some admission.position } attempt message).2 :=
      advances_fail underway
    have numbered : view.Advances attempt
        (fail { view with queuePosition := some admission.position } attempt message).1
        (fail { view with queuePosition := some admission.position } attempt message).2 :=
      { failed with }
    simp only
    split
    · exact ⟨rfl, rfl, rfl, rfl, rfl, rfl, fun _ stored => stored, fun _ => underway, .inl⟩
    split
    · split
      · exact numbered
      · exact numbered
      · exact ⟨rfl, rfl, rfl, rfl, rfl, rfl, fun _ stored => stored, fun _ => underway,
          fun back => (by cases back)⟩
    · exact numbered

theorem View.Orderly.advance {moved : View} (orderly : view.Orderly)
    (here : view.attempts[i]? = some attempt) (advances : view.Advances attempt moved attempt') :
    (moved.update i attempt').Orderly := by
  obtain ⟨bound, found⟩ := List.getElem?_eq_some_iff.mp here
  have counted : (view.attempts.set i attempt').countP Attempt.underway =
      view.attempts.countP Attempt.underway - (if attempt.underway then 1 else 0) +
        if attempt'.underway then 1 else 0 := by
    rw [List.countP_set bound, found]
  have one : (if attempt.underway = true then 1 else 0) ≤ view.attempts.countP Attempt.underway := by
    have counts := List.boole_getElem_le_countP (p := Attempt.underway) bound
    rwa [found] at counts
  have single := orderly.single
  constructor <;> simp only [View.update, advances.attempts]
  · exact advances.selected ▸ orderly.selected
  · rw [advances.selected, advances.event]
    exact orderly.free
  · exact fun p stored => orderly.pending p (advances.pending p stored)
  · intro a member
    rcases List.mem_or_eq_of_mem_set member with kept | rfl
    · exact orderly.attempts a kept
    · rw [advances.same]
      exact orderly.attempts attempt (List.mem_of_getElem? here)
  · rw [counted]
    by_cases still : attempt'.underway = true
    · rw [if_pos (advances.underway still)] at one ⊢
      rw [if_pos still]
      omega
    · rw [if_neg still]
      omega
  · intro back
    rw [counted]
    rcases advances.phase back with idle | ⟨was, ends⟩
    · have none := orderly.idle idle
      have ended : attempt.underway = false := by
        cases under : attempt.underway with
        | false => rfl
        | true =>
          rw [if_pos under] at one
          omega
      have still : attempt'.underway ≠ true := fun still => by
        rw [advances.underway still] at ended
        cases ended
      rw [none, if_neg still, ended]
      rfl
    · rw [if_pos was, ends, if_neg Bool.false_ne_true]
      omega
  · intro attempted
    rw [advances.resumed, advances.resumeReservation]
    refine orderly.resumed fun none => attempted ?_
    rw [none, List.set_nil]

theorem becomes_of_answer {procs : List Proc} (answers : attempt.answer procs = some attempt') :
    attempt' = { attempt with stage := attempt'.stage } ∧ attempt.underway = true := by
  unfold Attempt.answer at answers
  split at answers
  · rename_i stage
    split at answers <;> cases answers
    exact ⟨rfl, by rw [Attempt.underway, stage]; rfl⟩
  · rename_i stage
    split at answers <;> cases answers
    exact ⟨rfl, by rw [Attempt.underway, stage]; rfl⟩
  · cases answers

theorem underway_of_request {request : Request} (sent : attempt.request = some request) :
    attempt.underway = true := by
  unfold Attempt.request at sent
  split at sent
  · rename_i stage
    rw [Attempt.underway, stage]
    rfl
  · rename_i stage
    rw [Attempt.underway, stage]
    rfl
  · cases sent

theorem arrive_stage {pid : Nat} :
    attempt.arrive pid = { attempt with stage := (attempt.arrive pid).stage } := by
  unfold Attempt.arrive
  split <;> rfl

theorem View.Orderly.act (orderly : view.Orderly) (acted : Acted cfg s view input s' view') :
    view'.Orderly := by
  cases acted with
  | toggled shown free =>
    rename_i seatId event
    refine { orderly with selected := picked_toggle orderly.selected, free := fun x member => ?_ }
    dsimp only [toggle] at member
    split at member
    · exact orderly.free x (List.mem_filter.mp member).1
    split at member
    · rcases List.mem_append.mp member with old | new
      · exact orderly.free x old
      · exact ⟨event, shown, List.mem_singleton.mp new ▸ free⟩
    · exact orderly.free x member
  | pressed ready shown chosen idle =>
    refine orderly.reserve orderly.selected chosen (fun x member => ?_) (orderly.idle idle) ?_
    · obtain ⟨event, known, free⟩ := orderly.free x member
      rw [shown, Option.some.injEq] at known
      exact known ▸ free
    · -- nothing is left to be resumed
      simp only [View.ready, View.resumes, shown, Bool.and_eq_true, Bool.not_eq_true',
        Bool.and_eq_false_iff] at ready
      rcases ready.2 with ((unsigned | never) | done) | none
      · exact .inr (.inr (Option.not_isSome_iff_eq_none.mp (by rw [unsigned]; exact Bool.false_ne_true)))
      · cases never
      · exact .inl (by simpa using done)
      · exact .inr (.inl none)
  | resumed shown due => exact orderly.resume due shown
  | session => exact { orderly with }
  | delivered here sent _ =>
    exact orderly.advance here (advances_of_stage arrive_stage fun _ => underway_of_request sent)
  | answered here answers =>
    obtain ⟨becomes, underway⟩ := becomes_of_answer answers
    exact orderly.advance here (advances_of_stage becomes fun _ => underway)
  | heard _ here becomes =>
    exact orderly.advance here (advances_of_stage becomes.1 fun _ => becomes.2.underway)
  | proceeded here proceeds => exact orderly.advance here proceeds.advances

/-! ## A visit to one event -/

abbrev Page := Component Site Text Refresh View

abbrev Record := List (Transition Page (Effects.Action Site.Action Text Choice Input))

/-- The server answered with the event, asked for by this id. -/
def Served (id : Text) (ts : Record) (event : EventDetail) : Prop :=
  ∃ t ∈ ts, ∃ now, detail t.source.env.venues t.source.env.db now id = .ok event

/-- Everything shown is what the server answered for this id, and everything asked for is for
it, of seats that such an answer offered. -/
structure Visit (id : Text) (ts : Record) (view : View) : Prop where
  orderly : view.Orderly
  named : view.id = id
  shown : ∀ event, view.event = some event → Served id ts event
  asked : ∀ a ∈ view.attempts, a.eventId = id ∧ Served id ts a.event

variable {ts : Record} {t : Transition Page (Effects.Action Site.Action Text Choice Input)}

theorem Served.concat (served : Served id ts event) : Served id (ts ++ [t]) event := by
  obtain ⟨u, member, answered⟩ := served
  exact ⟨u, List.mem_append_left _ member, answered⟩

theorem Visit.concat (visit : Visit id ts view) : Visit id (ts ++ [t]) view where
  orderly := visit.orderly
  named := visit.named
  shown := fun event known => (visit.shown event known).concat
  asked := fun a member => ⟨(visit.asked a member).1, (visit.asked a member).2.concat⟩

/-- What the page asks for it asked for already, or it is for the event that is shown. -/
def View.Asks (view view' : View) : Prop :=
  view'.id = view.id ∧ view'.event = view.event ∧
    ∀ a' ∈ view'.attempts, (∃ a ∈ view.attempts, a'.eventId = a.eventId ∧ a'.event = a.event) ∨
      a'.eventId = view.id ∧ view.event = some a'.event

theorem asks_of_same (id : view'.id = view.id) (event : view'.event = view.event)
    (attempts : view'.attempts = view.attempts) : view.Asks view' := by
  refine ⟨id, event, fun a member => .inl ⟨a, ?_, rfl, rfl⟩⟩
  rwa [attempts] at member

theorem asks_of_update {moved : View} (here : view.attempts[i]? = some attempt)
    (id : moved.id = view.id) (event : moved.event = view.event)
    (attempts : moved.attempts = view.attempts)
    (same : attempt' = { attempt with stage := attempt'.stage }) :
    view.Asks (moved.update i attempt') := by
  refine ⟨id, event, fun a member => .inl ?_⟩
  rw [View.update, attempts] at member
  rcases List.mem_or_eq_of_mem_set member with old | rfl
  · exact ⟨a, old, rfl, rfl⟩
  · exact ⟨attempt, List.mem_of_getElem? here, by rw [same], by rw [same]⟩

theorem asks_reserve {seatIds : List Text} (shown : view.event = some event) :
    view.Asks (view.reserve event seatIds) := by
  unfold View.reserve
  split
  · exact asks_of_same rfl rfl rfl
  · refine ⟨rfl, rfl, fun a member => ?_⟩
    rcases List.mem_append.mp member with old | new
    · exact .inl ⟨a, old, rfl, rfl⟩
    · obtain rfl := List.mem_singleton.mp new
      exact .inr ⟨rfl, shown⟩

theorem asks_resume (shown : view.event = some event) : view.Asks (view.resume event) := by
  unfold View.resume
  generalize takenMeanwhile = message
  simp only
  split
  · exact asks_of_same rfl rfl rfl
  split
  · exact asks_of_same rfl rfl rfl
  split
  · exact asks_of_same rfl rfl rfl
  · rename_i pending _ _ _ _
    show View.Asks { view with
      resumed := true, resumeReservation := false, selected := pending.seatIds.filter (offered event) } _
    exact asks_reserve shown

theorem Proceeds.same_id {moved : View × Attempt} (proceeds : Proceeds view attempt moved) :
    moved.1.id = view.id := by
  cases proceeds with
  | calls | fails | leaves => rfl
  | admitted =>
    unfold EventPage.admitted
    generalize waitedTooLong = message
    simp only
    repeat' split
    all_goals rfl

theorem Acted.asks (acted : Acted cfg s view input s' view') : view.Asks view' := by
  cases acted with
  | toggled | session => exact asks_of_same rfl rfl rfl
  | pressed ready shown => exact asks_reserve shown
  | resumed shown => exact asks_resume shown
  | delivered here => exact asks_of_update here rfl rfl rfl arrive_stage
  | answered here answers => exact asks_of_update here rfl rfl rfl (becomes_of_answer answers).1
  | heard _ here becomes => exact asks_of_update here rfl rfl rfl becomes.1
  | proceeded here proceeds =>
    have advances := proceeds.advances
    exact asks_of_update here proceeds.same_id advances.event advances.attempts advances.same

theorem Visit.act (visit : Visit id ts view) (acted : Acted cfg s view input s' view') :
    Visit id (ts ++ [t]) view' := by
  obtain ⟨named, event, attempts⟩ := acted.asks
  constructor
  · exact visit.orderly.act acted
  · exact named.trans visit.named
  · exact fun e known => (visit.shown e (event ▸ known)).concat
  · intro a' member
    rcases attempts a' member with ⟨a, old, sameId, sameEvent⟩ | ⟨mine, known⟩
    · obtain ⟨own, served⟩ := visit.asked a old
      exact ⟨sameId.trans own, sameEvent ▸ served.concat⟩
    · exact ⟨mine.trans visit.named, (visit.shown _ known).concat⟩

theorem served_of_fetched {choice : Choice} (fetches : choice.fetched t.source.env id = some (.ok event)) :
    Served id (ts ++ [t]) event := by
  cases choice with
  | serve now =>
    obtain ⟨answer, answered, same⟩ := Option.map_eq_some_iff.mp fetches
    cases same
    refine ⟨t, List.mem_concat_self, now, ?_⟩
    cases served : detail t.source.env.venues t.source.env.db now id with
    | error => simp [served, Except.toOption] at answered
    | ok other =>
      rw [served] at answered
      exact congrArg Except.ok (Option.some.inj answered)
  | proceed | refuse | lose => cases fetches

/-- While the page stays on its event it shows what the server has answered for it since it was
opened, and each run of `reserve` is for that event and for one to ten seats, no two the same,
that such an answer offered; no two of these runs are under way at a time. -/
theorem visit_of_run {session : Option AuthenticatedUser} {resumeReservation : Bool}
    {pending : Option Pending} {c₀ c c' : Page} (new : c₀.view = fresh session resumeReservation pending)
    (stored : ∀ p, pending = some p → Picked p.seatIds)
    (changed : (hook cfg).step c₀ (.change id) = some c) (run : Run (hook cfg).step c ts c')
    (calm : ∀ t ∈ ts, t.action.Calm) : Visit id ts c'.view := by
  have alone := alone_of_run (R := fun ts state view => Visit id ts view ∧
      ∀ event, state = .calling (.resolved event) → Served id ts event)
    changed run calm ?_ ?_ ?_ ?_
  · obtain ⟨before, state, -, -, -, visit, -⟩ := alone
    exact visit
  · have orderly : ({ c₀.view with id } : View).Orderly := by
      rw [new]
      have begun : (fresh session resumeReservation pending).Orderly := orderly_fresh stored
      exact { begun with }
    refine ⟨⟨orderly, rfl, fun event known => ?_, fun a member => ?_⟩, fun _ same => (by cases same)⟩
    · have none : c₀.view.event = some event := known
      rw [new] at none
      cases none
    · have none : a ∈ c₀.view.attempts := member
      rw [new] at none
      cases none
  · exact fun ts t state view kept _ =>
      ⟨kept.1.concat, fun event same => (kept.2 event same).concat⟩
  · rintro ts t choice state state' view view' ⟨visit, coming⟩ own moves
    cases turned_of_turn moves with
    | began | again | stops =>
      exact ⟨visit.concat, fun _ same => (by cases same)⟩
    | ended fetches =>
      refine ⟨visit.concat, fun event same => ?_⟩
      exact served_of_fetched (fetched_of_resolved (Refresh.calling.inj same) ▸ fetches)
    | shows =>
      rename_i event _
      have served := coming event rfl
      refine ⟨⟨visit.orderly.show event, visit.named, fun other known => ?_, fun a member => ?_⟩,
        fun _ same => (by cases same)⟩
      · exact Option.some.inj known ▸ served.concat
      · exact ⟨(visit.asked a member).1, (visit.asked a member).2.concat⟩
    | fails =>
      exact ⟨⟨{ visit.orderly with }, visit.named, visit.concat.shown, visit.concat.asked⟩,
        fun _ same => (by cases same)⟩
  · rintro ts t input state env view view' ⟨visit, coming⟩ - moves
    exact ⟨visit.act (acted_of_act moves), fun event same => (coming event same).concat⟩

/-! ## From the button to the checkout -/

/-- The request for the reservation. -/
def Attempt.body (attempt : Attempt) (token : Text) : CreateReservationDto :=
  ⟨attempt.eventId, attempt.seatIds, some token⟩

/-- A step has stored the reservation, as this run of `reserve` asked for it. -/
def Made (ts : Record) (attempt : Attempt) (r : Reservation) : Prop :=
  ∃ t ∈ ts, Reserved attempt.user attempt.eventId attempt.seatIds t.target.env.db r

/-- The process that serves the request for the reservation answers with what it stores. -/
def Backed (ts : Record) (s : Site) (attempt : Attempt) : Prop :=
  match attempt.stage with
  | .creating token call (some pid) =>
    (attempt.body token).accepted = true ∧
      (∃ p, s.world.procs[pid]? = some p ∧
        p.Creates attempt.user (attempt.body token) (Made ts attempt)) ∧
      ∀ r, call = .resolved r → Made ts attempt r
  | .creating _ call none => ∀ r, call ≠ .resolved r
  | .left r => Made ts attempt r
  | _ => True

def Stage.isCreating : Stage → Bool
  | .creating _ _ _ => true
  | _ => false

/-- The request for the reservation arrives at the server. -/
def creates (i : Nat) (t : Transition Page (Effects.Action Site.Action Text Choice Input)) : Bool :=
  match t.action with
  | .act (.deliver j) => j = i && t.source.view.attempts[i]?.any fun a => a.stage.isCreating
  | _ => false

/-- How often the request for the reservation has arrived. -/
def Stage.Arrived (arrivals : Nat) : Stage → Prop
  | .creating _ _ (some _) | .left _ => arrivals = 1
  | .failed => arrivals ≤ 1
  | _ => arrivals = 0

structure Accounted (ts : Record) (s : Site) (view : View) : Prop where
  backed : ∀ a ∈ view.attempts, Backed ts s a
  arrived : ∀ (i : Nat) (a : Attempt), view.attempts[i]? = some a → a.stage.Arrived (ts.countP (creates i))
  unborn : ∀ i, view.attempts.length ≤ i → ts.countP (creates i) = 0
  checkout : ∀ id, view.destination = some (.checkout id) →
    ∃ a ∈ view.attempts, ∃ r, a.stage = .left r ∧ r.id = id
  kept : ∀ k, view.kept = some k → ∃ a ∈ view.attempts, a.stage = .left k.reservation ∧
    k.seats = a.event.inventory.filter fun seat => includes a.seatIds seat.id.text

variable {r : Reservation}

theorem Made.concat (made : Made ts attempt r) : Made (ts ++ [t]) attempt r := by
  obtain ⟨u, member, reserved⟩ := made
  exact ⟨u, List.mem_append_left _ member, reserved⟩

theorem Backed.concat (backed : Backed ts s attempt) : Backed (ts ++ [t]) s attempt := by
  unfold Backed at backed ⊢
  split at backed
  · obtain ⟨accepted, ⟨p, serving, creates⟩, resolved⟩ := backed
    exact ⟨accepted, ⟨p, serving, creates.mono fun _ => Made.concat⟩,
      fun r same => (resolved r same).concat⟩
  · exact backed
  · exact Made.concat backed
  · trivial

theorem Backed.step {a : Site.Action} (backed : Backed ts s attempt)
    (taken : s.step cfg a = some t.target.env) : Backed (ts ++ [t]) t.target.env attempt := by
  unfold Backed at backed ⊢
  split at backed
  · obtain ⟨accepted, ⟨p, serving, creates⟩, resolved⟩ := backed
    obtain ⟨p', serving', creates'⟩ := Site.creates_of_step taken accepted serving creates
    refine ⟨accepted, ⟨p', serving', creates'.mono fun r made => ?_⟩,
      fun r same => (resolved r same).concat⟩
    rcases made with made | reserved
    · exact made.concat
    · exact ⟨t, List.mem_concat_self, reserved⟩
  · exact backed
  · exact Made.concat backed
  · trivial

theorem countP_creates {j : Nat} : (ts ++ [t]).countP (creates j) =
    ts.countP (creates j) + if creates j t then 1 else 0 := by
  rw [List.countP_append, List.countP_singleton]

/-- A step that leaves the runs of `reserve` as they are. -/
theorem Accounted.same (accounted : Accounted ts s view)
    (backed : ∀ a ∈ view.attempts, Backed ts s a → Backed (ts ++ [t]) s' a)
    (quiet : ∀ j, creates j t = false) (attempts : view'.attempts = view.attempts)
    (destination : ∀ id, view'.destination = some (.checkout id) → view.destination = some (.checkout id))
    (kept : view'.kept = view.kept) : Accounted (ts ++ [t]) s' view' := by
  have counted (j : Nat) : (ts ++ [t]).countP (creates j) = ts.countP (creates j) := by
    rw [countP_creates, quiet j, if_neg Bool.false_ne_true, Nat.add_zero]
  constructor
  · rw [attempts]
    exact fun a member => backed a member (accounted.backed a member)
  · rw [attempts]
    exact fun i a here => counted i ▸ accounted.arrived i a here
  · rw [attempts]
    exact fun i late => (counted i).trans (accounted.unborn i late)
  · rw [attempts]
    exact fun id led => accounted.checkout id (destination id led)
  · rw [attempts, kept]
    exact accounted.kept

/-- A run of `reserve` begins. -/
theorem Accounted.append (accounted : Accounted ts s view) (quiet : ∀ j, creates j t = false)
    (attempts : view'.attempts = view.attempts ++ [attempt])
    (begins : attempt.stage = .joining (.ready 0) none)
    (destination : view'.destination = view.destination) (kept : view'.kept = view.kept) :
    Accounted (ts ++ [t]) s view' := by
  have counted (j : Nat) : (ts ++ [t]).countP (creates j) = ts.countP (creates j) := by
    rw [countP_creates, quiet j, if_neg Bool.false_ne_true, Nat.add_zero]
  constructor
  · rw [attempts]
    refine forall_concat (fun a member => (accounted.backed a member).concat) ?_
    rw [Backed, begins]
    trivial
  · intro i a here
    rw [attempts, List.getElem?_append] at here
    rw [counted]
    split at here
    · exact accounted.arrived i a here
    · rename_i late
      have new := List.mem_singleton.mp (List.mem_of_getElem? here)
      rw [new, begins]
      exact accounted.unborn i (Nat.le_of_not_lt late)
  · intro i late
    rw [attempts, List.length_append] at late
    rw [counted]
    exact accounted.unborn i (Nat.le_of_add_right_le late)
  · intro id led
    obtain ⟨a, member, left⟩ := accounted.checkout id (destination ▸ led)
    exact ⟨a, attempts ▸ List.mem_append_left _ member, left⟩
  · intro k stored
    obtain ⟨a, member, left⟩ := accounted.kept k (kept ▸ stored)
    exact ⟨a, attempts ▸ List.mem_append_left _ member, left⟩

/-- A run of `reserve` that has left for the checkout is not under way. -/
theorem mem_set_of_left {a : Attempt} (here : view.attempts[i]? = some attempt)
    (underway : attempt.underway = true) (member : a ∈ view.attempts) (left : a.stage = .left r) :
    a ∈ view.attempts.set i attempt' := by
  obtain ⟨j, at_j⟩ := List.mem_iff_getElem?.mp member
  have apart : i ≠ j := by
    rintro rfl
    rw [here, Option.some.injEq] at at_j
    rw [Attempt.underway, at_j, left] at underway
    cases underway
  exact List.mem_of_getElem? (List.getElem?_set_ne apart ▸ at_j)

/-- A run of `reserve` comes further. -/
theorem Accounted.update {moved : View} (accounted : Accounted ts s view)
    (here : view.attempts[i]? = some attempt) (underway : attempt.underway = true)
    (attempts : moved.attempts = view.attempts) (backed : Backed (ts ++ [t]) s' attempt')
    (others : ∀ a ∈ view.attempts, Backed ts s a → Backed (ts ++ [t]) s' a)
    (arrived : attempt'.stage.Arrived (ts.countP (creates i) + if creates i t then 1 else 0))
    (quiet : ∀ j, j ≠ i → creates j t = false)
    (destination : ∀ id, moved.destination = some (.checkout id) →
      view.destination = some (.checkout id) ∨ ∃ r, attempt'.stage = .left r ∧ r.id = id)
    (kept : ∀ k, moved.kept = some k → view.kept = some k ∨ attempt'.stage = .left k.reservation ∧
      k.seats = attempt'.event.inventory.filter fun seat => includes attempt'.seatIds seat.id.text) :
    Accounted (ts ++ [t]) s' (moved.update i attempt') := by
  have bound : i < view.attempts.length := (List.getElem?_eq_some_iff.mp here).1
  have counted (j : Nat) (apart : j ≠ i) : (ts ++ [t]).countP (creates j) = ts.countP (creates j) := by
    rw [countP_creates, quiet j apart, if_neg Bool.false_ne_true, Nat.add_zero]
  have new : attempt' ∈ view.attempts.set i attempt' :=
    List.mem_of_getElem? (List.getElem?_set_self bound)
  constructor <;> simp only [View.update, attempts]
  · intro a member
    rcases List.mem_or_eq_of_mem_set member with old | rfl
    · exact others a old (accounted.backed a old)
    · exact backed
  · intro j a at_j
    by_cases same : j = i
    · subst same
      rw [List.getElem?_set_self bound, Option.some.injEq] at at_j
      rw [countP_creates]
      exact at_j ▸ arrived
    · rw [List.getElem?_set_ne (Ne.symm same)] at at_j
      rw [counted j same]
      exact accounted.arrived j a at_j
  · intro j late
    rw [List.length_set] at late
    rw [counted j (by omega)]
    exact accounted.unborn j late
  · intro id led
    rcases destination id led with before | ⟨r, left, named⟩
    · obtain ⟨a, member, r, left, named⟩ := accounted.checkout id before
      exact ⟨a, mem_set_of_left here underway member left, r, left, named⟩
    · exact ⟨attempt', new, r, left, named⟩
  · intro k stored
    rcases kept k stored with before | ⟨left, seats⟩
    · obtain ⟨a, member, left, seats⟩ := accounted.kept k before
      exact ⟨a, mem_set_of_left here underway member left, left, seats⟩
    · exact ⟨attempt', new, left, seats⟩

theorem creates_of_deliver {j : Nat} (acts : t.action = .act (.deliver i)) (apart : j ≠ i) :
    creates j t = false := by
  simp [creates, acts, Ne.symm apart]

theorem creates_of_other {j : Nat} (other : ∀ i, t.action ≠ .act (.deliver i)) : creates j t = false := by
  unfold creates
  split
  · rename_i i acts
    exact absurd acts (other i)
  · rfl

theorem creates_deliver (acts : t.action = .act (.deliver i))
    (here : t.source.view.attempts[i]? = some attempt) :
    creates i t = attempt.stage.isCreating := by
  simp [creates, acts, here]

/-- A request arrives. -/
theorem Accounted.deliver {request : Request} (accounted : Accounted ts s view)
    (acts : t.action = .act (.deliver i)) (source : t.source.view = view) (target : t.target.env = s')
    (here : view.attempts[i]? = some attempt) (sent : attempt.request = some request)
    (arrives : s.step cfg (.booking (.request request)) = some s') :
    Accounted (ts ++ [t]) s' (view.update i (attempt.arrive s.world.procs.length)) := by
  subst target
  have born := accounted.arrived i attempt here
  refine accounted.update here (underway_of_request sent) rfl ?_ (fun _ _ backed => backed.step arrives)
    ?_ (fun j apart => creates_of_deliver acts apart) (fun _ led => .inl led) fun _ stored => .inl stored
  · unfold Attempt.request at sent
    split at sent
    · rename_i stage
      simp only [Attempt.arrive, stage, Backed]
    · rename_i token n stage
      cases sent
      simp only [Attempt.arrive, stage, Backed]
      obtain ⟨accepted, serving⟩ := Site.serving_of_request arrives
      exact ⟨accepted, ⟨_, serving, rfl, rfl⟩, fun _ same => (by cases same)⟩
    · cases sent
  · rw [creates_deliver acts (source ▸ here)]
    unfold Attempt.request at sent
    split at sent
    · rename_i stage
      rw [stage] at born
      simpa [Attempt.arrive, stage, Stage.Arrived, Stage.isCreating] using born
    · rename_i token n stage
      rw [stage] at born
      simpa [Attempt.arrive, stage, Stage.Arrived, Stage.isCreating] using born
    · cases sent

/-- The answer of the process that serves a request arrives. -/
theorem Accounted.answer (accounted : Accounted ts s view) (other : ∀ i, t.action ≠ .act (.deliver i))
    (here : view.attempts[i]? = some attempt) (answers : attempt.answer s.world.procs = some attempt') :
    Accounted (ts ++ [t]) s (view.update i attempt') := by
  obtain ⟨same, underway⟩ := becomes_of_answer answers
  have born := accounted.arrived i attempt here
  have backed := accounted.backed attempt (List.mem_of_getElem? here)
  have counted : (ts.countP (creates i) + if creates i t then 1 else 0) = ts.countP (creates i) := by
    rw [creates_of_other other, if_neg Bool.false_ne_true, Nat.add_zero]
  refine accounted.update here underway rfl ?_ (fun _ _ backed => backed.concat) (counted.symm ▸ ?_)
    (fun _ _ => creates_of_other other) (fun _ led => .inl led) fun _ stored => .inl stored
  · unfold Attempt.answer at answers
    split at answers
    · split at answers <;> cases answers
      trivial
    · rename_i token n pid stage
      split at answers <;> cases answers
      rename_i r done
      rw [Backed, stage] at backed
      obtain ⟨accepted, ⟨p, serving, creates⟩, -⟩ := backed
      rw [done, Option.some.injEq] at serving
      subst serving
      have made : Made ts attempt r := creates
      refine ⟨accepted, ⟨_, done, made.concat⟩, fun r' same => ?_⟩
      cases same
      exact made.concat
    · cases answers
  · unfold Attempt.answer at answers
    split at answers
    · rename_i stage
      split at answers <;> cases answers
      rw [stage] at born
      exact born
    · rename_i stage
      split at answers <;> cases answers
      rw [stage] at born
      exact born
    · cases answers

theorem backed_of_calls (calls : attempt.stage.Calls attempt'.stage)
    (same : attempt' = { attempt with stage := attempt'.stage }) (backed : Backed ts s attempt) :
    Backed ts s attempt' := by
  rw [same]
  rw [Backed] at backed ⊢
  generalize attempt'.stage = stage' at calls
  generalize attempt.stage = stage at calls backed
  cases calls with
  | joining | polls | polling => trivial
  | @creating token call call' pid unresolved =>
    cases pid with
    | none => exact unresolved
    | some pid =>
      obtain ⟨accepted, serving, -⟩ := backed
      exact ⟨accepted, serving, fun r resolved => absurd resolved (unresolved r)⟩

theorem Stage.Calls.arrived {stage stage' : Stage} {n : Nat} (calls : stage.Calls stage')
    (arrived : stage.Arrived n) : stage'.Arrived n := by
  cases calls with
  | joining | polls | polling => exact arrived
  | @creating token call call' pid =>
    cases pid <;> exact arrived

theorem Stage.Arrived.le_one {stage : Stage} {n : Nat} (arrived : stage.Arrived n) : n ≤ 1 := by
  unfold Stage.Arrived at arrived
  split at arrived <;> omega

theorem Stage.Arrived.of_early {stage : Stage} {n : Nat} (arrived : stage.Arrived n)
    (early : stage.early = true) : n = 0 := by
  cases stage with
  | left | failed | creating => cases early
  | _ => exact arrived

/-- A run of `reserve` goes on by itself. -/
theorem Accounted.proceed {moved : View × Attempt} (accounted : Accounted ts s view)
    (other : ∀ i, t.action ≠ .act (.deliver i)) (here : view.attempts[i]? = some attempt)
    (proceeds : Proceeds view attempt moved) :
    Accounted (ts ++ [t]) s (moved.1.update i moved.2) := by
  have advances := proceeds.advances
  have born := accounted.arrived i attempt here
  have backed := accounted.backed attempt (List.mem_of_getElem? here)
  have counted : (ts.countP (creates i) + if creates i t then 1 else 0) = ts.countP (creates i) := by
    rw [creates_of_other other, if_neg Bool.false_ne_true, Nat.add_zero]
  have step {moved : View × Attempt} (attempts : moved.1.attempts = view.attempts)
      (underway : attempt.underway = true) (backed : Backed (ts ++ [t]) s moved.2)
      (arrived : moved.2.stage.Arrived (ts.countP (creates i)))
      (destination : moved.1.destination = view.destination) (kept : moved.1.kept = view.kept) :
      Accounted (ts ++ [t]) s (moved.1.update i moved.2) :=
    accounted.update here underway attempts backed (fun _ _ backed => backed.concat)
      (counted.symm ▸ arrived) (fun _ _ => creates_of_other other)
      (fun _ led => .inl (destination ▸ led)) fun _ stored => .inl (kept ▸ stored)
  cases proceeds with
  | calls goes =>
    exact step rfl goes.underway (backed_of_calls goes rfl backed).concat (goes.arrived born) rfl rfl
  | fails underway => exact step rfl underway trivial born.le_one rfl rfl
  | @leaves token r pid there =>
    have underway : attempt.underway = true := by
      rw [Attempt.underway, there]
      rfl
    rw [Backed, there] at backed
    rw [there] at born
    cases pid with
    | none => exact absurd rfl (backed r)
    | some pid =>
      have made : Made ts attempt r := backed.2.2 r rfl
      refine accounted.update here underway rfl (Made.concat made) (fun _ _ backed => backed.concat)
        (counted.symm ▸ born) (fun _ _ => creates_of_other other) (fun id led => ?_) fun k stored => ?_
      · cases led
        exact .inr ⟨r, rfl, rfl⟩
      · cases stored
        exact .inr ⟨rfl, rfl⟩
  | @admitted n admission early =>
    have none := born.of_early early
    have underway : attempt.underway = true := underway_of_early early
    unfold EventPage.admitted
    generalize waitedTooLong = message
    simp only
    split
    · exact step rfl underway trivial none rfl rfl
    split
    · split
      · exact step rfl underway trivial born.le_one rfl rfl
      · exact step rfl underway trivial born.le_one rfl rfl
      · exact step rfl underway (fun _ same => (by cases same)) none rfl rfl
    · exact step rfl underway trivial born.le_one rfl rfl

theorem Accounted.reserve {seatIds : List Text} (accounted : Accounted ts s view)
    (quiet : ∀ j, creates j t = false) : Accounted (ts ++ [t]) s (view.reserve event seatIds) := by
  unfold View.reserve
  split
  · exact accounted.same (fun _ _ backed => backed.concat) quiet rfl (fun _ led => (by cases led)) rfl
  · exact accounted.append quiet rfl rfl rfl rfl

theorem Accounted.resume (accounted : Accounted ts s view) (quiet : ∀ j, creates j t = false) :
    Accounted (ts ++ [t]) s (view.resume event) := by
  have still {view' : View} (attempts : view'.attempts = view.attempts)
      (destination : view'.destination = view.destination) (kept : view'.kept = view.kept) :
      Accounted (ts ++ [t]) s view' :=
    accounted.same (fun _ _ backed => backed.concat) quiet attempts (fun _ led => destination ▸ led) kept
  unfold View.resume
  generalize takenMeanwhile = message
  simp only
  split
  · exact still rfl rfl rfl
  split
  · exact still rfl rfl rfl
  split
  · exact still rfl rfl rfl
  · rename_i pending _ _ _ _
    have selects : Accounted ts s { view with
        resumed := true, resumeReservation := false, selected := pending.seatIds.filter (offered event) } :=
      ⟨accounted.backed, accounted.arrived, accounted.unborn, accounted.checkout, accounted.kept⟩
    exact selects.reserve quiet

theorem Accounted.act (accounted : Accounted ts s view) (acts : t.action = .act input)
    (source : t.source.view = view) (target : t.target.env = s')
    (acted : Acted cfg s view input s' view') : Accounted (ts ++ [t]) s' view' := by
  have other (undelivered : ∀ j, input ≠ .deliver j) (i : Nat) : t.action ≠ .act (.deliver i) := by
    rw [acts]
    intro same
    exact undelivered i (by cases same; rfl)
  have quiet (undelivered : ∀ j, input ≠ .deliver j) (j : Nat) : creates j t = false :=
    creates_of_other (other undelivered)
  cases acted with
  | toggled | session =>
    exact accounted.same (fun _ _ backed => backed.concat) (quiet fun _ same => (by cases same)) rfl
      (fun _ led => led) rfl
  | pressed => exact accounted.reserve (quiet fun _ same => (by cases same))
  | resumed => exact accounted.resume (quiet fun _ same => (by cases same))
  | delivered here sent arrives => exact accounted.deliver acts source target here sent arrives
  | answered here answers => exact accounted.answer (other fun _ same => (by cases same)) here answers
  | proceeded here proceeds => exact accounted.proceed (other fun _ same => (by cases same)) here proceeds
  | @heard _ i attempt attempt' undelivered here becomes =>
    have born := accounted.arrived i attempt here
    have backed := accounted.backed attempt (List.mem_of_getElem? here)
    refine accounted.update here becomes.2.underway rfl
      (backed_of_calls becomes.2 becomes.1 backed).concat (fun _ _ backed => backed.concat) ?_
      (fun _ _ => quiet undelivered _) (fun _ led => .inl led) fun _ stored => .inl stored
    rw [quiet undelivered, if_neg Bool.false_ne_true, Nat.add_zero]
    exact becomes.2.arrived born

abbrev plainHook := hook sampleConfig

abbrev visitor : Page := ⟨launched _ openSite_enabled, [], fresh (some customer) false none⟩

/-- The event comes, a seat is chosen and the button is pressed; `join` and `POST /reservations`
are each served before they are answered. -/
def visiting : List (Effects.Action Site.Action Text Choice Input) :=
  [.turn 0 .proceed, .turn 0 (.serve 0), .turn 0 .proceed, .act (.toggle (flatText 'a')), .act .press,
    .act (.proceed 0), .act (.deliver 0)] ++
  (joinTurns 0 (flat 5) queueToken).map (fun a => .env (.booking a)) ++
  [.act (.answer 0), .act (.proceed 0), .act (.proceed 0), .act (.deliver 0)] ++
  (createTurns 1 0 (flat 1) [flat 2]).map (fun a => .env (.booking a)) ++
  [.act (.answer 0), .act (.proceed 0)]

theorem opening_enabled : (exec plainHook.step visitor ([] ++ [.change (flatText 'e')])).isSome = true := by
  decide +kernel

abbrev openedPage : Page := replay plainHook.step visitor _ opening_enabled

theorem visiting_enabled : (exec plainHook.step openedPage visiting).isSome = true := by
  decide +kernel

theorem visit_of_run_booked : Visit (flatText 'e') (transitions plainHook.step openedPage visiting)
    (replay plainHook.step openedPage visiting visiting_enabled).view := by
  have calm : Within Effects.Action.Calm (transitions plainHook.step openedPage visiting) :=
    within_replay visiting_enabled
      (by simp [visiting, joinTurns, createTurns, Effects.Action.Calm])
  exact visit_of_run rfl (fun _ stored => (by cases stored)) (step_replay opening_enabled)
    (run_replay visiting_enabled) calm

/-- Whatever happens meanwhile, to the connection, on the server and to the page, a run of
`reserve` has its reservation requested at most once. The checkout is opened only for a
reservation that was requested once, and that the server then stored for this run's user,
event and seats; and what is kept for the checkout are these seats of the event shown. -/
theorem checkout_reserved {session : Option AuthenticatedUser} {resumeReservation : Bool}
    {pending : Option Pending} {c c' : Page} (new : c.view = fresh session resumeReservation pending)
    (run : Run (hook cfg).step c ts c') :
    (∀ i < c'.view.attempts.length, ts.countP (creates i) ≤ 1) ∧
    (∀ id, c'.view.destination = some (.checkout id) → ∃ (i : Nat) (a : Attempt) (r : Reservation),
      c'.view.attempts[i]? = some a ∧ r.id = id ∧ ts.countP (creates i) = 1 ∧
        ∃ t ∈ ts, Reserved a.user a.eventId a.seatIds t.target.env.db r) ∧
    ∀ k, c'.view.kept = some k → ∃ a ∈ c'.view.attempts, a.stage = .left k.reservation ∧
      k.seats = a.event.inventory.filter fun seat => includes a.seatIds seat.id.text := by
  have accounted : Accounted ts c'.env c'.view := by
    refine history_of_run run ?_ ?_ ?_ ?_ ?_ ?_
    · rw [new]
      exact ⟨fun _ member => absurd member List.not_mem_nil, fun _ _ here => (by cases here),
        fun _ _ => rfl, fun _ led => (by cases led), fun _ stored => (by cases stored)⟩
    · intro ts t s view accounted other
      exact accounted.same (fun _ _ backed => backed.concat)
        (fun _ => creates_of_other fun i => other (.deliver i)) rfl (fun _ led => led) rfl
    · rintro ts t a s s' view accounted acts rfl moves
      have other (i : Nat) : t.action ≠ .act (.deliver i) := by
        rw [acts]
        exact fun same => (by cases same)
      exact accounted.same (fun _ _ backed => backed.step moves) (fun _ => creates_of_other other)
        rfl (fun _ led => led) rfl
    · intro ts t id s view accounted acts
      have other (i : Nat) : t.action ≠ .act (.deliver i) := by
        rw [acts]
        exact fun same => (by cases same)
      exact accounted.same (fun _ _ backed => backed.concat) (fun _ => creates_of_other other)
        rfl (fun _ led => led) rfl
    · intro ts t i id choice state state' s view view' accounted acts moves
      have other (i : Nat) : t.action ≠ .act (.deliver i) := by
        rw [acts]
        exact fun same => (by cases same)
      have frame : view'.attempts = view.attempts ∧ view'.destination = view.destination ∧
          view'.kept = view.kept := by
        cases turned_of_turn moves <;> exact ⟨rfl, rfl, rfl⟩
      exact accounted.same (fun _ _ backed => backed.concat) (fun _ => creates_of_other other)
        frame.1 (fun _ led => frame.2.1 ▸ led) frame.2.2
    · intro ts t input s s' view view' accounted acts source target moves
      exact accounted.act acts source target (acted_of_act moves)
  refine ⟨fun i bound => ?_, fun id led => ?_, accounted.kept⟩
  · exact (accounted.arrived i _ (List.getElem?_eq_getElem bound)).le_one
  · obtain ⟨a, member, r, left, named⟩ := accounted.checkout id led
    obtain ⟨i, here⟩ := List.mem_iff_getElem?.mp member
    have once := accounted.arrived i a here
    have made := accounted.backed a member
    rw [left] at once
    rw [Backed, left] at made
    exact ⟨i, a, r, here, named, once, made⟩

theorem visit_enabled :
    (exec plainHook.step visitor ([.change (flatText 'e')] ++ visiting)).isSome = true := by
  decide +kernel

theorem checkout_reserved_booked : ∃ (i : Nat) (a : Attempt) (r : Reservation),
    (replay plainHook.step visitor _ visit_enabled).view.attempts[i]? = some a ∧ r.id = flat 1 ∧
      (transitions plainHook.step visitor ([.change (flatText 'e')] ++ visiting)).countP (creates i) = 1 ∧
      ∃ t ∈ transitions plainHook.step visitor ([.change (flatText 'e')] ++ visiting),
        Reserved a.user a.eventId a.seatIds t.target.env.db r := by
  have led : (replay plainHook.step visitor _ visit_enabled).view.destination =
      some (.checkout (flat 1)) := by decide +kernel
  exact (checkout_reserved rfl (run_replay visit_enabled)).2.1 (flat 1) led

end KiTicket.EventPage
