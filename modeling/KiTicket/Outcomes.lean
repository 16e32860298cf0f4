import KiTicket.Consistency

/-! How a reservation leaves PENDING: by a cancel, by the sweep or by the
completion of its payment, at most once, and where it stays afterwards. -/
namespace KiTicket
open Runs Reservations Payments

variable {cfg : Config} {catalog : Catalog} {spelled : Text → Prop} {w w' : World} {a : Action}
  {ts us : List (Transition World Action)} {id : Uuid}

/-- The state of a reservation, if there is one of this id. -/
def World.stateOf (w : World) (id : Uuid) : Option ReservationState :=
  (findReservation w.db id).map Reservation.state

theorem stateOf_eq_some {state : ReservationState} : World.stateOf w id = some state ↔
    ∃ r, (w.db.booking id).reservation = some r ∧ r.state = state :=
  Option.map_eq_some_iff

/-- What the commit of a completion rests on is what its row locks see. -/
theorem committing {pid : Nat} {body : CompletePaymentDto} {p : Payment} {r : Reservation}
    {seats : List ReservationSeat} (sound : World.Sound spelled w)
    (serving : w.procs[pid]? = some (.complete (.commit body p r seats))) :
    (w.db.booking r.id).payment = some p ∧ (w.db.booking r.id).reservation = some r ∧
      (w.db.booking r.id).seats = seats ∧ p.state = .pending :=
  sound.sound _ (List.mem_of_getElem? serving)

/-- A step that moves the reservation out of PENDING. -/
def leavesPending (id : Uuid) (t : Transition World Action) : Bool :=
  decide (World.stateOf t.source id = some .pending ∧ World.stateOf t.target id ≠ some .pending)

theorem stateOf_ne_pending {r : Reservation} (stored : (w.db.booking id).reservation = some r)
    (ended : r.state ≠ .pending) : World.stateOf w id ≠ some .pending := by
  intro pending
  obtain ⟨r', stored', pending⟩ := stateOf_eq_some.mp pending
  rw [stored, Option.some.injEq] at stored'
  exact ended (stored' ▸ pending)

theorem ended_of_leaves (sound : World.Sound (fun _ => True) w) (taken : step cfg w a = some w')
    (leaves : leavesPending id ⟨w, a, w'⟩ = true) :
    ∃ r, (w'.db.booking id).reservation = some r ∧ r.state ≠ .pending := by
  obtain ⟨before, after⟩ := of_decide_eq_true leaves
  obtain ⟨r, stored, -⟩ := stateOf_eq_some.mp before
  obtain ⟨state, stored'⟩ := reservation_of_run (.single taken) sound stored
  exact ⟨_, stored', fun pending => after (stateOf_eq_some.mpr ⟨_, stored', pending⟩)⟩

/-! ## An ended reservation stays ended -/

/-- A completion, about to commit, that will not overwrite another end of its
reservation: its call fails, the reservation is still PENDING or already in the
state the policy asks for, or a success is asked for when no row is left. -/
def Complete.settles (c : Choice) : Complete → Bool
  | .commit body _ r seats =>
    let transition := determinePaymentTransition body.outcome (decide (r.expiresAt ≤ c.now))
    c.fault || decide (r.state = .pending ∨ r.state = transition.reservationState ∨
      (transition.outcome = .success ∧ seats = []))
  | _ => true

/-- The same of a step, in the world it is taken in. -/
def settles (w : World) : Action → Bool
  | .turn pid c =>
    match w.procs[pid]? with
    | some (.complete state) => Complete.settles c state
    | _ => true
  | _ => true

theorem ended_step {r : Reservation} (sound : World.Sound spelled w) (allowed : a.Spelled spelled)
    (taken : step cfg w a = some w') (settled : settles w a = true)
    (before : (w.db.booking id).reservation = some r) (ended : r.state ≠ .pending) :
    (w'.db.booking id).reservation = some r := by
  cases (sound.next allowed taken).2
  case same unchanged => rw [unchanged, before]
  case moves pid c q m moved turn serving calls performs spelling step elsewhere =>
    by_cases same : id = moved
    · subst same turn
      rcases step.of_ended before ended with kept | ⟨requested, expired, rfl, after, granted⟩
      · exact kept
      · cases performs
        obtain ⟨-, stored, held, -⟩ := committing sound serving
        rw [before, Option.some.injEq] at stored
        subst stored
        simp only [settles, serving, Complete.settles, Bool.or_eq_true, decide_eq_true_eq] at settled
        rcases settled with failed | pending | same | ⟨success, none⟩
        · exact absurd failed calls
        · exact absurd pending ended
        · rw [after, ← same]
        · exact absurd (held.trans none) (granted success)
    · rw [elsewhere id same, before]

/-- As long as every completion settles, the row of a reservation that was
confirmed, cancelled or expired is not changed by anything. -/
theorem ended_absorbing {r : Reservation} (first : Run (step cfg) (initial catalog) ts w)
    (rest : Run (step cfg) w us w') (settled : ∀ t ∈ us, settles t.source t.action = true)
    (stored : r ∈ w.db.reservations.rows) (ended : r.state ≠ .pending) :
    r ∈ w'.db.reservations.rows := by
  have before : (w.db.booking r.id).reservation = some r :=
    booking_reservation_eq_some.mpr ⟨stored, rfl⟩
  have kept : World.Sound (fun _ => True) w' ∧ (w'.db.booking r.id).reservation = some r := by
    refine rest.invariant (P := fun w => World.Sound (fun _ => True) w ∧
      (w.db.booking r.id).reservation = some r) settled ⟨sound_of_run first within_any, before⟩ ?_
    rintro w a w' ⟨sound, before⟩ settled taken
    exact ⟨(sound.next spelled_any taken).1,
      ended_step sound spelled_any taken settled before ended⟩
  exact (booking_reservation_eq_some.mp kept.2).1

/-- A reservation whose payment is open is cancelled. -/
def cancelled : List Action :=
  reserve ++ pay ++ .request (.cancel customer (flatText '1')) :: cancelTurns 2

theorem cancelled_enabled :
    (exec (step sampleConfig) (initial sampleCatalog) cancelled).isSome = true := by
  decide +kernel

/-- The payment is then completed, by a gateway timeout or after it had declined. -/
def completeLater (outcome : PaymentOutcome) : List Action :=
  .request (.complete customer (flatText '3') ⟨outcome, none⟩) :: completeTurns 3 2 [] []

theorem completeLater_enabled (outcome : PaymentOutcome) (refused : outcome ≠ .success) :
    (exec (step sampleConfig) (replayed cancelled cancelled_enabled)
      (completeLater outcome)).isSome = true := by
  cases outcome
  case success => exact absurd rfl refused
  all_goals decide +kernel

/-- The reservation of the replays, in its state. -/
def sampleReservation (state : ReservationState) : Reservation :=
  ⟨flat 1, ['u'], flat 0xe, state, 600000, samplePrice, ['I', 'R', 'R']⟩

theorem ended_absorbing_declined :
    sampleReservation .cancelled ∈ (replay (step sampleConfig) (replayed cancelled cancelled_enabled)
      (completeLater .failure) (completeLater_enabled .failure nofun)).db.reservations.rows :=
  ended_absorbing (run_replay cancelled_enabled) (run_replay (completeLater_enabled .failure nofun))
    (by decide +kernel) (by decide +kernel) nofun

/-- Without it: a cancelled reservation becomes EXPIRED when its payment is
reported as timed out. -/
theorem ended_overwritten :
    ¬ ∀ (cfg : Config) (catalog : Catalog) (ts us : List (Transition World Action)) (w w' : World),
      Run (step cfg) (initial catalog) ts w → Run (step cfg) w us w' →
      ∀ r ∈ w.db.reservations.rows, r.state ≠ .pending → r ∈ w'.db.reservations.rows := by
  intro absorbing
  have kept := absorbing _ _ _ _ _ _ (run_replay cancelled_enabled)
    (run_replay (completeLater_enabled .timeout nofun)) (sampleReservation .cancelled)
    (by decide +kernel) nofun
  revert kept
  decide +kernel

/-! ## What a confirmation rests on -/

/-- The commit of a completion that may confirm: in the state its row locks see
the reservation is PENDING and before its deadline, still has rows, and the
payment is its PENDING one. -/
def ConfirmsSoundly (t : Transition World Action) (id : Uuid) : Prop :=
  ∃ pid c body p r seats, t.action = .turn pid c ∧
    t.source.procs[pid]? = some (.complete (.commit body p r seats)) ∧ r.id = id ∧
    r ∈ t.source.db.reservations.rows ∧ r.state = .pending ∧ c.now < r.expiresAt ∧
    t.source.db.seatsOf r ≠ [] ∧
    p ∈ t.source.db.payments.rows ∧ p.reservationId = r.id ∧ p.state = .pending

theorem confirm_step (sound : World.Sound spelled w) (allowed : a.Spelled spelled)
    (taken : step cfg w a = some w') (coherent : (w.db.booking id).Coherent)
    (released : (w.db.booking id).Released) (before : World.stateOf w id ≠ some .confirmed)
    (after : World.stateOf w' id = some .confirmed) : ConfirmsSoundly ⟨w, a, w'⟩ id := by
  cases (sound.next allowed taken).2
  case same unchanged =>
    rw [World.stateOf, findReservation_eq, unchanged] at after
    exact absurd after before
  case moves pid c q m moved turn serving calls performs spelling step elsewhere =>
    by_cases same : id = moved
    case neg =>
      rw [World.stateOf, findReservation_eq, elsewhere id same] at after
      exact absurd after before
    subst same turn
    obtain ⟨r', stored', confirmed⟩ := stateOf_eq_some.mp after
    rcases step.of_confirmed stored' confirmed with old | ⟨requested, expired, rfl, granted⟩
    · exact absurd (stateOf_eq_some.mpr ⟨r', old, confirmed⟩) before
    obtain ⟨r, p, stored, pending, chosen, paid, opened⟩ :=
      coherent.only_pending_confirmed released step granted
    cases performs
    rename_i body p' r'' seats
    obtain ⟨paid', stored'', -, -⟩ := committing sound serving
    rw [stored, Option.some.injEq] at stored''
    rw [paid, Option.some.injEq] at paid'
    subst stored'' paid'
    obtain ⟨member, -⟩ := booking_reservation_eq_some.mp stored
    obtain ⟨member', of⟩ := booking_payment_eq_some.mp paid
    have early : ¬ r.expiresAt ≤ c.now := by
      simpa using (outcome_eq_success_iff.mp granted).2
    exact ⟨pid, c, body, p, r, seats, rfl, serving, rfl, member, pending, Nat.lt_of_not_le early,
      chosen, member', of, opened⟩

theorem gone_of_run (sound : World.Sound (fun _ => True) w) (run : Run (step cfg) w us w')
    (gone : (w.db.booking id).Gone) : (w'.db.booking id).Gone :=
  sound.booking run within_any gone fun _ _ _ _ gone step => gone.step step

theorem stateOf_of_gone (gone : (w.db.booking id).Gone) : World.stateOf w id ≠ some .confirmed := by
  obtain ⟨-, -, r, stored, ended⟩ := gone
  intro confirmed
  obtain ⟨r', stored', state⟩ := stateOf_eq_some.mp confirmed
  rw [stored, Option.some.injEq] at stored'
  subst stored'
  rw [state] at ended
  rcases ended with ended | ended <;> cases ended

/-- Confirmation is sound: a step that moves a reservation to CONFIRMED finds it
PENDING, before its deadline, with rows and with its PENDING payment; a
reservation that was cancelled or swept is not confirmed at any later time. -/
theorem confirmation_sound (first : Run (step cfg) (initial catalog) ts w)
    (rest : Run (step cfg) w us w') (inside : Within Action.AsReturned (ts ++ us)) :
    (∀ t ∈ us, ∀ id, World.stateOf t.source id ≠ some .confirmed →
      World.stateOf t.target id = some .confirmed → ConfirmsSoundly t id) ∧
    ∀ id, World.stateOf w id = some .cancelled ∨ World.stateOf w id = some .expired →
      World.stateOf w' id ≠ some .confirmed := by
  have confirms : ∀ t ∈ us, ∀ id, World.stateOf t.source id ≠ some .confirmed →
      World.stateOf t.target id = some .confirmed → ConfirmsSoundly t id := by
    intro t member id before after
    obtain ⟨earlier, early, run, taken⟩ :=
      (first.append rest).reaches (List.mem_append_right ts member)
    have canonical : Within Action.AsReturned earlier := fun u taken => inside u (early taken)
    have action : t.action.AsReturned := inside t (List.mem_append_right _ member)
    exact confirm_step (sound_of_run run (within_spelled canonical)) (spelled_of_asReturned action)
      taken (coherent_of_run run) (released_of_run run canonical) before after
  refine ⟨confirms, fun id state => ?_⟩
  have ended : ∃ r, (w.db.booking id).reservation = some r ∧
      (r.state = .cancelled ∨ r.state = .expired) := by
    rcases state with state | state
    all_goals
      obtain ⟨r, stored, state⟩ := stateOf_eq_some.mp state
      exact ⟨r, stored, by simp [state]⟩
  obtain ⟨r, stored, state⟩ := ended
  obtain ⟨earlier, later⟩ := within_append.mp inside
  have gone : (w.db.booking id).Gone :=
    ⟨released_of_run first earlier r stored state,
      ((coherent_of_run first).ended stored state).2.1, r, stored, state⟩
  exact stateOf_of_gone (gone_of_run (sound_of_run first within_any) rest gone)

private theorem succeed_commits :
    4 < (transitions (step sampleConfig) (replayed (reserve ++ pay) opened_enabled) succeed).length := by
  decide +kernel

theorem confirmation_sound_purchase :
    ∃ t ∈ transitions (step sampleConfig) (replayed (reserve ++ pay) opened_enabled) succeed,
      ConfirmsSoundly t (flat 1) :=
  ⟨_, List.getElem_mem succeed_commits,
    (confirmation_sound (run_replay opened_enabled) (run_replay succeed_enabled)
      (within_append.mpr ⟨within_replay opened_enabled (by decide +kernel),
        within_replay succeed_enabled (by decide +kernel)⟩)).1
      _ (List.getElem_mem succeed_commits) (flat 1) (by decide +kernel) (by decide +kernel)⟩

end KiTicket
