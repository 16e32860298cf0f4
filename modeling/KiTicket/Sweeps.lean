import KiTicket.Outcomes

/-! Several expiry sweeps at once, of several replicas, against cancels and
completions: one of them moves a reservation out of PENDING, the others leave it
and its rows alone, and what the sweeps count is what they moved. -/
namespace KiTicket
open Runs Reservations

variable {cfg : Config} {catalog : Catalog} {spelled : Text → Prop} {w w' : World} {a : Action}
  {c : Choice} {held : List RowLock} {server server' : Server}
  {ts us : List (Transition World Action)} {id : Uuid}

/-- The count of a sweep so far. -/
def Expire.counted : Expire → Nat
  | .getMany => 0
  | .findSeats _ _ expired | .commit _ _ _ expired | .release _ _ _ expired => expired

/-- What the sweeps under way have counted so far. -/
def Proc.underway : Proc → Nat
  | .expire state => Expire.counted state
  | _ => 0

def Proc.sweeps : Proc → Bool
  | .expire _ => true
  | _ => false

/-- Whether the step is a turn of a sweep. -/
def sweeping (t : Transition World Action) : Bool :=
  match t.action with
  | .turn pid _ => (t.source.procs[pid]?).any Proc.sweeps
  | _ => false

/-- The reservations a turn of a sweep moved from PENDING to EXPIRED. -/
def swept (t : Transition World Action) : List Uuid :=
  if sweeping t then
    (t.source.db.reservations.rows.filter fun r =>
      r.state = .pending ∧ World.stateOf t.target r.id = some .expired).map Reservation.id
  else []

/-- The count a sweep returns in this step. -/
def returned (t : Transition World Action) : Nat :=
  match t.action with
  | .turn pid _ =>
    match t.source.procs[pid]?, t.target.procs[pid]? with
    | some (.expire _), some (.done (.swept expired)) => expired
    | _, _ => 0
  | _ => 0

/-- The count of a sweep that ends here without returning it. -/
def lost (t : Transition World Action) : Nat :=
  match t.action with
  | .turn pid _ | .crash pid =>
    match t.source.procs[pid]?, t.target.procs[pid]? with
    | some (.expire state), some (.done (.error _)) => Expire.counted state
    | _, _ => 0
  | _ => 0

/-! ## One turn of a sweep -/

theorem loop_cases {expired : Nat} {rest : List Reservation} {next : Next Expire}
    (turn : Expire.loop server expired rest = some (server', next)) :
    server' = server ∧ (next = .done (.swept expired) ∨
      ∃ state, next = .go state ∧ Expire.counted state = expired) := by
  cases rest <;> cases turn
  · exact ⟨rfl, .inl rfl⟩
  · exact ⟨rfl, .inr ⟨_, rfl, rfl⟩⟩

/-- A turn of a sweep either leaves the database alone and keeps or returns its
count, or fails, or moves one reservation it finds PENDING and counts it. -/
theorem expire_cases {state : Expire} {p' : Proc} (sound : state.Sound server.db.booking)
    (turn : (Proc.expire state).turn cfg c held server = some (server', p')) :
    (server'.db = server.db ∧ (p' = .done (.swept (Expire.counted state)) ∨
      (∃ failure, p' = .done (.error failure)) ∨
      ∃ state', p' = .expire state' ∧ Expire.counted state' = Expire.counted state)) ∨
    ∃ r state', (server.db.booking r.id).reservation = some r ∧ r.state = .pending ∧
      server'.db = removeSeats (setState server.db r.id .expired) (server.db.booking r.id).seats ∧
      p' = .expire state' ∧ Expire.counted state' = Expire.counted state + 1 := by
  simp only [Proc.turn, turnOf_eq_some] at turn
  obtain ⟨next, turn, rfl⟩ := turn
  have looped {server₀ : Server} {rest : List Reservation}
      (turn : Expire.loop server₀ (Expire.counted state) rest = some (server', next))
      (same : server₀.db = server.db) : server'.db = server.db ∧
        (next.proc .expire = .done (.swept (Expire.counted state)) ∨
        (∃ failure, next.proc .expire = .done (.error failure)) ∨
        ∃ state', next.proc .expire = .expire state' ∧
          Expire.counted state' = Expire.counted state) := by
    obtain ⟨rfl, rfl | ⟨state', rfl, count⟩⟩ := loop_cases turn
    · exact ⟨same, .inl rfl⟩
    · exact ⟨same, .inr (.inr ⟨state', rfl, count⟩)⟩
  split at turn
  · left
    cases state <;> simp only [Expire.fault] at turn
    case release => exact looped turn rfl
    all_goals
      cases turn
      exact ⟨rfl, .inr (.inl ⟨_, rfl⟩)⟩
  · cases state <;> simp only [Expire.turn] at turn
    case getMany =>
      obtain ⟨selected, -, turn⟩ := Option.bind_eq_some_iff.mp turn
      exact .inl (looped turn rfl)
    case findSeats =>
      cases turn
      exact .inl ⟨rfl, .inr (.inr ⟨_, rfl, rfl⟩)⟩
    case commit r seats rest expired =>
      obtain ⟨⟨opened, state, found⟩, -, loaded⟩ := sound
      split at turn
      · rename_i pending
        split at turn <;> cases turn
        have stored := stored_of_pending opened found pending
        rw [← loaded stored]
        exact .inr ⟨r, _, stored, opened, rfl, rfl, rfl⟩
      · exact .inl (looped turn rfl)
    case release => exact .inl (looped turn rfl)

theorem reservations_nodup (db : Db) : db.reservations.rows.Nodup :=
  db.reservations.unique.imp fun apart same => by simp [clash, same] at apart

private theorem swept_of_same {t : Transition World Action} (same : t.target.db = t.source.db) :
    swept t = [] := by
  unfold swept
  split
  · rw [List.map_eq_nil_iff, List.filter_eq_nil_iff]
    intro r member
    have before : World.stateOf t.target r.id = some r.state := by
      rw [World.stateOf, same]
      exact stateOf_eq_some.mpr ⟨r, booking_reservation_eq_some.mpr ⟨member, rfl⟩, rfl⟩
    rw [before]
    simp only [Option.some.injEq, decide_eq_true_eq, not_and]
    intro pending
    simp [pending]
  · rfl

private theorem swept_of_moved {t : Transition World Action} {r : Reservation}
    (sweeps : sweeping t = true) (stored : (t.source.db.booking r.id).reservation = some r)
    (pending : r.state = .pending)
    (moved : t.target.db =
      removeSeats (setState t.source.db r.id .expired) (t.source.db.booking r.id).seats) :
    swept t = [r.id] := by
  have only : t.source.db.reservations.rows.filter (fun row =>
      row.state = .pending ∧ World.stateOf t.target row.id = some .expired) = [r] := by
    have chosen : ∀ row ∈ t.source.db.reservations.rows,
        decide (row.state = .pending ∧ World.stateOf t.target row.id = some .expired) =
          decide (row = r) := by
      intro row member
      have before := booking_reservation_eq_some.mpr ⟨member, rfl⟩
      rw [Bool.eq_iff_iff, decide_eq_true_eq, decide_eq_true_eq]
      rw [World.stateOf, findReservation_eq, moved, booking_end]
      constructor
      · rintro ⟨mine, after⟩
        split at after
        · rename_i same
          rw [same, stored] at before
          exact (Option.some.inj before).symm
        · rw [before] at after
          simp [mine] at after
      · rintro rfl
        simp [pending, stored]
    have once := List.count_eq_one_of_mem (reservations_nodup _) (booking_reservation_eq_some.mp stored).1
    rw [List.filter_congr chosen, List.filter_eq, once]
    rfl
  rw [swept, if_pos sweeps, only]
  rfl

/-- A sweeping step, taken apart. -/
theorem sweep_cases (sound : World.Sound spelled w) (taken : step cfg w a = some w')
    (sweeps : sweeping ⟨w, a, w'⟩ = true) :
    (w'.db = w.db ∧ swept ⟨w, a, w'⟩ = []) ∨
    ∃ r, (w.db.booking r.id).reservation = some r ∧ r.state = .pending ∧
      w'.db = removeSeats (setState w.db r.id .expired) (w.db.booking r.id).seats ∧
      swept ⟨w, a, w'⟩ = [r.id] := by
  cases a
  case turn pid c =>
    obtain ⟨p, p', serving, turn, procs⟩ := step_turn taken
    have mine : p.sweeps = true := by simpa [sweeping, serving] using sweeps
    cases p
    case expire state =>
      rcases expire_cases (sound.sound _ (List.mem_of_getElem? serving)) turn with
        ⟨same, -⟩ | ⟨r, state', stored, pending, moved, -, -⟩
      · exact .inl ⟨same, swept_of_same same⟩
      · exact .inr ⟨r, stored, pending, moved, swept_of_moved sweeps stored pending moved⟩
    all_goals cases mine
  all_goals cases sweeps

/-- No other request turns into a sweep. -/
private theorem underway_of_other {p p' : Proc} (other : p.sweeps = false)
    (turn : p.turn cfg c held server = some (server', p')) : p'.underway = 0 := by
  cases p <;> simp only [Proc.turn, turnOf_eq_some] at turn
  case expire => cases other
  case done => cases turn
  all_goals
    obtain ⟨next, -, rfl⟩ := turn
    cases next <;> rfl

private theorem quiet_of_other {t : Transition World Action} {pid : Nat} {p : Proc}
    (turn : t.action = .turn pid c) (serving : t.source.procs[pid]? = some p)
    (other : p.sweeps = false) : swept t = [] ∧ returned t = 0 ∧ lost t = 0 := by
  have still : sweeping t = false := by simp [sweeping, turn, serving, other]
  refine ⟨by simp [swept, still], ?_⟩
  simp only [returned, lost, turn, serving]
  cases p
  case expire => cases other
  all_goals exact ⟨rfl, rfl⟩

/-- What a sweep counts is what it moves: it still has the count, has returned it
or lost it. -/
theorem counted_step (sound : World.Sound spelled w) (taken : step cfg w a = some w') :
    (swept ⟨w, a, w'⟩).length + (w.procs.map Proc.underway).sum =
      returned ⟨w, a, w'⟩ + lost ⟨w, a, w'⟩ + (w'.procs.map Proc.underway).sum := by
  cases step_cases taken
  case request r accepted =>
    have none : r.proc.underway = 0 := by cases r <;> rfl
    simp [swept, sweeping, returned, lost, none]
  case turn pid c p p' serving procs turn =>
    have after : w'.procs[pid]? = some p' := by
      rw [procs, List.getElem?_set_self (List.getElem?_eq_some_iff.mp serving).1]
    have sums := @Pool.sum_map_set _ w.procs pid p p' Proc.underway serving
    rw [← procs] at sums
    by_cases sweeps : p.sweeps = true
    case neg =>
      rw [Bool.not_eq_true] at sweeps
      obtain ⟨unmoved, silent, kept⟩ := @quiet_of_other c ⟨w, .turn pid c, w'⟩ pid p rfl serving sweeps
      have idle : p.underway = 0 := by cases p <;> first | rfl | cases sweeps
      have idle' := underway_of_other sweeps turn
      rw [unmoved, silent, kept, List.length_nil]
      omega
    cases p
    case expire state =>
      have sweeping : sweeping ⟨w, .turn pid c, w'⟩ = true := by simp [sweeping, serving, sweeps]
      rcases expire_cases (sound.sound _ (List.mem_of_getElem? serving)) turn with
        ⟨same, done⟩ | ⟨r, state', stored, pending, commits, rfl, count⟩
      · rw [swept_of_same same, List.length_nil]
        rcases done with rfl | ⟨failure, rfl⟩ | ⟨state', rfl, count⟩
        all_goals
          simp only [Proc.underway, returned, lost, serving, after] at sums ⊢
          omega
      · rw [swept_of_moved sweeping stored pending commits]
        simp only [Proc.underway, returned, lost, serving, after, List.length_cons,
          List.length_nil] at sums ⊢
        omega
    all_goals cases sweeps
  case crash pid p serving =>
    have sums := @Pool.sum_map_set _ w.procs pid p (.done (.error .crash)) Proc.underway serving
    have bound := (List.getElem?_eq_some_iff.mp serving).1
    simp only [swept, sweeping, returned, lost, serving, List.getElem?_set_self bound,
      Bool.false_eq_true, if_false, List.length_nil]
    cases p
    all_goals
      simp only [Proc.underway] at sums ⊢
      omega
  case pass elapsed =>
    simp [swept, sweeping, returned, lost]
  case drop key =>
    simp [swept, sweeping, returned, lost]

/-! ## Over a run -/

private theorem leaves_of_swept {t : Transition World Action} (member : id ∈ swept t) :
    leavesPending id t = true := by
  unfold swept at member
  split at member
  · obtain ⟨r, chosen, rfl⟩ := List.mem_map.mp member
    simp only [List.mem_filter, decide_eq_true_eq] at chosen
    obtain ⟨stored, pending, after⟩ := chosen
    refine decide_eq_true ⟨?_, by simp [after]⟩
    exact stateOf_eq_some.mpr ⟨r, booking_reservation_eq_some.mpr ⟨stored, rfl⟩, pending⟩
  · cases member

private theorem swept_nodup (sound : World.Sound spelled w) (taken : step cfg w a = some w') :
    (swept ⟨w, a, w'⟩).Nodup := by
  by_cases sweeps : sweeping ⟨w, a, w'⟩ = true
  · rcases sweep_cases sound taken sweeps with ⟨-, none⟩ | ⟨r, -, -, -, one⟩
    · simp [none]
    · simp [one]
  · simp [swept, sweeps]

section Initial
variable (run : Run (step cfg) (initial catalog) ts w)
include run

theorem leavesPending_once : ts.countP (leavesPending id) ≤ 1 := by
  refine run.count_le_one (P := World.Sound fun _ => True)
    (Q := fun w => ∃ r, (w.db.booking id).reservation = some r ∧ r.state ≠ .pending)
    (leavesPending id) within_any sound_initial ?_ ?_ ?_
  · exact fun _ _ _ sound allowed taken => (sound.next allowed taken).1
  · rintro w a w' sound allowed taken ⟨r, stored, ended⟩
    rcases (sound.next allowed taken).2.booking id with same | ⟨m, -, step⟩
    · exact ⟨r, by rw [same, stored], ended⟩
    · exact step.ended stored ended
  · intro w a w' sound allowed taken leaves
    refine ⟨?_, ended_of_leaves sound taken leaves⟩
    rintro ⟨r, stored, ended⟩
    exact stateOf_ne_pending stored ended (of_decide_eq_true leaves).1

/-- The transitions of a run, each with what holds where it starts. -/
theorem seats_of_losers (inside : Within Action.AsReturned ts) {t : Transition World Action}
    (member : t ∈ ts) {r : Reservation} (stored : r ∈ t.source.db.reservations.rows)
    (ended : r.state ≠ .pending) : t.target.db.seatsOf r = t.source.db.seatsOf r := by
  obtain ⟨before, earlier, reaches, taken⟩ := run.reaches member
  have canonical : Within Action.AsReturned before := fun u early => inside u (earlier early)
  have stepped := ((sound_of_run reaches within_any).next spelled_any taken).2
  rcases stepped.booking r.id with same | ⟨m, -, step⟩
  · exact congrArg Booking.seats same
  · exact (coherent_of_run reaches).seats_of_ended (released_of_run reaches canonical) step
      (booking_reservation_eq_some.mpr ⟨stored, rfl⟩) ended

/-- What all sweeps moved, once each, is what they returned, what the failed ones
had counted and what those under way have counted. -/
theorem swept_once : (ts.flatMap swept).Nodup ∧
    (ts.flatMap swept).length =
      (ts.map returned).sum + (ts.map lost).sum + (w.procs.map Proc.underway).sum := by
  have kept : World.Sound (fun _ => True) w ∧ (ts.flatMap swept).Nodup ∧
      (∀ id ∈ ts.flatMap swept, ∃ r, (w.db.booking id).reservation = some r ∧ r.state ≠ .pending) ∧
      (ts.flatMap swept).length =
        (ts.map returned).sum + (ts.map lost).sum + (w.procs.map Proc.underway).sum := by
    refine run.history (P := fun ts w => World.Sound (fun _ => True) w ∧ (ts.flatMap swept).Nodup ∧
      (∀ id ∈ ts.flatMap swept, ∃ r, (w.db.booking id).reservation = some r ∧ r.state ≠ .pending) ∧
      (ts.flatMap swept).length =
        (ts.map returned).sum + (ts.map lost).sum + (w.procs.map Proc.underway).sum)
      within_any ⟨sound_initial, .nil, nofun, rfl⟩ ?_
    rintro ts w a w' - - ⟨sound, nodup, gone, count⟩ allowed taken
    obtain ⟨sound', stepped⟩ := sound.next allowed taken
    have counted := counted_step sound taken
    have stays : ∀ id ∈ ts.flatMap swept,
        ∃ r, (w'.db.booking id).reservation = some r ∧ r.state ≠ .pending := by
      intro id member
      obtain ⟨r, stored, ended⟩ := gone id member
      rcases stepped.booking id with same | ⟨m, -, step⟩
      · exact ⟨r, by rw [same, stored], ended⟩
      · exact step.ended stored ended
    simp only [List.flatMap_append, List.flatMap_singleton, List.map_append, List.sum_append,
      List.map_singleton, List.sum_singleton, List.length_append]
    refine ⟨sound', ?_, ?_, by omega⟩
    · refine List.nodup_append.mpr ⟨nodup, swept_nodup sound taken, ?_⟩
      rintro id old _ new rfl
      obtain ⟨r, stored, ended⟩ := gone id old
      exact stateOf_ne_pending stored ended (of_decide_eq_true (leaves_of_swept new)).1
    · intro id member
      rcases List.mem_append.mp member with old | new
      · exact stays id old
      · exact ended_of_leaves sound taken (leaves_of_swept new)
  exact ⟨kept.2.1, kept.2.2.2⟩

/-- A sweep deletes the rows of the reservation it moves, and no other row. -/
theorem rows_of_sweep {t : Transition World Action} (member : t ∈ ts) (sweeps : sweeping t = true) :
    t.target.db.reservationSeats.rows =
      t.source.db.reservationSeats.rows.filter fun row => row.reservationId ∉ swept t := by
  obtain ⟨before, -, reaches, taken⟩ := run.reaches member
  rcases sweep_cases (sound_of_run reaches within_any) taken sweeps with
    ⟨same, none⟩ | ⟨r, -, -, moved, one⟩
  · have none : swept t = [] := none
    rw [none, same]
    simp
  · have one : swept t = [r.id] := one
    have rows := @rows_removeSeats (setState t.source.db r.id .expired) r.id
    rw [one, moved]
    refine rows.trans (List.filter_congr fun row _ => ?_)
    simp

end Initial

/-- One winner out of PENDING, whatever cancels, completions and sweeps compete:
at most one step moves a reservation out of PENDING and afterwards no step
changes its rows; the sweeps together count each reservation they moved once, so
that once all have returned their counts add up to the number they moved; and a
sweep deletes exactly the rows of what it moved in that very step. -/
theorem one_winner (run : Run (step cfg) (initial catalog) ts w)
    (inside : Within Action.AsReturned ts) :
    (∀ id, ts.countP (leavesPending id) ≤ 1) ∧
    (∀ t ∈ ts, ∀ r ∈ t.source.db.reservations.rows, r.state ≠ .pending →
      t.target.db.seatsOf r = t.source.db.seatsOf r) ∧
    (ts.flatMap swept).Nodup ∧
    (ts.flatMap swept).length =
      (ts.map returned).sum + (ts.map lost).sum + (w.procs.map Proc.underway).sum ∧
    ((∀ p ∈ w.procs, p.underway = 0) → (∀ t ∈ ts, lost t = 0) →
      (ts.map returned).sum = (ts.flatMap swept).length) ∧
    ∀ t ∈ ts, sweeping t = true → t.target.db.reservationSeats.rows =
      t.source.db.reservationSeats.rows.filter fun row => row.reservationId ∉ swept t := by
  obtain ⟨nodup, count⟩ := swept_once run
  refine ⟨fun _ => leavesPending_once run,
    fun _ member _ stored ended => seats_of_losers run inside member stored ended, nodup, count, ?_,
    fun _ member sweeps => rows_of_sweep run member sweeps⟩
  intro returned kept
  have idle : (w.procs.map Proc.underway).sum = 0 := by simpa [List.sum_eq_zero_iff_forall_eq_nat] using returned
  have none : (ts.map lost).sum = 0 := by simpa [List.sum_eq_zero_iff_forall_eq_nat] using kept
  omega

/-- Two sweeps that selected the same reservation, and a cancel that comes last. -/
def raced : List Action :=
  reserve ++ [.request .expire, .request .expire,
    .turn 1 { now := 700000, order := [flat 1] }, .turn 2 { now := 700000, order := [flat 1] },
    .turn 1 {}, .turn 2 {}, .turn 1 {}, .turn 2 {}, .turn 1 {},
    .request (.cancel customer (flatText '1')), .turn 3 {}]

theorem raced_enabled :
    (exec (step sampleConfig) (initial sampleCatalog) raced).isSome = true := by
  decide +kernel

theorem one_winner_raced :
    ((transitions (step sampleConfig) (initial sampleCatalog) raced).map returned).sum =
      ((transitions (step sampleConfig) (initial sampleCatalog) raced).flatMap swept).length :=
  (one_winner (run_replay raced_enabled)
    (within_replay raced_enabled (by decide +kernel))).2.2.2.2.1
    (by decide +kernel) (by decide +kernel)

end KiTicket
