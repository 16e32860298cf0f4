import KiTicket.Locks
import KiTicket.Outcomes

/-! Cancelling a reservation. The reservation is looked up by its `uuid`, its rows
by the path as it was typed. When the two agree everything is given back and
nothing can bring the reservation back; when they do not, the rows stay. -/
namespace KiTicket
open Runs Reservations

variable {cfg : Config} {catalog : Catalog} {w committed freeing answered : World}
  {ts us : List (Transition World Action)} {c c' : Choice} {pid : Nat} {path : Text}
  {r : Reservation} {seats : List ReservationSeat}

/-- The commit of a cancel, taken apart. -/
theorem cancel_commits (serving : w.procs[pid]? = some (.cancel (.commit path r seats)))
    (taken : step cfg w (.turn pid c) = some committed) :
    (∃ failure, committed.procs[pid]? = some (.done (.error failure))) ∨
    (committed.db = removeSeats (setState w.db r.id .cancelled) seats ∧
      committed.shared.locks = w.shared.locks ∧
      committed.procs[pid]? = some (.cancel (.release { r with state := .cancelled } seats))) := by
  obtain ⟨p, p', at_pid, turn, procs⟩ := step_turn taken
  rw [serving, Option.some.injEq] at at_pid
  subst at_pid
  have size := (List.getElem?_eq_some_iff.mp serving).1
  simp only [Proc.turn, turnOf_eq_some] at turn
  obtain ⟨next, turn, rfl⟩ := turn
  rw [procs, List.getElem?_set_self size]
  change _ ∨ (committed.shared.db = _ ∧ _)
  generalize committed.shared = server' at turn ⊢
  split at turn
  · cases turn
    exact .inl ⟨_, rfl⟩
  · cases turn
    exact .inr ⟨rfl, rfl, rfl⟩

/-- A cancel that has committed gives its locks back before it answers. -/
theorem cancel_releases (serving : committed.procs[pid]? = some (.cancel (.release r seats)))
    (rest : Run (step cfg) committed us freeing)
    (taken : step cfg freeing (.turn pid c') = some answered) (redis : ¬c'.fault = true) :
    answered.shared.locks = (LockService.release freeing.shared.locks r.eventId.text
      (seats.map ReservationSeat.seatId) r.id.text).1 := by
  obtain ⟨p, at_pid, follows⟩ := proc_of_run (P := fun p => p = .cancel (.release r seats) ∨
    ∃ response, p = .done response) rest serving (.inl rfl) (.inr ⟨_, rfl⟩) (by
      rintro c held server server' p p' turn (rfl | ⟨response, rfl⟩)
      · simp only [Proc.turn, turnOf_eq_some] at turn
        obtain ⟨next, turn, rfl⟩ := turn
        split at turn <;> cases turn <;> exact .inr ⟨_, rfl⟩
      · cases turn)
  obtain ⟨q, q', serving', turn, -⟩ := step_turn taken
  rw [at_pid, Option.some.injEq] at serving'
  subst serving'
  rcases follows with rfl | ⟨response, rfl⟩
  · simp only [Proc.turn, turnOf_eq_some, if_neg redis] at turn
    obtain ⟨next, turn, -⟩ := turn
    generalize answered.shared = server' at turn ⊢
    cases turn
    rfl
  · cases turn

/-- A request that was answered takes no more turns. -/
theorem answered_stays {response : Response} {failed : World}
    (answered : w.procs[pid]? = some (.done response)) (rest : Run (step cfg) w us failed) :
    step cfg failed (.turn pid c) = none := by
  obtain ⟨p, at_pid, response', rfl⟩ := proc_of_run (P := fun p => ∃ response, p = .done response)
    rest answered ⟨_, rfl⟩ ⟨_, rfl⟩ (by
      rintro c held server server' p p' turn ⟨response, rfl⟩
      cases turn)
  rw [Option.eq_none_iff_forall_ne_some]
  intro w' taken
  obtain ⟨q, q', serving, turn, -⟩ := step_turn taken
  rw [at_pid, Option.some.injEq] at serving
  subst serving
  cases turn

/-- What a cancel that went through has done: in the database when it committed,
in Redis when it answered, and for good. -/
structure Freed (cfg : Config) (r : Reservation) (committed answered : World) : Prop where
  cancelled : World.stateOf committed r.id = some .cancelled
  rows : committed.db.seatsOf r = []
  locks : ∀ key, answered.shared.locks.get key ≠ some r.id.text
  later : ∀ us w, Run (step cfg) committed us w →
    World.stateOf w r.id ≠ some .confirmed ∧ w.db.ticketsOf r = []

/-- A cancel that goes through, with Redis there to take the locks back, frees
everything exactly when its path spells the id as the API returns it. -/
theorem cancel_frees_iff (first : Run (step cfg) (initial catalog) ts w)
    (serving : w.procs[pid]? = some (.cancel (.commit path r seats)))
    (commits : step cfg w (.turn pid c) = some committed) (rest : Run (step cfg) committed us freeing)
    (frees : step cfg freeing (.turn pid c') = some answered) (redis : ¬c'.fault = true) :
    Freed cfg r committed answered ↔ path = r.id.text := by
  obtain ⟨sound, locked⟩ := locked_of_run first
  obtain ⟨-, -, pending, stored, rfl⟩ := sound.sound _ (List.mem_of_getElem? serving)
  obtain ⟨db, locks, going⟩ := (cancel_commits serving commits).resolve_left fun ⟨failure, failed⟩ => by
    rw [answered_stays failed rest] at frees
    cases frees
  have coherent : (w.db.booking r.id).Coherent := coherent_of_run first
  obtain ⟨holds, unissued, -⟩ := coherent.pending stored pending
  have after : committed.db.booking r.id = { w.db.booking r.id with
      reservation := some { r with state := .cancelled }
      seats := if path = r.id.text then [] else (w.db.booking r.id).seats } := by
    rw [db, booking_cancel, if_pos rfl, stored]
    rfl
  constructor
  · intro freed
    by_contra other
    have kept : (committed.db.booking r.id).seats = (w.db.booking r.id).seats := by
      rw [after, if_neg other]
    exact holds.chosen (kept.symm.trans freed.rows)
  · rintro canonical
    rw [if_pos canonical] at after going
    have ended : (committed.db.booking r.id).reservation = some { r with state := .cancelled } := by
      rw [after]
    have sound' := sound.run (.single commits) within_any
    have gone : (committed.db.booking r.id).Gone := by
      refine ⟨?_, ?_, _, ended, .inl rfl⟩
      · rw [after]
      · rw [after]
        exact unissued
    constructor
    case cancelled => exact stateOf_eq_some.mpr ⟨_, ended, rfl⟩
    case rows => exact gone.1
    case locks =>
      have owned := locked.pending r.id r stored pending
      rw [← locks] at owned
      have released := cancel_releases going rest frees redis
      rw [released]
      exact get_ne_of_release (owned_of_run sound' (locked.next sound commits) rest ended owned)
    case later =>
      intro us w' run
      have still := gone_of_run sound' run gone
      exact ⟨stateOf_of_gone still, List.map_eq_nil_iff.mp still.2.1⟩

/-- A cancel of the reservation under some path, from its request to its answer. -/
def cancelUnder (path : Text) : List Action :=
  reserve ++ .request (.cancel customer path) :: (cancelTurns 1).take 2 ++ [.turn 1 {}] ++ [.turn 1 {}]

/-- The id of the reservation in capital letters. -/
def shouted : Text := (flatText '1').map Char.toUpper

private theorem cancelUnder_enabled : ∀ path ∈ [flatText '1', shouted],
    (exec (step sampleConfig) (initial sampleCatalog) (cancelUnder path)).isSome = true := by
  decide +kernel

private theorem freed_enabled : (exec (step sampleConfig) (initial sampleCatalog)
    (cancelUnder (flatText '1'))).isSome = true :=
  cancelUnder_enabled _ (by simp)

private theorem freed_ready :
    (replayed _ (enabled_of_append (enabled_of_append freed_enabled))).procs[1]? =
      some (.cancel (.commit (flatText '1') (sampleReservation .pending)
        [⟨flat 2, flat 1, flat 0xe, flatText 'a', .locked, samplePrice⟩])) := by
  decide +kernel

theorem cancel_frees_iff_canonical : Freed sampleConfig (sampleReservation .pending)
    (replayed _ (enabled_of_append freed_enabled)) (replayed _ freed_enabled) :=
  (cancel_frees_iff (run_replay _) freed_ready (step_replay (enabled_of_append freed_enabled)) .nil
    (step_replay freed_enabled) nofun).mpr (by decide +kernel)

private theorem kept_enabled : (exec (step sampleConfig) (initial sampleCatalog)
    (cancelUnder shouted)).isSome = true :=
  cancelUnder_enabled _ (by simp)

private theorem kept_ready :
    (replayed _ (enabled_of_append (enabled_of_append kept_enabled))).procs[1]? =
      some (.cancel (.commit shouted (sampleReservation .pending) [])) := by
  decide +kernel

/-- In capital letters the path finds the reservation and none of its rows: they
outlive the cancel. -/
theorem cancel_keeps_rows :
    ¬ ∀ (cfg : Config) (catalog : Catalog) (ts us : List (Transition World Action))
      (w committed freeing answered : World) (pid : Nat) (c c' : Choice) (path : Text)
      (r : Reservation) (seats : List ReservationSeat), Run (step cfg) (initial catalog) ts w →
      w.procs[pid]? = some (.cancel (.commit path r seats)) →
      step cfg w (.turn pid c) = some committed → Run (step cfg) committed us freeing →
      step cfg freeing (.turn pid c') = some answered → ¬c'.fault = true →
      Freed cfg r committed answered := by
  intro frees
  have freed := frees _ _ _ _ _ _ _ _ _ _ _ _ _ _ (run_replay _) kept_ready
    (step_replay (enabled_of_append kept_enabled)) .nil (step_replay kept_enabled) nofun
  have rows := freed.rows
  revert rows
  decide +kernel

end KiTicket
