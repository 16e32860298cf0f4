import KiTicket.SeatLocks

/-! No lock outlives what it was taken for. A live lock is accounted for by a PENDING
reservation with a row for its seat, or by a request that still owes its release;
whichever request ends the reservation takes the debt over in the same turn. -/
namespace KiTicket
open Reservations Payments Runs LockService

variable {cfg : Config} {catalog : Catalog} {w w' : World} {a : Action} {c : Choice}
  {held : List RowLock} {server server' : Server} {p p' : Proc} {r : Reservation} {id : Uuid}
  {pid : Nat} {ts : List (Transition World Action)} {lock owner : Text}

/-- The keys of some rows. -/
abbrev rowKeys (eventId : Uuid) (rows : List ReservationSeat) : List Text :=
  lockKeys eventId (rows.map ReservationSeat.seatId)

/-- The locks a request will give back, and in whose name it holds them. -/
def Proc.owes : Proc → List (Uuid × List Text)
  | .create (.findOccupied draft) | .create (.save draft) | .create (.release draft _) =>
    [(draft.id, lockKeys draft.event.id draft.seatIds)]
  | .cancel (.release r seats) | .expire (.release r seats _ _) => [(r.id, rowKeys r.eventId seats)]
  | .complete (.release result) =>
    [(result.reservation.id, lockKeys result.reservation.eventId result.seatIds)]
  | _ => []

/-- The request is about to call the lock service. -/
def Proc.callsLocks : Proc → Bool
  | .create (.acquire _) | .create (.release _ _) | .cancel (.release _ _)
  | .expire (.release _ _ _ _) | .complete (.release _) => true
  | _ => false

/-- The request has been answered. -/
def Proc.answered : Proc → Bool
  | .done _ => true
  | _ => false

/-- No process dies, and Redis answers the lock service. -/
def LocksAnswer (t : Transition World Action) : Prop :=
  match t.action with
  | .crash _ => False
  | .turn pid c => c.fault = true → (t.source.procs[pid]?).all fun p => !p.callsLocks
  | .request _ | .pass _ | .drop _ => True

/-- The lock is for a row of the PENDING reservation whose id it holds. -/
def Db.Backs (db : Db) (lock owner : Text) : Prop :=
  ∃ id r, id.text = owner ∧ (db.booking id).reservation = some r ∧ r.state = .pending ∧
    lock ∈ rowKeys r.eventId (db.booking id).seats

/-- The request will release the lock. -/
def Proc.Owes (lock owner : Text) (p : Proc) : Prop :=
  ∃ debt ∈ p.owes, debt.1.text = owner ∧ lock ∈ debt.2

def World.Accounted (w : World) : Prop :=
  ∀ lock owner, w.shared.locks.get lock = some owner →
    w.db.Backs lock owner ∨ ∃ p ∈ w.procs, p.Owes lock owner

/-! ## What a release takes away -/

theorem get_of_release {store : KeyStore Text Text} {eventId : Text} {seatIds : List Text}
    {by' : Text} (live : (release store eventId seatIds by').1.get lock = some owner) :
    store.get lock = some owner := by
  unfold release at live
  split at live
  · exact live
  · rw [releaseScript, KeyStore.get_delOwned] at live
    split at live
    · cases live
    · exact live

theorem not_mem_of_release {store : KeyStore Text Text} {eventId : Uuid} {seatIds : List Text}
    (live : (release store eventId.text seatIds owner).1.get lock = some owner) :
    lock ∉ lockKeys eventId seatIds := by
  intro listed
  have before := get_of_release live
  rw [KeyStore.get, cell_release, if_pos ⟨listed, before⟩] at live
  cases live

theorem Server.Releases.get (releases : server.Releases server')
    (live : server'.locks.get lock = some owner) : server.locks.get lock = some owner := by
  rcases releases.locks with same | ⟨_, _, _, released⟩
  · rwa [same] at live
  · rw [released] at live
    exact get_of_release live

/-! ## Debts -/

theorem Proc.owes_of_claim {claim : Uuid × List Text} (claims : claim ∈ p.claim)
    (listed : lock ∈ claim.2) : p.Owes lock claim.1.text := by
  cases p
  case create state =>
    cases state
    case acquire =>
      cases List.mem_singleton.mp claims
      cases listed
    case findOccupied | save => exact ⟨claim, claims, rfl, listed⟩
    all_goals cases claims
  all_goals cases claims

/-- The locks a turn takes, it owes. -/
theorem Proc.owes_of_acquired (turn : p.turn cfg c held server = some (server', p'))
    (live : server'.locks.get lock = some owner) :
    server.locks.get lock = some owner ∨ p'.Owes lock owner := by
  cases Proc.locking turn
  case draws same =>
    rw [same] at live
    exact .inl live
  case acquires id keys ttl ready claim drawn locks =>
    rw [locks, KeyStore.get_eq_some] at live
    obtain ⟨cell, stored, early, mine⟩ := live
    rw [KeyStore.setAll_spec.1] at early
    rw [KeyStore.setAll_spec.2] at stored
    split at stored
    · rename_i listed
      cases stored
      have claims : (id, keys) ∈ p'.claim := claim ▸ List.mem_cons_self
      exact .inr (mine ▸ Proc.owes_of_claim claims listed)
    · exact .inl (KeyStore.get_eq_some.mpr ⟨cell, stored, early, mine⟩)
  case keeps releases => exact .inl (releases.get live)

/-- Going on with the sweep does nothing to the locks. -/
theorem Reservations.Expire.loop_locks {rest : List Reservation} {expired : Nat}
    {next : Next Expire} (turn : Expire.loop server expired rest = some (server', next)) :
    server'.locks = server.locks := by
  cases rest <;> cases turn <;> rfl

/-- A turn keeps a debt, releases the lock, or leaves it to the reservation it stores. -/
theorem Proc.Owes.settles (owes : p.Owes lock owner)
    (turn : p.turn cfg c held server = some (server', p'))
    (answers : c.fault = true → p.callsLocks = false)
    (live : server'.locks.get lock = some owner) :
    p'.Owes lock owner ∨ server'.db.Backs lock owner := by
  obtain ⟨debt, mine, named, listed⟩ := owes
  have calls (locking : p.callsLocks = true) : ¬c.fault = true := fun fails => by
    rw [answers fails] at locking
    cases locking
  cases p
  case create state =>
    cases state
    case findOccupied draft =>
      cases List.mem_singleton.mp mine
      left
      simp only [Proc.turn, turnOf_eq_some] at turn
      obtain ⟨next, turn, rfl⟩ := turn
      split at turn
      · cases turn
        exact ⟨_, List.mem_cons_self, named, listed⟩
      simp only [Create.turn] at turn
      split at turn <;> cases turn <;> exact ⟨_, List.mem_cons_self, named, listed⟩
    case save draft =>
      cases List.mem_singleton.mp mine
      rcases save_cases turn with ⟨-, failure, rfl⟩ | ⟨db, r, stores, -, inserted, lengths⟩
      · exact .inl ⟨_, List.mem_cons_self, named, listed⟩
      · obtain ⟨total, -, rfl, -, -, booking⟩ := draft_insert inserted
        right
        refine ⟨draft.id, draft.reservation cfg c.now total, named, ?_, rfl, ?_⟩
        · rw [stores, booking, if_pos rfl]
        · rw [stores, booking, if_pos rfl]
          obtain ⟨seatId, asked, rfl⟩ := mem_lockKeys.mp listed
          rw [← seatIds_of_rows lengths] at asked
          rw [rowKeys, mem_lockKeys, List.map_append]
          exact ⟨seatId, List.mem_append_right _ asked, rfl⟩
    case release draft failure =>
      cases List.mem_singleton.mp mine
      simp only [Proc.turn, turnOf_eq_some, if_neg (calls rfl)] at turn
      obtain ⟨next, turn, -⟩ := turn
      cases turn
      exact absurd listed (not_mem_of_release (named ▸ live))
    all_goals cases mine
  case cancel state =>
    cases state
    case release r seats =>
      cases List.mem_singleton.mp mine
      simp only [Proc.turn, turnOf_eq_some, if_neg (calls rfl)] at turn
      obtain ⟨next, turn, -⟩ := turn
      cases turn
      exact absurd listed (not_mem_of_release (named ▸ live))
    all_goals cases mine
  case expire state =>
    cases state
    case release r seats rest expired =>
      cases List.mem_singleton.mp mine
      simp only [Proc.turn, turnOf_eq_some, if_neg (calls rfl)] at turn
      obtain ⟨next, turn, -⟩ := turn
      rw [Expire.loop_locks turn] at live
      exact absurd listed (not_mem_of_release (named ▸ live))
    all_goals cases mine
  case complete state =>
    cases state
    case release result =>
      cases List.mem_singleton.mp mine
      simp only [Proc.turn, turnOf_eq_some, if_neg (calls rfl)] at turn
      obtain ⟨next, turn, -⟩ := turn
      cases turn
      exact absurd listed (not_mem_of_release (named ▸ live))
    all_goals cases mine
  all_goals cases mine

/-! ## Ending a reservation -/

/-- What a completion's commit carries on to the release. -/
theorem commit_result {body : CompletePaymentDto} {payment : Payment}
    {seats : List ReservationSeat} {state : Complete}
    (turn : (Complete.commit body payment r seats).turn cfg c held server = some (server', .go state)) :
    ∃ result, state = .release result ∧ result.reservation.id = r.id ∧
      result.reservation.eventId = r.eventId ∧
      result.seatIds = seats.map ReservationSeat.seatId := by
  simp only [Complete.turn] at turn
  split at turn
  · split at turn
    · cases turn
    split at turn
    · split at turn
      · cases turn
      split at turn <;> cases turn
      rename_i db result confirmed
      unfold confirm at confirmed
      dsimp only at confirmed
      split at confirmed <;> cases confirmed
      exact ⟨_, rfl, rfl, rfl, rfl⟩
    · cases turn
  · cases turn
    exact ⟨_, rfl, rfl, rfl, rfl⟩

/-- Whoever ends a PENDING reservation owes the release of its rows' locks. -/
theorem owes_of_leaving {m : Move} (sound : p.Sound (asReturned · = true) server.db.booking)
    (calls : ¬c.fault = true) (performs : p.Performs c m id)
    (turn : p.turn cfg c held server = some (server', p'))
    (step : Booking.Step m (server.db.booking id) (server'.db.booking id))
    (stored : (server.db.booking id).reservation = some r) (pending : r.state = .pending)
    (left : ∀ r', (server'.db.booking id).reservation = some r' → r'.state ≠ .pending) :
    (id, rowKeys r.eventId (server.db.booking id).seats) ∈ p'.owes := by
  have leaves := step.leaves_pending stored pending left
  cases performs
  case create =>
    rcases leaves with (⟨_, other⟩ | other) | ⟨_, _, other⟩ <;> cases other
  case start =>
    rcases leaves with (⟨_, other⟩ | other) | ⟨_, _, other⟩ <;> cases other
  case cancel path seats read =>
    obtain ⟨spelled, named, -, found, loaded⟩ := sound
    rw [stored, Option.some.injEq] at found
    subst found
    simp only [Proc.turn, turnOf_eq_some, if_neg calls] at turn
    obtain ⟨next, turn, rfl⟩ := turn
    cases turn
    rw [if_pos (eq_text_of_asReturned spelled named)] at loaded
    rw [← loaded]
    exact List.mem_cons_self
  case expire seats rest expired read =>
    obtain ⟨⟨opened, state, found⟩, -, loaded⟩ := sound
    have waits : (findReservation server.db read.id).any (·.state = .pending) = true := by
      rw [findReservation_eq, stored, Option.any_some, decide_eq_true_eq]
      exact pending
    have same := stored_of_pending opened found waits
    rw [loaded same]
    rw [stored, Option.some.injEq] at same
    subst same
    simp only [Proc.turn, turnOf_eq_some, if_neg calls, Expire.turn, if_pos waits] at turn
    obtain ⟨next, turn, rfl⟩ := turn
    split at turn <;> cases turn
    exact List.mem_cons_self
  case complete body payment read seats =>
    obtain ⟨paid, found, loaded, opened⟩ := sound
    simp only [Proc.turn, turnOf_eq_some, if_neg calls] at turn
    obtain ⟨next, turn, rfl⟩ := turn
    rcases commit_cases paid found loaded opened turn with
      ⟨failure, same, -⟩ | ⟨db, _, -, rfl, -⟩
    · rw [same] at left
      exact absurd pending (left r stored)
    · obtain ⟨result, goes, named, event, seatIds⟩ := commit_result turn
      cases goes
      rw [stored, Option.some.injEq] at found
      subst found
      rw [loaded, rowKeys, ← seatIds, ← event, ← named]
      exact List.mem_cons_self

/-! ## Along a run -/

theorem accounted_initial : World.Accounted (initial catalog) := by
  intro lock owner live
  cases live

/-- A reservation goes on backing its locks, or whoever ended it owes them. -/
theorem Db.Backs.turn (backs : w.db.Backs lock owner) (sound : World.Sound (asReturned · = true) w)
    (stepped : Stepped (asReturned · = true) w (.turn pid c) w') (serving : w.procs[pid]? = some p)
    (turn : p.turn cfg c held w.shared = some (w'.shared, p')) :
    w'.db.Backs lock owner ∨ p'.Owes lock owner := by
  obtain ⟨id, r, named, stored, pending, listed⟩ := backs
  obtain ⟨state, after⟩ := stepped.reservation stored
  by_cases kept : state = .pending
  · left
    rcases stepped.booking id with same | ⟨m, -, move⟩
    · exact ⟨id, r, named, by rw [same, stored], pending, by rw [same]; exact listed⟩
    · obtain ⟨same, rows⟩ := move.of_pending stored after kept
      rw [← same] at after
      exact ⟨id, r, named, after, pending, by rw [rows]; exact listed⟩
  · right
    have left : ∀ r', (w'.db.booking id).reservation = some r' → r'.state ≠ .pending := by
      intro r' found
      rw [after, Option.some.injEq] at found
      subst found
      exact kept
    cases stepped
    case same unchanged =>
      rw [unchanged, stored, Option.some.injEq] at after
      rw [after] at pending
      exact absurd pending kept
    case moves pid' c' q m moved moves serving' calls performs spelling move elsewhere =>
      cases moves
      rw [serving, Option.some.injEq] at serving'
      subst serving'
      by_cases same : id = moved
      · subst same
        have owes := owes_of_leaving (sound.sound p (List.mem_of_getElem? serving)) calls performs
          turn move stored pending left
        exact ⟨_, owes, named, listed⟩
      · rw [elsewhere id same, stored, Option.some.injEq] at after
        rw [after] at pending
        exact absurd pending kept

theorem World.Accounted.next (accounted : World.Accounted w)
    (sound : World.Sound (asReturned · = true) w) (canonical : a.AsReturned)
    (answers : LocksAnswer ⟨w, a, w'⟩) (taken : step cfg w a = some w') : World.Accounted w' := by
  have stepped := (sound.next (spelled_of_asReturned canonical) taken).2
  cases step_cases taken
  case request r accepted =>
    intro lock owner live
    rcases accounted lock owner live with backs | ⟨p, member, owes⟩
    · exact .inl backs
    · exact .inr ⟨p, List.mem_append_left _ member, owes⟩
  case crash => cases answers
  case pass elapsed =>
    intro lock owner live
    exact accounted lock owner (KeyStore.get_of_pass live)
  case drop key =>
    intro lock owner live
    rw [KeyStore.get_del] at live
    split at live
    · cases live
    · exact accounted lock owner live
  case turn pid c p p' serving procs turn =>
    have size := (List.getElem?_eq_some_iff.mp serving).1
    have going : p' ∈ w'.procs := procs ▸ List.mem_set size _
    have locking (fails : c.fault = true) : p.callsLocks = false := by
      simpa [serving] using answers fails
    intro lock owner live
    rcases Proc.owes_of_acquired turn live with before | owes
    case inr => exact .inr ⟨p', going, owes⟩
    rcases accounted lock owner before with backs | ⟨q, member, owes⟩
    · exact (backs.turn sound stepped serving turn).imp_right fun owes => ⟨p', going, owes⟩
    · obtain ⟨j, at_j⟩ := List.mem_iff_getElem?.mp member
      by_cases same : j = pid
      · subst same
        rw [serving, Option.some.injEq] at at_j
        subst at_j
        rcases owes.settles turn locking live with owes | backs
        · exact .inr ⟨p', going, owes⟩
        · exact .inl backs
      · refine .inr ⟨q, ?_, owes⟩
        rw [procs]
        exact List.mem_of_getElem? ((List.getElem?_set_ne (Ne.symm same)).trans at_j)

/-- When nobody is served, every live lock is for a LOCKED row of the PENDING
reservation whose id it holds. -/
theorem no_leaked_locks (run : Run (step cfg) (initial catalog) ts w)
    (inside : Within Action.AsReturned ts) (answers : ∀ t ∈ ts, LocksAnswer t)
    (idle : ∀ p ∈ w.procs, p.answered = true) :
    ∀ lock owner, w.shared.locks.get lock = some owner →
      ∃ eventId seatId, lock = key eventId.text seatId ∧
        ∃ r ∈ w.db.reservations.rows, r.id.text = owner ∧ r.state = .pending ∧
          ∃ row ∈ w.db.reservationSeats.rows, row.reservationId = r.id ∧
            row.eventId = eventId ∧ row.seatId = seatId ∧ row.state = .locked := by
  intro lock owner live
  have both : ∀ t ∈ ts, t.action.AsReturned ∧ LocksAnswer t := fun t member =>
    ⟨inside t member, answers t member⟩
  have accounted : World.Accounted w := by
    refine (run.invariant (P := fun w => World.Sound (asReturned · = true) w ∧ World.Accounted w)
      both ⟨sound_initial, accounted_initial⟩ ?_).2
    rintro w a w' ⟨sound, accounted⟩ ⟨canonical, answers⟩ taken
    exact ⟨(sound.next (spelled_of_asReturned canonical) taken).1,
      accounted.next sound canonical answers taken⟩
  rcases accounted lock owner live with ⟨id, r, named, stored, pending, listed⟩ | ⟨p, member, owes⟩
  · obtain ⟨holds, -, -⟩ := (coherent_of_run run).pending stored pending
    obtain ⟨seatId, seat, rfl⟩ := mem_lockKeys.mp listed
    obtain ⟨row, member, rfl⟩ := List.mem_map.mp seat
    obtain ⟨known, rfl⟩ := booking_reservation_eq_some.mp stored
    obtain ⟨there, mine⟩ := mem_booking_seats.mp member
    exact ⟨r.eventId, row.seatId, rfl, r, known, named, pending, row, there, mine,
      holds.event row member, rfl, holds.uniform row member⟩
  · obtain ⟨debt, mine, -⟩ := owes
    have idle := idle p member
    cases p <;> cases idle
    cases mine

instance : DecidablePred LocksAnswer
  | ⟨_, .crash _, _⟩ => .isFalse fun never => never
  | ⟨w, .turn pid c, _⟩ =>
    inferInstanceAs (Decidable (c.fault = true → (w.procs[pid]?).all fun p => !p.callsLocks))
  | ⟨_, .request _, _⟩ | ⟨_, .pass _, _⟩ | ⟨_, .drop _, _⟩ => .isTrue trivial

theorem reserve_enabled :
    (exec (step sampleConfig) (initial sampleCatalog) reserve).isSome = true := by
  decide +kernel

/-- After a create the lock of seat `a…` is backed by the reservation it made. -/
theorem no_leaked_locks_reserved :
    ∃ eventId seatId, key (flatText 'e') (flatText 'a') = key eventId.text seatId ∧
      ∃ r ∈ (replayed reserve reserve_enabled).db.reservations.rows, r.id.text = flatText '1' ∧
        r.state = .pending ∧
        ∃ row ∈ (replayed reserve reserve_enabled).db.reservationSeats.rows,
          row.reservationId = r.id ∧ row.eventId = eventId ∧ row.seatId = seatId ∧
            row.state = .locked :=
  no_leaked_locks (run_replay reserve_enabled)
    (within_replay reserve_enabled (by decide +kernel)) (by decide +kernel) (by decide +kernel) _ _
    (by decide +kernel)

end KiTicket
