import Mathlib.Data.List.Dedup
import KiTicket.Frames

/-! Whose seat locks are whose. A create takes the locks of its seats in the name
of an id it has just drawn, so no two requests ever hold locks in one name; and
as long as the reservation stays PENDING, every lock held in its name is for one
of its rows. -/
namespace KiTicket
open Reservations Runs KiTicket.Lists

variable {cfg : Config} {catalog : Catalog} {spelled : Text → Prop} {w w' : World} {a : Action}
  {c : Choice} {held : List RowLock} {server server' : Server} {p p' : Proc} {draft : Draft}
  {r : Reservation} {id : Uuid} {pid : Nat}

/-- The keys `LockService` uses for some seats of an event. -/
def lockKeys (eventId : Uuid) (seatIds : List Text) : List Text :=
  (LockService.normalized seatIds).map (LockService.key eventId.text)

theorem mem_lockKeys {eventId : Uuid} {seatIds : List Text} {key : Text} :
    key ∈ lockKeys eventId seatIds ↔ ∃ seatId ∈ seatIds, LockService.key eventId.text seatId = key := by
  simp [lockKeys, LockService.normalized]

/-- The locks a create has taken, or is about to take, and in whose name. -/
def Proc.claim : Proc → List (Uuid × List Text)
  | .create (.acquire draft) => [(draft.id, [])]
  | .create (.findOccupied draft) | .create (.save draft) =>
    [(draft.id, lockKeys draft.event.id draft.seatIds)]
  | _ => []

/-! ## What a turn does to the locks -/

/-- A turn draws an id, or takes the locks it is about to take, or takes none
and at most gives its own claim up. -/
inductive Locking (p : Proc) (server : Server) (p' : Proc) (server' : Server) : Prop where
  | draws {id : Uuid} (idle : p.claim = []) (claim : p'.claim = [(id, [])]) (new : id ∉ server.drawn)
      (drawn : server'.drawn = id :: server.drawn) (locks : server'.locks = server.locks)
  | acquires {id : Uuid} {keys : List Text} {ttl : Nat} (ready : p.claim = [(id, [])]) (claim : p'.claim = [(id, keys)])
      (drawn : server'.drawn = server.drawn)
      (locks : server'.locks = server.locks.setAll keys ttl id.text)
  | keeps (claim : p'.claim = p.claim ∨ p'.claim = []) (releases : server.Releases server')

theorem Server.Releases.owned {value : Text} {keys : List Text} (releases : server.Releases server')
    (owned : server.locks.OwnedWithin value keys) : server'.locks.OwnedWithin value keys := by
  rcases releases.locks with same | ⟨eventId, seatIds, owner, released⟩
  · rwa [same]
  · rw [released, LockService.release]
    split
    · exact owned
    · exact owned.delOwned

theorem acquire_eq_ok {store store' : KeyStore Text Text} {eventId : Uuid} {seatIds : List Text}
    {owner : Text} (acquired : LockService.acquire cfg store eventId.text seatIds owner = .ok store') :
    ∃ ttl, store' = store.setAll (lockKeys eventId seatIds) ttl owner := by
  unfold LockService.acquire LockService.acquireScript at acquired
  split at acquired
  · cases acquired
  dsimp only at acquired
  split at acquired
  · cases acquired
  split at acquired
  · rename_i refused
    exact absurd rfl refused
  · cases acquired
    exact ⟨_, rfl⟩

theorem Reservations.Create.locking {state : Create} {next : Next Create}
    (turn : state.turn cfg c server = some (server', next)) :
    Locking (.create state) server (next.proc .create) server' := by
  have quiet {server'' : Server} (same : server'' = server) (idle : (next.proc .create).claim = []) :
      Locking (.create state) server (next.proc .create) server'' := by
    subst same
    exact .keeps (.inr idle) Server.quiet_refl.toReleases
  cases state <;> simp only [Create.turn] at turn
  case assertAdmission => split at turn <;> cases turn <;> exact quiet rfl rfl
  case findEvent =>
    split at turn
    · cases turn
      exact quiet rfl rfl
    split at turn
    · cases turn
      exact quiet rfl rfl
    split at turn <;> cases turn <;> exact quiet rfl rfl
  case findSectors =>
    cases turn
    exact quiet rfl rfl
  case findSeats => split at turn <;> cases turn <;> exact quiet rfl rfl
  case findPricing =>
    split at turn
    · cases turn
      exact quiet rfl rfl
    split at turn
    · split at turn <;> cases turn
      rename_i new
      exact .draws rfl rfl new rfl rfl
    · cases turn
  case acquire draft =>
    split at turn <;> cases turn
    · exact quiet rfl rfl
    · rename_i locks acquired
      obtain ⟨ttl, rfl⟩ := acquire_eq_ok acquired
      exact .acquires rfl rfl rfl rfl
  case findOccupied =>
    split at turn <;> cases turn
    · exact quiet rfl rfl
    · exact .keeps (.inl rfl) Server.quiet_refl.toReleases
  case save =>
    split at turn
    · cases turn
    split at turn <;> cases turn
    · exact quiet rfl rfl
    · exact .keeps (.inr rfl) ⟨rfl, .inl rfl⟩
  case announce =>
    cases turn
    exact .keeps (.inr rfl) ⟨rfl, .inl rfl⟩
  case release =>
    cases turn
    exact .keeps (.inr rfl) ⟨rfl, .inr ⟨_, _, _, rfl⟩⟩

theorem Proc.locking (turn : p.turn cfg c held server = some (server', p')) :
    Locking p server p' server' := by
  cases creates : p.creates
  case false =>
    have releases := (p.frame turn).2.2 creates
    have idle : p'.claim = [] := by
      cases p <;> simp only [Proc.turn, turnOf_eq_some] at turn
      case create => cases creates
      case done => cases turn
      all_goals
        obtain ⟨next, -, rfl⟩ := turn
        cases next <;> rfl
    exact .keeps (.inr idle) releases
  case true =>
    cases p <;> cases creates
    simp only [Proc.turn, turnOf_eq_some] at turn
    obtain ⟨next, turn, rfl⟩ := turn
    split at turn
    · rename_i state _
      cases state <;> simp only [Create.fault] at turn <;> cases turn <;>
        exact .keeps (.inr rfl) Server.quiet_refl.toReleases
    · exact Create.locking turn

/-! ## The invariant -/

structure World.Locked (w : World) : Prop where
  /-- An id nobody has drawn names no reservation and no lock. -/
  undrawn : ∀ id ∉ w.shared.drawn, (w.db.booking id).reservation = none ∧
    w.shared.locks.OwnedWithin id.text []
  /-- A create holds its claim in the name of an id that is its own. -/
  claims : ∀ p ∈ w.procs, ∀ claim ∈ p.claim, claim.1 ∈ w.shared.drawn ∧
    (w.db.booking claim.1).reservation = none ∧ w.shared.locks.OwnedWithin claim.1.text claim.2
  exclusive : Pool.Exclusive (fun p => p.claim.map Prod.fst) w.procs
  /-- A PENDING reservation's locks are for its rows. -/
  pending : ∀ id r, (w.db.booking id).reservation = some r → r.state = .pending →
    w.shared.locks.OwnedWithin id.text
      (lockKeys r.eventId ((w.db.booking id).seats.map ReservationSeat.seatId))

/-! What one turn keeps of it. -/

/-- The locks in a name that is not the process's own stay within their keys. -/
theorem Locking.owned {keys : List Text} (locking : Locking p server p' server')
    (owned : server.locks.OwnedWithin id.text keys) (other : ∀ claim ∈ p.claim, claim.1 ≠ id) :
    server'.locks.OwnedWithin id.text keys := by
  cases locking
  case draws same => rwa [same]
  case acquires ready _ _ same =>
    rw [same]
    refine owned.setAll_ne fun equal => ?_
    exact other _ (ready ▸ List.mem_cons_self) (Uuid.text_injective equal)
  case keeps releases => exact releases.owned owned

theorem Locking.drawn (locking : Locking p server p' server') (old : id ∈ server.drawn) :
    id ∈ server'.drawn := by
  cases locking
  case draws drawn _ => rw [drawn]; exact List.mem_cons_of_mem _ old
  case acquires drawn _ => rwa [drawn]
  case keeps releases => rwa [releases.drawn]

/-- A name is the process's own, or nobody has had it before. -/
theorem Locking.names (locking : Locking p server p' server') {claim : Uuid × List Text}
    (mine : claim ∈ p'.claim) :
    claim.1 ∈ p.claim.map Prod.fst ∨ (claim.1 ∉ server.drawn ∧ claim.1 ∈ server'.drawn) := by
  cases locking
  case draws going new drawn _ =>
    rw [going, List.mem_singleton] at mine
    subst mine
    exact .inr ⟨new, by simp [drawn]⟩
  case acquires ready going _ _ =>
    rw [going, List.mem_singleton] at mine
    subst mine
    exact .inl (by simp [ready])
  case keeps going _ =>
    rcases going with same | none
    · exact .inl (List.mem_map_of_mem (same ▸ mine))
    · simp [none] at mine

/-- The process's own locks are those of its claim. -/
theorem Locking.mine (locking : Locking p server p' server') {claim : Uuid × List Text}
    (member : claim ∈ p'.claim)
    (before : ∀ claim ∈ p.claim, server.locks.OwnedWithin claim.1.text claim.2)
    (undrawn : ∀ id ∉ server.drawn, server.locks.OwnedWithin id.text []) :
    server'.locks.OwnedWithin claim.1.text claim.2 := by
  cases locking
  case draws going new _ same =>
    rw [going, List.mem_singleton] at member
    subst member
    rw [same]
    exact undrawn _ new
  case acquires ready going _ same =>
    rw [going, List.mem_singleton] at member
    subst member
    rw [same]
    have none := before _ (ready ▸ List.mem_cons_self)
    exact none.setAll
  case keeps going releases =>
    rcases going with same | none
    · exact releases.owned (before claim (same ▸ member))
    · simp [none] at member

theorem World.Locked.turn (locked : World.Locked w) (sound : World.Sound (fun _ => True) w)
    (taken : step cfg w (.turn pid c) = some w') : World.Locked w' := by
  obtain ⟨p, p', serving, turn, procs⟩ := step_turn taken
  have locking := Proc.locking turn
  have size := (List.getElem?_eq_some_iff.mp serving).1
  have claims := locked.claims p (List.mem_of_getElem? serving)
  -- a new reservation bears the name of the create that stored it and then claims nothing
  have new {id : Uuid} {r : Reservation} (absent : (w.db.booking id).reservation = none)
      (after : (w'.db.booking id).reservation = some r) : p'.claim = [] ∧ ∃ claim ∈ p.claim, claim.1 = id := by
    rcases reservation_cases sound taken after with ⟨old, before, -⟩ | created
    · rw [absent] at before
      cases before
    · obtain ⟨at_pid, going, -, -, -⟩ := created
      rw [serving, Option.some.injEq] at at_pid
      rw [procs, List.getElem?_set_self size, Option.some.injEq] at going
      subst at_pid going
      exact ⟨rfl, _, List.mem_cons_self, rfl⟩
  have absent {id : Uuid} (before : (w.db.booking id).reservation = none)
      (other : ∀ claim ∈ p.claim, claim.1 ≠ id) : (w'.db.booking id).reservation = none := by
    rw [Option.eq_none_iff_forall_ne_some]
    intro r after
    obtain ⟨-, claim, mine, named⟩ := new before after
    exact other claim mine named
  have apart {j : Nat} {q : Proc} (different : j ≠ pid) (at_j : w.procs[j]? = some q) :
      ∀ claim ∈ q.claim, ∀ own ∈ p.claim, own.1 ≠ claim.1 := by
    intro claim theirs own mine same
    exact locked.exclusive pid j p q different.symm serving at_j own.1 (List.mem_map_of_mem mine)
      (same ▸ List.mem_map_of_mem theirs)
  constructor
  case undrawn =>
    intro id undrawn
    have old : id ∉ w.shared.drawn := fun old => undrawn (locking.drawn old)
    have other : ∀ claim ∈ p.claim, claim.1 ≠ id := by
      rintro claim mine rfl
      exact old (claims claim mine).1
    obtain ⟨before, owned⟩ := locked.undrawn id old
    exact ⟨absent before other, locking.owned owned other⟩
  case claims =>
    rw [procs]
    refine Pool.forall_set locked.claims ?_ ?_
    · intro claim mine
      have owned := locking.mine mine (fun claim mine => (claims claim mine).2.2)
        fun id undrawn => (locked.undrawn id undrawn).2
      have known : claim.1 ∈ w'.shared.drawn ∧ (w.db.booking claim.1).reservation = none := by
        rcases locking.names mine with old | ⟨undrawn, drawn⟩
        · obtain ⟨before, held, same⟩ := List.mem_map.mp old
          rw [← same]
          exact ⟨locking.drawn (claims before held).1, (claims before held).2.1⟩
        · exact ⟨drawn, (locked.undrawn _ undrawn).1⟩
      refine ⟨known.1, ?_, owned⟩
      rw [Option.eq_none_iff_forall_ne_some]
      intro r after
      obtain ⟨none, -⟩ := new known.2 after
      simp [none] at mine
    · intro j q different at_j kept claim theirs
      obtain ⟨drawn, before, owned⟩ := kept claim theirs
      have other := apart different at_j claim theirs
      exact ⟨locking.drawn drawn, absent before other, locking.owned owned other⟩
  case exclusive =>
    rw [procs]
    refine locked.exclusive.set fun j q different at_j name mine theirs => ?_
    obtain ⟨claim, member, rfl⟩ := List.mem_map.mp mine
    obtain ⟨other, held, same⟩ := List.mem_map.mp theirs
    rcases locking.names member with old | ⟨undrawn, -⟩
    · exact locked.exclusive pid j p q different.symm serving at_j _ old theirs
    · rw [← same] at undrawn
      exact undrawn (locked.claims q (List.mem_of_getElem? at_j) other held).1
  case pending =>
    intro id r after pending
    rcases reservation_cases sound taken after with ⟨old, before, kept⟩ | created
    · obtain ⟨rfl, seats⟩ := kept pending
      rw [seats]
      refine locking.owned (locked.pending id old before pending) ?_
      rintro claim mine rfl
      exact absurd before (by simp [(claims claim mine).2.1])
    · obtain @⟨_, _, draft, _, at_pid, going, -, lengths, rows⟩ := created
      rw [serving, Option.some.injEq] at at_pid
      rw [procs, List.getElem?_set_self size, Option.some.injEq] at going
      subst at_pid going
      have owned : w'.shared.locks.OwnedWithin draft.id.text (lockKeys draft.event.id draft.seatIds) := by
        cases locking
        case draws idle _ _ _ => cases idle
        case acquires going _ _ => cases going
        case keeps releases => exact releases.owned (claims _ List.mem_cons_self).2.2
      refine owned.mono fun key locks => ?_
      obtain ⟨seatId, asked, rfl⟩ := mem_lockKeys.mp locks
      rw [← seatIds_of_rows lengths] at asked
      rw [mem_lockKeys, rows, List.map_append]
      exact ⟨_, List.mem_append_right _ asked, rfl⟩

/-! ## Along a run -/

theorem World.Locked.next (locked : World.Locked w) (sound : World.Sound (fun _ => True) w)
    (taken : step cfg w a = some w') : World.Locked w' := by
  cases step_cases taken
  case request r accepted =>
    have idle : r.proc.claim = [] := by
      cases r <;> rfl
    refine ⟨locked.undrawn, ?_, locked.exclusive.append (by simp [idle]), locked.pending⟩
    intro p member
    rcases List.mem_append.mp member with old | new
    · exact locked.claims p old
    · rw [List.mem_singleton.mp new, idle]
      exact fun claim mine => absurd mine List.not_mem_nil
  case turn pid c => exact locked.turn sound taken
  case crash pid p serving =>
    exact ⟨locked.undrawn, Pool.forall_set locked.claims (fun _ mine => absurd mine List.not_mem_nil)
      fun _ _ _ _ kept => kept, locked.exclusive.release serving fun _ mine => absurd mine List.not_mem_nil,
      locked.pending⟩
  case pass elapsed =>
    exact ⟨fun id undrawn => ⟨(locked.undrawn id undrawn).1, (locked.undrawn id undrawn).2.pass elapsed⟩,
      locked.claims, locked.exclusive, locked.pending⟩
  case drop key =>
    refine ⟨fun id undrawn => ⟨(locked.undrawn id undrawn).1, (locked.undrawn id undrawn).2.del key⟩,
      ?_, locked.exclusive, fun id r stored pending => (locked.pending id r stored pending).del key⟩
    intro p member claim mine
    obtain ⟨drawn, absent, owned⟩ := locked.claims p member claim mine
    exact ⟨drawn, absent, owned.del key⟩

theorem locked_initial : World.Locked (initial catalog) where
  undrawn id _ := ⟨rfl, fun key cell held => by cases held⟩
  claims p member := absurd member List.not_mem_nil
  exclusive i j p q _ at_i := by simp [initial] at at_i
  pending id r stored := by cases stored

/-- Nobody takes locks in the name of a reservation that is there already. -/
theorem owned_step {keys : List Text} (locked : World.Locked w) (taken : step cfg w a = some w')
    (stored : (w.db.booking id).reservation = some r)
    (owned : w.shared.locks.OwnedWithin id.text keys) :
    w'.shared.locks.OwnedWithin id.text keys := by
  cases step_cases taken
  case request r accepted =>
    exact owned
  case turn pid c p p' serving _ turn =>
    refine (Proc.locking turn).owned owned ?_
    rintro claim mine rfl
    have absent := (locked.claims p (List.mem_of_getElem? serving) claim mine).2.1
    cases absent.symm.trans stored
  case crash pid p serving =>
    exact owned
  case pass elapsed =>
    exact owned.pass elapsed
  case drop key =>
    exact owned.del key

variable {ts us : List (Transition World Action)}

theorem locked_of_run (run : Run (step cfg) (initial catalog) ts w) :
    World.Sound (fun _ => True) w ∧ World.Locked w :=
  run.invariant (P := fun w => World.Sound (fun _ => True) w ∧ World.Locked w) within_any
    ⟨sound_initial, locked_initial⟩
    fun _ _ _ both _ taken => ⟨(both.1.next spelled_any taken).1, both.2.next both.1 taken⟩

theorem owned_of_run {keys : List Text} (sound : World.Sound (fun _ => True) w)
    (locked : World.Locked w) (run : Run (step cfg) w us w')
    (stored : (w.db.booking id).reservation = some r)
    (owned : w.shared.locks.OwnedWithin id.text keys) :
    w'.shared.locks.OwnedWithin id.text keys := by
  refine (run.invariant (P := fun w => World.Sound (fun _ => True) w ∧ World.Locked w ∧
    (∃ r, (w.db.booking id).reservation = some r) ∧ w.shared.locks.OwnedWithin id.text keys)
    within_any ⟨sound, locked, ⟨r, stored⟩, owned⟩ ?_).2.2.2
  rintro w a w' ⟨sound, locked, ⟨r, stored⟩, owned⟩ - taken
  obtain ⟨state, after⟩ := reservation_of_run (.single taken) sound stored
  exact ⟨(sound.next spelled_any taken).1, locked.next sound taken, ⟨_, after⟩,
    owned_step locked taken stored owned⟩

/-- Releasing the locks of a reservation's rows leaves none in its name. -/
theorem get_ne_of_release {store : KeyStore Text Text} {eventId : Uuid} {seatIds : List Text}
    {owner : Text} (owned : store.OwnedWithin owner (lockKeys eventId seatIds)) (key : Text) :
    (LockService.release store eventId.text seatIds owner).1.get key ≠ some owner := by
  unfold LockService.release
  split
  · rename_i none
    subst none
    exact KeyStore.get_ne_of_delOwned owned key
  · exact KeyStore.get_ne_of_delOwned owned key

end KiTicket
