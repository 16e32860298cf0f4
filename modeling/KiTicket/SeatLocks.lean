import KiTicket.Locks

/-! The lock service by itself: any callers, in any order, and the time that passes
on the Redis server. A key set by an acquire holds until its time has come or its
owner releases the seat, and while it holds no other acquire of the seat succeeds. -/
namespace KiTicket.LockService
open Runs

variable {cfg : Config} {store store' : KeyStore Text Text} {eventId : Uuid} {seatIds : List Text}
  {seatId owner : Text} {deadline : Nat}

inductive Call where
  | acquire (eventId : Uuid) (seatIds : List Text) (owner : Text)
  | release (eventId : Uuid) (seatIds : List Text) (owner : Text)
  /-- Time passes on the Redis server. -/
  | pass (elapsed : Nat)

/-- What a call leaves in Redis. An acquire that repeats a seat is refused before
the script is sent. -/
def serve (cfg : Config) (store : KeyStore Text Text) : Call → KeyStore Text Text
  | .acquire eventId seatIds owner =>
    if (normalized seatIds).length ≠ seatIds.length then store
    else (acquireScript store ((normalized seatIds).map (key eventId.text)) owner
      (cfg.lockTtlSeconds * 1000)).1
  | .release eventId seatIds owner => (release store eventId.text seatIds owner).1
  | .pass elapsed => store.pass elapsed

/-- An acquire that goes through. -/
def wins (cfg : Config) (store : KeyStore Text Text) : Call → Bool
  | .acquire eventId seatIds owner => (acquire cfg store eventId.text seatIds owner).isOk
  | .release _ _ _ | .pass _ => false

/-- The owner gives the seat back. -/
def Call.Frees (eventId : Uuid) (seatId owner : Text) : Call → Prop
  | .release event seatIds by' => event = eventId ∧ seatId ∈ seatIds ∧ by' = owner
  | .acquire _ _ _ | .pass _ => False

instance : DecidablePred (Call.Frees eventId seatId owner)
  | .release event seatIds by' =>
    inferInstanceAs (Decidable (event = eventId ∧ seatId ∈ seatIds ∧ by' = owner))
  | .acquire _ _ _ | .pass _ => .isFalse id

abbrev serves (cfg : Config) (store : KeyStore Text Text) (call : Call) :
    Option (KeyStore Text Text) :=
  some (serve cfg store call)

/-! ## One call -/

/-- Event ids are all of one length, so a key names one seat of one event. -/
theorem key_inj {event event' : Uuid} {seat seat' : Text}
    (same : key event.text seat = key event'.text seat') : event = event' ∧ seat = seat' := by
  have length (u : Uuid) : u.text.length = 36 := by
    have layout := u.layout
    simp only [uuidLayout, Bool.and_eq_true, beq_iff_eq] at layout
    exact layout.1
  unfold key at same
  rw [List.append_assoc, List.append_assoc, List.append_assoc, List.append_assoc] at same
  have rest := List.append_cancel_left same
  obtain ⟨events, rest⟩ := List.append_inj rest (by rw [length, length])
  exact ⟨Uuid.text_injective events, List.append_cancel_left rest⟩

theorem nodup_iff : (normalized seatIds).length = seatIds.length ↔ seatIds.Nodup := by
  rw [normalized, List.length_insertionSort]
  constructor
  · intro lengths
    exact List.dedup_eq_self.mp ((List.dedup_sublist seatIds).eq_of_length lengths)
  · intro distinct
    rw [List.dedup_eq_self.mpr distinct]

/-- Some seat of the list is locked. -/
def Locked (store : KeyStore Text Text) (eventId : Uuid) (seatIds : List Text) : Prop :=
  ∃ seatId ∈ seatIds, (store.get (key eventId.text seatId)).isSome

/-! ## One call to the letter

The event is now named by any string, as the service itself takes it. -/

section
variable {eventId : Text} {seatIds' : List Text}

/-- The keys of some seats of an event. -/
def seatKeys (eventId : Text) (seatIds : List Text) : List Text :=
  (normalized seatIds).map (key eventId)

theorem key_injective (eventId : Text) : Function.Injective (key eventId) :=
  fun _ _ same => List.append_cancel_left same

theorem mem_seatKeys {k : Text} :
    k ∈ seatKeys eventId seatIds ↔ k ∈ seatIds.map (key eventId) := by
  simp [seatKeys, normalized]

theorem seatKeys_nodup : (seatKeys eventId seatIds).Nodup := by
  refine List.Nodup.map (key_injective eventId) ?_
  exact (List.perm_insertionSort _ _).nodup_iff.mpr (List.nodup_dedup _)

/-- What an acquire leaves in Redis, whether or not it goes through. -/
def left (cfg : Config) (store : KeyStore Text Text) (eventId : Text) (seatIds : List Text)
    (owner : Text) : KeyStore Text Text :=
  if (normalized seatIds).length ≠ seatIds.length then store
  else (acquireScript store (seatKeys eventId seatIds) owner (cfg.lockTtlSeconds * 1000)).1

/-- Every seat of the list is free. -/
def Free (store : KeyStore Text Text) (eventId : Text) (seatIds : List Text) : Prop :=
  ∀ k ∈ seatIds.map (key eventId), store.get k = none

theorem any_seatKeys : (seatKeys eventId seatIds).any (fun k => (store.get k).isSome) = false ↔
    Free store eventId seatIds := by
  rw [List.any_eq_false]
  simp only [mem_seatKeys, Bool.not_eq_true, Option.isSome_eq_false_iff, Option.isNone_iff_eq_none]
  rfl

/-- The script is sent for seats that are all different. -/
theorem acquire_of_nodup (distinct : seatIds.Nodup) :
    acquire cfg store eventId seatIds owner =
      if (acquireScript store (seatKeys eventId seatIds) owner (cfg.lockTtlSeconds * 1000)).2 ≠ 1 then
        .error (.conflict "At least one selected seat is currently locked")
      else .ok (acquireScript store (seatKeys eventId seatIds) owner
        (cfg.lockTtlSeconds * 1000)).1 := by
  rw [acquire, if_neg (not_not.mpr (nodup_iff.mpr distinct))]
  rfl

/-- The script sets every key of the list and answers 1. -/
theorem script_of_free (free : Free store eventId seatIds) (ttlMs : Nat) :
    acquireScript store (seatKeys eventId seatIds) owner ttlMs =
      (store.setAll (seatKeys eventId seatIds) ttlMs owner, 1) := by
  rw [acquireScript, any_seatKeys.mpr free]
  rfl

/-- The script answers 0 and leaves the store as it is. -/
theorem script_of_taken (taken : ¬ Free store eventId seatIds) (ttlMs : Nat) :
    acquireScript store (seatKeys eventId seatIds) owner ttlMs = (store, 0) := by
  rw [acquireScript, if_pos]
  rwa [← Bool.not_eq_false, any_seatKeys]

theorem acquire_of_free (distinct : seatIds.Nodup) (free : Free store eventId seatIds) :
    acquire cfg store eventId seatIds owner =
      .ok (store.setAll (seatKeys eventId seatIds) (cfg.lockTtlSeconds * 1000) owner) := by
  rw [acquire_of_nodup distinct, script_of_free free]
  rfl

theorem acquire_of_taken (distinct : seatIds.Nodup) (taken : ¬ Free store eventId seatIds) :
    acquire cfg store eventId seatIds owner =
      .error (.conflict "At least one selected seat is currently locked") := by
  rw [acquire_of_nodup distinct, script_of_taken taken]
  rfl

theorem acquire_of_repeated (repeated : ¬ seatIds.Nodup) :
    acquire cfg store eventId seatIds owner =
      .error (.conflict "Duplicate seats are not allowed") :=
  if_pos fun same => repeated (nodup_iff.mp same)

theorem acquire_eq_ok_iff : acquire cfg store eventId seatIds owner = .ok store' ↔
    seatIds.Nodup ∧ Free store eventId seatIds ∧
      store' = store.setAll (seatKeys eventId seatIds) (cfg.lockTtlSeconds * 1000) owner := by
  by_cases distinct : seatIds.Nodup
  · by_cases free : Free store eventId seatIds
    · rw [acquire_of_free distinct free, Except.ok.injEq]
      exact ⟨fun same => ⟨distinct, free, same.symm⟩, fun ⟨_, _, same⟩ => same.symm⟩
    · rw [acquire_of_taken distinct free]
      exact iff_of_false nofun fun ⟨_, free', _⟩ => free free'
  · rw [acquire_of_repeated distinct]
    exact iff_of_false nofun fun ⟨distinct', _⟩ => distinct distinct'

/-- What an acquire of some seats of an event does. -/
structure Acquires (cfg : Config) (store : KeyStore Text Text) (eventId : Text)
    (seatIds : List Text) (owner : Text) : Prop where
  succeeds : (∃ store', acquire cfg store eventId seatIds owner = .ok store') ↔
    seatIds.Nodup ∧ Free store eventId seatIds
  sets : ∀ store', acquire cfg store eventId seatIds owner = .ok store' →
    left cfg store eventId seatIds owner = store' ∧ store'.now = store.now ∧
      ∀ k, store'.cell k =
        if k ∈ seatIds.map (key eventId) then
          some ⟨owner, store.now + cfg.lockTtlSeconds * 1000⟩
        else store.cell k
  fails : (∀ store', acquire cfg store eventId seatIds owner ≠ .ok store') →
    left cfg store eventId seatIds owner = store

/-- What a release of some seats of an event does. -/
structure Releases (store : KeyStore Text Text) (eventId : Text) (seatIds : List Text)
    (owner : Text) : Prop where
  now : (release store eventId seatIds owner).1.now = store.now
  deletes : ∀ k, (release store eventId seatIds owner).1.cell k =
    if k ∈ seatIds.map (key eventId) ∧ store.get k = some owner then none else store.cell k
  count : (release store eventId seatIds owner).2 =
    seatIds.dedup.countP fun seatId => store.get (key eventId seatId) = some owner

/-- From a second store the owner's release leads back to the first, as far as any
command can tell, and there is nothing left to release. -/
structure Restores (store store' : KeyStore Text Text) (eventId : Text) (seatIds : List Text)
    (owner : Text) : Prop where
  count : (release store' eventId seatIds owner).2 = seatIds.length
  now : (release store' eventId seatIds owner).1.now = store.now
  live : ∀ k, (release store' eventId seatIds owner).1.live k = store.live k
  again : release (release store' eventId seatIds owner).1 eventId seatIds owner =
    ((release store' eventId seatIds owner).1, 0)

theorem acquires : Acquires cfg store eventId seatIds owner where
  succeeds := by
    constructor
    · rintro ⟨store', acquired⟩
      obtain ⟨distinct, free, -⟩ := acquire_eq_ok_iff.mp acquired
      exact ⟨distinct, free⟩
    · rintro ⟨distinct, free⟩
      exact ⟨_, acquire_of_free distinct free⟩
  sets store' acquired := by
    obtain ⟨distinct, free, rfl⟩ := acquire_eq_ok_iff.mp acquired
    refine ⟨?_, KeyStore.setAll_spec.1, fun k => ?_⟩
    · rw [left, if_neg (not_not.mpr (nodup_iff.mpr distinct)), script_of_free free]
    · rw [KeyStore.setAll_spec.2]
      simp only [mem_seatKeys]
  fails refused := by
    by_cases distinct : seatIds.Nodup
    · have taken : ¬ Free store eventId seatIds := fun free =>
        refused _ (acquire_of_free distinct free)
      rw [left, if_neg (not_not.mpr (nodup_iff.mpr distinct)), script_of_taken taken]
    · exact if_pos fun same => distinct (nodup_iff.mp same)

theorem releases : Releases store eventId seatIds owner := by
  have count : seatIds.dedup.countP (fun seatId => store.get (key eventId seatId) = some owner) =
      (seatKeys eventId seatIds).countP fun k => store.get k = some owner := by
    rw [seatKeys, List.countP_map]
    exact ((List.perm_insertionSort _ _).countP_eq _).symm
  by_cases empty : seatIds = []
  · subst empty
    exact ⟨rfl, fun k => (if_neg fun ⟨listed, _⟩ => absurd listed List.not_mem_nil).symm, rfl⟩
  · have script : release store eventId seatIds owner =
        store.delOwned (seatKeys eventId seatIds) owner := if_neg empty
    refine ⟨?_, fun k => ?_, ?_⟩
    · rw [script, KeyStore.now_delOwned]
    · rw [script, KeyStore.cell_delOwned]
      simp only [mem_seatKeys]
    · rw [script, KeyStore.count_delOwned seatKeys_nodup, count]

/-- Where nobody's key is the owner's, there is nothing to release. -/
theorem release_of_none (none : ∀ k ∈ seatIds.map (key eventId), store.get k ≠ some owner) :
    release store eventId seatIds owner = (store, 0) := by
  refine Prod.ext (KeyStore.ext releases.now (funext fun k => ?_)) ?_
  · rw [releases.deletes, if_neg fun ⟨listed, mine⟩ => none k listed mine]
  · rw [releases.count, List.countP_eq_zero]
    intro seatId asked mine
    exact none _ (List.mem_map_of_mem (List.mem_dedup.mp asked)) (of_decide_eq_true mine)

theorem restores (acquired : acquire cfg store eventId seatIds owner = .ok store')
    (lasting : 0 < cfg.lockTtlSeconds) : Restores store store' eventId seatIds owner := by
  obtain ⟨distinct, free, -⟩ := acquire_eq_ok_iff.mp acquired
  obtain ⟨-, clock, cells⟩ := acquires.sets store' acquired
  have mine : ∀ k ∈ seatIds.map (key eventId), store'.get k = some owner := by
    intro k listed
    refine KeyStore.get_eq_some.mpr ⟨_, (cells k).trans (if_pos listed), ?_, rfl⟩
    rw [clock]
    exact Nat.lt_add_of_pos_right (Nat.mul_pos lasting (by decide))
  have cell (k : Text) : (release store' eventId seatIds owner).1.cell k =
      if k ∈ seatIds.map (key eventId) then none else store.cell k := by
    rw [releases.deletes, cells]
    split
    · rename_i both
      rw [if_pos both.1]
    · rename_i other
      have unlisted := fun listed => other ⟨listed, mine k listed⟩
      rw [if_neg unlisted, if_neg unlisted]
  refine ⟨?_, releases.now.trans clock, fun k => ?_, release_of_none fun k listed => ?_⟩
  · rw [releases.count, List.dedup_eq_self.mpr distinct, List.countP_eq_length]
    exact fun seatId asked => decide_eq_true (mine _ (List.mem_map_of_mem asked))
  · rw [KeyStore.live, cell, releases.now, clock]
    split
    · rename_i listed
      exact (KeyStore.live_eq_none.mpr (free k listed)).symm
    · rfl
  · rw [KeyStore.get, cell, if_pos listed]
    exact Option.some_ne_none owner |>.symm

/-- Lists with the same seats are the same request. -/
theorem same_of_perm (perm : seatIds.Perm seatIds') :
    acquire cfg store eventId seatIds owner = acquire cfg store eventId seatIds' owner ∧
    left cfg store eventId seatIds owner = left cfg store eventId seatIds' owner ∧
    release store eventId seatIds owner = release store eventId seatIds' owner := by
  have listed (k : Text) : k ∈ seatIds.map (key eventId) ↔ k ∈ seatIds'.map (key eventId) :=
    (perm.map _).mem_iff
  have sets (ttl : Nat) : store.setAll (seatKeys eventId seatIds) ttl owner =
      store.setAll (seatKeys eventId seatIds') ttl owner := by
    refine KeyStore.ext (KeyStore.setAll_spec.1.trans KeyStore.setAll_spec.1.symm) ?_
    funext k
    rw [KeyStore.setAll_spec.2, KeyStore.setAll_spec.2]
    simp only [mem_seatKeys, listed]
  have free : Free store eventId seatIds ↔ Free store eventId seatIds' := by
    simp only [Free, listed]
  have acquired : acquire cfg store eventId seatIds owner =
      acquire cfg store eventId seatIds' owner := by
    by_cases distinct : seatIds.Nodup
    · have distinct' := perm.nodup_iff.mp distinct
      by_cases open' : Free store eventId seatIds
      · rw [acquire_of_free distinct open', acquire_of_free distinct' (free.mp open'), sets]
      · rw [acquire_of_taken distinct open',
          acquire_of_taken distinct' fun open'' => open' (free.mpr open'')]
    · rw [acquire_of_repeated distinct,
        acquire_of_repeated fun distinct' => distinct (perm.nodup_iff.mpr distinct')]
  refine ⟨acquired, ?_, ?_⟩
  · cases outcome : acquire cfg store eventId seatIds owner with
    | error failure =>
      have lost : ∀ store', acquire cfg store eventId seatIds owner ≠ .ok store' := by
        rw [outcome]
        exact nofun
      rw [acquires.fails lost, acquires.fails (acquired ▸ lost)]
    | ok store' =>
      rw [(acquires.sets store' outcome).1, (acquires.sets store' (acquired.symm.trans outcome)).1]
  · refine Prod.ext (KeyStore.ext ?_ (funext fun k => ?_)) ?_
    · rw [releases.now, releases.now]
    · rw [releases.deletes, releases.deletes]
      simp only [listed]
    · rw [releases.count, releases.count]
      exact perm.dedup.countP_eq _

/-- Acquire and release do to the letter what they say, whatever the store held. -/
theorem acquire_release_exact (cfg : Config) (store : KeyStore Text Text) (eventId : Text)
    (seatIds : List Text) (owner : Text) :
    Acquires cfg store eventId seatIds owner ∧ Releases store eventId seatIds owner ∧
    (∀ store', acquire cfg store eventId seatIds owner = .ok store' → seatIds ≠ [] →
      0 < cfg.lockTtlSeconds → Restores store store' eventId seatIds owner) ∧
    ∀ seatIds', seatIds.Perm seatIds' →
      acquire cfg store eventId seatIds owner = acquire cfg store eventId seatIds' owner ∧
      left cfg store eventId seatIds owner = left cfg store eventId seatIds' owner ∧
      release store eventId seatIds owner = release store eventId seatIds' owner :=
  ⟨acquires, releases, fun _ acquired _ lasting => restores acquired lasting,
    fun _ perm => same_of_perm perm⟩

theorem acquire_release_exact_two : Restores .empty
    (left sampleConfig .empty ['e'] [['b'], ['a']] ['x']) ['e'] [['b'], ['a']] ['x'] :=
  (acquire_release_exact sampleConfig .empty ['e'] [['b'], ['a']] ['x']).2.2.1 _
    (acquire_of_free (by decide) fun _ _ => rfl) (by decide) (by decide)

end

theorem locked_iff : Locked store eventId seatIds ↔ ¬ Free store eventId.text seatIds := by
  simp only [Locked, Free, List.forall_mem_map, ← Option.not_isSome_iff_eq_none, not_forall, not_not,
    exists_prop]

/-- An acquire goes through and sets its keys, or fails and changes nothing. -/
theorem acquire_cases :
    (wins cfg store (.acquire eventId seatIds owner) = true ∧
      ¬ Locked store eventId seatIds ∧
      serve cfg store (.acquire eventId seatIds owner) =
        store.setAll (lockKeys eventId seatIds) (cfg.lockTtlSeconds * 1000) owner) ∨
    wins cfg store (.acquire eventId seatIds owner) = false ∧
      (seatIds.Nodup → Locked store eventId seatIds) ∧
      serve cfg store (.acquire eventId seatIds owner) = store := by
  cases outcome : acquire cfg store eventId.text seatIds owner with
  | ok store' =>
    obtain ⟨-, free, rfl⟩ := acquire_eq_ok_iff.mp outcome
    refine .inl ⟨?_, fun locked => locked_iff.mp locked free, (acquires.sets _ outcome).1⟩
    rw [wins, outcome]
    rfl
  | error failure =>
    have lost : ∀ store', acquire cfg store eventId.text seatIds owner ≠ .ok store' := by
      simp [outcome]
    refine .inr ⟨?_, fun distinct => locked_iff.mpr fun free => ?_, acquires.fails lost⟩
    · rw [wins, outcome]
      rfl
    · exact lost _ (acquire_of_free distinct free)

/-! ## While a key holds -/

/-- The key was set for the owner until the deadline, or the deadline has passed. -/
def HeldUntil (store : KeyStore Text Text) (key owner : Text) (deadline : Nat) : Prop :=
  store.cell key = some ⟨owner, deadline⟩ ∨ deadline ≤ store.now

theorem HeldUntil.get {held : Text} (holds : HeldUntil store held owner deadline)
    (early : store.now < deadline) : store.get held = some owner := by
  rcases holds with cell | late
  · exact KeyStore.get_eq_some.mpr ⟨_, cell, early, rfl⟩
  · omega

/-- The clock of the store only goes forward. -/
theorem now_serve (call : Call) : store.now ≤ (serve cfg store call).now := by
  cases call
  case acquire eventId seatIds owner =>
    rcases @acquire_cases cfg store eventId seatIds owner with ⟨-, -, served⟩ | ⟨-, -, served⟩
    · rw [served, KeyStore.setAll_spec.1]
    · rw [served]
  case release eventId seatIds owner =>
    simp only [serve, release]
    split
    · exact Nat.le_refl _
    · rw [releaseScript, KeyStore.now_delOwned]
  case pass elapsed => exact Nat.le_add_right _ _

/-- What a release leaves of a key. -/
theorem cell_release {held : Text} :
    (release store eventId.text seatIds owner).1.cell held =
      if held ∈ lockKeys eventId seatIds ∧ store.get held = some owner then none
      else store.cell held := by
  unfold release
  split
  · rename_i empty
    rw [if_neg]
    rintro ⟨listed, -⟩
    obtain ⟨_, asked, -⟩ := mem_lockKeys.mp listed
    rw [empty] at asked
    cases asked
  · change (store.delOwned (lockKeys eventId seatIds) owner).1.cell held = _
    rw [KeyStore.cell_delOwned]
    congr

theorem now_release : (release store eventId.text seatIds owner).1.now = store.now := by
  unfold release
  split
  · rfl
  · change (store.delOwned (lockKeys eventId seatIds) owner).1.now = _
    rw [KeyStore.now_delOwned]

/-- No call but the owner's own release takes a key away before its time. -/
theorem HeldUntil.serve (holds : HeldUntil store (key eventId.text seatId) owner deadline)
    {call : Call} (kept : ¬ call.Frees eventId seatId owner) :
    HeldUntil (serve cfg store call) (key eventId.text seatId) owner deadline := by
  by_cases late : deadline ≤ store.now
  · exact .inr (Nat.le_trans late (now_serve call))
  have cell := holds.resolve_right late
  have live := holds.get (Nat.lt_of_not_le late)
  left
  cases call
  case acquire event seats by' =>
    rcases @acquire_cases cfg store event seats by' with ⟨-, free, served⟩ | ⟨-, -, served⟩
    · rw [served, KeyStore.setAll_spec.2, if_neg, cell]
      intro listed
      obtain ⟨seat, asked, same⟩ := mem_lockKeys.mp listed
      exact free ⟨seat, asked, by rw [same, live]; rfl⟩
    · rw [served, cell]
  case release event seats by' =>
    rw [LockService.serve, cell_release, if_neg, cell]
    rintro ⟨listed, mine⟩
    obtain ⟨seat, asked, same⟩ := mem_lockKeys.mp listed
    obtain ⟨rfl, rfl⟩ := key_inj same
    rw [live, Option.some.injEq] at mine
    exact kept ⟨rfl, asked, mine.symm⟩
  case pass => exact cell

/-! ## Along a run -/

variable {ts : List (Transition (KeyStore Text Text) Call)} {t : Transition (KeyStore Text Text) Call}

/-- The step is an acquire that went through. -/
def Won (cfg : Config) (t : Transition (KeyStore Text Text) Call) (eventId : Uuid)
    (seatIds : List Text) (owner : Text) : Prop :=
  t.action = .acquire eventId seatIds owner ∧ wins cfg t.source t.action = true

/-- The seat is the owner's: no acquire that asks for it goes through or changes
anything, and no other owner's release takes it away. -/
structure Protected (cfg : Config) (store : KeyStore Text Text) (eventId : Uuid)
    (seatId owner : Text) : Prop where
  held : store.get (key eventId.text seatId) = some owner
  refused : ∀ seatIds other, seatId ∈ seatIds →
    wins cfg store (.acquire eventId seatIds other) = false ∧
      serve cfg store (.acquire eventId seatIds other) = store
  kept : ∀ event seatIds other, other ≠ owner →
    (serve cfg store (.release event seatIds other)).get (key eventId.text seatId) = some owner

theorem protected_of_get (held : store.get (key eventId.text seatId) = some owner) :
    Protected cfg store eventId seatId owner where
  held := held
  refused seatIds other asked := by
    rcases @acquire_cases cfg store eventId seatIds other with ⟨-, free, -⟩ | ⟨lost, -, served⟩
    · exact absurd ⟨seatId, asked, by rw [held]; rfl⟩ free
    · exact ⟨lost, served⟩
  kept event seatIds other different := by
    rw [serve, KeyStore.get, cell_release, now_release, if_neg]
    · exact held
    · rintro ⟨-, mine⟩
      rw [held, Option.some.injEq] at mine
      exact different mine.symm

/-- From an acquire on, while the owner does not release the seat, the lock holds
until its deadline. -/
theorem heldUntil_of_won (won : Won cfg t eventId seatIds owner)
    (taken : serves cfg t.source t.action = some t.target) (asked : seatId ∈ seatIds)
    (rest : Run (serves cfg) t.target ts store)
    (kept : ∀ u ∈ ts, ¬ u.action.Frees eventId seatId owner) :
    HeldUntil store (key eventId.text seatId) owner
      (t.source.now + cfg.lockTtlSeconds * 1000) := by
  refine rest.invariant (P := fun store => HeldUntil store (key eventId.text seatId) owner
    (t.source.now + cfg.lockTtlSeconds * 1000)) kept ?_ ?_
  · obtain ⟨acquires, goes⟩ := won
    have served : t.target = serve cfg t.source t.action := (Option.some.inj taken).symm
    rw [acquires] at goes served
    rcases @acquire_cases cfg t.source eventId seatIds owner with ⟨-, -, sets⟩ | ⟨lost, -⟩
    · left
      rw [served, sets, KeyStore.setAll_spec.2, if_pos (mem_lockKeys.mpr ⟨seatId, asked, rfl⟩)]
    · rw [lost] at goes
      cases goes
  · rintro store call _ holds kept taken
    cases taken
    exact holds.serve kept

/-- Every key comes from an acquire that went through. -/
theorem won_of_cell (run : Run (serves cfg) .empty ts store) {held : Text}
    {c : Cell Text} (cell : store.cell held = some c) :
    ∃ t ∈ ts, ∃ eventId seatIds owner, Won cfg t eventId seatIds owner ∧
      held ∈ lockKeys eventId seatIds := by
  refine run.history (P := fun ts store => ∀ held c, store.cell held = some c →
    ∃ t ∈ ts, ∃ eventId seatIds owner, Won cfg t eventId seatIds owner ∧
      held ∈ lockKeys eventId seatIds) (fun _ _ => (trivial : True))
    (fun _ _ cell => by cases cell) ?_ held c cell
  rintro ts store call _ - - ih - taken held c cell
  cases taken
  have earlier (cell : store.cell held = some c) :
      ∃ t ∈ ts ++ [⟨store, call, serve cfg store call⟩], ∃ eventId seatIds owner,
        Won cfg t eventId seatIds owner ∧ held ∈ lockKeys eventId seatIds := by
    obtain ⟨t, member, found⟩ := ih held c cell
    exact ⟨t, List.mem_append_left _ member, found⟩
  cases call
  case acquire eventId seatIds owner =>
    rcases @acquire_cases cfg store eventId seatIds owner with ⟨goes, -, served⟩ | ⟨-, -, served⟩
    · rw [served, KeyStore.setAll_spec.2] at cell
      split at cell
      · rename_i listed
        exact ⟨_, List.mem_concat_self, eventId, seatIds, owner, ⟨rfl, goes⟩, listed⟩
      · exact earlier cell
    · rw [served] at cell
      exact earlier cell
  case release eventId seatIds owner =>
    rw [serve, cell_release] at cell
    split at cell
    · cases cell
    · exact earlier cell
  case pass => exact earlier cell

/-- Seat locks exclude each other. An acquire's seats are its own until its
deadline or its own release. Between two winners of one event that share a seat
there is a release or the first one's deadline; and a loser that repeats no seat
shares one with an earlier winner. -/
theorem seat_locks_exclude (run : Run (serves cfg) .empty ts store) :
    (∀ before t after eventId seatIds owner, ts = before ++ t :: after →
      Won cfg t eventId seatIds owner → ∀ seatId ∈ seatIds,
        store.now < t.source.now + cfg.lockTtlSeconds * 1000 →
        (∀ u ∈ after, ¬ u.action.Frees eventId seatId owner) →
          Protected cfg store eventId seatId owner) ∧
    (∀ before t between u after eventId seatIds owner seatIds' owner',
      ts = before ++ t :: (between ++ u :: after) → Won cfg t eventId seatIds owner →
      Won cfg u eventId seatIds' owner' →
      (∀ v ∈ between, ∀ event seats other, v.action ≠ .release event seats other) →
      u.source.now < t.source.now + cfg.lockTtlSeconds * 1000 → seatIds.Disjoint seatIds') ∧
    ∀ before u after eventId seatIds owner, ts = before ++ u :: after →
      u.action = .acquire eventId seatIds owner → wins cfg u.source u.action = false →
      seatIds.Nodup → ∃ t ∈ before, ∃ seatIds' owner', Won cfg t eventId seatIds' owner' ∧
        ∃ seatId ∈ seatIds, seatId ∈ seatIds' := by
  refine ⟨?_, ?_, ?_⟩
  · rintro before t after eventId seatIds owner rfl won seatId asked early kept
    obtain ⟨-, taken, rest⟩ := run.cut
    exact protected_of_get ((heldUntil_of_won won taken asked rest kept).get early)
  · rintro before t between u after eventId seatIds owner seatIds' owner' rfl won won' kept early
    intro seatId asked asked'
    obtain ⟨-, taken, rest⟩ := run.cut
    obtain ⟨middle, -, -⟩ := rest.cut
    have still : ∀ v ∈ between, ¬ v.action.Frees eventId seatId owner := by
      intro v member frees
      cases released : v.action
      case release event seats other => exact kept v member event seats other released
      all_goals
        rw [released] at frees
        cases frees
    have held := (heldUntil_of_won won taken asked middle still).get early
    obtain ⟨acquires, goes⟩ := won'
    rw [acquires, (protected_of_get held).refused seatIds' owner' asked' |>.1] at goes
    cases goes
  · rintro before u after eventId seatIds owner rfl acquires lost distinct
    obtain ⟨first, -, -⟩ := run.cut
    rw [acquires] at lost
    rcases @acquire_cases cfg u.source eventId seatIds owner with ⟨goes, -⟩ | ⟨-, locked, -⟩
    · rw [lost] at goes
      cases goes
    · obtain ⟨seatId, asked, live⟩ := locked distinct
      obtain ⟨other, held⟩ := Option.isSome_iff_exists.mp live
      obtain ⟨c, cell, -⟩ := KeyStore.get_eq_some.mp held
      obtain ⟨t, member, event, seatIds', owner', won, listed⟩ := won_of_cell first cell
      obtain ⟨seat, asked', same⟩ := mem_lockKeys.mp listed
      obtain ⟨rfl, rfl⟩ := key_inj same
      exact ⟨t, member, seatIds', owner', won, seat, asked, asked'⟩

/-- Seats `a` and `b` are locked for `x`; a little later `y` asks for `b` and `c`. -/
def contended : List Call :=
  [.acquire (flat 0xe) [['a'], ['b']] ['x'], .pass 1, .acquire (flat 0xe) [['b'], ['c']] ['y']]

theorem contended_enabled : (exec (serves sampleConfig) .empty contended).isSome = true := rfl

theorem seat_locks_exclude_contended : Protected sampleConfig
    (replay (serves sampleConfig) .empty contended contended_enabled) (flat 0xe) ['b'] ['x'] :=
  (seat_locks_exclude (run_replay contended_enabled)).1 [] _ _ _ _ _ rfl ⟨rfl, by decide +kernel⟩ _
    (by decide) (by decide +kernel) (by decide +kernel)

/-- A list that repeats a seat loses to nobody. -/
theorem loses_alone : ¬ ∀ (cfg : Config) (ts : List (Transition (KeyStore Text Text) Call))
    (store : KeyStore Text Text), Run (serves cfg) .empty ts store →
    ∀ before u after eventId seatIds owner, ts = before ++ u :: after →
      u.action = .acquire eventId seatIds owner → wins cfg u.source u.action = false →
      ∃ t ∈ before, ∃ seatIds' owner', Won cfg t eventId seatIds' owner' ∧
        ∃ seatId ∈ seatIds, seatId ∈ seatIds' := by
  intro always
  obtain ⟨t, member, -⟩ := always sampleConfig _ _ (.single (a := .acquire (flat 0xe) [['a'], ['a']] ['x']) rfl)
    [] _ [] (flat 0xe) [['a'], ['a']] ['x'] rfl rfl (by decide +kernel)
  cases member

end KiTicket.LockService
