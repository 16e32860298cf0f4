import Mathlib.Logic.Function.Basic
import Mathlib.Data.List.Basic

/-! A key-value store whose keys expire. The store keeps its own clock; a key
whose time has come is invisible to every command, whether or not it has been
evicted yet. The two loops below are the ones a lock script runs: set every key
of a list to one value, and delete those keys of a list that hold a value. -/
namespace KiTicket

/-- A stored value and the moment from which it is gone. -/
structure Cell (ν : Type v) where
  value : ν
  expiresAt : Nat

@[ext] structure KeyStore (κ : Type u) (ν : Type v) where
  now : Nat
  cell : κ → Option (Cell ν)

namespace KeyStore
variable {κ : Type u} {ν : Type v}

def empty : KeyStore κ ν := ⟨0, fun _ => none⟩

/-- `GET`: the value, unless its time has come. -/
def get (store : KeyStore κ ν) (key : κ) : Option ν :=
  (store.cell key).bind fun c => if store.now < c.expiresAt then some c.value else none

/-- Time passes on the server. -/
def pass (store : KeyStore κ ν) (elapsed : Nat) : KeyStore κ ν :=
  { store with now := store.now + elapsed }

theorem get_eq_some {store : KeyStore κ ν} {key : κ} {value : ν} : store.get key = some value ↔
    ∃ c, store.cell key = some c ∧ store.now < c.expiresAt ∧ c.value = value := by
  simp only [get, Option.bind_eq_some_iff]
  constructor
  · rintro ⟨c, held, shown⟩
    split at shown
    · exact ⟨c, held, by assumption, Option.some.inj shown⟩
    · cases shown
  · rintro ⟨c, held, live, rfl⟩
    exact ⟨c, held, if_pos live⟩

theorem get_eq_none {store : KeyStore κ ν} {key : κ} :
    store.get key = none ↔ ∀ c, store.cell key = some c → c.expiresAt ≤ store.now := by
  rw [Option.eq_none_iff_forall_ne_some]
  constructor
  · intro dead c held
    by_contra early
    exact dead c.value (get_eq_some.mpr ⟨c, held, Nat.lt_of_not_le early, rfl⟩)
  · rintro late value live
    obtain ⟨c, held, early, -⟩ := get_eq_some.mp live
    exact absurd (late c held) (Nat.not_le_of_lt early)

/-- What is there of a key, with the time it has left. -/
def live (store : KeyStore κ ν) (key : κ) : Option (Cell ν) :=
  (store.cell key).filter fun c => store.now < c.expiresAt

theorem live_eq_none {store : KeyStore κ ν} {key : κ} :
    store.live key = none ↔ store.get key = none := by
  rw [get_eq_none, live, Option.filter_eq_none_iff]
  constructor
  · intro dead c held
    exact Nat.le_of_not_lt fun early => dead c held (decide_eq_true early)
  · intro late c held early
    exact absurd (late c held) (Nat.not_le_of_lt (of_decide_eq_true early))

/-- What lives on later was alive. -/
theorem get_of_pass {store : KeyStore κ ν} {key : κ} {value : ν} {elapsed : Nat}
    (live : (store.pass elapsed).get key = some value) : store.get key = some value := by
  obtain ⟨c, held, early, mine⟩ := get_eq_some.mp live
  exact get_eq_some.mpr ⟨c, held, Nat.lt_of_le_of_lt (Nat.le_add_right _ _) early, mine⟩

variable [DecidableEq κ]

/-- `PSETEX`: set a key for `ttl` from now, whatever it held. -/
def psetex (store : KeyStore κ ν) (key : κ) (ttl : Nat) (value : ν) : KeyStore κ ν :=
  { store with cell := Function.update store.cell key (some ⟨value, store.now + ttl⟩) }

/-- `DEL`. -/
def del (store : KeyStore κ ν) (key : κ) : KeyStore κ ν :=
  { store with cell := Function.update store.cell key none }

/-- Every key of the list, in order, set to one value. -/
def setAll (store : KeyStore κ ν) (keys : List κ) (ttl : Nat) (value : ν) : KeyStore κ ν :=
  keys.foldl (fun s key => s.psetex key ttl value) store

theorem cell_del (store : KeyStore κ ν) (dropped key : κ) :
    (store.del dropped).cell key = if key = dropped then none else store.cell key :=
  Function.update_apply _ _ _ _

theorem get_del (store : KeyStore κ ν) (dropped key : κ) :
    (store.del dropped).get key = if key = dropped then none else store.get key := by
  rw [get, cell_del]
  split <;> rfl

variable [DecidableEq ν]

/-- Every key of the list that holds the value, in order, deleted and counted. -/
def delOwned (store : KeyStore κ ν) (keys : List κ) (value : ν) : KeyStore κ ν × Nat :=
  keys.foldl (fun (s, n) key => if s.get key = some value then (s.del key, n + 1) else (s, n))
    (store, 0)

variable {store : KeyStore κ ν} {keys : List κ} {ttl : Nat} {value : ν}

omit [DecidableEq ν] in
theorem setAll_spec : (store.setAll keys ttl value).now = store.now ∧
    ∀ key, (store.setAll keys ttl value).cell key =
      if key ∈ keys then some ⟨value, store.now + ttl⟩ else store.cell key := by
  induction keys generalizing store with
  | nil => simp [setAll]
  | cons first rest ih =>
    obtain ⟨clock, cells⟩ := @ih (store.psetex first ttl value)
    refine ⟨clock, fun key => ?_⟩
    rw [setAll, List.foldl_cons, ← setAll, cells]
    by_cases later : key ∈ rest
    · simp [later, psetex]
    · by_cases same : key = first
      · simp [same, psetex]
      · simp [later, same, psetex]

/-! ### Whose keys are whose -/

/-- Every key that holds the value, expired or not, is one of the list. -/
def OwnedWithin (store : KeyStore κ ν) (value : ν) (keys : List κ) : Prop :=
  ∀ key c, store.cell key = some c → c.value = value → key ∈ keys

omit [DecidableEq κ] [DecidableEq ν] in
theorem OwnedWithin.mono {more : List κ} (owned : store.OwnedWithin value keys)
    (within : keys ⊆ more) : store.OwnedWithin value more :=
  fun key c held mine => within (owned key c held mine)

omit [DecidableEq κ] [DecidableEq ν] in
theorem OwnedWithin.pass (owned : store.OwnedWithin value keys) (elapsed : Nat) :
    (store.pass elapsed).OwnedWithin value keys := owned

omit [DecidableEq ν] in
theorem OwnedWithin.del (owned : store.OwnedWithin value keys) (dropped : κ) :
    (store.del dropped).OwnedWithin value keys := by
  intro key c held
  by_cases same : key = dropped
  · simp [KeyStore.del, same] at held
  · exact owned key c (by simpa [KeyStore.del, same] using held)

omit [DecidableEq ν] in
theorem OwnedWithin.setAll_ne {other : ν} {taken : List κ} (owned : store.OwnedWithin value keys)
    (different : other ≠ value) : (store.setAll taken ttl other).OwnedWithin value keys := by
  intro key c held mine
  rw [setAll_spec.2] at held
  split at held
  · cases held
    exact absurd mine different
  · exact owned key c held mine

omit [DecidableEq ν] in
theorem OwnedWithin.setAll (owned : store.OwnedWithin value []) :
    (store.setAll keys ttl value).OwnedWithin value keys := by
  intro key c held mine
  rw [setAll_spec.2] at held
  split at held
  · assumption
  · exact absurd (owned key c held mine) List.not_mem_nil

/-- The keys a deletion loop takes away do not depend on where it starts counting. -/
private theorem delOwned_loop (count start : Nat) :
    (keys.foldl (fun (s, n) key => if s.get key = some value then (s.del key, n + 1) else (s, n))
      (store, count)).1 =
    (keys.foldl (fun (s, n) key => if s.get key = some value then (s.del key, n + 1) else (s, n))
      (store, start)).1 := by
  induction keys generalizing store count start with
  | nil => rfl
  | cons first rest ih =>
    simp only [List.foldl_cons]
    split
    · exact ih (count + 1) (start + 1)
    · exact ih count start

theorem delOwned_cons {first : κ} {rest : List κ} :
    (store.delOwned (first :: rest) value).1 =
      ((if store.get first = some value then store.del first else store).delOwned rest value).1 := by
  by_cases hit : store.get first = some value
  · simp only [delOwned, List.foldl_cons, hit, if_true]
    exact delOwned_loop _ _
  · simp only [delOwned, List.foldl_cons, hit, if_false]

theorem OwnedWithin.delOwned {other : ν} {released : List κ}
    (owned : store.OwnedWithin value keys) :
    (store.delOwned released other).1.OwnedWithin value keys := by
  induction released generalizing store with
  | nil => exact owned
  | cons first rest ih =>
    rw [delOwned_cons]
    split
    · exact ih (owned.del first)
    · exact ih owned

theorem now_delOwned (released : List κ) : (store.delOwned released value).1.now = store.now := by
  induction released generalizing store with
  | nil => rfl
  | cons first rest ih =>
    rw [delOwned_cons, ih]
    split <;> rfl

/-- The deletion loop takes away a value's live keys of the list, and leaves
every other cell as it is. -/
theorem cell_delOwned (released : List κ) (key : κ) :
    (store.delOwned released value).1.cell key =
      if key ∈ released ∧ store.get key = some value then none else store.cell key := by
  induction released generalizing store with
  | nil => simp [KeyStore.delOwned]
  | cons first rest ih =>
    rw [delOwned_cons, ih]
    by_cases hit : store.get first = some value
    · rw [if_pos hit]
      by_cases same : key = first
      · subst same
        simp [cell_del, get_del, hit]
      · simp [cell_del, get_del, same]
    · rw [if_neg hit]
      by_cases same : key = first
      · subst same
        simp [hit]
      · simp [same]

/-- The deletion loop counts the keys it takes away, each once. -/
theorem count_delOwned (distinct : keys.Nodup) : (store.delOwned keys value).2 =
    keys.countP fun key => store.get key = some value := by
  have counted : ∀ start, (keys.foldl (fun (s, n) key =>
      if s.get key = some value then (s.del key, n + 1) else (s, n)) (store, start)).2 =
      start + keys.countP fun key => store.get key = some value := by
    induction keys generalizing store with
    | nil => exact fun _ => rfl
    | cons first rest ih =>
      obtain ⟨new, distinct⟩ := List.nodup_cons.mp distinct
      intro start
      have same : rest.countP (fun key => (store.del first).get key = some value) =
          rest.countP fun key => store.get key = some value := by
        refine List.countP_congr fun key member => ?_
        have other : key ≠ first := fun same => new (same ▸ member)
        rw [get_del, if_neg other]
      simp only [List.foldl_cons, List.countP_cons]
      split
      · rename_i hit
        simp only [ih distinct, same, hit, decide_true, if_true]
        omega
      · rename_i miss
        simp only [ih distinct, miss, decide_false, Bool.false_eq_true, if_false, Nat.add_zero]
  rw [delOwned, counted, Nat.zero_add]

theorem get_delOwned (released : List κ) (key : κ) :
    (store.delOwned released value).1.get key =
      if key ∈ released ∧ store.get key = some value then none else store.get key := by
  rw [get, cell_delOwned, now_delOwned]
  split
  · rfl
  · rfl

/-- A value whose keys all lie in the list holds no live key after the loop. -/
theorem get_ne_of_delOwned (owned : store.OwnedWithin value keys) (key : κ) :
    (store.delOwned keys value).1.get key ≠ some value := by
  rw [get_delOwned]
  split
  · simp
  · rename_i missed
    intro live
    apply missed
    refine ⟨?_, live⟩
    obtain ⟨c, held, -, mine⟩ := get_eq_some.mp live
    exact owned key c held mine

end KeyStore
end KiTicket
