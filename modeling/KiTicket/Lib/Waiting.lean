import Mathlib.Algebra.Order.BigOperators.Group.List
import Mathlib.Algebra.Order.Ring.Nat
import KiTicket.Lib.Pool
import KiTicket.Lib.Runs

/-! Processes that wait for each other's claims. Where everyone wants only what ranks above
all he holds, no circle of waiting closes, so somebody is free to go on; and where every
turn uses up some of the work that is left, going on comes to an end. -/
namespace KiTicket
open Runs

namespace Pool
variable {π : Type v} {ρ : Type w} {claims wants : π → List ρ} {busy : π → Prop} {procs : List π}
  {i : Nat}

/-- Another process holds something this one wants. -/
def Waits (claims wants : π → List ρ) (procs : List π) (i : Nat) : Prop :=
  ∃ p, procs[i]? = some p ∧ ∃ x ∈ wants p, ∃ (j : Nat) (q : π), j ≠ i ∧ procs[j]? = some q ∧ x ∈ claims q

/-- If everyone waited, somebody would wait for a claim above any given rank. -/
private theorem exists_above (rank : ρ → Nat)
    (ordered : ∀ p ∈ procs, ∀ x ∈ wants p, ∀ y ∈ claims p, rank y < rank x)
    (holders : ∀ p ∈ procs, claims p ≠ [] → busy p) (working : ∃ p ∈ procs, busy p)
    (all : ∀ (i : Nat) (p : π), procs[i]? = some p → busy p → Waits claims wants procs i) (n : Nat) :
    ∃ q ∈ procs, ∃ x ∈ claims q, n ≤ rank x := by
  induction n with
  | zero =>
    obtain ⟨p, member, at_work⟩ := working
    obtain ⟨i, at_i⟩ := List.mem_iff_getElem?.mp member
    obtain ⟨_, -, x, -, _, q, -, at_j, held⟩ := all i p at_i at_work
    exact ⟨q, List.mem_of_getElem? at_j, x, held, Nat.zero_le _⟩
  | succ n ih =>
    obtain ⟨q, member, x, held, above⟩ := ih
    obtain ⟨j, at_j⟩ := List.mem_iff_getElem?.mp member
    have at_work : busy q := holders q member (List.ne_nil_of_mem held)
    obtain ⟨q', at_j', y, wanted, _, r, -, at_k, held'⟩ := all j q at_j at_work
    cases at_j.symm.trans at_j'
    have higher : rank x < rank y := ordered q member y wanted x held
    exact ⟨r, List.mem_of_getElem? at_k, y, held', Nat.lt_of_le_of_lt above higher⟩

/-- Somebody at work does not wait. -/
theorem exists_free (rank : ρ → Nat)
    (ordered : ∀ p ∈ procs, ∀ x ∈ wants p, ∀ y ∈ claims p, rank y < rank x)
    (holders : ∀ p ∈ procs, claims p ≠ [] → busy p) (working : ∃ p ∈ procs, busy p) :
    ∃ (i : Nat) (p : π), procs[i]? = some p ∧ busy p ∧ ¬Waits claims wants procs i := by
  by_contra stuck
  have all : ∀ (i : Nat) (p : π), procs[i]? = some p → busy p → Waits claims wants procs i := by
    intro i p at_i at_work
    by_contra free
    exact stuck ⟨i, p, at_i, at_work, free⟩
  let ranks : List Nat := (procs.flatMap claims).map rank
  obtain ⟨q, member, x, held, above⟩ :=
    exists_above rank ordered holders working all (ranks.sum + 1)
  have inside : rank x ∈ ranks := List.mem_map_of_mem (List.mem_flatMap.mpr ⟨q, member, held⟩)
  have below : rank x ≤ ranks.sum := List.single_le_sum (fun _ _ => Nat.zero_le _) _ inside
  omega

/-! ## What is left to one process -/

variable {most k : Nat} {work : π → Nat} {a b : π}

/-- The work left at a number. One that is not given out yet may still get the most. -/
def left (most : Nat) (work : π → Nat) (procs : List π) (k : Nat) : Nat := (procs[k]?).elim most work

theorem left_of_getElem? (at_k : procs[k]? = some a) : left most work procs k = work a := by
  rw [left, at_k, Option.elim_some]

theorem exists_of_left_eq_zero (positive : 0 < most) (finished : left most work procs k = 0) :
    ∃ a, procs[k]? = some a ∧ work a = 0 := by
  cases at_k : procs[k]? with
  | none =>
    rw [left, at_k, Option.elim_none] at finished
    omega
  | some a => exact ⟨a, rfl, (left_of_getElem? at_k).symm.trans finished⟩

theorem left_append (most k : Nat) (small : work a ≤ most) :
    left most work (procs ++ [a]) k ≤ left most work procs k := by
  rcases Nat.lt_trichotomy k procs.length with inside | rfl | beyond
  · rw [left, left, List.getElem?_append_left inside]
  · rw [left, left, List.getElem?_concat_length, List.getElem?_eq_none (Nat.le_refl _)]
    exact small
  · have after : (procs ++ [a]).length ≤ k := by
      rw [List.length_append, List.length_singleton]
      omega
    rw [left, left, List.getElem?_eq_none after, List.getElem?_eq_none (Nat.le_of_lt beyond)]

theorem left_set_le (most k : Nat) (at_i : procs[i]? = some a) (less : work b ≤ work a) :
    left most work (procs.set i b) k ≤ left most work procs k := by
  by_cases same : i = k
  · subst same
    have inside : i < procs.length := (List.getElem?_eq_some_iff.mp at_i).1
    rw [left_of_getElem? at_i, left_of_getElem? (List.getElem?_set_self inside)]
    exact less
  · rw [left, left, List.getElem?_set_ne same]

/-- A turn that uses up work does so where it is taken. -/
theorem left_set (most k : Nat) (at_i : procs[i]? = some a) (less : work b < work a) :
    left most work (procs.set i b) k + (if i = k then 1 else 0) ≤ left most work procs k := by
  by_cases same : i = k
  · subst same
    have inside : i < procs.length := (List.getElem?_eq_some_iff.mp at_i).1
    rw [left_of_getElem? at_i, left_of_getElem? (List.getElem?_set_self inside), if_pos rfl]
    exact less
  · rw [left, left, List.getElem?_set_ne same, if_neg same, Nat.add_zero]

end Pool

namespace Runs
variable {σ : Type u} {α : Type v} {step : σ → α → Option σ} {allowed : Transition σ α → Prop}
  {start s : σ} {ts : List (Transition σ α)}

/-- Steps that each use up some of what is left are at most so many. -/
theorem Run.count_add_le (left : σ → Nat) (uses : Transition σ α → Bool) (run : Run step start ts s)
    (inside : ∀ t ∈ ts, allowed t)
    (each : ∀ s a s', allowed ⟨s, a, s'⟩ → step s a = some s' →
      left s' + (if uses ⟨s, a, s'⟩ then 1 else 0) ≤ left s) :
    ts.countP uses + left s ≤ left start := by
  refine run.history (P := fun ts s => ts.countP uses + left s ≤ left start) inside (by simp) ?_
  intro ts s a s' _ _ ih ok taken
  have last := each s a s' ok taken
  rw [List.countP_append, List.countP_singleton]
  omega

/-- Where one can always go on using up what is left, one gets to the end. -/
theorem exists_run_to_end (left : σ → Nat) {P ended : σ → Prop}
    (progress : ∀ s, P s → ¬ended s →
      ∃ a s', allowed ⟨s, a, s'⟩ ∧ step s a = some s' ∧ P s' ∧ left s' < left s)
    (holds : P s) : ∃ ts s', Run step s ts s' ∧ (∀ t ∈ ts, allowed t) ∧ P s' ∧ ended s' := by
  induction much : left s using Nat.strong_induction_on generalizing s with
  | _ n ih =>
    by_cases finished : ended s
    · exact ⟨[], s, .nil, fun _ none => absurd none List.not_mem_nil, holds, finished⟩
    · obtain ⟨a, s₁, ok, taken, holds₁, less⟩ := progress s holds finished
      obtain ⟨ts, s', run, inside, holds', finished'⟩ := ih (left s₁) (much ▸ less) holds₁ rfl
      refine ⟨⟨s, a, s₁⟩ :: ts, s', (Run.single taken).append run, ?_, holds', finished'⟩
      rintro t (_ | ⟨_, member⟩)
      · exact ok
      · exact inside t member

end Runs
end KiTicket
