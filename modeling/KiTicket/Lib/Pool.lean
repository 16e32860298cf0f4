import Mathlib.Algebra.GroupWithZero.Nat
import Mathlib.Data.List.Basic

/-! Processes over a shared state, taking turns in any order. Each process may
hold exclusive claims (a row lock, an identifier nobody else has seen). The
rules here are those of rely and guarantee: an assertion about one process
survives its own turn because the turn establishes it, and another's turn
because that turn only touches what the process has not claimed. -/
namespace KiTicket

/-- A shared state and the processes at work on it, by number. -/
structure Pool (σ : Type u) (π : Type v) where
  shared : σ
  procs : List π

namespace Pool
variable {σ : Type u} {π : Type v} {ρ : Type w}

/-- The processes other than number `i`. -/
def others (pool : Pool σ π) (i : Nat) : List π := pool.procs.eraseIdx i

theorem mem_others {pool : Pool σ π} {i : Nat} {q : π} :
    q ∈ pool.others i ↔ ∃ j : Nat, j ≠ i ∧ pool.procs[j]? = some q := by
  simp [others, List.mem_eraseIdx_iff_getElem?]

/-- No two processes claim the same thing. -/
def Exclusive (claims : π → List ρ) (procs : List π) : Prop :=
  ∀ (i j : Nat) (p q : π), i ≠ j → procs[i]? = some p → procs[j]? = some q → ∀ x ∈ claims p, x ∉ claims q

variable {claims : π → List ρ} {procs : List π} {i : Nat} {p p' : π}

theorem getElem?_set_cases {j : Nat} {q : π} (at' : (procs.set i p')[j]? = some q) :
    (j = i ∧ q = p' ∧ i < procs.length) ∨ (j ≠ i ∧ procs[j]? = some q) := by
  rw [List.getElem?_set] at at'
  split at at'
  · rename_i same
    subst same
    split at at'
    · cases at'
      exact .inl ⟨rfl, rfl, by assumption⟩
    · cases at'
  · rename_i different
    exact .inr ⟨Ne.symm different, at'⟩

/-- A turn whose new claims nobody else has keeps the claims exclusive. -/
theorem Exclusive.set (exclusive : Exclusive claims procs)
    (free : ∀ (j : Nat) q, j ≠ i → procs[j]? = some q → ∀ x ∈ claims p', x ∉ claims q) :
    Exclusive claims (procs.set i p') := by
  intro j k q r different atj atk x mine theirs
  rcases getElem?_set_cases atj with ⟨rfl, rfl, -⟩ | ⟨hj, old_j⟩
  · rcases getElem?_set_cases atk with ⟨rfl, -, -⟩ | ⟨hk, old_k⟩
    · exact different rfl
    · exact free k r hk old_k x mine theirs
  · rcases getElem?_set_cases atk with ⟨rfl, rfl, -⟩ | ⟨hk, old_k⟩
    · exact free j q hj old_j x theirs mine
    · exact exclusive j k q r different old_j old_k x mine theirs

/-- A newcomer without claims keeps the claims exclusive. -/
theorem Exclusive.append (exclusive : Exclusive claims procs) (none : claims p = []) :
    Exclusive claims (procs ++ [p]) := by
  intro j k q r different atj atk x mine theirs
  rw [List.getElem?_append] at atj atk
  split at atj
  · split at atk
    · exact exclusive j k q r different atj atk x mine theirs
    · rw [List.getElem?_singleton] at atk
      split at atk
      · cases atk
        simp [none] at theirs
      · cases atk
  · rw [List.getElem?_singleton] at atj
    split at atj
    · cases atj
      simp [none] at mine
    · cases atj

/-- A turn that only gives claims up keeps them exclusive. -/
theorem Exclusive.release (exclusive : Exclusive claims procs) (at_i : procs[i]? = some p)
    (fewer : ∀ x ∈ claims p', x ∈ claims p) : Exclusive claims (procs.set i p') :=
  exclusive.set fun j q different at_j x mine =>
    exclusive i j p q (Ne.symm different) at_i at_j x (fewer x mine)

/-- The rely–guarantee rule: the turn establishes the assertion for the process
that took it and keeps it for all others. -/
theorem forall_set {A B : π → Prop} (before : ∀ q ∈ procs, A q)
    (own : B p') (rely : ∀ (j : Nat) q, j ≠ i → procs[j]? = some q → A q → B q) :
    ∀ q ∈ procs.set i p', B q := by
  intro q member
  obtain ⟨j, at_j⟩ := List.mem_iff_getElem?.mp member
  rcases getElem?_set_cases at_j with ⟨-, rfl, -⟩ | ⟨different, at_j⟩
  · exact own
  · exact rely j q different at_j (before q (List.mem_of_getElem? at_j))

/-- Replacing one process changes a sum over all of them by its own share. -/
theorem sum_map_set (weight : π → Nat) (at_i : procs[i]? = some p) :
    ((procs.set i p').map weight).sum + weight p = (procs.map weight).sum + weight p' := by
  induction procs generalizing i with
  | nil => simp at at_i
  | cons first rest ih =>
    cases i with
    | zero =>
      cases at_i
      simp only [List.set_cons_zero, List.map_cons, List.sum_cons]
      omega
    | succ i =>
      have tail := ih (i := i) (by simpa using at_i)
      simp only [List.set_cons_succ, List.map_cons, List.sum_cons]
      omega

/-- Replacing one process changes what all of them have together by its own part. -/
theorem flatMap_set_perm {β : Type x} (part : π → List β) (at_i : procs[i]? = some p) :
    ((procs.set i p').flatMap part ++ part p).Perm (procs.flatMap part ++ part p') := by
  induction procs generalizing i with
  | nil => simp at at_i
  | cons first rest ih =>
    cases i with
    | zero =>
      cases at_i
      simp only [List.set_cons_zero, List.flatMap_cons]
      have rotated : (part p' ++ (rest.flatMap part ++ part p)).Perm
          (rest.flatMap part ++ part p ++ part p') := List.perm_append_comm
      rw [List.append_assoc]
      exact rotated.trans (List.perm_append_comm.append_right _)
    | succ i =>
      have tail := ih (i := i) (by simpa using at_i)
      simp only [List.set_cons_succ, List.flatMap_cons, List.append_assoc]
      exact tail.append_left _

end Pool
end KiTicket
