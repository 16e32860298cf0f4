import Mathlib.Algebra.GroupWithZero.Nat
import Mathlib.Data.List.Basic
import Mathlib.Tactic.Common

/-! Whole numbers in double precision. A double keeps 53 significant bits, so a sum is
rounded once it needs more. Below `2 ^ 53` nothing is ever rounded, and a sum that has
got there is never rounded back below, so a sum of doubles is exact and safe exactly
when the sum of the numbers is safe. -/
namespace KiTicket.Doubles

variable {n m acc : Nat} {xs ys : List Nat}

/-- The distance of neighbouring doubles around `n`. -/
def spacing (n : Nat) : Nat := 2 ^ (n.log2 + 1 - 53)

/-- The double next to `n`; of two that are as near, the one with an even significand. -/
def round (n : Nat) : Nat :=
  let significand := n / spacing n
  let rest := n % spacing n
  if spacing n < 2 * rest ∨ (2 * rest = spacing n ∧ significand % 2 = 1) then
    (significand + 1) * spacing n
  else significand * spacing n

/-- `a + b` of two doubles. -/
def add (a b : Nat) : Nat := round (a + b)

/-- `xs.reduce((sum, x) => sum + x, 0)` -/
def sum (xs : List Nat) : Nat := xs.foldl add 0

/-- `Number.MAX_SAFE_INTEGER` -/
def maxSafe : Nat := 2 ^ 53 - 1

example : add maxSafe 1 = maxSafe + 1 ∧ add (maxSafe + 1) 1 = maxSafe + 1 := by decide +kernel

theorem round_of_le (small : n ≤ 2 ^ 53) : round n = n := by
  rcases Nat.lt_or_eq_of_le small with small | rfl
  · have bits : n.log2 + 1 - 53 = 0 := by
      rcases Nat.eq_zero_or_pos n with rfl | pos
      · rfl
      · have := (Nat.log2_lt (Nat.ne_of_gt pos)).mpr small
        omega
    have one : spacing n = 1 := by rw [spacing, bits, Nat.pow_zero]
    simp [round, one, Nat.mod_one]
  · decide +kernel

/-- Rounding stays within the power of two below. -/
theorem le_round (large : 2 ^ 53 ≤ n) : 2 ^ 53 ≤ round n := by
  have pos : n ≠ 0 := by omega
  have bits : 53 ≤ n.log2 := (Nat.le_log2 pos).mpr large
  have width : 2 ^ 52 * spacing n = 2 ^ n.log2 := by
    rw [spacing, ← Nat.pow_add]
    congr 1
    omega
  have significand : 2 ^ 52 ≤ n / spacing n := by
    have apart : 0 < spacing n := Nat.two_pow_pos _
    rw [Nat.le_div_iff_mul_le apart, width]
    exact Nat.log2_self_le pos
  have down : 2 ^ 53 ≤ n / spacing n * spacing n :=
    calc 2 ^ 53 ≤ 2 ^ n.log2 := Nat.pow_le_pow_right Nat.two_pos bits
      _ = 2 ^ 52 * spacing n := width.symm
      _ ≤ n / spacing n * spacing n := Nat.mul_le_mul_right _ significand
  unfold round
  dsimp only
  split
  · exact Nat.le_trans down (Nat.mul_le_mul_right _ (Nat.le_succ _))
  · exact down

theorem foldl_add_of_le (small : acc + xs.sum ≤ 2 ^ 53) : xs.foldl add acc = acc + xs.sum := by
  induction xs generalizing acc with
  | nil => rfl
  | cons x xs ih =>
    rw [List.sum_cons] at small
    rw [List.foldl_cons, add, round_of_le (by omega), ih (by omega), List.sum_cons, Nat.add_assoc]

theorem le_foldl_add (large : 2 ^ 53 ≤ acc + xs.sum) : 2 ^ 53 ≤ xs.foldl add acc := by
  induction xs generalizing acc with
  | nil => exact large
  | cons x xs ih =>
    rw [List.sum_cons] at large
    apply ih
    by_cases crossed : 2 ^ 53 ≤ acc + x
    · exact Nat.le_trans (le_round crossed) (Nat.le_add_right _ _)
    · rw [add, round_of_le (by omega)]
      omega

/-- As long as the numbers add up to a double no step is rounded. -/
theorem sum_of_le (small : xs.sum ≤ 2 ^ 53) : sum xs = xs.sum := by
  rw [sum, foldl_add_of_le (by omega), Nat.zero_add]

/-- A sum of doubles is safe, and the sum of the numbers, exactly when that is safe. -/
theorem sum_safe_iff : sum xs ≤ maxSafe ∧ sum xs = xs.sum ↔ xs.sum ≤ maxSafe := by
  constructor
  · rintro ⟨safe, same⟩
    exact same ▸ safe
  · intro safe
    have same : sum xs = xs.sum := sum_of_le (Nat.le_trans safe (Nat.sub_le _ _))
    exact ⟨same ▸ safe, same⟩

theorem sum_le_maxSafe_iff : sum xs ≤ maxSafe ↔ xs.sum ≤ maxSafe := by
  refine ⟨fun safe => ?_, fun safe => (sum_safe_iff.mpr safe).1⟩
  by_contra large
  have crossed : 2 ^ 53 ≤ sum xs := by
    apply le_foldl_add
    rw [maxSafe] at large
    omega
  rw [maxSafe] at safe
  omega

end KiTicket.Doubles
