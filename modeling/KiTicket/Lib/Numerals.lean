import Mathlib.Data.List.Induction
import Mathlib.Data.List.Shortlex
import Mathlib.Order.Fin.Basic

/-! Bijective numerals: the digits count from one, so no digit is zero, no numeral has a
leading one, and every list of digits is the numeral of exactly one number. Numerals are
ordered like their numbers by length first and then digit by digit. -/
namespace KiTicket.Numerals

variable {b : Nat} {ds es : List (Fin b)} {d e : Fin b} {m n : Nat}

/-- The number a list of digits stands for, the most significant one first. -/
def value : List (Fin b) → Nat
  | [] => 0
  | d :: ds => (d + 1) * b ^ ds.length + value ds

theorem value_concat (ds : List (Fin b)) (d : Fin b) : value (ds ++ [d]) = value ds * b + (d + 1) := by
  induction ds with
  | nil => simp [value]
  | cons e ds ih =>
    rw [List.cons_append, value, value, ih, List.length_append, List.length_singleton, Nat.pow_succ,
      ← Nat.mul_assoc, Nat.add_mul _ _ b, Nat.add_assoc]

section Base
variable [NeZero b]

/-- The digits of a number. -/
def numeral (n : Nat) : List (Fin b) :=
  if n = 0 then []
  else numeral ((n - 1) / b) ++ [Fin.ofNat b (n - 1)]
termination_by n
decreasing_by
  have smaller : (n - 1) / b ≤ n - 1 := Nat.div_le_self _ _
  omega

@[simp] theorem numeral_zero : (numeral 0 : List (Fin b)) = [] := by
  rw [numeral, if_pos rfl]

theorem numeral_of_pos (pos : 0 < n) :
    (numeral n : List (Fin b)) = numeral ((n - 1) / b) ++ [Fin.ofNat b (n - 1)] := by
  rw [numeral, if_neg (Nat.ne_of_gt pos)]

theorem numeral_ne_nil (pos : 0 < n) : (numeral n : List (Fin b)) ≠ [] := by
  rw [numeral_of_pos pos]
  exact List.append_ne_nil_of_right_ne_nil _ (List.cons_ne_nil _ _)

@[simp] theorem value_numeral (n : Nat) : value (numeral n : List (Fin b)) = n := by
  induction n using Nat.strongRecOn with
  | ind n ih =>
    rcases Nat.eq_zero_or_pos n with rfl | pos
    · rw [numeral_zero, value]
    have smaller : (n - 1) / b < n :=
      Nat.lt_of_le_of_lt (Nat.div_le_self _ _) (Nat.sub_lt pos Nat.one_pos)
    have divided : (n - 1) / b * b + (n - 1) % b = n - 1 := Nat.div_add_mod' _ _
    rw [numeral_of_pos pos, value_concat, ih _ smaller, Fin.val_ofNat]
    omega

@[simp] theorem numeral_value (ds : List (Fin b)) : numeral (value ds) = ds := by
  induction ds using List.reverseRecOn with
  | nil => rw [value, numeral_zero]
  | append_singleton ds d ih =>
    have pos : 0 < b := Nat.pos_of_neZero b
    have last : value ds * b + (d + 1) - 1 = d + b * value ds := by
      rw [Nat.mul_comm]
      omega
    have front : (d + b * value ds) / b = value ds := by
      rw [Nat.add_mul_div_left _ _ pos, Nat.div_eq_of_lt d.isLt, Nat.zero_add]
    have digit : Fin.ofNat b (d + b * value ds) = d := by
      apply Fin.ext
      rw [Fin.val_ofNat, Nat.add_mul_mod_self_left, Nat.mod_eq_of_lt d.isLt]
    rw [value_concat, numeral_of_pos (Nat.add_pos_right _ (Nat.succ_pos _)), last, front, digit, ih]

theorem numeral_injective : Function.Injective (numeral : Nat → List (Fin b)) :=
  Function.LeftInverse.injective value_numeral

end Base

/-! ## Order -/

/-- The least number with so many digits. -/
def least (b : Nat) : Nat → Nat
  | 0 => 0
  | l + 1 => least b l + b ^ l

theorem least_le_value (ds : List (Fin b)) : least b ds.length ≤ value ds := by
  induction ds with
  | nil => exact Nat.le_refl 0
  | cons d ds ih =>
    have digit : b ^ ds.length ≤ (d + 1) * b ^ ds.length :=
      Nat.le_mul_of_pos_left _ (Nat.succ_pos _)
    rw [List.length_cons, least, value]
    omega

theorem value_lt_least (ds : List (Fin b)) : value ds < least b (ds.length + 1) := by
  induction ds with
  | nil => exact Nat.one_pos
  | cons d ds ih =>
    have digit : (d + 1) * b ^ ds.length ≤ b ^ (ds.length + 1) := by
      rw [Nat.pow_succ, Nat.mul_comm]
      exact Nat.mul_le_mul_left _ d.isLt
    rw [List.length_cons, least, value]
    omega

theorem least_mono (shorter : m ≤ n) : least b m ≤ least b n := by
  induction shorter with
  | refl => exact Nat.le_refl _
  | step _ ih => exact Nat.le_trans ih (Nat.le_add_right _ _)

theorem value_lt_of_lex (same : ds.length = es.length) (lex : List.Lex (· < ·) ds es) :
    value ds < value es := by
  induction lex with
  | nil => simp at same
  | @cons d ds es _ ih =>
    rw [List.length_cons, List.length_cons, Nat.succ.injEq] at same
    rw [value, value, same]
    exact Nat.add_lt_add_left (ih same) _
  | @rel d ds e es smaller =>
    rw [List.length_cons, List.length_cons, Nat.succ.injEq] at same
    -- what follows the digits makes up less than one of them
    have above : value ds < least b (ds.length + 1) := value_lt_least ds
    have below : least b es.length ≤ value es := least_le_value es
    have digit : (d + 1 + 1) * b ^ es.length ≤ (e + 1) * b ^ es.length :=
      Nat.mul_le_mul_right _ (Nat.succ_le_succ smaller)
    rw [value, value, same]
    rw [same, least] at above
    rw [Nat.add_mul, Nat.one_mul] at digit
    omega

theorem value_lt_of_shortlex (before : List.Shortlex (· < ·) ds es) : value ds < value es := by
  rcases List.shortlex_def.mp before with shorter | ⟨same, lex⟩
  · exact Nat.lt_of_lt_of_le (value_lt_least ds)
      (Nat.le_trans (least_mono shorter) (least_le_value es))
  · exact value_lt_of_lex same lex

theorem value_lt_iff : value ds < value es ↔ List.Shortlex (· < ·) ds es := by
  refine ⟨fun smaller => ?_, value_lt_of_shortlex⟩
  by_contra other
  by_cases back : List.Shortlex (· < ·) es ds
  · exact Nat.lt_asymm smaller (value_lt_of_shortlex back)
  · exact Nat.ne_of_lt smaller
      (congrArg value (Std.Trichotomous.trichotomous (r := List.Shortlex (· < ·)) ds es other back))

theorem numeral_shortlex_iff [NeZero b] :
    List.Shortlex (· < ·) (numeral m : List (Fin b)) (numeral n) ↔ m < n := by
  rw [← value_lt_iff, value_numeral, value_numeral]

end KiTicket.Numerals
