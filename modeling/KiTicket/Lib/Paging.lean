import Mathlib.Algebra.Order.Floor.Div
import Mathlib.Data.List.Sort
import Mathlib.Data.List.Perm.Basic

/-! Reading a sorted result page by page. Every page is a query of its own, and each query
may put elements with equal keys in another order. Pages of one order always fit together;
pages of several do when no group of equal keys goes on after the end of a page. -/
namespace KiTicket.Paging
open scoped List

variable {α : Type u} {κ : Type v} [LinearOrder κ] {key : α → κ} {xs rows : List α} {p : α → Bool}
  {i k n size number : Nat} {x y z : α}

/-- An order of some rows by a key; rows of one key stand in any order. -/
structure Arrangement (key : α → κ) (xs : List α) where
  rows : List α
  perm : rows.Perm xs
  sorted : rows.Pairwise fun x y => key x ≤ key y

/-- The rows of a page; the first page has number 1. -/
def page (size number : Nat) (rows : List α) : List α :=
  (rows.drop ((number - 1) * size)).take size

/-- Some rows of one key stand before the place `n` and some at it or after it. -/
def Straddles (key : α → κ) (xs : List α) (n : Nat) : Prop :=
  ∃ x ∈ xs, xs.countP (fun y => key y < key x) < n ∧ n < xs.countP fun y => key y ≤ key x

instance : Decidable (Straddles key xs n) := by
  unfold Straddles
  infer_instance

theorem Straddles.lt_length (cut : Straddles key xs n) : n < xs.length := by
  obtain ⟨x, -, -, upTo⟩ := cut
  exact Nat.lt_of_lt_of_le upTo List.countP_le_length

theorem Arrangement.length_rows (a : Arrangement key xs) : a.rows.length = xs.length :=
  a.perm.length_eq

/-- Some order there always is. -/
def arrange (key : α → κ) (xs : List α) : Arrangement key xs where
  rows := xs.mergeSort fun x y => key x ≤ key y
  perm := List.mergeSort_perm _ _
  sorted := by
    have sorted : (xs.mergeSort fun x y => key x ≤ key y).Pairwise fun x y =>
        decide (key x ≤ key y) = true := by
      apply List.pairwise_mergeSort
      · intro x y z before after
        rw [decide_eq_true_eq] at before after ⊢
        exact before.trans after
      · intro x y
        rw [Bool.or_eq_true, decide_eq_true_eq, decide_eq_true_eq]
        exact le_total _ _
    exact sorted.imp of_decide_eq_true

/-! ## A sorted list and what holds of its front -/

section Front
variable (sorted : rows.Pairwise fun x y => key x ≤ key y)
  (down : ∀ x y, key x ≤ key y → p y = true → p x = true)
include sorted down

/-- What holds of everything before a row it holds of comes first. -/
theorem filter_append_filter_not : rows.filter p ++ rows.filter (fun x => !p x) = rows := by
  induction rows with
  | nil => rfl
  | cons x rows ih =>
    obtain ⟨first, sorted⟩ := List.pairwise_cons.mp sorted
    cases holds : p x with
    | true =>
      rw [List.filter_cons_of_pos holds, List.filter_cons_of_neg (by simp [holds]),
        List.cons_append, ih sorted]
    | false =>
      have none : ∀ y ∈ rows, p y = false := by
        intro y member
        by_contra holds'
        rw [down x y (first y member) (by simpa using holds')] at holds
        cases holds
      rw [List.filter_cons_of_neg (by simp [holds]), List.filter_cons_of_pos (by simp [holds]),
        List.filter_eq_nil_iff.mpr (by simpa using none), List.nil_append,
        List.filter_eq_self.mpr (by simpa using none)]

theorem take_countP : rows.take (rows.countP p) = rows.filter p := by
  calc rows.take (rows.countP p)
      = (rows.filter p ++ rows.filter fun x => !p x).take (rows.filter p).length := by
        rw [filter_append_filter_not sorted down, List.countP_eq_length_filter]
    _ = rows.filter p := List.take_left

theorem getElem_iff (within : i < rows.length) : p rows[i] = true ↔ i < rows.countP p := by
  induction rows generalizing i with
  | nil => simp at within
  | cons x rows ih =>
    obtain ⟨first, sorted⟩ := List.pairwise_cons.mp sorted
    cases i with
    | zero =>
      rw [List.getElem_cons_zero, List.countP_pos_iff]
      refine ⟨fun holds => ⟨x, List.mem_cons_self, holds⟩, ?_⟩
      rintro ⟨y, member, holds⟩
      rcases List.mem_cons.mp member with rfl | member
      · exact holds
      · exact down x y (first y member) holds
    | succ i =>
      rw [List.getElem_cons_succ, ih sorted (Nat.lt_of_succ_lt_succ within), List.countP_cons]
      by_cases holds : p x = true
      · simp [holds]
      · have none : rows.countP p = 0 := by
          rw [List.countP_eq_zero]
          exact fun y member holds' => holds (down x y (first y member) holds')
        simp [holds, none]

end Front

/-! ## Fronts of two orders -/

section Keys
variable (a b : Arrangement key xs)

theorem Arrangement.key_lt_iff (t : κ) (within : i < a.rows.length) :
    key a.rows[i] < t ↔ i < xs.countP fun y => key y < t := by
  rw [← a.perm.countP_eq, ← getElem_iff (p := fun y => decide (key y < t)) a.sorted
    (fun x y before holds => ?_) within, decide_eq_true_eq]
  rw [decide_eq_true_eq] at holds ⊢
  exact before.trans_lt holds

theorem Arrangement.key_le_iff (t : κ) (within : i < a.rows.length) :
    key a.rows[i] ≤ t ↔ i < xs.countP fun y => key y ≤ t := by
  rw [← a.perm.countP_eq, ← getElem_iff (p := fun y => decide (key y ≤ t)) a.sorted
    (fun x y before holds => ?_) within, decide_eq_true_eq]
  rw [decide_eq_true_eq] at holds ⊢
  exact before.trans holds

/-- The rows below a key are the same in all orders. -/
theorem Arrangement.take_below (t : κ) :
    (a.rows.take (xs.countP fun y => key y < t)).Perm (xs.filter fun y => key y < t) := by
  rw [← a.perm.countP_eq, take_countP a.sorted fun x y before holds => ?_]
  · exact a.perm.filter _
  · rw [decide_eq_true_eq] at holds ⊢
    exact before.trans_lt holds

/-- Where no group of equal keys is cut, two orders have the same front. -/
theorem take_perm_take (uncut : ¬ Straddles key xs n) : (a.rows.take n).Perm (b.rows.take n) := by
  by_cases within : n < a.rows.length
  · -- the row at the cut is the first one with its key
    have member : a.rows[n] ∈ xs := a.perm.mem_iff.mp (List.getElem_mem within)
    have below : ¬ n < xs.countP fun y => key y < key a.rows[n] :=
      fun before => lt_irrefl _ ((a.key_lt_iff _ within).mpr before)
    have upTo : n < xs.countP fun y => key y ≤ key a.rows[n] :=
      (a.key_le_iff _ within).mp le_rfl
    have first : xs.countP (fun y => key y < key a.rows[n]) = n := by
      by_contra other
      exact uncut ⟨_, member, by omega, upTo⟩
    have front := (a.take_below (key a.rows[n])).trans (b.take_below (key a.rows[n])).symm
    rwa [first] at front
  · have short : a.rows.length ≤ n := Nat.le_of_not_lt within
    rw [List.take_of_length_le short, List.take_of_length_le (by
      rwa [b.length_rows, ← a.length_rows])]
    exact a.perm.trans b.perm.symm

end Keys

/-! ## Pages -/

theorem take_append_page (size number : Nat) (rows : List α) :
    rows.take (number * size) ++ page size (number + 1) rows = rows.take ((number + 1) * size) := by
  rw [page, Nat.add_sub_cancel, Nat.succ_mul, List.take_add]

/-- There are as many pages as hold a row. -/
theorem page_ne_nil_iff (pos : 0 < size) (numbered : 1 ≤ number) :
    page size number rows ≠ [] ↔ number ≤ rows.length ⌈/⌉ size := by
  have place : number ≤ rows.length ⌈/⌉ size ↔ (number - 1) * size < rows.length := by
    have bound := ceilDiv_le_iff_le_mul (b := rows.length) (c := number - 1) pos
    rw [Nat.mul_comm] at bound
    omega
  rw [place, page, ne_eq, List.take_eq_nil_iff, List.drop_eq_nil_iff]
  omega

/-- The pages up to `n`, each from its own order. -/
def upTo (size n : Nat) (orders : Nat → Arrangement key xs) : List α :=
  (List.range' 1 n).flatMap fun number => page size number (orders number).rows

theorem upTo_perm_take {orders : Nat → Arrangement key xs}
    (uncut : ∀ k, ¬ Straddles key xs (k * size)) (n : Nat) (a : Arrangement key xs) :
    (upTo size n orders).Perm (a.rows.take (n * size)) := by
  induction n generalizing a with
  | zero => simp [upTo]
  | succ n ih =>
    have next : upTo size (n + 1) orders =
        upTo size n orders ++ page size (n + 1) (orders (n + 1)).rows := by
      simp only [upTo, List.range'_concat, List.flatMap_append, List.flatMap_singleton, Nat.one_mul,
        Nat.add_comm 1 n]
    calc upTo size (n + 1) orders
        = upTo size n orders ++ page size (n + 1) (orders (n + 1)).rows := next
      _ ~ (orders (n + 1)).rows.take (n * size) ++ page size (n + 1) (orders (n + 1)).rows :=
        (ih (orders (n + 1))).append_right _
      _ = (orders (n + 1)).rows.take ((n + 1) * size) := take_append_page ..
      _ ~ a.rows.take ((n + 1) * size) := take_perm_take _ _ (uncut (n + 1))

theorem mem_page (placed : rows[i]? = some x) (first : (number - 1) * size ≤ i)
    (last : i < (number - 1) * size + size) : x ∈ page size number rows := by
  refine List.mem_iff_getElem?.mpr ⟨i - (number - 1) * size, ?_⟩
  rw [page, List.getElem?_take_of_lt (by omega), List.getElem?_drop, Nat.add_sub_cancel' first, placed]

/-- Neighbours with one key may change places. -/
def Arrangement.swap (a : Arrangement key xs) {front back : List α}
    (split : a.rows = front ++ x :: y :: back) (same : key x = key y) : Arrangement key xs where
  rows := front ++ y :: x :: back
  perm := by
    refine List.Perm.trans ?_ a.perm
    rw [split]
    exact (List.Perm.swap x y back).append_left front
  sorted := by
    have sorted := a.sorted
    rw [split] at sorted
    simp only [List.pairwise_append, List.pairwise_cons, List.mem_cons, forall_eq_or_imp] at sorted ⊢
    simp only [same] at sorted ⊢
    grind

/-- Where a group of equal keys goes on after page `k`, the orders of that page and of the
next one can begin and end with the same row. -/
theorem exists_twice (cut : Straddles key xs (k * size)) :
    ∃ orders : Nat → Arrangement key xs, ∃ x,
      x ∈ page size k (orders k).rows ∧ x ∈ page size (k + 1) (orders (k + 1)).rows := by
  obtain ⟨x, -, below, upTo⟩ := cut
  have pos : 0 < size := Nat.pos_of_mul_pos_left (Nat.zero_lt_of_lt below)
  let a : Arrangement key xs := arrange key xs
  have bound : xs.countP (fun y => key y ≤ key x) ≤ a.rows.length := by
    rw [a.length_rows]
    exact List.countP_le_length
  -- the last row of the page and the first one of the next have the same key
  obtain ⟨m, last⟩ : ∃ m, k * size = m + 1 := ⟨k * size - 1, by omega⟩
  have at_end : m < a.rows.length := by omega
  have at_start : m + 1 < a.rows.length := by omega
  have key_end : key a.rows[m] = key x :=
    le_antisymm ((a.key_le_iff _ at_end).mpr (by omega))
      (not_lt.mp fun before => by
        have := (a.key_lt_iff _ at_end).mp before
        omega)
  have key_start : key a.rows[m + 1] = key x :=
    le_antisymm ((a.key_le_iff _ at_start).mpr (by omega))
      (not_lt.mp fun before => by
        have := (a.key_lt_iff _ at_start).mp before
        omega)
  have split : a.rows = a.rows.take m ++ a.rows[m] :: a.rows[m + 1] :: a.rows.drop (m + 2) := by
    rw [← List.drop_eq_getElem_cons at_start, ← List.drop_eq_getElem_cons at_end,
      List.take_append_drop]
  have front : (a.rows.take m).length = m := List.length_take_of_le at_end.le
  let b : Arrangement key xs := a.swap split (key_end.trans key_start.symm)
  have next : b.rows[m + 1]? = some a.rows[m] := by
    change (a.rows.take m ++ a.rows[m + 1] :: a.rows[m] :: a.rows.drop (m + 2))[m + 1]? = _
    rw [List.getElem?_append_right (by omega), front, Nat.add_sub_cancel_left]
    rfl
  have later : k ≠ 0 := by
    rintro rfl
    omega
  obtain ⟨k, rfl⟩ := Nat.exists_eq_add_one_of_ne_zero later
  rw [Nat.succ_mul] at last
  refine ⟨fun number => if number = k + 1 then a else b, a.rows[m], ?_, ?_⟩
  · simp only [if_true]
    apply mem_page (List.getElem?_eq_getElem at_end) <;> rw [Nat.add_sub_cancel] <;> omega
  · simp only [Nat.succ_ne_self, if_false]
    apply mem_page next <;> rw [Nat.add_sub_cancel, Nat.succ_mul] <;> omega

/-- Reading all pages gives every row once, whatever order each query chooses, exactly
when no group of equal keys goes on after the end of a page. -/
theorem upTo_perm_iff (distinct : xs.Nodup) (pos : 0 < size) :
    (∀ orders : Nat → Arrangement key xs, (upTo size (xs.length ⌈/⌉ size) orders).Perm xs) ↔
      ∀ k, ¬ Straddles key xs (k * size) := by
  constructor
  · intro complete k cut
    obtain ⟨orders, x, left, right⟩ := exists_twice cut
    have bound : k * size < xs.length := cut.lt_length
    obtain ⟨y, -, below, -⟩ := cut
    have numbered : k + 1 ≤ xs.length ⌈/⌉ size := by
      have bound' := ceilDiv_le_iff_le_mul (b := xs.length) (c := k) pos
      rw [Nat.mul_comm] at bound'
      omega
    have once := (List.nodup_flatMap.mp ((complete orders).nodup_iff.mpr distinct)).2
    have later : k ≠ 0 := by
      rintro rfl
      omega
    obtain ⟨k, rfl⟩ := Nat.exists_eq_add_one_of_ne_zero later
    have apart := List.pairwise_iff_getElem.mp once k (k + 1) (by simp; omega) (by simp; omega)
      (Nat.lt_succ_self k)
    simp only [List.getElem_range', Nat.one_mul, Nat.add_comm 1] at apart
    exact apart left right
  · intro uncut orders
    have all : (upTo size (xs.length ⌈/⌉ size) orders).Perm
        ((orders 0).rows.take (xs.length ⌈/⌉ size * size)) :=
      upTo_perm_take uncut _ _
    have reached : xs.length ≤ xs.length ⌈/⌉ size * size := by
      rw [Nat.mul_comm]
      exact (ceilDiv_le_iff_le_mul pos).mp le_rfl
    rw [List.take_of_length_le (by rwa [(orders 0).length_rows])] at all
    exact all.trans (orders 0).perm

end KiTicket.Paging
