import Mathlib.Algebra.GroupWithZero.Nat
import Mathlib.Data.List.Forall2
import Mathlib.Data.List.Nodup

/-! Lists that are built from other lists element by element, and sums and counts over
lists that are split by a key. -/
namespace KiTicket.Lists

/-- A zip that reads off its left side again. -/
theorem map_zipWith_left {f : α → β → γ} {g : γ → δ} {h : α → δ} (same : ∀ a b, g (f a b) = h a) :
    ∀ {as : List α} {bs : List β}, as.length ≤ bs.length → (List.zipWith f as bs).map g = as.map h
  | [], _, _ => rfl
  | _ :: _, [], shorter => absurd shorter (Nat.not_succ_le_zero _)
  | a :: as, b :: bs, shorter => by
    simp only [List.zipWith_cons_cons, List.map_cons, same]
    rw [map_zipWith_left same (Nat.le_of_succ_le_succ shorter)]

theorem map_zipWith_right {f : α → β → γ} {g : γ → δ} {h : β → δ} (same : ∀ a b, g (f a b) = h b)
    {as : List α} {bs : List β} (shorter : bs.length ≤ as.length) :
    (List.zipWith f as bs).map g = bs.map h := by
  rw [List.zipWith_comm]
  exact map_zipWith_left (fun b a => same a b) shorter

theorem exists_of_mem_zipWith {f : α → β → γ} {as : List α} {bs : List β} {x : γ}
    (member : x ∈ List.zipWith f as bs) : ∃ a ∈ as, ∃ b ∈ bs, x = f a b := by
  rw [← List.map_uncurry_zip_eq_zipWith, List.mem_map] at member
  obtain ⟨⟨a, b⟩, zipped, rfl⟩ := member
  exact ⟨a, (List.of_mem_zip zipped).1, b, (List.of_mem_zip zipped).2, rfl⟩

/-- What holds between the elements on the left holds between what is made of them. -/
theorem pairwise_zipWith {f : α → β → γ} {S : α → α → Prop} {R : γ → γ → Prop} {as : List α}
    {bs : List β} (pairs : as.Pairwise S) (each : ∀ a a' b b', S a a' → R (f a b) (f a' b')) :
    (List.zipWith f as bs).Pairwise R := by
  induction pairs generalizing bs with
  | nil => exact .nil
  | @cons a as first _ ih =>
    cases bs with
    | nil => exact .nil
    | cons b bs =>
      refine .cons (fun c member => ?_) ih
      obtain ⟨a', inside, b', -, rfl⟩ := exists_of_mem_zipWith member
      exact each a a' b b' (first a' inside)

/-- A lookup of every element finds one for each, in order. -/
theorem forall₂_of_mapM {f : α → Option β} {as : List α} {bs : List β}
    (found : as.mapM f = some bs) : List.Forall₂ (fun a b => f a = some b) as bs := by
  induction as generalizing bs with
  | nil =>
    cases found
    exact .nil
  | cons a as ih =>
    rw [List.mapM_cons] at found
    obtain ⟨b, hit, rest⟩ := Option.bind_eq_some_iff.mp found
    obtain ⟨bs, hits, last⟩ := Option.bind_eq_some_iff.mp rest
    cases last
    exact .cons hit (ih hits)

/-- What is looked up by a name has it. -/
theorem map_of_mapM {f : α → Option β} {g : β → α} (names : ∀ a b, f a = some b → g b = a)
    {as : List α} {bs : List β} (found : as.mapM f = some bs) : bs.map g = as := by
  have pairs := forall₂_of_mapM found
  clear found
  induction pairs with
  | nil => rfl
  | cons hit _ ih => rw [List.map_cons, names _ _ hit, ih]

theorem mapM_map {f : α → Option β} {g : β → α} {bs : List β} (hits : ∀ b ∈ bs, f (g b) = some b) :
    (bs.map g).mapM f = some bs := by
  induction bs with
  | nil => rfl
  | cons b bs ih =>
    rw [List.map_cons, List.mapM_cons, hits b List.mem_cons_self,
      ih fun other member => hits other (List.mem_cons_of_mem b member)]
    rfl

/-- Where nobody shares a key, a lookup by key finds its element. -/
theorem find?_key {κ : Type w} [DecidableEq κ] {key : α → κ} {xs : List α}
    (distinct : (xs.map key).Nodup) {x : α} (member : x ∈ xs) :
    xs.find? (key · = key x) = some x := by
  obtain ⟨y, hit⟩ : ∃ y, xs.find? (key · = key x) = some y :=
    Option.isSome_iff_exists.mp (List.find?_isSome.mpr ⟨x, member, decide_eq_true rfl⟩)
  have same : key y = key x := by simpa using List.find?_some hit
  rw [hit, List.inj_on_of_nodup_map distinct (List.mem_of_find?_eq_some hit) member same]

theorem exists_of_mem_right {R : α → β → Prop} {as : List α} {bs : List β}
    (pairs : List.Forall₂ R as bs) {b : β} (member : b ∈ bs) : ∃ a ∈ as, R a b := by
  induction pairs with
  | nil => cases member
  | cons hit _ ih =>
    rcases List.mem_cons.mp member with rfl | later
    · exact ⟨_, List.mem_cons_self, hit⟩
    · obtain ⟨a, chosen, hit⟩ := ih later
      exact ⟨a, List.mem_cons_of_mem _ chosen, hit⟩

theorem exists_of_mem_left {R : α → β → Prop} {as : List α} {bs : List β}
    (pairs : List.Forall₂ R as bs) {a : α} (member : a ∈ as) : ∃ b ∈ bs, R a b :=
  exists_of_mem_right (List.Forall₂.flip pairs) member

/-- A partner for every element. -/
theorem exists_forall₂ {R : α → β → Prop} {as : List α} (each : ∀ a ∈ as, ∃ b, R a b) :
    ∃ bs, List.Forall₂ R as bs := by
  induction as with
  | nil => exact ⟨[], .nil⟩
  | cons a as ih =>
    obtain ⟨b, hit⟩ := each a List.mem_cons_self
    obtain ⟨bs, hits⟩ := ih fun other member => each other (List.mem_cons_of_mem _ member)
    exact ⟨b :: bs, .cons hit hits⟩

/-- Every element of a list comes first in some order of it. -/
theorem exists_perm_cons {x : α} {xs : List α} (member : x ∈ xs) :
    ∃ rest, (x :: rest).Perm xs := by
  obtain ⟨before, after, rfl⟩ := List.append_of_mem member
  exact ⟨before ++ after, List.perm_middle.symm⟩

/-- The front of a list up to the first miss has all the hits exactly when no hit
comes after a miss. -/
theorem forall_mem_takeWhile_iff {p : α → Bool} {xs : List α} (distinct : xs.Nodup) :
    (∀ x ∈ xs, p x = true → x ∈ xs.takeWhile p) ↔
      xs.Pairwise fun a b => p b = true → p a = true := by
  induction xs with
  | nil => simp
  | cons x xs ih =>
    obtain ⟨new, distinct⟩ := List.nodup_cons.mp distinct
    rw [List.pairwise_cons]
    by_cases hit : p x = true
    · rw [List.takeWhile_cons_of_pos hit, ← ih distinct]
      constructor
      · intro all
        refine ⟨fun _ _ _ => hit, fun y member found => ?_⟩
        rcases List.mem_cons.mp (all y (List.mem_cons_of_mem x member) found) with rfl | later
        · exact absurd member new
        · exact later
      · rintro ⟨-, all⟩ y member found
        rcases List.mem_cons.mp member with rfl | later
        · exact List.mem_cons_self
        · exact List.mem_cons_of_mem x (all y later found)
    · rw [List.takeWhile_cons_of_neg hit]
      constructor
      · intro all
        have missed : ∀ y ∈ xs, p y = true → False := fun y member found =>
          List.not_mem_nil (all y (List.mem_cons_of_mem x member) found)
        refine ⟨fun y member found => (missed y member found).elim, ?_⟩
        exact List.pairwise_of_forall_mem_list fun _ _ b member found =>
          (missed b member found).elim
      · rintro ⟨first, -⟩ y member found
        rcases List.mem_cons.mp member with rfl | later
        · exact absurd found hit
        · exact absurd (first y later found) hit

/-- Every element together with what comes before it, by its place. -/
theorem forall_prefix_iff {P : List α → α → Prop} {xs : List α} :
    (∀ before x, before ++ [x] <+: xs → P before x) ↔
      ∀ (i : Nat) (h : i < xs.length), P (xs.take i) xs[i] := by
  constructor
  · intro each i h
    apply each
    rw [List.take_append_getElem h]
    exact List.take_prefix _ _
  · rintro each before x ⟨after, rfl⟩
    have found := each before.length (by simp)
    simpa using found

/-! ## Sums by key -/

/-- Two conditions that exclude each other share out a sum. -/
theorem sum_filter_or {p q r : α → Bool} {f : α → Nat} (either : ∀ x, p x = (q x || r x))
    (apart : ∀ x, q x = true → r x = false) (xs : List α) :
    ((xs.filter p).map f).sum = ((xs.filter q).map f).sum + ((xs.filter r).map f).sum := by
  induction xs with
  | nil => rfl
  | cons x xs ih =>
    cases left : q x with
    | true =>
      have right := apart x left
      simp [either, left, right, ih, Nat.add_assoc]
    | false =>
      cases right : r x with
      | true =>
        simp only [List.filter_cons, either, left, right, Bool.or_true, if_true, List.map_cons,
          List.sum_cons, ih, Bool.false_eq_true, if_false]
        omega
      | false => simp [either, left, right, ih]

/-- A sum over the elements with one of some keys is the sum of the sums per key. -/
theorem sum_groups {κ : Type v} [DecidableEq κ] {key : α → κ} {f : α → Nat} {keys : List κ}
    (distinct : keys.Nodup) (xs : List α) :
    ((xs.filter fun x => key x ∈ keys).map f).sum =
      (keys.map fun k => ((xs.filter fun x => key x = k).map f).sum).sum := by
  induction keys with
  | nil => simp
  | cons k keys ih =>
    obtain ⟨new, distinct⟩ := List.nodup_cons.mp distinct
    rw [List.map_cons, List.sum_cons, ← ih distinct]
    apply sum_filter_or
    · intro x
      simp only [List.mem_cons, Bool.decide_or]
    · intro x mine
      rw [decide_eq_true_eq] at mine
      rw [decide_eq_false_iff_not, mine]
      exact new

/-- The same for the number of the elements. -/
theorem length_groups {κ : Type v} [DecidableEq κ] {key : α → κ} {keys : List κ}
    (distinct : keys.Nodup) (xs : List α) :
    (xs.filter fun x => key x ∈ keys).length =
      (keys.map fun k => (xs.filter fun x => key x = k).length).sum := by
  simpa only [List.map_const', List.sum_replicate_nat, Nat.mul_one] using
    sum_groups (f := fun _ => 1) distinct xs

/-- As many elements have one of some keys as there are keys, if every key is somebody's. -/
theorem length_filter_key {κ : Type v} [BEq κ] [LawfulBEq κ] {key : α → κ} {keys : List κ}
    {xs : List α} (single : (xs.map key).Nodup) (distinct : keys.Nodup) (found : keys ⊆ xs.map key) :
    (xs.filter fun x => key x ∈ keys).length = keys.length := by
  have perm : ((xs.filter fun x => key x ∈ keys).map key).Perm keys := by
    refine (List.perm_ext_iff_of_nodup (single.sublist ?_) distinct).mpr fun k => ?_
    · exact List.filter_sublist.map key
    · simp only [List.mem_map, List.mem_filter, decide_eq_true_eq]
      constructor
      · rintro ⟨x, ⟨-, mine⟩, rfl⟩
        exact mine
      · intro mine
        obtain ⟨x, member, rfl⟩ := List.mem_map.mp (found mine)
        exact ⟨x, ⟨member, mine⟩, rfl⟩
  rw [← perm.length_eq, List.length_map]

section Keyed
variable {κ : Type v} [DecidableEq κ] {key : α → κ} {f : α → Nat} {xs ys : List α} {moved : κ}

theorem filter_key (distinct : (xs.map key).Nodup) (k : κ) :
    xs.filter (key · = k) = (xs.find? (key · = k)).toList := by
  induction xs with
  | nil => rfl
  | cons x xs ih =>
    obtain ⟨new, distinct⟩ := List.nodup_cons.mp distinct
    by_cases mine : key x = k
    · have others : xs.filter (key · = k) = [] := by
        refine List.filter_eq_nil_iff.mpr fun y member same => new ?_
        rw [mine, ← of_decide_eq_true same]
        exact List.mem_map_of_mem member
      rw [List.filter_cons_of_pos (by simpa using mine), List.find?_cons_of_pos (by simpa using mine),
        others]
      rfl
    · rw [List.filter_cons_of_neg (by simpa using mine), List.find?_cons_of_neg (by simpa using mine),
        ih distinct]

/-- A sum is what one key makes up and the rest. -/
theorem sum_key (distinct : (xs.map key).Nodup) (moved : κ) : (xs.map f).sum =
    ((xs.filter fun x => key x ≠ moved).map f).sum + ((xs.find? (key · = moved)).map f).getD 0 := by
  have split := sum_filter_or (p := fun _ => true) (q := fun x => decide (key x ≠ moved))
    (r := fun x => decide (key x = moved)) (f := f) (fun x => by simp) (fun x => by simp) xs
  rw [List.filter_true, filter_key distinct] at split
  rw [split]
  cases xs.find? (key · = moved) <;> rfl

/-- Two lists that agree on every other key differ in their sums by what has this one. -/
theorem sum_elsewhere (left : (xs.map key).Nodup) (right : (ys.map key).Nodup)
    (elsewhere : ∀ k, k ≠ moved → xs.find? (key · = k) = ys.find? (key · = k)) :
    (xs.map f).sum + ((ys.find? (key · = moved)).map f).getD 0 =
      (ys.map f).sum + ((xs.find? (key · = moved)).map f).getD 0 := by
  have others : (xs.filter fun x => key x ≠ moved).Perm (ys.filter fun x => key x ≠ moved) := by
    refine (List.perm_ext_iff_of_nodup (left.of_map.filter _) (right.of_map.filter _)).mpr fun x => ?_
    simp only [List.mem_filter, decide_eq_true_eq]
    refine and_congr_left fun other => ⟨fun member => ?_, fun member => ?_⟩
    · have found := find?_key left member
      rw [elsewhere _ other] at found
      exact List.mem_of_find?_eq_some found
    · have found := find?_key right member
      rw [← elsewhere _ other] at found
      exact List.mem_of_find?_eq_some found
  rw [sum_key left moved, sum_key right moved, (others.map f).sum_nat]
  omega

end Keyed

/-! ## The largest summands -/

section Largest
variable {f : α → Nat} {x : α} {xs ys : List α} {k : Nat}

theorem sum_take_le_cons (first : ∀ y ∈ xs, f y ≤ f x) :
    ((xs.take k).map f).sum ≤ (((x :: xs).take k).map f).sum := by
  cases k with
  | zero => simp
  | succ k =>
    rw [List.take_succ_cons, List.map_cons, List.sum_cons, List.take_add_one, List.map_append,
      List.sum_append]
    cases last : xs[k]? with
    | none => simp
    | some y =>
      have most : f y ≤ f x := first y (List.mem_of_getElem? last)
      simp only [Option.toList_some, List.map_cons, List.map_nil, List.sum_cons, List.sum_nil]
      omega

/-- The first elements of a list that goes down add up to no less than as many of any. -/
theorem sum_le_sum_take (sorted : xs.Pairwise fun x y => f y ≤ f x) (within : ys.Subperm xs)
    (short : ys.length ≤ k) : (ys.map f).sum ≤ ((xs.take k).map f).sum := by
  obtain ⟨zs, perm, sub⟩ := within
  rw [← (perm.map f).sum_nat]
  rw [← perm.length_eq] at short
  clear perm
  induction sub generalizing k with
  | slnil => simp
  | @cons zs xs x sub ih =>
    obtain ⟨first, sorted⟩ := List.pairwise_cons.mp sorted
    exact Nat.le_trans (ih sorted short) (sum_take_le_cons first)
  | @cons_cons zs xs x sub ih =>
    obtain ⟨first, sorted⟩ := List.pairwise_cons.mp sorted
    cases k with
    | zero => simp at short
    | succ k =>
      rw [List.length_cons, Nat.succ_le_succ_iff] at short
      have rest := ih sorted short
      simp only [List.map_cons, List.sum_cons, List.take_succ_cons]
      omega

end Largest

end KiTicket.Lists
