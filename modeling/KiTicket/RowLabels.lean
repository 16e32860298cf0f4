import Mathlib.Data.List.ProdSigma
import KiTicket.Events
import KiTicket.Lib.Lists
import KiTicket.Lib.Numerals

/-! The labels of rows. `rowLabel` counts as spreadsheets do, so its labels are the
bijective numerals over the capital letters: every word over A to Z is the label of one
row, and the seats of a grid never share their row and number. -/
namespace KiTicket.Venues
open Numerals KiTicket.Lists

variable {value fuel i j : Nat} {label : Text} {sector : Sector} {body : CreateSectorDto}

/-- One round of the loop of `rowLabel`, on `value` and `label`. -/
def rowLabelRound : Nat × Text → Nat × Text
  | (value, label) => ((value - 1) / 26, Char.ofNat (65 + (value - 1) % 26) :: label)

/-- The loop of `rowLabel` comes to an end and returns the label. -/
def Ends (index : Nat) (label : Text) : Prop :=
  ∃ rounds, rowLabelRound^[rounds] (index + 1, []) = (0, label) ∧
    ∀ earlier < rounds, 0 < (rowLabelRound^[earlier] (index + 1, [])).1

/-! ## Letters -/

/-- `String.fromCharCode(65 + d)` -/
def letter (d : Fin 26) : Char := Char.ofNat (65 + d)

def isCapital (c : Char) : Prop := 'A' ≤ c ∧ c ≤ 'Z'

theorem letter_lt : ∀ d e : Fin 26, d < e → letter d < letter e := by decide

theorem letter_injective : Function.Injective letter := by
  have apart : ∀ d e : Fin 26, letter d = letter e → d = e := by decide
  exact fun d e same => apart d e same

theorem isCapital_letter : ∀ d : Fin 26, isCapital (letter d) := by
  unfold isCapital
  decide

theorem exists_letter {c : Char} (capital : isCapital c) : ∃ d, letter d = c := by
  obtain ⟨low, high⟩ := capital
  have low : 65 ≤ c.toNat := low
  have high : c.toNat ≤ 90 := high
  refine ⟨⟨c.toNat - 65, by omega⟩, ?_⟩
  rw [letter, Nat.add_sub_cancel' low, Char.ofNat_toNat]

theorem exists_letters (capitals : ∀ c ∈ label, isCapital c) :
    ∃ ds : List (Fin 26), ds.map letter = label := by
  induction label with
  | nil => exact ⟨[], rfl⟩
  | cons c label ih =>
    obtain ⟨d, first⟩ := exists_letter (capitals c List.mem_cons_self)
    obtain ⟨ds, rest⟩ := ih fun other member => capitals other (List.mem_cons_of_mem c member)
    exact ⟨d :: ds, by rw [List.map_cons, first, rest]⟩

/-! ## The loop -/

/-- A round takes the last digit off and puts its letter in front. -/
theorem rowLabelRound_eq : rowLabelRound (value, label) =
    ((value - 1) / 26, letter (Fin.ofNat 26 (value - 1)) :: label) := rfl

theorem rounds_spec (value : Nat) (label : Text) :
    rowLabelRound^[(numeral value : List (Fin 26)).length] (value, label) =
      (0, (numeral value).map letter ++ label) ∧
    ∀ earlier < (numeral value : List (Fin 26)).length,
      0 < (rowLabelRound^[earlier] (value, label)).1 := by
  induction value using Nat.strongRecOn generalizing label with
  | ind value ih =>
    rcases Nat.eq_zero_or_pos value with rfl | pos
    · simp
    have smaller : (value - 1) / 26 < value :=
      Nat.lt_of_le_of_lt (Nat.div_le_self _ _) (Nat.sub_lt pos Nat.one_pos)
    obtain ⟨ends, goes⟩ := ih _ smaller (letter (Fin.ofNat 26 (value - 1)) :: label)
    rw [numeral_of_pos pos, List.length_append, List.length_singleton]
    constructor
    · rw [Function.iterate_succ_apply, rowLabelRound_eq, ends]
      simp
    · rintro (_ | earlier) inside
      · exact pos
      · rw [Function.iterate_succ_apply, rowLabelRound_eq]
        exact goes earlier (Nat.lt_of_succ_lt_succ inside)

theorem rowLabelLoop_eq (enough : value ≤ fuel) :
    rowLabelLoop fuel value label = (numeral value).map letter ++ label := by
  induction fuel generalizing value label with
  | zero =>
    obtain rfl := Nat.le_zero.mp enough
    rw [numeral_zero]
    rfl
  | succ fuel ih =>
    rw [rowLabelLoop]
    split
    · rename_i zero
      rw [zero, numeral_zero]
      rfl
    · rename_i nonzero
      have pos := Nat.pos_of_ne_zero nonzero
      have smaller : (value - 1) / 26 ≤ fuel :=
        Nat.le_trans (Nat.div_le_self _ _) (Nat.sub_le_of_le_add enough)
      rw [ih smaller, numeral_of_pos pos, List.map_append, List.append_assoc]
      rfl

/-- The label of a row is its number, counted from one, in bijective base 26. -/
theorem rowLabel_eq (index : Nat) : rowLabel index = (numeral (index + 1)).map letter := by
  rw [rowLabel, rowLabelLoop_eq (Nat.le_refl _), List.append_nil]

theorem rowLabel_ends (index : Nat) : Ends index (rowLabel index) := by
  obtain ⟨ends, goes⟩ := rounds_spec (index + 1) []
  rw [List.append_nil, ← rowLabel_eq] at ends
  exact ⟨_, ends, goes⟩

theorem rowLabel_ne_nil (index : Nat) : rowLabel index ≠ [] := by
  rw [rowLabel_eq, ne_eq, List.map_eq_nil_iff]
  exact numeral_ne_nil (Nat.succ_pos index)

theorem isCapital_of_mem_rowLabel {index : Nat} {c : Char} (member : c ∈ rowLabel index) :
    isCapital c := by
  rw [rowLabel_eq, List.mem_map] at member
  obtain ⟨d, -, rfl⟩ := member
  exact isCapital_letter d

theorem rowLabel_injective : Function.Injective rowLabel := by
  intro i j same
  rw [rowLabel_eq, rowLabel_eq] at same
  exact Nat.succ.inj (numeral_injective (letter_injective.list_map same))

theorem exists_rowLabel (word : label ≠ []) (capitals : ∀ c ∈ label, isCapital c) :
    ∃ index, rowLabel index = label := by
  obtain ⟨ds, rfl⟩ := exists_letters capitals
  have some : 0 < value ds := by
    apply Nat.pos_of_ne_zero
    intro zero
    rw [← numeral_value ds, zero, numeral_zero] at word
    exact word rfl
  refine ⟨value ds - 1, ?_⟩
  rw [rowLabel_eq, Nat.sub_add_cancel some, numeral_value]

/-! ## Order -/

/-- Shorter labels first, labels of the same length in alphabetical order. -/
def Before (a b : Text) : Prop := List.Shortlex (· < ·) a b

theorem before_of_lt (smaller : i < j) : Before (rowLabel i) (rowLabel j) := by
  have digits : List.Shortlex (· < ·) (numeral (i + 1) : List (Fin 26)) (numeral (j + 1)) :=
    numeral_shortlex_iff.mpr (Nat.succ_lt_succ smaller)
  rw [rowLabel_eq, rowLabel_eq]
  rcases List.shortlex_def.mp digits with shorter | ⟨same, lex⟩
  · refine .of_length_lt ?_
    rw [List.length_map, List.length_map]
    exact shorter
  · refine .of_lex ?_ (List.map_lt letter_lt lex)
    rw [List.length_map, List.length_map, same]

theorem Before.asymm {a b : Text} (before : Before a b) : ¬Before b a :=
  Std.Asymm.asymm (r := List.Shortlex (α := Char) (· < ·)) a b before

theorem before_rowLabel_iff : Before (rowLabel i) (rowLabel j) ↔ i < j := by
  refine ⟨fun before => ?_, before_of_lt⟩
  rcases Nat.lt_trichotomy i j with smaller | rfl | larger
  · exact smaller
  · exact absurd before before.asymm
  · exact absurd before (before_of_lt larger).asymm

/-! ## The grid -/

/-- The row index and the number of each seat of a grid, in the order `createSector`
makes them. -/
def places (body : CreateSectorDto) : List (Nat × Nat) :=
  List.range body.rows ×ˢ List.range' 1 body.seatsPerRow

/-- The seat of a new sector at a place. -/
def seatAt (sector : Sector) (body : CreateSectorDto) (place : Nat × Nat) (id : Uuid) : Seat :=
  ⟨id, sector.id, rowLabel place.1, place.2,
    body.accessibleFirstRow.getD false && decide (place.1 = 0)⟩

theorem newSeats_eq : newSeats sector body = (places body).map (seatAt sector body) := by
  simp only [newSeats, places, SProd.sprod, List.product, List.map_flatMap, List.map_map]
  rfl

theorem places_nodup : (places body).Nodup :=
  List.Nodup.product List.nodup_range List.nodup_range'

theorem length_places : (places body).length = body.rows * body.seatsPerRow := by
  rw [places, List.length_product, List.length_range, List.length_range']

/-- The seats `createSector` saves, once their ids are drawn. -/
def grid (sector : Sector) (body : CreateSectorDto) (ids : List Uuid) : List Seat :=
  List.zipWith (fun seat id => seat id) (newSeats sector body) ids

theorem grid_eq {ids : List Uuid} :
    grid sector body ids = List.zipWith (seatAt sector body) (places body) ids := by
  rw [grid, newSeats_eq, List.zipWith_map_left]

/-- No two seats of a grid are in one row under one number. -/
theorem grid_apart (sector : Sector) (body : CreateSectorDto) (ids : List Uuid) :
    (grid sector body ids).Pairwise fun a b =>
      ¬(a.sectorId = b.sectorId ∧ a.row = b.row ∧ a.number = b.number) := by
  rw [grid_eq]
  refine pairwise_zipWith (List.nodup_iff_pairwise_ne.mp places_nodup) fun place place' _ _ different => ?_
  rintro ⟨-, row, number⟩
  exact different (Prod.ext (rowLabel_injective row) number)

/-! ## A numeral system -/

/-- The loop of `rowLabel` ends for every index, its labels are the words over A to Z,
each the label of one row, in the order of their rows, and the seats of a grid are apart. -/
theorem rowLabel_numerals :
    (∀ index, Ends index (rowLabel index) ∧ rowLabel index ≠ [] ∧
      ∀ c ∈ rowLabel index, isCapital c) ∧
    (∀ i j, rowLabel i = rowLabel j → i = j) ∧
    (∀ label, label ≠ [] → (∀ c ∈ label, isCapital c) → ∃! index, rowLabel index = label) ∧
    (∀ i j, Before (rowLabel i) (rowLabel j) ↔ i < j) ∧
    ∀ sector body ids, (grid sector body ids).Pairwise fun a b =>
      ¬(a.sectorId = b.sectorId ∧ a.row = b.row ∧ a.number = b.number) := by
  refine ⟨fun index => ⟨rowLabel_ends index, rowLabel_ne_nil index, fun c => isCapital_of_mem_rowLabel⟩,
    fun i j same => rowLabel_injective same, ?_, fun i j => before_rowLabel_iff, grid_apart⟩
  intro label word capitals
  obtain ⟨index, labelled⟩ := exists_rowLabel word capitals
  exact ⟨index, labelled, fun other same => rowLabel_injective (same.trans labelled.symm)⟩

end KiTicket.Venues
