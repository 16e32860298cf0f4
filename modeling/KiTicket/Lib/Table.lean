import Mathlib.Data.List.Pairwise

/-! Tables under unique constraints. A table is a list of rows no two of which
clash, so a state that breaks a primary key or a unique index cannot be built:
an insert that would break one is refused as a whole, and an update has to show
that it leaves the key columns alone. -/
namespace KiTicket

/-- `clash a b`: some unique constraint forbids the rows to coexist. -/
class UniqueKeys (α : Type u) where
  clash : α → α → Bool
  clash_comm : ∀ a b, clash a b = clash b a

export UniqueKeys (clash clash_comm)

/-- A relation whose unique constraints hold. -/
structure Table (α : Type u) [UniqueKeys α] where
  rows : List α
  unique : rows.Pairwise fun a b => clash a b = false

namespace Table
variable {α : Type u} [UniqueKeys α] {table table' : Table α}

@[ext] theorem ext (same : table.rows = table'.rows) : table = table' := by
  cases table; cases table'; cases same; rfl

instance [DecidableEq α] : DecidableEq (Table α) := fun _ _ =>
  decidable_of_iff _ ⟨Table.ext, congrArg rows⟩

def empty : Table α := ⟨[], .nil⟩

/-- `INSERT` of several rows in one statement: all of them or, on a duplicate
key, none. -/
def insert? (table : Table α) (new : List α) : Option (Table α) :=
  if fits : (table.rows ++ new).Pairwise fun a b => clash a b = false then
    some ⟨table.rows ++ new, fits⟩
  else none

theorem insert?_eq_some {new : List α} :
    table.insert? new = some table' ↔ table'.rows = table.rows ++ new := by
  unfold insert?
  split
  · rw [Option.some.injEq]
    exact ⟨fun same => same ▸ rfl, fun same => Table.ext same.symm⟩
  · rename_i clashes
    refine ⟨by simp, fun same => absurd table'.unique ?_⟩
    rwa [same]

/-- Rows that clash neither with one another nor with what is there are accepted. -/
theorem exists_insert? {new : List α} (apart : new.Pairwise fun a b => clash a b = false)
    (fresh : ∀ a ∈ table.rows, ∀ b ∈ new, clash a b = false) :
    ∃ table', table.insert? new = some table' :=
  ⟨⟨table.rows ++ new, List.pairwise_append.mpr ⟨table.unique, apart, fresh⟩⟩,
    insert?_eq_some.mpr rfl⟩

/-- An accepted row clashes with no row that was there. -/
theorem clash_false_of_insert? {new : List α} (inserted : table.insert? new = some table')
    {a b : α} (old : a ∈ table.rows) (fresh : b ∈ new) : clash a b = false := by
  have unique := table'.unique
  rw [insert?_eq_some.mp inserted] at unique
  exact (List.pairwise_append.mp unique).2.2 a old b fresh

/-- A row the table has no room for. -/
def Clashes (table : Table α) (row : α) : Prop := ∃ old ∈ table.rows, clash old row = true

theorem insert?_singleton_eq_none {row : α} : table.insert? [row] = none ↔ table.Clashes row := by
  constructor
  · intro refused
    by_contra fits
    have fresh : ∀ a ∈ table.rows, ∀ b ∈ [row], clash a b = false := by
      intro a member b new
      rw [List.mem_singleton.mp new, Bool.eq_false_iff]
      exact fun clashes => fits ⟨a, member, clashes⟩
    obtain ⟨table', inserted⟩ := exists_insert? (List.pairwise_singleton _ row) fresh
    rw [refused] at inserted
    cases inserted
  · rintro ⟨old, member, clashes⟩
    cases inserted : table.insert? [row] with
    | none => rfl
    | some table' =>
      rw [clash_false_of_insert? inserted member List.mem_cons_self] at clashes
      cases clashes

theorem not_clashes_of_insert? {row : α} {stored : Table α}
    (inserted : table.insert? [row] = some stored) : ¬table.Clashes row := by
  intro clashes
  rw [insert?_singleton_eq_none.mpr clashes] at inserted
  cases inserted

/-- The table after an insert of one row, whether or not it was refused. -/
def attempt (table : Table α) (row : α) : Table α := (table.insert? [row]).getD table

theorem mem_attempt {row other : α} :
    other ∈ (table.attempt row).rows ↔ other ∈ table.rows ∨ (¬table.Clashes row ∧ other = row) := by
  unfold attempt
  cases inserted : table.insert? [row] with
  | none =>
    have clashes := insert?_singleton_eq_none.mp inserted
    simp [clashes]
  | some table' =>
    have fits : ¬table.Clashes row := not_clashes_of_insert? inserted
    simp [insert?_eq_some.mp inserted, fits]

theorem attempt_of_clashes {row : α} (clashes : table.Clashes row) : table.attempt row = table := by
  rw [attempt, insert?_singleton_eq_none.mpr clashes, Option.getD_none]

theorem attempt_of_insert? {row : α} {stored : Table α} (inserted : table.insert? [row] = some stored) :
    stored = table.attempt row := by
  rw [attempt, inserted, Option.getD_some]

/-- Where two inserts do not come to the same, one of them left a row the other did not. -/
theorem attempt_apart {row row' : α} (self : ∀ a : α, clash a a = true)
    (apart : ¬(row = row' ∨ (table.Clashes row ∧ table.Clashes row'))) :
    (row ∈ (table.attempt row).rows ∧ row ∉ (table.attempt row').rows) ∨
      (row' ∈ (table.attempt row').rows ∧ row' ∉ (table.attempt row).rows) := by
  simp only [mem_attempt, and_true]
  have new {a : α} (fits : ¬table.Clashes a) : a ∉ table.rows :=
    fun stored => fits ⟨a, stored, self a⟩
  by_cases clashes : table.Clashes row
  · have fits : ¬table.Clashes row' := fun both => apart (.inr ⟨clashes, both⟩)
    exact .inr ⟨.inr fits, fun stored => stored.elim (new fits) fun own => own.1 clashes⟩
  · refine .inl ⟨.inr clashes, fun stored => stored.elim (new clashes) fun own => ?_⟩
    exact apart (.inl own.2)

/-- `DELETE` of the rows that satisfy `p`. -/
def delete (table : Table α) (p : α → Bool) : Table α :=
  ⟨table.rows.filter fun row => !p row, table.unique.sublist List.filter_sublist⟩

@[simp] theorem rows_delete {p : α → Bool} :
    (table.delete p).rows = table.rows.filter fun row => !p row := rfl

/-- `UPDATE` that writes no key column. -/
def update (table : Table α) (f : α → α) (keeps : ∀ a b, clash (f a) (f b) = clash a b) :
    Table α :=
  ⟨table.rows.map f, List.pairwise_map.mpr (by simpa only [keeps] using table.unique)⟩

@[simp] theorem rows_update {f : α → α} {keeps : ∀ a b, clash (f a) (f b) = clash a b} :
    (table.update f keeps).rows = table.rows.map f := rfl

/-- Rows that clash are the same row. -/
theorem eq_of_clash {a b : α} (left : a ∈ table.rows) (right : b ∈ table.rows)
    (clashes : clash a b = true) : a = b := by
  have symm : Std.Symm fun a b : α => clash a b = false := ⟨fun a b h => by rwa [clash_comm]⟩
  by_contra different
  have apart := table.unique.forall left right different
  simp [apart] at clashes

/-- At most one row has a key. -/
theorem length_filter_le_one {p : α → Bool}
    (key : ∀ a b, p a = true → p b = true → clash a b = true) :
    (table.rows.filter p).length ≤ 1 := by
  have unique := table.unique.sublist (List.filter_sublist (p := p))
  match found : table.rows.filter p with
  | [] => exact Nat.zero_le _
  | [_] => exact Nat.le_refl _
  | a :: b :: rest =>
    have both : a ∈ table.rows.filter p ∧ b ∈ table.rows.filter p := by simp [found]
    have apart : clash a b = false := by
      rw [found] at unique
      exact List.rel_of_pairwise_cons unique List.mem_cons_self
    rw [key a b (List.mem_filter.mp both.1).2 (List.mem_filter.mp both.2).2] at apart
    cases apart

/-- The row that has a key is the only one that has it. -/
theorem filter_eq_singleton {p : α → Bool} {row : α} (member : row ∈ table.rows)
    (found : p row = true) (key : ∀ a b, p a = true → p b = true → clash a b = true) :
    table.rows.filter p = [row] := by
  have chosen := List.mem_filter.mpr ⟨member, found⟩
  obtain ⟨other, single⟩ := List.length_eq_one_iff.mp
    (Nat.le_antisymm (length_filter_le_one key) (List.length_pos_of_mem chosen))
  rw [single] at chosen ⊢
  rw [List.mem_singleton.mp chosen]

/-- A lookup by a key finds the row that has it. -/
theorem find?_eq_some_of_mem {p : α → Bool} {row : α} (member : row ∈ table.rows)
    (found : p row = true) (key : ∀ a b, p a = true → p b = true → clash a b = true) :
    table.rows.find? p = some row := by
  obtain ⟨other, hit⟩ : ∃ other, table.rows.find? p = some other :=
    Option.isSome_iff_exists.mp (List.find?_isSome.mpr ⟨row, member, found⟩)
  rw [hit, eq_of_clash (List.mem_of_find?_eq_some hit) member
    (key _ _ (List.find?_some hit) found)]

end Table
end KiTicket
