import Mathlib.Data.List.Basic

/-! How ids are spelled. A primary key is a Postgres `uuid`: any letter case of
its hex digits names the same row, with hyphens between them or without, and a
read gives it back in lower case with the usual hyphens. The columns that refer
to it are `varchar`, Redis keys and JS `===` compare characters. The two notions
meet in `uuid?`, which is what a `uuid` column makes of a string, and
`Uuid.text`, which is what it gives back. -/
namespace KiTicket

/-- A JS string or a `varchar` value: equal when it has the same characters. -/
abbrev Text := List Char

/-- Letter case folded away. -/
def lower (text : Text) : Text := text.map Char.toLower

private theorem toLower_toLower (c : Char) : c.toLower.toLower = c.toLower := by
  unfold Char.toLower
  split
  · rename_i upper
    rw [dif_neg]
    rintro ⟨-, small⟩
    simp only [ge_iff_le, UInt32.le_iff_toNat_le] at upper small
    rw [UInt32.toNat_add] at small
    have bound : ('Z' : Char).val.toNat = 90 := rfl
    have start : ('A' : Char).val.toNat = 65 := rfl
    have shift : ('a'.val - 'A'.val).toNat = 32 := rfl
    omega
  · rfl

@[simp] theorem lower_lower (text : Text) : lower (lower text) = lower text := by
  rw [lower, lower, List.map_map]
  exact List.map_congr_left fun c _ => toLower_toLower c

def hexDigit (c : Char) : Bool :=
  c.isDigit || ('a' ≤ c && c ≤ 'f') || ('A' ≤ c && c ≤ 'F')

/-- Groups of 8, 4, 4, 4 and 12 hex digits with hyphens between them. -/
def uuidLayout (text : Text) : Bool :=
  text.length == 36 && text.zipIdx.all fun (c, i) =>
    if i = 8 ∨ i = 13 ∨ i = 18 ∨ i = 23 then c == '-' else hexDigit c

/-- A `uuid` value, by the text Postgres prints for it. -/
structure Uuid where
  text : Text
  layout : uuidLayout text = true
  folded : lower text = text
deriving DecidableEq

/-- The `uuid` of a text with the usual hyphens, in any letter case. -/
def usual? (text : Text) : Option Uuid :=
  if layout : uuidLayout (lower text) = true then some ⟨lower text, layout, lower_lower text⟩
  else none

/-- The digits of so many groups of four. A hyphen may follow each group but the last. -/
def uuidGroups : Nat → Text → Option Text
  | 0, rest => if rest = [] then some [] else none
  | n + 1, a :: b :: c :: d :: rest =>
    if [a, b, c, d].all hexDigit then
      (uuidGroups n (if n ≠ 0 ∧ rest.head? = some '-' then rest.tail else rest)).map
        ([a, b, c, d] ++ ·)
    else none
  | _, _ => none

/-- The digits of a spelling, which may stand in braces. -/
def uuidDigits : Text → Option Text
  | '{' :: inner => if inner.getLast? = some '}' then uuidGroups 8 inner.dropLast else none
  | text => uuidGroups 8 text

def hyphenated (digits : Text) : Text :=
  digits.take 8 ++ '-' :: (digits.drop 8).take 4 ++ '-' :: (digits.drop 12).take 4 ++
    '-' :: (digits.drop 16).take 4 ++ '-' :: digits.drop 20

/-- The `uuid` a string is read as; `none` is Postgres error 22P02. -/
def uuid? (text : Text) : Option Uuid :=
  usual? text <|> (uuidDigits (lower text)).bind fun digits => usual? (hyphenated digits)

example : (uuid? "{AAAAAAAAaaaa-4aaa-aaaaaaaaaaaaaaaa}".toList).map Uuid.text =
      some "aaaaaaaa-aaaa-4aaa-aaaa-aaaaaaaaaaaa".toList ∧
    uuid? "aaaaaa-aaaaaa-4aaa-aaaa-aaaaaaaaaaaa".toList = none := by decide +kernel

theorem Uuid.text_injective : Function.Injective Uuid.text := by
  rintro ⟨_, _, _⟩ ⟨_, _, _⟩ same
  cases same
  rfl

@[simp] theorem Uuid.text_inj {u v : Uuid} : u.text = v.text ↔ u = v :=
  Uuid.text_injective.eq_iff

theorem uuid?_of_layout {text : Text} (layout : uuidLayout (lower text) = true) :
    uuid? text = some ⟨lower text, layout, lower_lower text⟩ := by
  rw [uuid?, usual?, dif_pos layout]
  rfl

@[simp] theorem uuid?_text (u : Uuid) : uuid? u.text = some u := by
  have layout : uuidLayout (lower u.text) = true := u.folded.symm ▸ u.layout
  rw [uuid?_of_layout layout, Option.some.injEq]
  exact Uuid.text_injective u.folded

/-- The spelling every response of the API uses for an id. -/
def asReturned (text : Text) : Bool := (uuid? text).any fun u => u.text == text

theorem asReturned_iff {text : Text} : asReturned text = true ↔ ∃ u : Uuid, text = u.text := by
  simp only [asReturned, Option.any_eq_true, beq_iff_eq]
  constructor
  · rintro ⟨u, -, same⟩
    exact ⟨u, same.symm⟩
  · rintro ⟨u, rfl⟩
    exact ⟨u, uuid?_text u, rfl⟩

/-- Spelled as returned, an id is its own text. -/
theorem eq_text_of_asReturned {text : Text} {u : Uuid} (spelled : asReturned text = true)
    (named : uuid? text = some u) : text = u.text := by
  obtain ⟨v, rfl⟩ := asReturned_iff.mp spelled
  rw [uuid?_text, Option.some.injEq] at named
  rw [named]

/-! ### class-validator's `IsUUID` -/

/-- The version and variant digits of RFC 4122 ids, in either letter case. -/
def versionDigit (allowed : List Char) (text : Text) : Bool :=
  text[14]?.any (allowed.contains ·) && text[19]?.any (['8', '9', 'a', 'b', 'A', 'B'].contains ·)

/-- `IsUUID('4')`. -/
def isUUID4 (text : Text) : Bool := uuidLayout text && versionDigit ['4'] text

/-- `IsUUID()`: versions 1 to 8, the nil id and the max id. -/
def isUUID (text : Text) : Bool :=
  uuidLayout text &&
    (versionDigit ['1', '2', '3', '4', '5', '6', '7', '8'] text ||
      text.all (fun c => c == '0' || c == '-') || text.all (fun c => c == 'f' || c == 'F' || c == '-'))

/-! What the pipe lets through as an id, Postgres reads. -/

theorem hexDigit_toLower {c : Char} (hex : hexDigit c = true) : hexDigit c.toLower = true := by
  unfold Char.toLower
  split
  · rename_i upper
    simp only [hexDigit, Char.isDigit, Char.le_def, ge_iff_le, UInt32.le_iff_toNat_le,
      Bool.or_eq_true, Bool.and_eq_true, decide_eq_true_eq, UInt32.toNat_add] at hex upper ⊢
    have a : ('a' : Char).val.toNat = 97 := rfl
    have f : ('f' : Char).val.toNat = 102 := rfl
    have A : ('A' : Char).val.toNat = 65 := rfl
    have F : ('F' : Char).val.toNat = 70 := rfl
    have Z : ('Z' : Char).val.toNat = 90 := rfl
    have zero : ('0' : Char).val.toNat = 48 := rfl
    have nine : ('9' : Char).val.toNat = 57 := rfl
    have shift : ('a'.val - 'A'.val).toNat = 32 := rfl
    omega
  · exact hex

theorem uuidLayout_lower {text : Text} (layout : uuidLayout text = true) :
    uuidLayout (lower text) = true := by
  simp only [uuidLayout, Bool.and_eq_true, beq_iff_eq, List.all_eq_true] at layout ⊢
  refine ⟨by rw [lower, List.length_map, layout.1], fun place member => ?_⟩
  rw [lower, List.zipIdx_map] at member
  obtain ⟨⟨c, i⟩, inside, rfl⟩ := List.mem_map.mp member
  have digit := layout.2 _ inside
  simp only [Prod.map, id] at digit ⊢
  split
  · rename_i hyphen
    rw [if_pos hyphen, beq_iff_eq] at digit
    rw [digit]
    rfl
  · rename_i other
    rw [if_neg other] at digit
    exact hexDigit_toLower digit

theorem exists_uuid_of_isUUID {text : Text} (valid : isUUID text = true) : ∃ u, uuid? text = some u := by
  rw [isUUID, Bool.and_eq_true] at valid
  exact ⟨_, uuid?_of_layout (uuidLayout_lower valid.1)⟩

end KiTicket
