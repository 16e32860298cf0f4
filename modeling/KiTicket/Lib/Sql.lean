import Mathlib.Data.List.Basic

/-! Conditions of an SQL query and what the database makes of them. A condition is analysed
before any row is read: every column must be one of a table in scope, and `=` must be
defined between the types of its two sides. Only a condition that passes is evaluated. -/
namespace KiTicket.Sql

inductive Error where
  /-- 42703 -/
  | undefinedColumn
  /-- 42883 -/
  | undefinedFunction
  /-- 22007 and 22008, of a parameter that is to be read as a time -/
  | invalidDatetime
deriving DecidableEq

/-- The tables and columns a query can name. -/
structure Schema where
  Table : Type
  Column : Type
  Name : Type
  Ty : Type
  Value : Type
  columnType : Table → Column → Option Ty
  /-- whether there is an operator `=` between two types -/
  equates : Ty → Ty → Bool

variable {S : Schema}

/-- `name.column` -/
structure Ref (S : Schema) where
  of : S.Name
  column : S.Column

inductive Condition (S : Schema) where
  | eq (left right : Ref S)
  | and (left right : Condition S)
  | not (inner : Condition S)
  /-- `EXISTS (SELECT 1 FROM ... WHERE ...)`; a join's `ON` is part of the condition. -/
  | exists (tables : List (S.Name × S.Table)) (inner : Condition S)

abbrev Row (S : Schema) := S.Column → S.Value

/-- The tables in scope under their names, the innermost first. -/
abbrev Scope (S : Schema) := List (S.Name × S.Table)

section Analysis
variable [DecidableEq S.Name]

def Ref.type (scope : Scope S) (ref : Ref S) : Except Error S.Ty :=
  match scope.lookup ref.of with
  | none => .error .undefinedColumn
  | some table =>
    match S.columnType table ref.column with
    | none => .error .undefinedColumn
    | some type => .ok type

/-- The analysis of a condition. -/
def Condition.check (scope : Scope S) : Condition S → Except Error Unit
  | .eq left right => do
    let leftType ← left.type scope
    let rightType ← right.type scope
    if S.equates leftType rightType then .ok () else .error .undefinedFunction
  | .and left right => do
    left.check scope
    right.check scope
  | .not inner => inner.check scope
  | .exists tables inner => inner.check (tables ++ scope)

end Analysis

section Evaluation
variable [DecidableEq S.Name] [DecidableEq S.Value] (rows : S.Table → List (Row S))

/-- The rows in scope, under their names. -/
abbrev Env (S : Schema) := List (S.Name × Row S)

/-- Every choice of one row of each table. -/
def choices : Scope S → List (Env S)
  | [] => [[]]
  | (name, table) :: tables =>
    (rows table).flatMap fun row => (choices tables).map fun env => (name, row) :: env

def Ref.value (env : Env S) (ref : Ref S) : Option S.Value :=
  (env.lookup ref.of).map fun row => row ref.column

def Condition.eval (env : Env S) : Condition S → Bool
  | .eq left right => left.value env == right.value env
  | .and left right => left.eval env && right.eval env
  | .not inner => !inner.eval env
  | .exists tables inner => (choices rows tables).any fun chosen => inner.eval (chosen ++ env)

/-- `SELECT * FROM table name WHERE condition`, `row` being what the database stores of an
element. -/
def select (table : S.Table) (name : S.Name) (row : α → Row S) (condition : Condition S)
    (elements : List α) : Except Error (List α) := do
  condition.check [(name, table)]
  .ok (elements.filter fun element => condition.eval rows [(name, row element)])

/-- What the analysis refuses fails whatever the tables hold. -/
theorem select_of_check {table : S.Table} {name : S.Name} {row : α → Row S}
    {condition : Condition S} {error : Error} (refused : condition.check [(name, table)] = .error error)
    (elements : List α) : select rows table name row condition elements = .error error := by
  rw [select, refused]
  rfl

end Evaluation

end KiTicket.Sql
