import SelectTree.Catalog.DataType

namespace SelectTree

/-! Tables and their columns, both in declaration order. -/

structure Column where
  name : String
  dataType : DataType
  deriving DecidableEq, Repr

/-- Puts `x` where the first entry with its key stands, or at the end if there is none. -/
def overwrite [DecidableEq β] (key : α → β) (x : α) : List α → List α
  | [] => [x]
  | y :: ys => if key y = key x then x :: ys else y :: overwrite key x ys

theorem mem_map_overwrite [DecidableEq β] (key : α → β) (x : α) (xs : List α) (b : β) :
    b ∈ (overwrite key x xs).map key ↔ b = key x ∨ b ∈ xs.map key := by
  induction xs with
  | nil => simp [overwrite]
  | cons y ys ih =>
      by_cases h : key y = key x
      · simp [overwrite, h]
      · simp only [overwrite, h, if_false, List.map_cons, List.mem_cons, ih]
        constructor
        · rintro (hy | hx | hys)
          · exact .inr (.inl hy)
          · exact .inl hx
          · exact .inr (.inr hys)
        · rintro (hx | hy | hys)
          · exact .inr (.inl hx)
          · exact .inl hy
          · exact .inr (.inr hys)

structure Table where
  name : String
  columns : List Column
  deriving DecidableEq, Repr

namespace Table

def empty (name : String) : Table := ⟨name, []⟩

def insertColumn (table : Table) (column : Column) : Table :=
  { table with columns := overwrite Column.name column table.columns }

/-- A repeated name keeps its first position and its last type. -/
def ofColumns (name : String) (columns : List Column) : Table :=
  columns.foldl insertColumn (empty name)

def column? (table : Table) (name : String) : Option Column :=
  table.columns.find? (·.name = name)

def columnNames (table : Table) : List String :=
  table.columns.map Column.name

end Table

structure Schema where
  tables : List Table
  deriving DecidableEq, Repr

namespace Schema

def empty : Schema := ⟨[]⟩

def insertTable (schema : Schema) (table : Table) : Schema :=
  ⟨overwrite Table.name table schema.tables⟩

def ofTables (tables : List Table) : Schema :=
  tables.foldl insertTable empty

def table? (schema : Schema) (name : String) : Option Table :=
  schema.tables.find? (·.name = name)

def tableNames (schema : Schema) : List String :=
  schema.tables.map Table.name

def insertColumn (schema : Schema) (table : String) (column : Column) : Schema :=
  match schema.table? table with
  | some found => schema.insertTable (found.insertColumn column)
  | none => schema

def columnsOf? (schema : Schema) (table : String) : Option (List Column) :=
  (schema.table? table).map Table.columns

def column? (schema : Schema) (table column : String) : Option Column :=
  (schema.table? table).bind (·.column? column)

/-- Column names of a table, none for a table that is not listed. -/
def columnNames (schema : Schema) (table : String) : List String :=
  match schema.table? table with
  | some found => found.columnNames
  | none => []

end Schema

end SelectTree
