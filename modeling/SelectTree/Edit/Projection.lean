import SelectTree.Catalog.Schema
import SelectTree.Edit.Joins
import SelectTree.Edit.Predicates

namespace SelectTree.Edit

/-! Projections: the columns they stand for, how few stars write them, and which tables they
need. -/

structure Options where
  dialect : Sql.Dialect
  /-- Whether tables whose columns are all projected are written as stars. -/
  compressStars : Bool
  /-- What every pattern of a `LIKE` filter ends in. -/
  likeSuffix : String
  deriving DecidableEq, Repr

def Options.default : Options := ⟨.generic, true, "%"⟩

/-! Stars -/

/-- The columns that one item stands for, in a query of the given tables. -/
def expand (schema : Schema) (tables : List String) (item : ColumnRef) : List String :=
  match item.target with
  | some .wildcard => tables.flatMap schema.columnNames
  | some (.tableWildcard table) => schema.columnNames table
  | some (.column _ name) => [name]
  | none => [item.rendering]

/-- The columns that a projection stands for, each of them once. -/
def resolve (schema : Schema) (q : Select) : List String :=
  (q.items.flatMap (expand schema q.tables)).eraseDups

def star (table : String) : String :=
  table ++ ".*"

def isStar (column : String) : Bool :=
  Text.endsWith ['.', '*'] column.toList

/-- Puts a star for a table in front, in place of its columns, if all of them are in `columns`. -/
def compressTable (schema : Schema) (columns : List String) (written : List String)
    (table : String) : List String :=
  let names := schema.columnNames table
  if !names.isEmpty && names.all (columns.contains ·) then
    star table :: written.filter (!names.contains ·)
  else written

/-- Writes columns with stars, and with one star for all of them if that is one for each table. -/
def compress (schema : Schema) (columns tables : List String) : List String :=
  let written := tables.foldl (compressTable schema columns) columns
  if !written.isEmpty && written.all isStar && written.length = tables.length then ["*"]
  else written

def write (schema : Schema) (options : Options) (columns tables : List String) : List String :=
  if options.compressStars then compress schema columns tables else columns

/-- Items for resolved columns; the rendering of a call becomes that call again. -/
def rebuildItems (items : List ColumnRef) (columns : List String) : List ColumnRef :=
  columns.map fun column =>
    (items.find? fun item => item.isCall && item.rendering = column).getD (.identifier column)

/-! Needed tables -/

/-- The tables that have some of the columns, with those columns. -/
def contributions (schema : Schema) (columns candidates : List String) :
    List (String × List String) :=
  (candidates.map fun table =>
    (table, (schema.columnNames table).filter (columns.contains ·))).filter (!·.2.isEmpty)

/-- Keeps what brings several columns, or one that nothing before it brings. -/
def keepUseful : (supplied : List String) → List (String × List String) → List String
  | _, [] => []
  | supplied, (table, [name]) :: rest =>
      if supplied.contains name then keepUseful supplied rest
      else table :: keepUseful (name :: supplied) rest
  | supplied, (table, _) :: rest => table :: keepUseful supplied rest

/-- The candidates that the columns need. What brings several columns comes first. -/
def tablesForWithin (schema : Schema) (columns candidates : List String) : List String :=
  let found := contributions schema columns candidates
  keepUseful ((found.filter fun (_, names) => 1 < names.length).flatMap Prod.snd) found

def tablesFor (schema : Schema) (columns : List String) : List String :=
  tablesForWithin schema columns schema.tableNames

/-! Added columns -/

def newItem (table column : String) : ColumnRef :=
  .identifier (if column = "*" then star table else column)

/-- Projects one more column of a table that the query reads or is about to read. -/
def projectColumn (schema : Schema) (options : Options) (q : Select) (table column : String) :
    Except Error Select := do
  q.validate
  let longer := { q with items := q.items ++ [newItem table column] }
  let tables := (table :: longer.tables).eraseDups
  let columns := write schema options (resolve schema longer) tables
  return { longer with items := rebuildItems longer.items columns }

/-! Removed columns -/

def isKeyOf (column : String) (key : ColumnRef) : Bool :=
  key.resolvedName = some column

/-- Drops the tests and keys of a column. -/
def withoutColumn (q : Select) (column : String) : Select :=
  { q.pruneTests fun t => projectedName t.column ≠ column with
    groupBy := q.groupBy.filter (!isKeyOf column ·)
    orderBy := q.orderBy.filter (!isKeyOf column ·.column) }

/-- The grouping and sort keys. -/
def keys (q : Select) : List ColumnRef :=
  q.groupBy ++ q.orderBy.map OrderItem.column

/-- The columns that a query still reads when `remaining` is left of its projection. -/
def references (q : Select) (remaining : List String) : List String :=
  remaining ++
    ((q.filter.map Predicate.columns).getD []).map projectedName ++
    (keys q).filterMap ColumnRef.resolvedName ++
    (q.items.filter (remaining.contains ·.rendering) ++ keys q).flatMap ColumnRef.argumentColumns

def neededTables (schema : Schema) (q : Select) (remaining : List String) : List String :=
  let needed := tablesForWithin schema (references q remaining) q.tables
  if needed.isEmpty then q.tables else needed

/-- Takes tables out of their natural joins, one after the other. -/
def removeTables (q : Select) (stale : List String) : Except Error Select := do
  let pruned ← stale.foldlM Select.removeNaturalJoin q
  let stuck := pruned.tables.filter (stale.contains ·)
  if stuck.isEmpty then return pruned else throw (.unsupportedEdit (.stuckTables stuck))

/-- Takes out the tables that nothing refers to any more. A chain of natural joins that loses
several of them is read anew. -/
def pruneTables (schema : Schema) (options : Options) (q : Select) (remaining : List String) :
    Except Error Select :=
  let needed := neededTables schema q remaining
  let stale := q.tables.filter (!needed.contains ·)
  if stale.isEmpty then .ok q
  else if 1 < stale.length && q.source.isNaturalChain then
    (readChain options.dialect needed).map q.replaceSource
  else removeTables q stale

/-- Drops a column from the projection, with its tests, its keys and the tables that were there
for it alone. -/
def unprojectColumn (schema : Schema) (options : Options) (q : Select) (text : String) :
    Except Error Select := do
  q.validate
  let column := projectedName text
  let remaining := (resolve schema q).filter (· ≠ column)
  if remaining.isEmpty then throw (.unsupportedEdit (.wouldBeEmpty column))
  else
    let edited ← pruneTables schema options (withoutColumn q column) remaining
    let columns := write schema options remaining edited.tables
    return { edited with items := rebuildItems q.items columns }

end SelectTree.Edit
