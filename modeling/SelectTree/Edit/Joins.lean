import SelectTree.Sql.Parse

namespace SelectTree

/-! Edits of the `FROM` tree. Tables come and go as sides of natural joins; whatever else the
tree holds is carried along. -/

mutual
/-- The names of all table leaves from left to right, those of derived tables included. -/
def Source.tableNames : Source → List String
  | .table name _ => [name]
  | .join _ left right _ => left.tableNames ++ right.tableNames
  | .naturalJoin left right => left.tableNames ++ right.tableNames
  | .list items => Source.tableNamesList items
  | .nested inner => inner.tableNames
  | .derived query _ => query.tableNames

def Source.tableNamesList : List Source → List String
  | [] => []
  | item :: rest => item.tableNames ++ Source.tableNamesList rest

def Select.tableNames : Select → List String
  | ⟨_, source, _, _, _⟩ => source.tableNames
end

/-- The tables that a query reads, each of them once. -/
def Select.tables (q : Select) : List String :=
  q.source.tableNames.eraseDups

namespace Source

/-- Joins a table onto the first leaf. -/
def grow (table : String) : Source → Source
  | .table name asName => .naturalJoin (.table name asName) (.bare table)
  | .derived query asName => .naturalJoin (.derived query asName) (.bare table)
  | .nested inner => .nested (inner.grow table)
  | .list [] => .list []
  | .list (first :: rest) => .list (first.grow table :: rest)
  | .join kind left right constraint => .join kind (left.grow table) right constraint
  | .naturalJoin left right => .naturalJoin (left.grow table) right

/-- Parentheses around a lone table say nothing. -/
def parenthesize : Source → Source
  | .table name asName => .table name asName
  | source => .nested source

mutual
/-- Drops a table where it is a side of a natural join. Nothing is dropped inside explicit
joins and derived tables. -/
def prune (table : String) : Source → Source
  | .naturalJoin left right =>
      if left.tableName = some table then right
      else if right.tableName = some table then left
      else .naturalJoin (left.prune table) (right.prune table)
  | .list items => .list (pruneList table items)
  | .nested inner => parenthesize (inner.prune table)
  | source => source

def pruneList (table : String) : List Source → List Source
  | [] => []
  | item :: rest => item.prune table :: pruneList table rest
end

/-- Natural joins of the first source with the others, from the left. -/
def chain (first : Source) (others : List Source) : Source :=
  others.foldl .naturalJoin first

end Source

namespace Select

def addNaturalJoin (q : Select) (table : String) : Except Error Select := do
  q.validate
  return { q with source := q.source.grow table }

/-- Where a table stands in other joins too, it stays; its name is then still among `tables`. -/
def removeNaturalJoin (q : Select) (table : String) : Except Error Select := do
  q.validate
  return { q with source := q.source.prune table }

def replaceSource (q : Select) (source : Source) : Select :=
  { q with source }

end Select

namespace Edit

/-- The chain of natural joins that the dialect reads from the names of its tables. -/
def readChain (d : Sql.Dialect) (tables : List String) : Except Error Source :=
  if tables.isEmpty then .error (.unsupportedEdit .noTables)
  else
    (d.parseSelect ("SELECT * FROM " ++ Text.joined " NATURAL JOIN " tables)).map Select.source

end Edit

end SelectTree
