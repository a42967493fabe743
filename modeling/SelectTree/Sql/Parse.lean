import SelectTree.Error

namespace SelectTree.Sql

/-! Reading the query that a text holds. -/

/-- The dialect of a name, in any case and with blanks around it. -/
def Dialect.ofText (text : String) : Except Error Dialect :=
  let name := String.ofList ((Text.trim text).toList.map Char.toLower)
  match ofName? name with
  | some d => .ok d
  | none => .error (.unknownDialect name)

/-- The one query of a text. -/
def Dialect.parseStatements (d : Dialect) (text : String) : Except Error Select := do
  let statements ← (readStatements d text.toList).mapError .invalidQuery
  let tree ← (treeOfStatements statements).mapError .unsupportedSql
  tree.validate
  return tree

/-- Blank text is the empty query. -/
def Dialect.parse (d : Dialect) (text : String) : Except Error (Option Select) :=
  if Text.isBlankText text then .ok none else (d.parseStatements text).map some

/-- Reads a text that must hold a query. -/
def Dialect.parseSelect (d : Dialect) (text : String) : Except Error Select := do
  match ← d.parse text with
  | some tree => return tree
  | none => throw (.unsupportedSql .emptyText)

end SelectTree.Sql
