import SelectTree.Sql.Grammar.DataType

namespace SelectTree.Sql.Grammar

open Sql.Parser

/-! Names given to tables, with names for their columns. -/

/-- Names of columns, each with its type perhaps. -/
def aliasColumns (d : Dialect) (n : Nested) : Parser (List String) := do
  if ← peekSymbol .lparen then
    parenthesized (commaSeparated (do
      let column ← name
      match ← attempt (dataTypeText d n) with
      | some type => return column.sql ++ " " ++ type
      | none => return column.sql))
  else return []

def tableAlias? (d : Dialect) (n : Nested) : Parser (Option Alias) := do
  match ← givenName? (namesTable d) with
  | some given => return some ⟨given, ← aliasColumns d n⟩
  | none => return none

end SelectTree.Sql.Grammar
