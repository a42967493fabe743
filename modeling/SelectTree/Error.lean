import SelectTree.Query.WellFormed
import SelectTree.Sql.Read
import SelectTree.Sql.Tree

namespace SelectTree

/-! Why a query cannot be read or an edit cannot be made. -/

inductive Refusal
  | unknownComparison (text : String)
  | wouldBeEmpty (column : String)
  | stuckTables (tables : List String)
  | noTables
  | unavailableColumn (column : String)
  | unqualifiedColumn (text : String)
  | noQuery
  deriving DecidableEq, Repr

def Refusal.message : Refusal → String
  | .unknownComparison text => "unknown comparison operator " ++ Text.quoted text
  | .wouldBeEmpty column => "removing " ++ column ++ " would leave an empty projection"
  | .stuckTables tables => Text.listed tables ++ " no longer needed but not natural-joined"
  | .noTables => "cannot build a FROM clause without tables"
  | .unavailableColumn column => column ++ " is not available from the query's tables"
  | .unqualifiedColumn text => Text.quoted text ++ " is not of the form table.column"
  | .noQuery => "there is no query to edit"

inductive Error
  | invalidQuery (cause : Sql.SyntaxError)
  | unsupportedSql (cause : Sql.Unsupported)
  | malformedTree (cause : Malformation)
  | unknownTable (table : String)
  | unknownColumn (table column : String)
  | unsupportedEdit (cause : Refusal)
  | invalidValue (column value : String)
  | unknownDialect (name : String)
  deriving DecidableEq, Repr

def Error.message : Error → String
  | .invalidQuery cause => "Invalid query: " ++ cause.message
  | .unsupportedSql cause => "Unsupported SQL: " ++ cause.message
  | .malformedTree cause => "Malformed query tree: " ++ cause.message
  | .unknownTable table => "Unknown table: " ++ table
  | .unknownColumn table column => "Unknown column: " ++ table ++ "." ++ column
  | .unsupportedEdit cause => "Unsupported edit: " ++ cause.message
  | .invalidValue column value =>
      "Invalid value " ++ Text.quoted value ++ " for column " ++ column
  | .unknownDialect name => "Configuration error: unknown SQL dialect " ++ Text.quoted name

def Select.validate (q : Select) : Except Error Unit :=
  q.check.mapError .malformedTree

end SelectTree
