import SelectTree.Query.Predicate
import SelectTree.Sql.Name

namespace SelectTree.Sql

/-! Expressions. Only the forms that a query tree can hold are kept apart; of every other form
its text is kept, with one space around operators and keywords in capitals. -/

inductive Value
  | number (text : String) (long : Bool)
  | string (text : String)
  | boolean (value : Bool)
  | null
  | other (sql : String)
  deriving DecidableEq, Repr

def Value.sql : Value → String
  | .number text long => text ++ if long then "L" else ""
  | .string text => quotedText '\'' text
  | .boolean true => "true"
  | .boolean false => "false"
  | .null => "NULL"
  | .other sql => sql

inductive Argument
  | plain (sql : String)
  | named (sql : String)
  deriving DecidableEq, Repr

def Argument.sql : Argument → String
  | .plain sql => sql
  | .named sql => sql

structure Arguments where
  quantifier : Option Keyword
  items : List Argument
  clauses : List String
  deriving DecidableEq, Repr

def keywordPart : Option Keyword → String
  | none => ""
  | some k => k.spelling ++ " "

def clausePart (clause : String) : Option String → String
  | none => ""
  | some text => clause ++ text

def Arguments.sql (args : Arguments) : String :=
  Text.parenthesized
    (keywordPart args.quantifier ++ Text.listed (args.items.map Argument.sql) ++
      (if args.items.isEmpty || args.clauses.isEmpty then "" else " ") ++
      Text.joined " " args.clauses)

/-- What a call is given: nothing at all, a list, or the rows of a query. -/
inductive Passed
  | nothing
  | list (args : Arguments)
  | query (sql : String)
  deriving DecidableEq, Repr

def Passed.sql : Passed → String
  | .nothing => ""
  | .list args => args.sql
  | .query sql => Text.parenthesized sql

structure Call where
  path : List Name
  parameters : Option Arguments
  arguments : Passed
  withinGroup : Option String
  filter : Option String
  nullTreatment : Option String
  window : Option String
  /-- Whether the call stands in braces after the word `fn`. -/
  braced : Bool
  deriving DecidableEq, Repr

namespace Call

/-- A call without parentheses. -/
def ofName (name : Name) : Call := ⟨[name], none, .nothing, none, none, none, none, false⟩

def name (c : Call) : String :=
  Name.pathSql c.path

def isWindowed (c : Call) : Bool :=
  c.window.isSome || c.filter.isSome

def sql (c : Call) : String :=
  (if c.braced then "\x7bfn " else "") ++
    c.name ++ (c.parameters.map Arguments.sql).getD "" ++ c.arguments.sql ++
    (match c.withinGroup with
      | none => ""
      | some keys => " WITHIN GROUP " ++ Text.parenthesized ("ORDER BY " ++ keys)) ++
    (match c.filter with
      | none => ""
      | some condition => " FILTER " ++ Text.parenthesized ("WHERE " ++ condition)) ++
    clausePart " " c.nullTreatment ++ clausePart " OVER " c.window ++
    (if c.braced then "\x7d" else "")

end Call

inductive Operator
  | and
  | or
  | compare (op : Comparison)
  | other (sql : String)
  deriving DecidableEq, Repr

def Operator.sql : Operator → String
  | .and => "AND"
  | .or => "OR"
  | .compare op => op.sql
  | .other sql => sql

inductive Expr
  | column (path : List Name)
  | value (v : Value)
  | call (c : Call)
  | signed (negative : Bool) (inner : Expr)
  | nested (inner : Expr)
  | binary (left : Expr) (op : Operator) (right : Expr)
  | like (subject pattern : Expr)
  | subquery (sql : String)
  | other (sql : String)
  deriving DecidableEq, Repr

namespace Expr

def sql : Expr → String
  | .column path => Name.pathSql path
  | .value v => v.sql
  | .call c => c.sql
  | .signed negative inner => (if negative then "-" else "+") ++ inner.sql
  | .nested inner => Text.parenthesized inner.sql
  | .binary left op right => left.sql ++ " " ++ op.sql ++ " " ++ right.sql
  | .like subject pattern => subject.sql ++ " LIKE " ++ pattern.sql
  | .subquery sql => Text.parenthesized sql
  | .other sql => sql

def listSql (es : List Expr) : String :=
  Text.listed (es.map sql)

end Expr

end SelectTree.Sql
