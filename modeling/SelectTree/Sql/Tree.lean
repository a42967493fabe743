import SelectTree.Sql.Grammar.Statement

namespace SelectTree.Sql

/-! Query trees of queries as they are written. A query that says more than a tree can hold has
none; a few clauses that no edit depends on, such as the order of nulls, are left out. -/

inductive Unsupported
  | statementCount (count : Nat)
  | statement (sql : String)
  | emptyText
  | withClause
  | limits
  | setOperation (sql : String)
  | distinct
  | having
  | noSource
  | grouping (sql : String)
  | aliasedItem (sql : String)
  | columnExpr (sql : String)
  | windowedCall (sql : String)
  | quantifiedCall (sql : String)
  | namedArgument (sql : String)
  | notAColumn (sql : String)
  | join (sql : String)
  | outerNaturalJoin (sql : String)
  | factor (sql : String)
  | operator (sql : String)
  | predicate (sql : String)
  | literal (sql : String)
  | notALiteral (sql : String)
  deriving DecidableEq, Repr

def ticked (sql : String) : String :=
  "`" ++ sql ++ "`"

def Unsupported.message : Unsupported → String
  | .statementCount count => "expected one statement, found " ++ toString count
  | .statement sql => "only SELECT statements can be edited, got " ++ ticked sql
  | .emptyText => "empty query text"
  | .withClause => "WITH clauses"
  | .limits => "LIMIT/OFFSET/FETCH"
  | .setOperation sql => "set operations and VALUES, got " ++ ticked sql
  | .distinct => "DISTINCT"
  | .having => "HAVING"
  | .noSource => "SELECT without FROM"
  | .grouping sql => ticked sql
  | .aliasedItem sql => "projection item " ++ ticked sql
  | .columnExpr sql => "column expression " ++ ticked sql
  | .windowedCall sql => "window/filtered call " ++ ticked sql
  | .quantifiedCall sql => "call " ++ ticked sql
  | .namedArgument sql => "named argument " ++ ticked sql
  | .notAColumn sql => "expected a column, got " ++ ticked sql
  | .join sql => "join " ++ ticked sql
  | .outerNaturalJoin sql => "outer natural join " ++ ticked sql
  | .factor sql => "table factor " ++ ticked sql
  | .operator sql => "operator " ++ ticked sql
  | .predicate sql => "predicate " ++ ticked sql
  | .literal sql => "literal " ++ ticked sql
  | .notALiteral sql => "expected a literal, got " ++ ticked sql

abbrev Lowered (α : Type) := Except Unsupported α

/-! Columns -/

def Argument.column : Argument → Lowered ColumnRef
  | .plain sql => .ok (.identifier sql)
  | .named sql => .error (.namedArgument sql)

def Call.column (c : Call) : Lowered ColumnRef :=
  if c.isWindowed then .error (.windowedCall c.sql)
  else
    match c.arguments with
    | .nothing => .ok (.call c.name [])
    | .query _ => .error (.quantifiedCall c.sql)
    | .list args =>
        match args.quantifier with
        | some _ => .error (.quantifiedCall c.sql)
        | none => (args.items.mapM Argument.column).map (.call c.name)

def Expr.columnRef : Expr → Lowered ColumnRef
  | .column path => .ok (.identifier (Name.pathSql path))
  | .call c => c.column
  | e => .error (.columnExpr e.sql)

/-- The text of a column, which may stand in parentheses. -/
def Expr.columnText : Expr → Lowered String
  | .column path => .ok (Name.pathSql path)
  | .nested inner => inner.columnText
  | e => .error (.notAColumn e.sql)

def Item.columnRef : Item → Lowered ColumnRef
  | .expr e => e.columnRef
  | .wildcard table options => .ok (.identifier (Item.wildcard table options).sql)
  | .aliased e asName => .error (.aliasedItem (Item.aliased e asName).sql)

def OrderKey.item (key : OrderKey) : Lowered OrderItem :=
  key.expr.columnRef.map (⟨·, key.ascending⟩)

/-! Predicates -/

/-- A plus sign says nothing about a number, and a minus sign becomes part of its text. -/
def Expr.literal : Expr → Lowered Literal
  | .value (.number text _) => .ok (.number text)
  | .value (.string text) => .ok (.string text)
  | .value (.boolean b) => .ok (.boolean b)
  | .value .null => .ok .null
  | .value (.other sql) => .error (.literal sql)
  | .signed negative inner =>
      match inner.literal with
      | .ok (.number text) => .ok (.number (if negative then "-" ++ text else text))
      | .ok _ => .error (.literal (Expr.signed negative inner).sql)
      | .error cause => .error cause
  | .nested inner => inner.literal
  | e => .error (.notALiteral e.sql)

def Expr.predicate : Expr → Lowered Predicate
  | .nested inner => inner.predicate
  | .binary left .and right => return .and (← left.predicate) (← right.predicate)
  | .binary left .or right => return .or (← left.predicate) (← right.predicate)
  | .binary left (.compare op) right =>
      return .test (.compare (← left.columnText) op (← right.literal))
  | .binary _ (.other sql) _ => .error (.operator sql)
  | .like subject pattern => return .test (.like (← subject.columnText) (← pattern.literal))
  | e => .error (.predicate e.sql)

/-! Sources and queries -/

/-- Joins that a tree can hold are explicit, or natural and no outer ones. -/
def Join.combine (join : Join) (left right : Source) : Lowered Source :=
  match join.words with
  | .other _ _ => .error (.join join.sql)
  | .kind kind =>
      match join.condition with
      | .natural =>
          if kind = .plain || kind = .inner then .ok (.naturalJoin left right)
          else .error (.outerNaturalJoin join.sql)
      | .on e => .ok (.join kind left right (.on e.sql))
      | .usingColumns columns => .ok (.join kind left right (.usingColumns columns))
      | .none => .ok (.join kind left right .none)

def aliasText (asName : Option Alias) : Option String :=
  asName.map (·.name.text)

def Grouping.columns : Grouping → Lowered (List ColumnRef)
  | .keys exprs [] => exprs.mapM Expr.columnRef
  | g => .error (.grouping g.sql)

mutual
def Factor.source : Factor → Lowered Source
  | .table name _ none _ asName _ =>
      .ok (.table (Name.pathSql name) (aliasText asName))
  | .derived false query asName => do
      let tree ← query.select
      return .derived tree (aliasText asName)
  | .nested inner none => do
      let tree ← inner.source
      return .nested tree
  | factor => .error (.factor factor.sql)

def Joined.source : Joined → Lowered Source
  | ⟨first, joins⟩ => do
      let base ← first.source
      Join.sourceFrom base joins

def Join.sourceFrom (left : Source) : List Join → Lowered Source
  | [] => .ok left
  | join :: rest => do
      let tree ← join.source left
      Join.sourceFrom tree rest

def Join.source (left : Source) : Join → Lowered Source
  | ⟨isGlobal, words, right, condition⟩ => do
      let tree ← right.source
      (Join.mk isGlobal words right condition).combine left tree

def Joined.sources : List Joined → Lowered (List Source)
  | [] => .ok []
  | joined :: rest => do
      let tree ← joined.source
      let trees ← Joined.sources rest
      return tree :: trees

def Selection.select : Selection → Lowered Select
  | ⟨_, quantifier, _, items, _, sources, _, filter, _, grouping, _, having, _⟩ => do
      if quantifier.isSome then throw .distinct
      if having.isSome then throw .having
      if sources.isEmpty then throw .noSource
      let items ← items.mapM Item.columnRef
      let trees ← Joined.sources sources
      let source :=
        match trees with
        | [tree] => tree
        | trees => .list trees
      let filter ← filter.mapM Expr.predicate
      let groupBy ← grouping.columns
      return ⟨items, source, filter, groupBy, []⟩

def Body.select : Body → Lowered Select
  | .selection s => s.select
  | .other sql => .error (.setOperation sql)

def Query.select : Query → Lowered Select
  | ⟨withClause, body, orderBy, _, limit, _, fetch, _⟩ => do
      if withClause.isSome then throw .withClause
      if limit.isSome || fetch.isSome then throw .limits
      let tree ← body.select
      let keys ← orderBy.mapM OrderKey.item
      return { tree with orderBy := keys }
end

def treeOfStatements : List Statement → Lowered Select
  | [.query q] => q.select
  | [.explanation sql] | [.other sql] => .error (.statement sql)
  | statements => .error (.statementCount statements.length)

end SelectTree.Sql
