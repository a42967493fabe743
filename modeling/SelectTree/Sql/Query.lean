import SelectTree.Query.Select
import SelectTree.Sql.Expr

namespace SelectTree.Sql

/-! Queries as they are written: everything the grammar reads in a query, with the text of the
clauses that no query tree can hold. -/

structure Alias where
  name : Name
  columns : List String
  deriving DecidableEq, Repr

def Alias.sql (a : Alias) : String :=
  a.name.sql ++ if a.columns.isEmpty then "" else " " ++ Text.parenthesized (Text.listed a.columns)

def aliasPart (asName : Option Alias) : String :=
  clausePart " AS " (asName.map Alias.sql)

inductive Item
  | expr (e : Expr)
  | aliased (e : Expr) (asName : Name)
  | wildcard (table : Option (List Name)) (options : List String)
  deriving DecidableEq, Repr

def Item.sql : Item → String
  | .expr e => e.sql
  | .aliased e asName => e.sql ++ " AS " ++ asName.sql
  | .wildcard none options => Text.joined " " ("*" :: options)
  | .wildcard (some table) options => Text.joined " " ((Name.pathSql table ++ ".*") :: options)

structure OrderKey where
  expr : Expr
  ascending : Option Bool
  nullsFirst : Option Bool
  fill : Option String
  deriving DecidableEq, Repr

def OrderKey.sql (key : OrderKey) : String :=
  key.expr.sql ++
    (match key.ascending with
      | none => ""
      | some true => " ASC"
      | some false => " DESC") ++
    (match key.nullsFirst with
      | none => ""
      | some true => " NULLS FIRST"
      | some false => " NULLS LAST") ++
    clausePart " WITH FILL" key.fill

def OrderKey.listSql (keys : List OrderKey) : String :=
  Text.listed (keys.map sql)

inductive Grouping
  | all (modifiers : List String)
  | keys (exprs : List Expr) (modifiers : List String)
  deriving DecidableEq, Repr

def Grouping.none : Grouping := .keys [] []

def Grouping.sql : Grouping → String
  | .all modifiers => Text.joined " " ("GROUP BY ALL" :: modifiers)
  | .keys exprs modifiers => Text.joined " " (("GROUP BY " ++ Expr.listSql exprs) :: modifiers)

def Grouping.isNone : Grouping → Bool
  | .keys [] _ => true
  | _ => false

/-- How two factors are joined: as a query tree can join them, or in words of another kind. -/
inductive JoinWords
  | kind (k : JoinKind)
  | other (before : String) (after : String)
  deriving DecidableEq, Repr

/-- A full outer join prints without its `OUTER`. -/
def joinWordsSql : JoinKind → String
  | .fullOuter => "FULL JOIN"
  | k => k.sql

inductive Condition
  | none
  | natural
  | on (e : Expr)
  | usingColumns (columns : List String)
  deriving DecidableEq, Repr

def Condition.leading : Condition → String
  | .natural => "NATURAL "
  | _ => ""

def Condition.trailing : Condition → String
  | .none | .natural => ""
  | .on e => " ON " ++ e.sql
  | .usingColumns columns => " USING" ++ Text.parenthesized (Text.listed columns)

/-- The opening of a selection, which may name its sources first. -/
inductive Opening
  | select
  | fromSelect
  | fromAlone
  deriving DecidableEq, Repr

mutual
inductive Factor
  | table (name : List Name) (partitions : List Name) (arguments : Option (List Argument))
      (withOrdinality : Bool) (asName : Option Alias) (hints : List String)
  | derived (lateral : Bool) (query : Query) (asName : Option Alias)
  | nested (inner : Joined) (asName : Option Alias)
  | other (before : String) (asName : Option Alias) (after : String)

structure Joined where
  first : Factor
  joins : List Join

structure Join where
  isGlobal : Bool
  words : JoinWords
  right : Factor
  condition : Condition

structure Selection where
  opening : Opening
  quantifier : Option String
  top : Option String
  items : List Item
  into : Option String
  sources : List Joined
  views : List String
  filter : Option Expr
  prefilter : Option Expr
  grouping : Grouping
  clusterings : List String
  having : Option Expr
  endings : List String

inductive Body
  | selection (s : Selection)
  | other (sql : String)

structure Query where
  withClause : Option String
  body : Body
  orderBy : List OrderKey
  interpolation : String
  limit : Option String
  settings : Option String
  fetch : Option String
  endings : List String
end

def Query.ofBody (body : Body) : Query :=
  ⟨none, body, [], "", none, none, none, []⟩

def endingsSql (endings : List String) : String :=
  String.join (endings.map (" " ++ ·))

mutual
def Factor.sql : Factor → String
  | .table name partitions arguments withOrdinality asName hints =>
      Name.pathSql name ++
        (if partitions.isEmpty then ""
          else "PARTITION " ++ Text.parenthesized (Name.listSql partitions)) ++
        (match arguments with
          | none => ""
          | some args => Text.parenthesized (Text.listed (args.map Argument.sql))) ++
        (if withOrdinality then " WITH ORDINALITY" else "") ++ aliasPart asName ++
        endingsSql hints
  | .derived lateral query asName =>
      (if lateral then "LATERAL " else "") ++ Text.parenthesized query.sql ++ aliasPart asName
  | .nested inner asName => Text.parenthesized inner.sql ++ aliasPart asName
  | .other before asName after => before ++ aliasPart asName ++ after

def Joined.sql : Joined → String
  | ⟨first, joins⟩ => first.sql ++ Join.sqlList joins

def Joined.sqlList : List Joined → List String
  | [] => []
  | joined :: rest => joined.sql :: Joined.sqlList rest

def Join.sql : Join → String
  | ⟨isGlobal, words, right, condition⟩ =>
      (if isGlobal then "GLOBAL " else "") ++
        match words with
        | .kind k =>
            condition.leading ++ joinWordsSql k ++ " " ++ right.sql ++ condition.trailing
        | .other before after =>
            condition.leading ++ before ++ " " ++ right.sql ++ after ++ condition.trailing

def Join.sqlList : List Join → String
  | [] => ""
  | join :: rest => " " ++ join.sql ++ Join.sqlList rest

def Selection.sql : Selection → String
  | ⟨opening, quantifier, top, items, into, sources, views, filter, prefilter, grouping,
      clusterings, having, endings⟩ =>
      let from' := Text.listed (Joined.sqlList sources)
      (match opening with
        | .select => "SELECT"
        | .fromSelect => "FROM " ++ from' ++ " SELECT"
        | .fromAlone => "FROM " ++ from') ++
        clausePart " " quantifier ++ clausePart " " top ++
        (if items.isEmpty then "" else " " ++ Text.listed (items.map Item.sql)) ++
        clausePart " " into ++
        (if opening = .select && !sources.isEmpty then " FROM " ++ from' else "") ++
        endingsSql views ++ clausePart " PREWHERE " (prefilter.map Expr.sql) ++
        clausePart " WHERE " (filter.map Expr.sql) ++
        (if grouping.isNone then "" else " " ++ grouping.sql) ++ endingsSql clusterings ++
        clausePart " HAVING " (having.map Expr.sql) ++ endingsSql endings

def Body.sql : Body → String
  | .selection s => s.sql
  | .other sql => sql

def Query.sql : Query → String
  | ⟨withClause, body, orderBy, interpolation, limit, settings, fetch, endings⟩ =>
      (match withClause with
        | none => ""
        | some text => text ++ " ") ++ body.sql ++
        (if orderBy.isEmpty then ""
          else " ORDER BY " ++ OrderKey.listSql orderBy ++ interpolation) ++
        clausePart " " limit ++ clausePart " " settings ++ clausePart " " fetch ++
        endingsSql endings
end

/-- A statement; of those that are no queries the text is kept. -/
inductive Statement
  | query (q : Query)
  | explanation (sql : String)
  | other (sql : String)

def Statement.sql : Statement → String
  | .query q => q.sql
  | .explanation sql | .other sql => sql

end SelectTree.Sql
