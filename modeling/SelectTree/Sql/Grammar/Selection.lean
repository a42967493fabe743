import SelectTree.Sql.Grammar.Source

namespace SelectTree.Sql.Grammar

open Sql.Parser

/-! Selections: the clauses from `SELECT` to the windows. -/

/-! Projection items -/

def exclusion? : Parser (Option String) := do
  if ← acceptKeyword .EXCLUDE then
    if ← peekSymbol .lparen then
      let columns ← parenthesized (commaSeparated name)
      return some ("EXCLUDE " ++ Text.parenthesized (Name.listSql columns))
    else return some ("EXCLUDE " ++ (← nameText))
  else return none

def exception? : Parser (Option String) := do
  if ← acceptKeyword .EXCEPT then
    let columns ←
      if ← peekSymbol .lparen then parenthesized (commaSeparated name)
      else return some ("EXCEPT " ++ Text.parenthesized (← nameText))
    return some ("EXCEPT " ++ Text.parenthesized (Name.listSql columns))
  else return none

def replacement (n : Nested) : Parser String := do
  let e ← n.exprText
  let explicit ← acceptKeyword .AS
  return e ++ (if explicit then " AS " else " ") ++ (← nameText)

def replacement? (n : Nested) : Parser (Option String) := do
  if ← acceptKeyword .REPLACE then
    if ← accept .lparen then
      let items ← commaSeparated (replacement n)
      expect .rparen
      return some ("REPLACE " ++ Text.parenthesized (Text.listed items))
    else expected .replacements
  else return none

def renamedColumn : Parser String := do
  let column ← name
  expectKeyword .AS
  return column.sql ++ " AS " ++ (← nameText)

def renaming? : Parser (Option String) := do
  if ← acceptKeyword .RENAME then
    if ← peekSymbol .lparen then
      let items ← parenthesized (commaSeparated renamedColumn)
      return some ("RENAME " ++ Text.parenthesized (Text.listed items))
    else return some ("RENAME " ++ (← renamedColumn))
  else return none

/-- What follows a wildcard and changes the columns it stands for. -/
def wildcardOptions (d : Dialect) (n : Nested) : Parser (List String) := do
  if d.hasWildcardOptions then
    let pattern ← optionally (acceptKeyword .ILIKE) (token .patternText fun
      | .string text => some ("ILIKE " ++ quotedText '\'' text)
      | _ => none)
    let excluded ← if pattern.isSome then pure none else exclusion?
    let excepted ← exception?
    let replaced ← replacement? n
    let renamed ← renaming?
    return [pattern, excluded, excepted, replaced, renamed].filterMap id
  else return []

/-- The word `FROM` opens no item, even where it could be a column. -/
def reservedItem? : Expr → Option String
  | .column [⟨text, none⟩] => if Keyword.ofText? text = some .FROM then some text else none
  | _ => none

def item (d : Dialect) (n : Nested) : Parser Item := do
  match ← wildcardOrExpr n with
  | .wildcard table => return .wildcard table (← wildcardOptions d n)
  | .expr e =>
      match reservedItem? e with
      | some text => fail (.reservedItem text)
      | none =>
          match ← itemName? with
          | some given => return .aliased e given
          | none => return .expr e

def projection (d : Dialect) (n : Nested) : Parser (List Item) :=
  if d.allowsTrailingComma then commaSeparatedUntil atListEnd (item d n)
  else commaSeparated (item d n)

def items (d : Dialect) (n : Nested) : Parser (List Item) := do
  if d.allowsEmptyProjection && (← peekKeyword .FROM) then return [] else projection d n

/-! Clauses before the sources -/

/-- `DISTINCT`, perhaps with the expressions to compare. `ALL` says nothing. -/
def distinction? (n : Nested) : Parser (Option String) := do
  let start ← rest
  let all ← acceptKeyword .ALL
  if ← acceptKeyword .DISTINCT then
    if all then fun _ => .error ⟨.allAndDistinct, start⟩
    else if ← acceptKeyword .ON then
      let keys ← parenthesized (do
        if ← peekSymbol .rparen then return "" else n.exprsText)
      return some ("DISTINCT ON " ++ Text.parenthesized keys)
    else return some "DISTINCT"
  else return none

def top? (n : Nested) : Parser (Option String) := do
  if ← acceptKeyword .TOP then
    let quantity ←
      if ← accept .lparen then
        let e ← n.exprText
        expect .rparen
        pure (Text.parenthesized e)
      else whole
    let percent ← acceptKeyword .PERCENT
    let ties ← acceptKeywords [.WITH, .TIES]
    return some ("TOP " ++ quantity ++ (if percent then " PERCENT" else "") ++
      if ties then " WITH TIES" else "")
  else return none

def into? : Parser (Option String) := do
  if ← acceptKeyword .INTO then
    let isTemporary ← acceptAnyOf ["TEMP", "TEMPORARY"]
    let unlogged ← phrasePart "UNLOGGED"
    let word ← phrasePart "TABLE"
    return some ("INTO" ++ (if isTemporary.isSome then " TEMPORARY" else "") ++ unlogged ++ word ++
      " " ++ (← pathText))
  else return none

/-! Clauses after the sources -/

/-- The names of a view's columns give way only to a few words. -/
def viewColumn? : Parser (Option Name) :=
  givenName? fun k =>
    k ∉ [some .WHERE, some .GROUP, some .CLUSTER, some .HAVING, some .LATERAL]

def views (n : Nested) : Parser (List String) :=
  many (optionally (acceptKeywords [.LATERAL, .VIEW]) (do
    let outer ← phrasePart "OUTER"
    let e ← n.exprText
    let view ← pathText
    let columns := (← commaSeparated viewColumn?).filterMap id
    return "LATERAL VIEW" ++ outer ++ " " ++ e ++ " " ++ view ++
      (if columns.isEmpty then "" else " AS " ++ Name.listSql columns)))

def tuple (n : Nested) : Parser (List String) :=
  parenthesized (do
    if ← peekSymbol .rparen then return [] else return (← n.exprs).map Expr.sql)

def tupleOrSingle (n : Nested) : Parser (List String) := do
  if ← peekSymbol .lparen then tuple n else return [← n.exprText]

def groupingSets (n : Nested) (word : String) (liftsSingles : Bool) : Parser Expr := do
  let sets ← parenthesized (commaSeparated (if liftsSingles then tupleOrSingle n else tuple n))
  let text := sets.map fun set =>
    match set with
    | [single] => if liftsSingles then single else Text.parenthesized single
    | set => Text.parenthesized (Text.listed set)
  return .other (word ++ " " ++ Text.parenthesized (Text.listed text))

def groupingKey (d : Dialect) (n : Nested) : Parser Expr := do
  if d.hasGroupingSets then
    if ← acceptKeywords [.GROUPING, .SETS] then groupingSets n "GROUPING SETS" false
    else if ← acceptKeyword .CUBE then groupingSets n "CUBE" true
    else if ← acceptKeyword .ROLLUP then groupingSets n "ROLLUP" true
    else
      match ← rest with
      | .symbol .lparen :: .symbol .rparen :: _ =>
          expect .lparen
          expect .rparen
          return .other "()"
      | _ => n.expr
  else n.expr

def groupingModifiers (d : Dialect) (n : Nested) : Parser (List String) := do
  let words ← many (optionally (whenever d.hasGroupingModifiers (acceptKeyword .WITH)) (do
    let k ← expectOneOf [.ROLLUP, .CUBE, .TOTALS]
    return "WITH " ++ k.spelling))
  if ← acceptKeywords [.GROUPING, .SETS] then
    let sets ← parenthesized (commaSeparated (tupleOrSingle n))
    return words ++ ["GROUPING SETS " ++ Text.parenthesized
      (Text.listed (sets.map fun set => Text.parenthesized (Text.listed set)))]
  else return words

def grouping (d : Dialect) (n : Nested) : Parser Grouping := do
  if ← acceptKeywords [.GROUP, .BY] then
    if ← acceptKeyword .ALL then return .all (← groupingModifiers d n)
    else
      let keys ← commaSeparated (groupingKey d n)
      return .keys keys (← groupingModifiers d n)
  else return .none

def clusterings (d : Dialect) (n : Nested) : Parser (List String) := do
  let cluster ← optionally (acceptKeywords [.CLUSTER, .BY]) n.exprsText
  let distribute ← optionally (acceptKeywords [.DISTRIBUTE, .BY]) n.exprsText
  let sort ← optionally (acceptKeywords [.SORT, .BY]) (orderKeysText d n)
  return [cluster.map ("CLUSTER BY " ++ ·), distribute.map ("DISTRIBUTE BY " ++ ·),
    sort.map ("SORT BY " ++ ·)].filterMap id

def namedWindow (d : Dialect) (n : Nested) : Parser String := do
  let given ← name
  expectKeyword .AS
  if ← accept .lparen then return given.sql ++ " AS " ++ (← window d n (intervalExpr d n))
  else if d.hasWindowNames then return given.sql ++ " AS " ++ (← nameText)
  else expected (.symbol .lparen)

def windows? (d : Dialect) (n : Nested) : Parser (Option String) := do
  let read ← optionally (acceptKeyword .WINDOW) (commaSeparated (namedWindow d n))
  return read.map fun given => "WINDOW " ++ Text.listed given

def qualification? (n : Nested) : Parser (Option String) := do
  let read ← optionally (acceptKeyword .QUALIFY) n.exprText
  return read.map ("QUALIFY " ++ ·)

/-- Windows and the condition on them, in either order. -/
def windowClauses (d : Dialect) (n : Nested) : Parser (List String) := do
  match ← windows? d n with
  | some given => return [some given, ← qualification? n].filterMap id
  | none =>
      match ← qualification? n with
      | some condition => return [some condition, ← windows? d n].filterMap id
      | none => return []

/-- The root rows of a hierarchy, and which row is the child of which. The two clauses may stand in
either order. -/
def hierarchy? (d : Dialect) (n : Nested) : Parser (Option String) := do
  let links := (n.within .hierarchy).exprsText
  let opens ← peekAny fun t => t.keyword = some .START || t.keyword = some .CONNECT
  if !(d.hasHierarchies && opens) then return none
  else if ← acceptKeywords [.CONNECT, .BY] then
    let links ← links
    expectKeywords [.START, .WITH]
    return some ("START WITH " ++ (← n.exprText) ++ " CONNECT BY " ++ links)
  else
    expectKeywords [.START, .WITH]
    let roots ← n.exprText
    expectKeywords [.CONNECT, .BY]
    return some ("START WITH " ++ roots ++ " CONNECT BY " ++ (← links))

/-! Selections -/

/-- The clauses from `SELECT` on, after the sources where those come first. -/
def selectionAfter (d : Dialect) (n : Nested) (first : Option (List Joined)) :
    Parser Selection := do
  expectKeyword .SELECT
  let quantifier ← distinction? n
  let top ← top? n
  let items ← items d n
  let into ← into?
  let sources ←
    match first with
    | some read => pure read
    | none => pure ((← optionally (acceptKeyword .FROM) (sources d n)).getD [])
  let views ← views n
  let prefilter ← optionally (whenever d.hasPrewhere (acceptKeyword .PREWHERE)) n.expr
  let filter ← optionally (acceptKeyword .WHERE) n.expr
  let grouping ← grouping d n
  let clusterings ← clusterings d n
  let having ← optionally (acceptKeyword .HAVING) n.expr
  let windows ← windowClauses d n
  let endings := windows ++ (← hierarchy? d n).toList
  let opening := if first.isSome then .fromSelect else .select
  return ⟨opening, quantifier, top, items, into, sources, views, filter, prefilter, grouping,
    clusterings, having, endings⟩

def selection (d : Dialect) (n : Nested) : Parser Selection := do
  if ← whenever d.allowsFromFirst (acceptKeyword .FROM) then
    let sources ← sources d n
    if ← peekKeyword .SELECT then selectionAfter d n (some sources)
    else
      return ⟨.fromAlone, none, none, [], none, sources, [], none, none, .none, [], none, []⟩
  else selectionAfter d n none

end SelectTree.Sql.Grammar
