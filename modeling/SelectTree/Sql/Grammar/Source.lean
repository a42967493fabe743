import SelectTree.Sql.Grammar.DocumentTable
import SelectTree.Sql.Grammar.Operand
import SelectTree.Sql.Grammar.Pivot
import SelectTree.Sql.Grammar.RowPattern
import SelectTree.Sql.Grammar.Sample

namespace SelectTree.Sql.Grammar

open Sql.Parser

/-! Tables, derived tables and joins. -/

def derived (d : Dialect) (n : Nested) (lateral : Bool) : Parser Factor := do
  let query ← n.query
  expect .rparen
  return .derived lateral query (← tableAlias? d n)

/-- The rows after `VALUES`. -/
def rows (n : Nested) (emptyRows : Bool) : Parser String := do
  let read ← commaSeparated (do
    let row ← acceptKeyword .ROW
    expect .lparen
    let items ← if emptyRows && (← peekSymbol .rparen) then pure "" else n.exprsText
    expect .rparen
    return (row, Text.parenthesized items))
  let word := if read.any Prod.fst then "ROW" else ""
  return "VALUES " ++ Text.listed (read.map fun (_, items) => word ++ items)

def optionalArguments (d : Dialect) (n : Nested) : Parser (List Argument) := do
  if ← accept .rparen then return []
  else
    let items ← commaSeparated (argument d n)
    expect .rparen
    return items

def lateralFactor (d : Dialect) (n : Nested) : Parser Factor := do
  if ← accept .lparen then derived d n true
  else
    let function ← pathText
    expect .lparen
    let items ← optionalArguments d n
    return .other ("LATERAL " ++ function ++
      Text.parenthesized (Text.listed (items.map Argument.sql))) (← tableAlias? d n) ""

def functionFactor (d : Dialect) (n : Nested) : Parser Factor := do
  let e ← parenthesized n.exprText
  return .other ("TABLE" ++ Text.parenthesized e) (← tableAlias? d n) ""

def valuesFactor (d : Dialect) (n : Nested) : Parser Factor := do
  let values ← rows n false
  return .derived false (.ofBody (.other values)) (← tableAlias? d n)

/-- The word `WITH` after the name is read even where no `OFFSET` follows it. -/
def unnestFactor (d : Dialect) (n : Nested) : Parser Factor := do
  let items ← parenthesized n.exprsText
  let ordinality ← phrasePart "WITH ORDINALITY"
  let asName ← tableAlias? d n
  let isNumbered ← if ← acceptKeyword .WITH then acceptKeyword .OFFSET else pure false
  let numberName ← if isNumbered then itemName? else pure none
  return .other ("UNNEST" ++ Text.parenthesized items ++ ordinality) asName
    ((if isNumbered then " WITH OFFSET" else "") ++ clausePart " AS " (numberName.map Name.sql))

/-! Tables -/

/-- A setting of a query or of a table's function. -/
def setting (n : Nested) : Parser String := do
  let key ← name
  expect .eq
  return key.sql ++ " = " ++ (← n.exprText)

def settings? (d : Dialect) (n : Nested) : Parser (Option String) := do
  if ← whenever d.hasSettings (acceptKeyword .SETTINGS) then
    return some ("SETTINGS " ++ (← listedTexts (setting n)))
  else return none

/-- What a table's function is given: arguments, and settings at the end. -/
def tableArguments (d : Dialect) (n : Nested) : Parser (List Argument) := do
  if ← accept .rparen then return []
  else
    let items ← iterate (fun (read : List Argument) => do
      match ← settings? d n with
      | some settings => return .inr (.plain settings :: read).reverse
      | none =>
          let next ← argument d n
          if ← accept .comma then return .inl (next :: read)
          else return .inr (next :: read).reverse) []
    expect .rparen
    return items

def indexHint (word : String) : Parser String := do
  let kind ← expectAnyOf ["INDEX", "KEY"]
  let purpose ←
    if ← acceptKeyword .FOR then
      match ← acceptPhraseOf ["JOIN", "ORDER BY", "GROUP BY"] with
      | some purpose => pure ("FOR " ++ purpose ++ " ")
      | none => expected (.keyword .JOIN)
    else pure ""
  let names ← parenthesized (commaSeparatedBefore .rparen name)
  return word ++ " " ++ kind ++ " " ++ purpose ++ Text.parenthesized (Name.listSql names)

/-- Hints at the indexes to use; if one of them cannot be read, none of them is. -/
def indexHints (d : Dialect) : Parser (List String) := do
  if d.hasIndexHints then
    let read ← attempt (many (do
      match ← acceptAnyOf ["USE", "IGNORE", "FORCE"] with
      | some word => return some (← indexHint word)
      | none => return none))
    return read.getD []
  else return []

/-- `WITH` belongs to the table only before a parenthesis. -/
def tableHints (n : Nested) : Parser (List String) := do
  match ← rest with
  | t :: .symbol .lparen :: _ =>
      if t.keyword = some .WITH then
        expectKeyword .WITH
        let hints ← parenthesized n.exprsText
        return ["WITH " ++ Text.parenthesized hints]
      else return []
  | _ => return []

def tableFactor (d : Dialect) (n : Nested) : Parser Factor := do
  let table ← path
  let partitions ← optionally (whenever d.allowsPartitions (acceptKeyword .PARTITION))
    (parenthesized (commaSeparatedBefore .rparen name))
  let items ← optionally (accept .lparen) (tableArguments d n)
  let ordinality ← acceptKeywords [.WITH, .ORDINALITY]
  let asName ← tableAlias? d n
  let hints ← indexHints d
  let more ← tableHints n
  let sample ← sample? d n
  let factor := Factor.table table (partitions.getD []) items ordinality asName
    (hints ++ more ++ sample.toList)
  let factor ← pivoted d n (intervalExpr d n) factor
  if ← whenever d.hasRowPatterns (acceptKeyword .MATCH_RECOGNIZE) then matched d n factor
  else return factor

/-! Joins -/

def joinCondition (n : Nested) (natural : Bool) : Parser Condition := do
  if natural then return .natural
  else if ← acceptKeyword .ON then return .on (← n.expr)
  else if ← acceptKeyword .USING then return .usingColumns (← columnList)
  else return .none

def sidedWords (side : Keyword) (short long : JoinKind) : Parser JoinWords := do
  match ← acceptOneOf [.OUTER, .SEMI, .ANTI, .JOIN] with
  | some .JOIN => return .kind short
  | some .OUTER =>
      expectKeyword .JOIN
      return .kind long
  | some k =>
      expectKeyword .JOIN
      return .other (side.spelling ++ " " ++ k.spelling ++ " JOIN") ""
  | none => fail (.incompleteOuterJoin side)

/-- The words of a join that a condition may follow; none where no join stands. -/
def joinWords? (natural : Bool) : Parser (Option JoinWords) := do
  match ← acceptOneOf [.JOIN, .INNER, .LEFT, .RIGHT, .ANTI, .SEMI, .FULL, .STRAIGHT_JOIN] with
  | some .JOIN => return some (.kind .plain)
  | some .INNER =>
      expectKeyword .JOIN
      return some (.kind .inner)
  | some .LEFT => return some (← sidedWords .LEFT .left .leftOuter)
  | some .RIGHT => return some (← sidedWords .RIGHT .right .rightOuter)
  | some .FULL =>
      let _ ← acceptKeyword .OUTER
      expectKeyword .JOIN
      return some (.kind .fullOuter)
  | some .STRAIGHT_JOIN => return some (.other "STRAIGHT_JOIN" "")
  | some k =>
      expectKeyword .JOIN
      return some (.other (k.spelling ++ " JOIN") "")
  | none =>
      if ← peekKeyword .OUTER then expected .sideOfOuterJoin
      else if natural then expected .joinTypeAfterNatural
      else return none

def crossJoin (d : Dialect) (n : Nested) (factor : Parser Factor) (isGlobal : Bool) :
    Parser Join := do
  if ← acceptKeyword .JOIN then
    let right ← factor
    let condition ← if d.hasCrossJoinCondition then joinCondition n false else pure .none
    return ⟨isGlobal, .other "CROSS JOIN" "", right, condition⟩
  else if ← acceptKeyword .APPLY then
    return ⟨isGlobal, .other "CROSS APPLY" "", ← factor, .none⟩
  else expected .joinOrApplyAfterCross

def asOfJoin (n : Nested) (factor : Parser Factor) (isGlobal : Bool) : Parser Join := do
  expectKeyword .JOIN
  let right ← factor
  expectKeyword .MATCH_CONDITION
  let condition ← parenthesized n.exprText
  let words := .other "ASOF JOIN" (" MATCH_CONDITION " ++ Text.parenthesized condition)
  return ⟨isGlobal, words, right, ← joinCondition n false⟩

def join? (d : Dialect) (n : Nested) (factor : Parser Factor) : Parser (Option Join) := do
  let isGlobal ← acceptKeyword .GLOBAL
  if ← acceptKeyword .CROSS then return some (← crossJoin d n factor isGlobal)
  else if ← acceptKeyword .OUTER then
    expectKeyword .APPLY
    return some ⟨isGlobal, .other "OUTER APPLY" "", ← factor, .none⟩
  else if ← acceptKeyword .ASOF then return some (← asOfJoin n factor isGlobal)
  else
    let natural ← acceptKeyword .NATURAL
    match ← joinWords? natural with
    | none => return none
    | some words =>
        let right ← factor
        return some ⟨isGlobal, words, right, ← joinCondition n natural⟩

/-- A factor and the joins after it. -/
def joinedWith (d : Dialect) (n : Nested) (factor : Parser Factor) : Parser Joined := do
  let first ← factor
  iterate (fun (read : List Join) => do
    match ← join? d n factor with
    | some join => return .inl (join :: read)
    | none => return .inr ⟨first, read.reverse⟩) []

/-! Parentheses -/

def isNestedFactor : Factor → Bool
  | .nested _ _ => true
  | _ => false

/-- The name given inside to a factor in parentheses. -/
def innerAlias : Factor → Option Alias
  | .table _ _ _ _ asName _ => asName
  | .derived _ _ asName => asName
  | .nested _ asName => asName
  | .other _ asName _ => asName

def renamed (asName : Alias) : Factor → Factor
  | .table name partitions arguments withOrdinality _ hints =>
      .table name partitions arguments withOrdinality (some asName) hints
  | .derived lateral query _ => .derived lateral query (some asName)
  | .nested inner _ => .nested inner (some asName)
  | .other before _ after => .other before (some asName) after

/-- What an opening parenthesis holds that is no query: joins, or a lone factor where the
dialect allows it to stand in parentheses. -/
def nestedFactor (d : Dialect) (n : Nested) (joined : Parser Joined) : Parser Factor := do
  let inner ← joined
  if !inner.joins.isEmpty || isNestedFactor inner.first then
    expect .rparen
    return .nested inner (← tableAlias? d n)
  else if d.allowsParenthesizedTable then
    expect .rparen
    match ← tableAlias? d n, innerAlias inner.first with
    | none, _ => return inner.first
    | some outer, none => return renamed outer inner.first
    | some _, some asName => fail (.renamedTwice asName.sql)
  else expected .joinedTable

def beginsValues : Parser Bool := fun ts =>
  .ok (match ts with
    | t :: .symbol .lparen :: _ => t.keyword = some .VALUES
    | _ => false, ts)

/-- The factors that can be nested in as many parentheses as there is fuel. -/
def factorAt (d : Dialect) (n : Nested) : (fuel : Nat) → Parser Factor
  | 0 => fail .nestingLimit
  | fuel + 1 => do
      if ← acceptKeyword .LATERAL then lateralFactor d n
      else if ← acceptKeyword .TABLE then functionFactor d n
      else if ← accept .lparen then
        match ← attempt (derived d n false) with
        | some factor => pivoted d n (intervalExpr d n) factor
        | none => nestedFactor d n (joinedWith d n (factorAt d n fuel))
      else if ← whenever d.allowsValuesFactor beginsValues then
        expectKeyword .VALUES
        valuesFactor d n
      else if ← whenever d.allowsUnnest (acceptKeyword .UNNEST) then unnestFactor d n
      else
        match ← documentTable? d n with
        | some factor => return factor
        | none => tableFactor d n

/-- Every parenthesis is a token, so there are fewer of them than tokens. -/
def factor (d : Dialect) (n : Nested) : Parser Factor := fun ts =>
  factorAt d n (ts.length + 1) ts

def joined (d : Dialect) (n : Nested) : Parser Joined :=
  joinedWith d n (factor d n)

def sources (d : Dialect) (n : Nested) : Parser (List Joined) :=
  commaSeparated (joined d n)

def sourcesText (d : Dialect) (n : Nested) : Parser String :=
  listedTexts (Joined.sql <$> joined d n)

end SelectTree.Sql.Grammar
