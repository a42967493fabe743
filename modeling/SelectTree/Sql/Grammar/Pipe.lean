import SelectTree.Sql.Grammar.Change

namespace SelectTree.Sql.Grammar

open Sql.Parser

/-! The steps after a query, each of which works on what the step before it answers. -/

/-- What a set operation does with rows that stand more than once. -/
def setQuantifier : Parser String := do
  match ← acceptPhraseOf ["DISTINCT BY NAME", "BY NAME", "ALL BY NAME", "ALL", "DISTINCT"] with
  | some phrase => return " " ++ phrase
  | none => return ""

def distinctQuantifier (word : String) : Parser String := do
  let quantifier ← setQuantifier
  if quantifier ∈ [" DISTINCT", " DISTINCT BY NAME"] then return quantifier
  else fail (.refused (word ++ " pipe operator requires DISTINCT modifier"))

def pipedQueries (n : Nested) : Parser String :=
  listedTexts (return Text.parenthesized (← parenthesized n.queryText))

def aggregatedItem (n : Nested) : Parser String := do
  let e ← n.exprText
  let given ← givenName? fun k => k ≠ some .ASC && k ≠ some .DESC && k ≠ some .GROUP
  let ascending ← direction?
  return e ++ clausePart " AS " (given.map Name.sql) ++
    match ascending with
    | none => ""
    | some true => " ASC"
    | some false => " DESC"

def aggregation (n : Nested) : Parser String := do
  let items ←
    if ← peekKeyword .GROUP then pure ""
    else pure (" " ++ (← listedTexts (aggregatedItem n)))
  return "AGGREGATE" ++ items ++ (← clauseAfter "GROUP BY" (listedTexts (aggregatedItem n)))

def renamedAs : Parser String := do
  let column ← name
  let _ ← acceptKeyword .AS
  return column.sql ++ " AS " ++ (← nameText)

/-- A name with or without `AS`; a token that is no name is left alone. -/
def pipedName : Parser String := do
  if ← acceptKeyword .AS then return " AS " ++ (← nameText)
  else return clausePart " AS " ((← attempt name).map Name.sql)

def pipedPivot (d : Dialect) (n : Nested) : Parser String := do
  let parts ← parenthesized (do
    let calls ← listedTexts (pivotedCall d n (intervalExpr d n))
    expectKeyword .FOR
    let column ← pathText
    expectKeyword .IN
    return calls ++ " FOR " ++ column ++ " IN " ++
      Text.parenthesized (← parenthesized (pivotValues d n)))
  return "PIVOT" ++ Text.parenthesized parts ++ (← pipedName)

def pipedUnpivot : Parser String := do
  let parts ← parenthesized (do
    let value ← name
    expectKeyword .FOR
    let column ← name
    expectKeyword .IN
    return value.sql ++ " FOR " ++ column.sql ++ " IN " ++ (← nameTuple))
  return "UNPIVOT" ++ Text.parenthesized parts ++ (← pipedName)

def pipedJoin (d : Dialect) (n : Nested) : Parser String := do
  let joins ← many (join? d n (factor d n))
  match joins with
  | [join] => return join.sql
  | _ => fail (.refused "Join pipe operator must have a single join")

def joiningWords : List String :=
  ["JOIN", "INNER", "LEFT", "RIGHT", "FULL", "CROSS"]

/-- The words that open a step, in the order in which a message names them. -/
def pipeWords : List String :=
  ["SELECT", "EXTEND", "SET", "DROP", "AS", "WHERE", "LIMIT", "AGGREGATE", "ORDER", "TABLESAMPLE",
    "RENAME", "UNION", "INTERSECT", "EXCEPT", "CALL", "PIVOT", "UNPIVOT"] ++ joiningWords

def pipeStep (d : Dialect) (n : Nested) (word : String) : Parser String := do
  match word with
  | "SELECT" | "EXTEND" => return word ++ " " ++ (← itemsText d n)
  | "SET" => return "SET " ++ (← assignments n)
  | "DROP" => return "DROP " ++ Name.listSql (← namesUntilEnd)
  | "AS" => return "AS " ++ (← nameText)
  | "WHERE" => return "WHERE " ++ (← n.exprText)
  | "LIMIT" =>
      let amount ← n.exprText
      return "LIMIT " ++ amount ++ (← clauseAfter "OFFSET" n.exprText)
  | "AGGREGATE" => aggregation n
  | "ORDER" =>
      let _ ← expectOneOf [.BY]
      return "ORDER BY " ++ (← orderKeysText d n)
  | "TABLESAMPLE" => sampleAfter d n word
  | "RENAME" => return "RENAME " ++ (← listedTexts renamedAs)
  | "UNION" =>
      let quantifier ← setQuantifier
      return word ++ quantifier ++ " " ++ (← pipedQueries n)
  | "CALL" =>
      let function ← path
      let call ← call d n (intervalExpr d n) function
      return "CALL " ++ call.sql ++ (← pipedName)
  | "PIVOT" => pipedPivot d n
  | "UNPIVOT" => pipedUnpivot
  | _ =>
      let quantifier ← distinctQuantifier word
      return word ++ quantifier ++ " " ++ (← pipedQueries n)

def pipes (d : Dialect) (n : Nested) : Parser (List String) :=
  many (optionally (whenever d.hasPipes (accept .pipeArrow)) (do
    if ← peekAny (fun t => t.capitals?.any joiningWords.contains) then
      return "|> " ++ (← pipedJoin d n)
    else
      let word ← expectAnyOf pipeWords
      return "|> " ++ (← pipeStep d n word)))

end SelectTree.Sql.Grammar
