import SelectTree.Sql.Grammar.Alias

namespace SelectTree.Sql.Grammar

open Sql.Parser

/-! Tables made of documents. Each parser begins after the opening parenthesis. -/

/-! JSON -/

def missingValueRule? (d : Dialect) : Parser (Option String) := do
  let rule ←
    match ← acceptAnyOf ["NULL", "ERROR", "DEFAULT"] with
    | none => return none
    | some "DEFAULT" => pure ("DEFAULT " ++ (← valueText d))
    | some word => pure word
  expectKeyword .ON
  return some rule

/-- What stands for a value that is missing or cannot be read; the last rule of each kind holds. -/
def missingValueRules (d : Dialect) : Parser String := do
  let (onEmpty, onError) ← iterate (fun (onEmpty, onError) => do
    match ← missingValueRule? d with
    | none => return .inr (onEmpty, onError)
    | some rule =>
        if ← acceptWord "EMPTY" then return .inl (" " ++ rule ++ " ON EMPTY", onError)
        else
          expectWord "ERROR"
          return .inl (onEmpty, " " ++ rule ++ " ON ERROR")) ("", "")
  return onEmpty ++ onError

def jsonColumnAt (d : Dialect) (n : Nested) : (fuel : Nat) → Parser String
  | 0 => fail .nestingLimit
  | fuel + 1 => do
      if ← acceptWord "NESTED" then
        let _ ← acceptWord "PATH"
        let path ← valueText d
        expectWord "COLUMNS"
        let columns ← tupleText (jsonColumnAt d n fuel)
        return "NESTED PATH " ++ path ++ " COLUMNS " ++ columns
      else
        let column ← name
        if ← acceptKeyword .FOR then
          expectKeyword .ORDINALITY
          return column.sql ++ " FOR ORDINALITY"
        else
          let type ← dataTypeText d n
          let exists' ← phrasePart "EXISTS"
          expectWord "PATH"
          let path ← valueText d
          return column.sql ++ " " ++ type ++ exists' ++ " PATH " ++ path ++
            (← missingValueRules d)

/-- Columns nest by their parentheses, of which there are fewer than tokens. -/
def jsonColumn (d : Dialect) (n : Nested) : Parser String := fun ts =>
  jsonColumnAt d n (ts.length + 1) ts

def jsonTable (d : Dialect) (n : Nested) : Parser Factor := do
  let document ← n.exprText
  expect .comma
  let path ← valueText d
  expectWord "COLUMNS"
  let columns ← tupleText (jsonColumn d n)
  expect .rparen
  return .other ("JSON_TABLE" ++
    Text.parenthesized (document ++ ", " ++ path ++ " COLUMNS" ++ columns)) (← tableAlias? d n) ""

def openedColumn (d : Dialect) (n : Nested) : Parser String := do
  let column ← name
  let type ← dataTypeText d n
  let path ← acceptToken fun
    | .string text => some (quotedText '\'' text)
    | _ => none
  let whole ←
    if ← acceptKeyword .AS then
      expectWord "JSON"
      pure " AS JSON"
    else pure ""
  return column.sql ++ " " ++ type ++ clausePart " " path ++ whole

def openedJson (d : Dialect) (n : Nested) : Parser Factor := do
  let document ← n.exprText
  let path ← optionally (accept .comma) (valueText d)
  expect .rparen
  let columns ← clauseAfter "WITH" (tupleText (openedColumn d n))
  return .other ("OPENJSON" ++ Text.parenthesized (document ++ clausePart ", " path) ++ columns)
    (← tableAlias? d n) ""

/-! XML -/

def namespaces (n : Nested) : Parser String := do
  if ← acceptWord "XMLNAMESPACES" then
    let spaces ← tupleText (do
      let uri ← n.exprText
      expectKeyword .AS
      return uri ++ " AS " ++ (← nameText))
    expect .comma
    return "XMLNAMESPACES" ++ spaces ++ ", "
  else return ""

/-- The word `BY` is read even where no `VALUE` follows it. -/
def passedDocument (n : Nested) : Parser String := do
  let byValue ← if ← acceptKeyword .BY then acceptKeyword .VALUE else pure false
  let e ← n.exprText
  return (if byValue then "BY VALUE " else "") ++ e ++
    clausePart " AS " (← optionally (acceptKeyword .AS) nameText)

def xmlColumn (d : Dialect) (n : Nested) : Parser String := do
  let column ← name
  if ← acceptKeyword .FOR then
    expectKeyword .ORDINALITY
    return column.sql ++ " FOR ORDINALITY"
  else
    let type ← dataTypeText d n
    let path ← clauseAfter "PATH" n.exprText
    let fallback ← clauseAfter "DEFAULT" n.exprText
    let needed ← phrasePart "NOT NULL"
    if needed.isEmpty then
      let _ ← acceptKeyword .NULL
    return column.sql ++ " " ++ type ++ path ++ fallback ++ needed

def xmlTable (d : Dialect) (n : Nested) : Parser Factor := do
  let namespaces ← namespaces n
  let row ← n.exprText
  let passed ← clauseAfter "PASSING" (listedTexts (passedDocument n))
  expectWord "COLUMNS"
  let columns ← listedTexts (xmlColumn d n)
  expect .rparen
  return .other ("XMLTABLE" ++
    Text.parenthesized (namespaces ++ row ++ passed ++ " COLUMNS " ++ columns))
    (← tableAlias? d n) ""

/-- The factor that the words of a document's table open. -/
def documentTable? (d : Dialect) (n : Nested) : Parser (Option Factor) := do
  match ← rest with
  | t :: .symbol .lparen :: _ =>
      match t.capitals? with
      | some "JSON_TABLE" => opened (jsonTable d n)
      | some "OPENJSON" => opened (openedJson d n)
      | some "XMLTABLE" => opened (xmlTable d n)
      | _ => return none
  | _ => return none
where
  opened (factor : Parser Factor) : Parser (Option Factor) := do
    skipToken
    skipToken
    return some (← factor)

end SelectTree.Sql.Grammar
