import SelectTree.Sql.Grammar.Alias
import SelectTree.Sql.Grammar.Call

namespace SelectTree.Sql.Grammar

open Sql.Parser

/-! Rows turned into columns, and columns into rows. -/

/-- A call, and a name for it that `FOR` cannot be. -/
def pivotedCall (d : Dialect) (n : Nested) (interval : Parser Expr) : Parser String := do
  match ← peek with
  | some (.word w) =>
      skipToken
      let call ← call d n interval [.bare w.text]
      let given ← givenName? fun
        | none => true
        | some k => k ≠ .FOR && !k.reservesItemName
      return call.sql ++ clausePart " AS " (given.map Name.sql)
  | _ =>
      skipToken
      expected (.phrase "a function identifier")

def namedExpr (n : Nested) : Parser String := do
  let e ← n.exprText
  return e ++ clausePart " AS " (← optionally (acceptKeyword .AS) nameText)

/-- The expressions that name the columns of a pivot; one of them needs no parentheses. -/
def pivotColumns (d : Dialect) (n : Nested) : Parser String := do
  let column : Parser String := return (← n.tighter d .between).sql
  if ← peekSymbol .lparen then
    match ← parenthesized (commaSeparated column) with
    | [single] => return single
    | columns => return Text.parenthesized (Text.listed columns)
  else column

def pivotValues (d : Dialect) (n : Nested) : Parser String := do
  if ← acceptKeyword .ANY then return "ANY" ++ (← clauseAfter "ORDER BY" (orderKeysText d n))
  else if ← beginsQuery then n.queryText
  else listedTexts (namedExpr n)

def pivotParts (d : Dialect) (n : Nested) (interval : Parser Expr) : Parser String := do
  let parts ← parenthesized (do
    let calls ← listedTexts (pivotedCall d n interval)
    expectKeyword .FOR
    let columns ← pivotColumns d n
    expectKeyword .IN
    let values ← parenthesized (pivotValues d n)
    let fallback ← optionally (acceptPhrase "DEFAULT ON NULL") (parenthesized n.exprText)
    return calls ++ " FOR " ++ columns ++ " IN " ++ Text.parenthesized values ++
      clausePart " DEFAULT ON NULL " (fallback.map Text.parenthesized))
  return "PIVOT" ++ Text.parenthesized parts

def unpivotParts (n : Nested) : Parser String := do
  let nulls ←
    match ← acceptAnyOf ["INCLUDE", "EXCLUDE"] with
    | some word =>
        expectKeyword .NULLS
        pure (" " ++ word ++ " NULLS ")
    | none => pure ""
  let parts ← parenthesized (do
    let value ← n.exprText
    expectKeyword .FOR
    let column ← name
    expectKeyword .IN
    if ← peekSymbol .lparen then
      return value ++ " FOR " ++ column.sql ++ " IN " ++ (← tupleText (namedExpr n))
    else expected .columnList)
  return "UNPIVOT" ++ nulls ++ Text.parenthesized parts

/-- The pivots after a factor, each of which makes a new factor of it. -/
def pivoted (d : Dialect) (n : Nested) (interval : Parser Expr) : Factor → Parser Factor :=
  iterate fun factor => do
    match ← acceptOneOf [.PIVOT, .UNPIVOT] with
    | none => return .inr factor
    | some k =>
        let parts ← if k = .PIVOT then pivotParts d n interval else unpivotParts n
        return .inl (.other (factor.sql ++ " " ++ parts) (← tableAlias? d n) "")

end SelectTree.Sql.Grammar
