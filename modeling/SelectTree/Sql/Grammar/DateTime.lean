import SelectTree.Sql.Grammar.DataType

namespace SelectTree.Sql.Grammar

open Sql.Parser

/-! Fields of dates and times, and the expressions that name one. Each parser begins after the
word that opens its expression. -/

/-- Fields that may be the unit of an interval. -/
def unitFields : List String :=
  ["YEAR", "YEARS", "MONTH", "MONTHS", "WEEK", "WEEKS", "DAY", "DAYS", "HOUR", "HOURS", "MINUTE",
    "MINUTES", "SECOND", "SECONDS", "CENTURY", "DECADE", "DOW", "DOY", "EPOCH", "ISODOW",
    "ISOYEAR", "JULIAN", "MICROSECOND", "MICROSECONDS", "MILLENIUM", "MILLENNIUM", "MILLISECOND",
    "MILLISECONDS", "NANOSECOND", "NANOSECONDS", "QUARTER", "TIMEZONE", "TIMEZONE_HOUR",
    "TIMEZONE_MINUTE"]

def otherFields : List String :=
  ["DATE", "DATETIME", "DAYOFWEEK", "DAYOFYEAR", "ISOWEEK", "TIME", "TIMEZONE_ABBR",
    "TIMEZONE_REGION"]

def beginsUnit (t : Token) : Bool :=
  match t.capitals? with
  | some spelling => unitFields.contains spelling
  | none => false

/-- A week may name the day that it begins with. -/
def fieldDetail (d : Dialect) (field : String) : Parser String := do
  if field = "WEEK" && d.hasWeekdays && (← peekSymbol .lparen) then
    return field ++ Text.parenthesized (← parenthesized name).sql
  else return field

def dateTimeField (d : Dialect) : Parser String := do
  match ← acceptAnyOf (unitFields ++ otherFields) with
  | some field => fieldDetail d field
  | none =>
      token .dateTimeField fun
        | .word w => if d.hasCustomFields then some (Name.ofWord w).sql else none
        | .string text => if d.hasCustomFields then some (quotedText '\'' text) else none
        | _ => none

def extraction (d : Dialect) (n : Nested) : Parser Expr := do
  expect .lparen
  let field ← dateTimeField d
  let separator ←
    if ← acceptKeyword .FROM then pure " FROM "
    else if ← whenever d.hasExtractComma (accept .comma) then pure ", "
    else fail (.refused "Expected 'FROM' or ','")
  let e ← n.exprText
  expect .rparen
  return .other ("EXTRACT" ++ Text.parenthesized (field ++ separator ++ e))

def rounding (d : Dialect) (n : Nested) (word : String) : Parser Expr := do
  expect .lparen
  let e ← n.exprText
  let detail ←
    if ← acceptKeyword .TO then pure (" TO " ++ (← dateTimeField d))
    else if ← accept .comma then
      match ← value d with
      | .number text long => pure (", " ++ (Value.number text long).sql)
      | _ => fail (.refused "Scale field can only be of number type")
    else pure ""
  expect .rparen
  return .other (word ++ Text.parenthesized (e ++ detail))

/-- An interval after its word; `prefixExpr` reads what stands before the unit, unless the unit
must be there. -/
def interval (d : Dialect) (n : Nested) (prefixExpr : Parser Expr) : Parser Expr := do
  let amount ← if d.intervalNeedsUnit then n.expr else prefixExpr
  let unit ← optionally (peekAny beginsUnit) (dateTimeField d)
  if unit.isNone && d.intervalNeedsUnit then fail .intervalWithoutUnit
  else
    let detail ←
      if unit = some "SECOND" then
        optionally (accept .lparen) (do
          let leading ← whole
          let fraction ← if ← accept .comma then pure (", " ++ (← whole)) else pure ""
          expect .rparen
          return Text.parenthesized (leading ++ fraction))
      else
        let leading ← wholeInParentheses?
        let last ←
          if ← acceptKeyword .TO then
            let field ← dateTimeField d
            let fraction ← if field = "SECOND" then wholeInParentheses? else pure ""
            pure [field, fraction]
          else pure []
        let parts := leading :: if last.isEmpty then [] else "TO" :: last
        pure (some (Text.joined " " (parts.filter (· ≠ ""))))
    let detail := (detail.getD "")
    return .other ("INTERVAL " ++ amount.sql ++ clausePart " " unit ++
      if detail.isEmpty then "" else " " ++ detail)

end SelectTree.Sql.Grammar
