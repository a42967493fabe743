import SelectTree.Sql.Grammar.Collection
import SelectTree.Sql.Grammar.DateTime

namespace SelectTree.Sql.Grammar

open Sql.Parser

/-! Expressions that a word opens: `CASE`, `CAST`, `TRIM` and their like. Each parser begins after
the word. -/

def parenthesizedQuery (n : Nested) : Parser String :=
  return Text.parenthesized (← parenthesized n.queryText)

def existence (n : Nested) (negated : Bool) : Parser Expr := do
  let query ← parenthesizedQuery n
  return .other ((if negated then "NOT EXISTS " else "EXISTS ") ++ query)

def negation (d : Dialect) (n : Nested) : Parser Expr := do
  if ← acceptKeyword .EXISTS then existence n true
  else return .other ("NOT " ++ (← n.tighter d .not).sql)

/-- Of two rows, the one that the other descends from. -/
def prior (d : Dialect) (n : Nested) : Parser Expr :=
  return .other ("PRIOR " ++ (← n.tighter d .plus).sql)

def whenBranch (n : Nested) : Parser String := do
  let condition ← n.exprText
  expectKeyword .THEN
  return "WHEN " ++ condition ++ " THEN " ++ (← n.exprText)

def caseExpr (n : Nested) : Parser Expr := do
  let subject ←
    if ← acceptKeyword .WHEN then pure none
    else
      let subject ← n.exprText
      expectKeyword .WHEN
      pure (some subject)
  let first ← whenBranch n
  let branches ← many (optionally (acceptKeyword .WHEN) (whenBranch n))
  let otherwise ← optionally (acceptKeyword .ELSE) n.exprText
  expectKeyword .END
  return .other ("CASE" ++ clausePart " " subject ++ " " ++
    Text.joined " " (first :: branches) ++ clausePart " ELSE " otherwise ++ " END")

/-! Conversions -/

def castExpr (d : Dialect) (n : Nested) (word : String) : Parser Expr := do
  expect .lparen
  let e ← n.exprText
  expectKeyword .AS
  let type ← dataTypeText d n
  let format ← optionally (acceptKeyword .FORMAT) (do
    let text ← valueText d
    return text ++ (← clauseAfter "AT TIME ZONE" (valueText d)))
  expect .rparen
  return .other (word ++ Text.parenthesized (e ++ " AS " ++ type ++ clausePart " FORMAT " format))

/-- A conversion to another character set, or to another type. -/
def conversion (d : Dialect) (n : Nested) (word : String) : Parser Expr := do
  expect .lparen
  let e ← n.exprText
  let target ←
    if ← acceptKeyword .USING then pure (" USING " ++ (← pathText))
    else
      expect .comma
      let type ← dataTypeText d n
      pure (", " ++ type ++ (← clauseAfter "CHARACTER SET" pathText))
  expect .rparen
  return .other (word ++ Text.parenthesized (e ++ target))

/-! Texts -/

/-- Without an `IN`, this is the call of a function of that name. -/
def placement (d : Dialect) (n : Nested) (interval : Parser Expr) (word : Name) :
    Parser Expr := do
  let read ← attempt (parenthesized (do
    let part ← n.tighter d .between
    expectKeyword .IN
    return part.sql ++ " IN " ++ (← n.exprText)))
  match read with
  | some text => return .other ("POSITION" ++ Text.parenthesized text)
  | none => return .call (← call d n interval [word])

def substring (n : Nested) (word : String) : Parser Expr := do
  expect .lparen
  let e ← n.exprText
  let comma ← accept .comma
  let start ← if comma then pure true else acceptKeyword .FROM
  let first ← if start then some <$> n.exprText else pure none
  let length ← if ← acceptKeyword .FOR then pure true else accept .comma
  let count ← if length then some <$> n.exprText else pure none
  expect .rparen
  return .other (word ++ Text.parenthesized
    (e ++ clausePart (if comma then ", " else " FROM ") first ++
      clausePart (if comma then ", " else " FOR ") count))

def overlay (n : Nested) : Parser Expr := do
  let parts ← parenthesized (do
    let e ← n.exprText
    expectWord "PLACING"
    let what ← n.exprText
    expectKeyword .FROM
    let start ← n.exprText
    return e ++ " PLACING " ++ what ++ " FROM " ++ start ++ (← clauseAfter "FOR" n.exprText))
  return .other ("OVERLAY" ++ Text.parenthesized parts)

def trimming (d : Dialect) (n : Nested) : Parser Expr := do
  expect .lparen
  let side ← acceptOneOf [.BOTH, .LEADING, .TRAILING]
  let first ← n.exprText
  let detail ←
    if ← acceptKeyword .FROM then pure (" FROM " ++ (← n.exprText))
    else if (← accept .comma) && d.hasTrimCharacters then pure (", " ++ (← n.exprsText))
    else pure ""
  expect .rparen
  return .other ("TRIM" ++ Text.parenthesized (keywordPart side ++ first ++ detail))

def searchModes : List String :=
  ["IN NATURAL LANGUAGE MODE WITH QUERY EXPANSION", "IN NATURAL LANGUAGE MODE",
    "IN BOOLEAN MODE", "WITH QUERY EXPANSION"]

def textSearch (d : Dialect) : Parser Expr := do
  let columns ← columnListText
  expectWord "AGAINST"
  let wanted ← parenthesized (do
    let text ← valueText d
    return text ++ clausePart " " (← acceptPhraseOf searchModes))
  return .other ("MATCH " ++ columns ++ " AGAINST " ++ Text.parenthesized wanted)

/-! Calls -/

/-- A call without parentheses, or one with a list of arguments and nothing after it. -/
def momentCall (d : Dialect) (n : Nested) (word : Name) : Parser Expr := do
  if ← accept .lparen then
    return .call { Call.ofName word with arguments := .list (← arguments d n) }
  else return .call (.ofName word)

def arrayQuery (n : Nested) (word : Name) : Parser Expr := do
  let rows ← parenthesized n.queryText
  return .call { Call.ofName word with arguments := .query rows }

/-- The shapes whose constants are texts. -/
def shapes : List String :=
  ["POINT", "LINE", "LSEG", "BOX", "PATH", "POLYGON", "CIRCLE"]

def shape? (d : Dialect) (w : Word) : Option (Parser Expr) :=
  match d.hasGeometry, (Token.word w).capitals? with
  | true, some spelling =>
      if spelling ∈ shapes then
        some (return .other (spelling.toLower ++ " " ++ (← valueText d)))
      else none
  | _, _ => none

/-- The expression that a word opens before the given token, if it opens one. -/
def special? (d : Dialect) (n : Nested) (prefixExpr : Parser Expr) (w : Word)
    (following : Option Token) : Option (Parser Expr) :=
  let interval := interval d n prefixExpr
  match w.keyword with
  | some .TRUE => some (pure (.value (.boolean true)))
  | some .FALSE => some (pure (.value (.boolean false)))
  | some .NULL => some (pure (.value .null))
  | some .CURRENT_CATALOG | some .CURRENT_USER | some .SESSION_USER | some .USER =>
      if d.hasSessionNames then some (pure (.call (.ofName (.ofWord w)))) else none
  | some .CURRENT_DATE | some .CURRENT_TIME | some .CURRENT_TIMESTAMP | some .LOCALTIME
  | some .LOCALTIMESTAMP => some (momentCall d n (.ofWord w))
  | some .CASE => some (caseExpr n)
  | some .CONVERT => some (conversion d n "CONVERT")
  | some .TRY_CONVERT => if d.hasTriedConversion then some (conversion d n "TRY_CONVERT") else none
  | some .CAST => some (castExpr d n "CAST")
  | some .TRY_CAST => some (castExpr d n "TRY_CAST")
  | some .SAFE_CAST => some (castExpr d n "SAFE_CAST")
  | some .EXISTS => some (existence n false)
  | some .EXTRACT => some (extraction d n)
  | some .CEIL => some (rounding d n "CEIL")
  | some .FLOOR => some (rounding d n "FLOOR")
  | some .POSITION =>
      if following = some (.symbol .lparen) then some (placement d n interval (.ofWord w))
      else none
  | some .SUBSTR => some (substring n "SUBSTR")
  | some .SUBSTRING => some (substring n "SUBSTRING")
  | some .OVERLAY => some (overlay n)
  | some .TRIM => some (trimming d n)
  | some .INTERVAL => some interval
  | some .ARRAY =>
      if following = some (.symbol .lbracket) then some (array n "ARRAY")
      else if following = some (.symbol .lparen) then some (arrayQuery n (.ofWord w))
      else none
  | some .NOT => some (negation d n)
  | some .MATCH => if d.hasTextSearch then some (textSearch d) else none
  | some .STRUCT => if d.hasStructures then some (structLiteral d n) else none
  | some .PRIOR => if n.context = .hierarchy then some (prior d n) else none
  | some .MAP =>
      if d.hasDictionaries && following = some (.symbol .lbrace) then
        some (return .other ("MAP " ++ (← dictionary n n.exprText)))
      else none
  | _ => shape? d w

end SelectTree.Sql.Grammar
