import SelectTree.Sql.Grammar.Source

namespace SelectTree.Sql.Grammar

open Sql.Parser

/-! The clauses after the body of a query. -/

/-! Order -/

def interpolatedColumn (n : Nested) : Parser String := do
  let column ← name
  return column.sql ++ clausePart " AS " (← optionally (acceptKeyword .AS) n.exprText)

/-- The columns to fill in where an order fills gaps. -/
def interpolation (n : Nested) : Parser String := do
  if ← acceptWord "INTERPOLATE" then
    if ← peekSymbol .lparen then
      let columns ← parenthesized (commaSeparatedBefore .rparen (interpolatedColumn n))
      return " INTERPOLATE " ++ Text.parenthesized (Text.listed columns)
    else return " INTERPOLATE"
  else return ""

def orderClause (d : Dialect) (n : Nested) : Parser (List OrderKey × String) := do
  if ← acceptKeywords [.ORDER, .BY] then
    let keys ← orderKeys d n
    return (keys, ← if d.hasFilling then interpolation n else pure "")
  else return ([], "")

/-! Limits -/

def offset (n : Nested) : Parser String := do
  let amount ← n.exprText
  match ← acceptOneOf [.ROW, .ROWS] with
  | some k => return "OFFSET " ++ amount ++ " " ++ k.spelling
  | none => return "OFFSET " ++ amount

def limitBy (d : Dialect) (n : Nested) : Parser (Option String) :=
  optionally (whenever d.allowsLimitBy (acceptKeyword .BY)) n.exprsText

/-- The text of the limits, with the offset on either side. `LIMIT ALL` limits nothing. -/
def limitClause (d : Dialect) (n : Nested) : Parser (Option String) := do
  let before ← optionally (acceptKeyword .OFFSET) (offset n)
  if !(← acceptKeyword .LIMIT) then return before
  else
    let amount ← if ← acceptKeyword .ALL then pure none else some <$> n.exprText
    let comma ←
      whenever (d.allowsLimitComma && before.isNone && amount.isSome) (accept .comma)
    if comma then
      return some ("LIMIT " ++ amount.getD "" ++ ", " ++ (← n.exprText))
    else
      let groups ← limitBy d n
      let after ← optionally (whenever before.isNone (acceptKeyword .OFFSET)) (offset n)
      let amount := amount.map ("LIMIT " ++ ·)
      let parts := [amount, before, after, groups.map ("BY " ++ ·)].filterMap id
      return if parts.isEmpty then none else some (Text.joined " " parts)

def fetch? (d : Dialect) : Parser (Option String) := do
  if ← acceptKeyword .FETCH then
    let _ ← acceptOneOf [.FIRST, .NEXT]
    let quantity ←
      if (← acceptOneOf [.ROW, .ROWS]).isSome then pure ""
      else
        let amount ← valueText d
        let percent ← acceptKeyword .PERCENT
        let _ ← acceptOneOf [.ROW, .ROWS]
        pure (amount ++ (if percent then " PERCENT" else "") ++ " ")
    let only ← acceptKeyword .ONLY
    let ties ← whenever (!only) (acceptKeywords [.WITH, .TIES])
    return some ("FETCH FIRST " ++ quantity ++ if ties then "ROWS WITH TIES" else "ROWS ONLY")
  else return none

/-! Purposes -/

def lock : Parser String := do
  let kind ← expectOneOf [.UPDATE, .SHARE]
  let table ← optionally (acceptKeyword .OF) pathText
  let waiting ← acceptPhraseOf ["NOWAIT", "SKIP LOCKED"]
  return kind.spelling ++ clausePart " OF " table ++ clausePart " " waiting

def literalInParentheses : Parser String := do
  let text ← parenthesized literalText
  return Text.parenthesized (enclosed '\'' text)

/-- What a document is made with: each option may stand any number of times, and a comma may
stand without one. They are printed in the order of the list. -/
def documentOptions (options : List (String × Parser String)) : Parser String := do
  let read ← iterate (fun (read : List (String × String)) => do
    if ← accept .comma then
      match ← acceptPhraseOf (options.map Prod.fst) with
      | none => return .inl read
      | some phrase =>
          let detail ← (options.lookup phrase).getD (pure "")
          return .inl ((phrase, detail) :: read)
    else return .inr read) []
  return String.join (options.map fun (phrase, _) =>
    clausePart (", " ++ phrase) (read.lookup phrase))

def named (word : String) : Parser String := do
  if ← peekSymbol .lparen then return word ++ (← literalInParentheses) else return word

def xmlDocument : Parser String := do
  let kind ←
    match ← acceptAnyOf ["RAW", "AUTO", "EXPLICIT", "PATH"] with
    | none => fail (.refused "Expected FOR XML [RAW | AUTO | EXPLICIT | PATH ]")
    | some word => if word = "RAW" || word = "PATH" then named word else pure word
  let base64 : Parser String := do
    expectWord "BASE64"
    return " BASE64"
  return "XML " ++ kind ++ (← documentOptions
    [("BINARY", base64), ("TYPE", pure ""), ("ROOT", literalInParentheses), ("ELEMENTS", pure "")])

def jsonDocument : Parser String := do
  match ← acceptAnyOf ["AUTO", "PATH"] with
  | none => fail (.refused "Expected FOR JSON [AUTO | PATH ]")
  | some kind =>
      return "JSON " ++ kind ++ (← documentOptions
        [("ROOT", literalInParentheses), ("INCLUDE_NULL_VALUES", pure ""),
          ("WITHOUT_ARRAY_WRAPPER", pure "")])

/-- What the rows are read for: locks on them, and a document or browsing at the end. -/
def purposes : Parser (List String) :=
  iterate (fun (read : List String) => do
    if ← acceptKeyword .FOR then
      match ← acceptAnyOf ["XML", "JSON", "BROWSE"] with
      | some "XML" => return .inr (("FOR " ++ (← xmlDocument)) :: read).reverse
      | some "JSON" => return .inr (("FOR " ++ (← jsonDocument)) :: read).reverse
      | some word => return .inr (("FOR " ++ word) :: read).reverse
      | none => return .inl (("FOR " ++ (← lock)) :: read)
    else return .inr read.reverse) []

def format? (d : Dialect) : Parser (Option String) := do
  if ← whenever d.hasFormatClause (acceptKeyword .FORMAT) then
    if ← acceptKeyword .NULL then return some "FORMAT NULL"
    else return some ("FORMAT " ++ (← nameText))
  else return none

end SelectTree.Sql.Grammar
