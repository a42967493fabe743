import SelectTree.Sql.Grammar.Transaction

namespace SelectTree.Sql.Grammar

open Sql.Parser

/-! The variables of a session: how they are set and shown. -/

/-! Setting -/

def scopeWords : List String :=
  ["SESSION", "LOCAL", "GLOBAL"]

def scopePart : Parser String := do
  match ← acceptAnyOf scopeWords with
  | some word => return word ++ " "
  | none => return ""

/-- A value for a variable. -/
def variableValue (n : Nested) : Parser String := do
  if ← beginsQuery then return Text.parenthesized (← n.queryText)
  else exprOr n (.phrase "variable value")

def scopedAssignment (n : Nested) : Parser String := do
  let scope ← scopePart
  let target ← pathText
  if ← acceptAssignment then return scope ++ target ++ " = " ++ (← n.exprText)
  else expected (.phrase "assignment operator")

def zoneSetting (n : Nested) (scope hive : String) : Parser String := do
  if ← acceptAssignment then
    return "SET " ++ scope ++ hive ++ "TIMEZONE = " ++ (← listedTexts (variableValue n))
  else
    let reach := if scope = "LOCAL " then scope else ""
    return "SET " ++ reach ++ "TIME ZONE " ++ (← n.exprText)

def characterSet : Parser String := do
  if ← acceptWord "DEFAULT" then return "SET NAMES DEFAULT"
  else
    let charset ← name
    return "SET NAMES " ++ charset.sql ++ (← clauseAfter "COLLATE" literalText)

def transactionSetting (d : Dialect) : Parser String := do
  if ← acceptWord "SNAPSHOT" then return "SET TRANSACTION SNAPSHOT " ++ (← valueText d)
  else return "SET TRANSACTION" ++ (← transactionModes)

/-- The user of a session, after the scope; the word, at `start`, is wrong without one. -/
def authorization (scope : String) (start : List Token) : Parser String := do
  if scope.isEmpty then
    fun _ => .error ⟨.expected
      (.phrase "SESSION, LOCAL, or other scope modifier before AUTHORIZATION"), start⟩
  else if ← acceptWord "DEFAULT" then return "SET " ++ scope ++ "AUTHORIZATION DEFAULT"
  else return "SET " ++ scope ++ "AUTHORIZATION " ++ (← nameText)

def role (scope : String) : Parser (Option String) :=
  attempt (do
    expectWord "ROLE"
    if ← acceptWord "NONE" then return "SET " ++ scope ++ "ROLE NONE"
    else return "SET " ++ scope ++ "ROLE " ++ (← nameText))

/-- Variables in parentheses, and as many values. -/
def tupleAssignment (n : Nested) : Parser String := do
  let targets ← parenthesized (commaSeparated name)
  if ← acceptAssignment then
    let values ← parenthesized (listedTexts (variableValue n))
    return "SET " ++ Text.parenthesized (Name.listSql targets) ++ " = " ++
      Text.parenthesized values
  else expected (.phrase "equals sign or TO")

def variableAssignment (n : Nested) (scope hive : String) : Parser String := do
  let target ← pathText
  if ← acceptAssignment then
    return "SET " ++ scope ++ hive ++ target ++ " = " ++ (← listedTexts (variableValue n))
  else expected (.phrase "equals sign or TO")

/-- Assignments with commas between them, each with its own scope, which begin at `start`. If
they cannot be read, the scope is the first word of a variable's name. -/
def assignmentList? (n : Nested) (start : List Token) (scope hive : String) :
    Parser (Option String) := do
  if !scope.isEmpty then goBack start
  match ← attempt (commaSeparated (scopedAssignment n)) with
  | none => return none
  | some [text] =>
      let given := if hive.isEmpty then text else hive ++ text
      return some ("SET " ++ given)
  | some texts => return some ("SET " ++ Text.listed texts)

def ordinaryAssignment (d : Dialect) (n : Nested) (start : List Token) (scope hive : String) :
    Parser String := do
  let read ←
    if d.hasAssignmentLists then assignmentList? n start scope hive else pure none
  match read with
  | some text => return text
  | none =>
      if ← whenever d.hasVariableTuples (peekSymbol .lparen) then tupleAssignment n
      else variableAssignment n scope hive

def assigning (d : Dialect) (n : Nested) : Parser String := do
  let isHive ← acceptWord "HIVEVAR"
  let start ← rest
  let scope ← if isHive then pure "" else scopePart
  let hive := if isHive then "HIVEVAR:" else ""
  if isHive then expect .colon
  match ← role scope with
  | some text => return text
  | none =>
      match ← acceptPhraseOf ["TIME ZONE", "TIMEZONE"] with
      | some _ => zoneSetting n scope hive
      | none =>
          if ← whenever d.namesCharacterSets (acceptWord "NAMES") then characterSet
          else
            let place ← rest
            match ← acceptAnyOf ["CHARACTERISTICS", "TRANSACTION", "AUTHORIZATION"] with
            | some "CHARACTERISTICS" =>
                expectPhrase "AS TRANSACTION"
                return "SET SESSION CHARACTERISTICS AS TRANSACTION" ++ (← transactionModes)
            | some "TRANSACTION" => transactionSetting d
            | some _ => authorization scope place
            | none => ordinaryAssignment d n start scope hive

/-! Showing -/

/-- What is shown of a list: the entries like a text, or those that a condition holds of. -/
def showFilter (n : Nested) : Parser String := do
  match ← acceptAnyOf ["LIKE", "ILIKE", "WHERE"] with
  | some "LIKE" => return " LIKE " ++ quotedText '\'' (← literalText)
  | some "ILIKE" =>
      let pattern ← literalText
      return " ILIKE " ++ String.ofList (escapedQuotes '\'' false pattern.toList)
  | some _ => return " WHERE " ++ (← n.exprText)
  | none => return clausePart " " ((← attempt literalText).map (enclosed '\''))

def shownParent : Parser String := do
  match ← acceptAnyOf ["ACCOUNT", "DATABASE", "SCHEMA", "TABLE", "VIEW"] with
  | some word =>
      let ends := (word = "DATABASE" || word = "SCHEMA") &&
        ((← peekPhrase "STARTS WITH") || (← peekWord "LIMIT"))
      let parent ← if ends then pure none else attempt pathText
      return " " ++ word ++ clausePart " " parent
  | none =>
      let table ← path
      let parent ← if (← acceptAnyOf ["FROM", "IN"]).isSome then some <$> name else pure none
      return " " ++ Name.pathSql (parent.toList ++ table)

def showIn : Parser String := do
  match ← acceptAnyOf ["FROM", "IN"] with
  | some word => return " " ++ word ++ (← shownParent)
  | none => return ""

def showOptions (d : Dialect) (n : Nested) : Parser String := do
  let place ← showIn
  let filter ← showFilter n
  let first ← clauseAfter "STARTS WITH" (valueText d)
  let limit ←
    if ← acceptWord "LIMIT" then
      if ← acceptWord "ALL" then pure "" else pure (" LIMIT " ++ (← n.exprText))
    else pure ""
  let origin ← clauseAfter "FROM" (valueText d)
  return place ++ first ++ limit ++ origin ++ filter

def shownCreation : Parser String := do
  let kind ← expectAnyOf ["TABLE", "TRIGGER", "FUNCTION", "PROCEDURE", "EVENT", "VIEW"]
  return "SHOW CREATE " ++ kind ++ " " ++ (← pathText)

/-- The lists that can be shown in brief or in full. -/
def shownList? (d : Dialect) (n : Nested) (terse extended external : String) :
    Parser (Option String) := do
  match ← acceptPhraseOf
      ["COLUMNS", "FIELDS", "TABLES", "MATERIALIZED VIEWS", "VIEWS", "FUNCTIONS"] with
  | none => return none
  | some "TABLES" =>
      let history ← if external.isEmpty then phrasePart "HISTORY" else pure ""
      let options ← showOptions d n
      return some ("SHOW " ++ terse ++ extended ++ external ++ "TABLES" ++ history ++ options)
  | some "FUNCTIONS" => return some ("SHOW FUNCTIONS" ++ (← showFilter n))
  | some "MATERIALIZED VIEWS" =>
      return some ("SHOW " ++ terse ++ "MATERIALIZED VIEWS" ++ (← showOptions d n))
  | some "VIEWS" => return some ("SHOW " ++ terse ++ "VIEWS" ++ (← showOptions d n))
  | some _ => return some ("SHOW " ++ extended ++ "COLUMNS" ++ (← showOptions d n))

/-- The other lists. The words of a list that a dialect does not know are read all the same. -/
def shownOther? (d : Dialect) (n : Nested) (terse reach : String) : Parser (Option String) :=
  let shown (allowed : Bool) (words phrase : String) (p : Parser String) :
      Parser (Option String) := do
    return (← openedIf allowed phrase p).map (("SHOW " ++ words) ++ ·)
  let catalog : Parser String := do
    let history ← phrasePart "HISTORY"
    return history ++ (← showOptions d n)
  firstOf [
    shown d.showsVariables reach "VARIABLES" (showFilter n),
    shown d.showsVariables reach "STATUS" (showFilter n),
    shown true terse "DATABASES" catalog,
    shown true terse "SCHEMAS" catalog,
    shown true "" "CHARACTER SET" (showFilter n),
    shown true "" "CHARSET" (showFilter n)]

/-- A variable by the words of its name. -/
def shownVariable : Parser String := do
  let words ← namesUntilEnd
  return Text.joined " " ("SHOW" :: words.map Name.sql)

def showing (d : Dialect) (n : Nested) : Parser String := do
  let terse ← leading "TERSE"
  let extended ← leading "EXTENDED"
  let full ← leading "FULL"
  let inSession ← leading "SESSION"
  let everywhere ← leading "GLOBAL"
  let external ← leading "EXTERNAL"
  match ← shownList? d n terse (extended ++ full) external with
  | some text => return text
  | none =>
      if !(extended ++ full).isEmpty then
        fail (.refused "EXTENDED/FULL are not supported with this type of SHOW query")
      else if ← acceptWord "CREATE" then shownCreation
      else if ← acceptWord "COLLATION" then return "SHOW COLLATION" ++ (← showFilter n)
      else
        match ← shownOther? d n terse (everywhere ++ inSession) with
        | some text => return text
        | none => shownVariable

end SelectTree.Sql.Grammar
