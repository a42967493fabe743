import SelectTree.Sql.Grammar.Clause
import SelectTree.Sql.Grammar.Selection

namespace SelectTree.Sql.Grammar

open Sql.Parser

/-! Changes of a table's rows. Each parser begins after the word that opens its statement. -/

def filterPart (n : Nested) : Parser String :=
  clauseAfter "WHERE" n.exprText

def itemsText (d : Dialect) (n : Nested) : Parser String :=
  listedTexts (Item.sql <$> item d n)

def returningPart (d : Dialect) (n : Nested) : Parser String :=
  clauseAfter "RETURNING" (itemsText d n)

def assignmentTarget : Parser String := do
  if ← peekSymbol .lparen then tupleText pathText else pathText

def assignment (n : Nested) : Parser String := do
  let target ← assignmentTarget
  expect .eq
  return target ++ " = " ++ (← n.exprText)

def assignments (n : Nested) : Parser String :=
  listedTexts (assignment n)

/-- What becomes of rows that break a constraint. -/
def conflictRule? : Parser (Option String) := do
  match ← acceptPhraseOf
      ["OR REPLACE", "OR ROLLBACK", "OR ABORT", "OR FAIL", "OR IGNORE", "REPLACE"] with
  | some "REPLACE" => return some "OR REPLACE"
  | rule => return rule

/-! Insertion -/

def columnNames? (emptyNames : Bool) : Parser String := do
  if ← peekSymbol .lparen then
    let columns ← parenthesized (do
      if emptyNames && (← peekSymbol .rparen) then return [] else commaSeparated name)
    return if columns.isEmpty then "" else Text.parenthesized (Name.listSql columns) ++ " "
  else return ""

def beginsParenthesizedQuery : Parser Bool := fun ts =>
  .ok (match ts with
    | .symbol .lparen :: t :: _ => t.keyword = some .SELECT || t.keyword = some .WITH
    | _ => false, ts)

/-- The rows to insert, after the names of their columns. The words of a format are left for what
follows. -/
def insertedRows (d : Dialect) (n : Nested) : Parser String := do
  if ← acceptPhrase "DEFAULT VALUES" then return "DEFAULT VALUES"
  else
    let columns ←
      if ← beginsParenthesizedQuery then pure ""
      else
        let columns ← columnNames? d.allowsEmptyColumnList
        let partition ← optionally (acceptKeyword .PARTITION) (parenthesized n.exprsText)
        pure (columns ++ clausePart "PARTITION " (partition.map fun text =>
          Text.parenthesized text ++ " "))
    if ← peekAny fun t => t.keyword = some .FORMAT || t.keyword = some .SETTINGS then
      return if columns.isEmpty then "DEFAULT VALUES" else columns
    else if ← whenever d.hasInsertedAssignments (acceptKeyword .SET) then
      return columns ++ "SET " ++ (← assignments n)
    else return columns ++ (← n.queryText)

def rowAlias (d : Dialect) : Parser String := do
  if ← whenever d.hasRowAliases (acceptKeyword .AS) then
    let row ← pathText
    return " AS " ++ row ++ clausePart " " (← nameTuple?)
  else return ""

def conflictTarget : Parser String := do
  if ← acceptPhrase "ON CONSTRAINT" then return " ON CONSTRAINT " ++ (← pathText)
  else if ← peekSymbol .lparen then nameTuple
  else return ""

def conflictPart (n : Nested) : Parser String := do
  if !(← acceptKeyword .ON) then return ""
  else if ← acceptWord "CONFLICT" then
    let target ← conflictTarget
    expectWord "DO"
    if ← acceptWord "NOTHING" then return " ON CONFLICT" ++ target ++ " DO NOTHING"
    else
      expectPhrase "UPDATE SET"
      let changes ← assignments n
      return " ON CONFLICT" ++ target ++ " DO UPDATE SET " ++ changes ++ (← filterPart n)
  else
    expectPhrase "DUPLICATE KEY UPDATE"
    return " ON DUPLICATE KEY UPDATE " ++ (← assignments n)

def fileFormats : List String :=
  ["AVRO", "JSONFILE", "ORC", "PARQUET", "RCFILE", "SEQUENCEFILE", "TEXTFILE"]

def fileFormat : Parser String := do
  match ← acceptAnyOf fileFormats with
  | some format => return format
  | none => expected (.phrase "fileformat")

def exportedRows (n : Nested) : Parser String := do
  let folder ← literalText
  let format ← clauseAfter "STORED AS" fileFormat
  return "DIRECTORY " ++ enclosed '\'' folder ++ format ++ " " ++ (← n.queryText)

/-- An insertion, or a replacement by its word. The word `LOCAL` is read before any target. -/
def insertion (d : Dialect) (n : Nested) (word : String) : Parser String := do
  let rule ← conflictRule?
  let priority ←
    if d.hasPriorities then acceptAnyOf ["LOW_PRIORITY", "DELAYED", "HIGH_PRIORITY"] else pure none
  let ignoring ← if d.hasPriorities then phrasePart "IGNORE" else pure ""
  let overwriting ← phrasePart "OVERWRITE"
  let into ← phrasePart "INTO"
  let isLocal ← phrasePart "LOCAL"
  if ← acceptWord "DIRECTORY" then
    return "INSERT" ++ overwriting ++ isLocal ++ " " ++ (← exportedRows n)
  else
    let tableWord ← phrasePart "TABLE"
    let table ← pathText
    let given ← optionally (whenever d.hasInsertedNames (acceptKeyword .AS)) nameText
    let target := table ++ clausePart " AS " given
    let opening :=
      match rule with
      | some rule => "INSERT " ++ rule ++ " INTO "
      | none =>
          word ++ clausePart " " priority ++ ignoring ++ overwriting ++ into ++ tableWord ++ " "
    let rows ← insertedRows d n
    let row ← rowAlias d
    let conflict ← conflictPart n
    return opening ++ target ++ " " ++ rows ++ row ++ conflict ++ (← returningPart d n)

/-! Deletion and update -/

def deletion (d : Dialect) (n : Nested) : Parser String := do
  let opening ←
    if ← acceptKeyword .FROM then pure "DELETE FROM "
    else if d.deletesWithoutFrom then pure "DELETE "
    else
      let tables ← listedTexts pathText
      expectKeyword .FROM
      pure ("DELETE " ++ tables ++ " FROM ")
  let tables ← sourcesText d n
  let others ← clauseAfter "USING" (sourcesText d n)
  let filter ← filterPart n
  let returning ← returningPart d n
  let order ← clauseAfter "ORDER BY" (orderKeysText d n)
  let limit ←
    if ← acceptKeyword .LIMIT then
      if ← acceptKeyword .ALL then pure "" else pure (" LIMIT " ++ (← n.exprText))
    else pure ""
  return opening ++ tables ++ others ++ filter ++ returning ++ order ++ limit

/-- Other tables may stand on either side of the assignments. -/
def change (d : Dialect) (n : Nested) : Parser String := do
  let rule ← conflictRule?
  let table ← joined d n
  let early ← clauseAfter "FROM" (sourcesText d n)
  expectKeyword .SET
  let changes ← assignments n
  let late ← if early.isEmpty then clauseAfter "FROM" (sourcesText d n) else pure ""
  let filter ← filterPart n
  let returning ← returningPart d n
  let limit ← clauseAfter "LIMIT" n.exprText
  return "UPDATE " ++ clausePart "" (rule.map (· ++ " ")) ++ table.sql ++ early ++ " SET " ++
    changes ++ late ++ filter ++ returning ++ limit

/-! Merging -/

inductive MatchKind
  | matched
  | notMatched
  | notMatchedBySource
  | notMatchedByTarget
  deriving DecidableEq

def MatchKind.sql : MatchKind → String
  | .matched => "MATCHED"
  | .notMatched => "NOT MATCHED"
  | .notMatchedBySource => "NOT MATCHED BY SOURCE"
  | .notMatchedByTarget => "NOT MATCHED BY TARGET"

/-- Whether only the source has the row, so that there is nothing to change. -/
def MatchKind.isNew : MatchKind → Bool
  | .notMatched | .notMatchedByTarget => true
  | _ => false

def matchKind : Parser MatchKind := do
  if ← acceptKeyword .NOT then
    expectWord "MATCHED"
    if ← acceptPhrase "BY SOURCE" then return .notMatchedBySource
    else if ← acceptPhrase "BY TARGET" then return .notMatchedByTarget
    else return .notMatched
  else
    expectWord "MATCHED"
    return .matched

def mergedRow (d : Dialect) (n : Nested) : Parser String := do
  let columns ← columnNames? d.allowsEmptyColumnList
  if ← whenever d.hasWholeRows (acceptKeyword .ROW) then return columns ++ "ROW"
  else
    expectKeyword .VALUES
    return columns ++ (← rows n d.allowsEmptyRows)

def mergeAction (d : Dialect) (n : Nested) (kind : MatchKind) : Parser String := do
  let refuse (word : String) : Parser String :=
    fail (.refused (word ++ " is not allowed in a " ++ kind.sql ++ " merge clause"))
  match ← acceptAnyOf ["UPDATE", "INSERT", "DELETE"] with
  | some "UPDATE" =>
      if kind.isNew then refuse "UPDATE"
      else
        expectKeyword .SET
        return "UPDATE SET " ++ (← assignments n)
  | some "DELETE" => if kind.isNew then refuse "DELETE" else return "DELETE"
  | some _ =>
      if kind.isNew then return "INSERT " ++ (← mergedRow d n) else refuse "INSERT"
  | none => fail (.refused "expected UPDATE, DELETE or INSERT in merge clause")

def mergeBranch (d : Dialect) (n : Nested) : Parser String := do
  let kind ← matchKind
  let condition ← clauseAfter "AND" n.exprText
  expectKeyword .THEN
  return "WHEN " ++ kind.sql ++ condition ++ " THEN " ++ (← mergeAction d n kind)

def mergeOutput (d : Dialect) (n : Nested) : Parser String := do
  match ← acceptAnyOf ["OUTPUT", "RETURNING"] with
  | none => return ""
  | some word =>
      let items ← items d n
      let into ← if word = "OUTPUT" then into? else pure none
      return " " ++ word ++ " " ++ Text.listed (items.map Item.sql) ++ clausePart " " into

def merging (d : Dialect) (n : Nested) : Parser String := do
  let into ← phrasePart "INTO"
  let table ← factor d n
  expectKeyword .USING
  let source ← factor d n
  expectKeyword .ON
  let condition ← n.exprText
  let branches ← many (optionally (acceptKeyword .WHEN) (mergeBranch d n))
  return "MERGE" ++ into ++ " " ++ table.sql ++ " USING " ++ source.sql ++ " ON " ++ condition ++
    " " ++ Text.joined " " branches ++ (← mergeOutput d n)

/-- A change by the word that opens it. -/
def change? (d : Dialect) (n : Nested) : Parser (Option String) := do
  match ← acceptAnyOf ["INSERT", "UPDATE", "DELETE", "MERGE"] with
  | none => return none
  | some "INSERT" => return some (← insertion d n "INSERT")
  | some "UPDATE" => return some (← change d n)
  | some "DELETE" => return some (← deletion d n)
  | some _ => return some (← merging d n)

end SelectTree.Sql.Grammar
