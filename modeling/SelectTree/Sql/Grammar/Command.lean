import SelectTree.Sql.Grammar.Creation
import SelectTree.Sql.Grammar.Privilege
import SelectTree.Sql.Grammar.Removal
import SelectTree.Sql.Grammar.Transfer

namespace SelectTree.Sql.Grammar

open Sql.Parser

/-! Commands to the server and to its sessions. Each parser begins after the word that opens its
statement. -/

/-! Tables and files -/

/-- A clause about the statistics of a table, by its word. -/
def analysisClause? (n : Nested) : Parser (Option (String × String)) := do
  match ← acceptAnyOf ["PARTITION", "NOSCAN", "FOR", "CACHE", "COMPUTE"] with
  | none => return none
  | some "PARTITION" =>
      return some ("PARTITION", " PARTITION " ++ Text.parenthesized (← parenthesized n.exprsText))
  | some "FOR" =>
      expectWord "COLUMNS"
      let columns ← attempt (listedTexts nameText)
      return some ("FOR", " FOR COLUMNS" ++ clausePart " " columns)
  | some "CACHE" =>
      expectWord "METADATA"
      return some ("CACHE", " CACHE METADATA")
  | some "COMPUTE" =>
      expectWord "STATISTICS"
      return some ("COMPUTE", " COMPUTE STATISTICS")
  | some word => return some (word, " " ++ word)

def analysis (n : Nested) : Parser String := do
  let word ← phrasePart "TABLE"
  let table ← pathText
  let clauses ← many (analysisClause? n)
  let parts := ["PARTITION", "COMPUTE", "NOSCAN", "CACHE", "FOR"].filterMap fun word =>
    clauses.reverse.lookup word
  return "ANALYZE" ++ word ++ " " ++ table ++ String.join parts

def vacuum (d : Dialect) : Parser String := do
  let words ← ["FULL", "SORT ONLY", "DELETE ONLY", "REINDEX", "RECLUSTER"].mapM phrasePart
  let table ←
    match ← attempt pathText with
    | none => pure ""
    | some table =>
        let limit ← clauseAfter "TO" (do
          let amount ← valueText d
          expectWord "PERCENT"
          return amount ++ " PERCENT")
        pure (" " ++ table ++ limit ++ (← phrasePart "BOOST"))
  return "VACUUM" ++ String.join words ++ table

def optimization (n : Nested) : Parser String := do
  expectWord "TABLE"
  let table ← pathText
  let cluster ← clauseAfter "ON CLUSTER" nameText
  let part ← clauseAfter "PARTITION" (do
    if ← acceptWord "ID" then return "ID " ++ (← nameText) else n.exprText)
  let final ← phrasePart "FINAL"
  let merge ←
    if ← acceptWord "DEDUPLICATE" then
      pure (" DEDUPLICATE" ++ (← clauseAfter "BY" n.exprText))
    else pure ""
  return "OPTIMIZE TABLE " ++ table ++ cluster ++ part ++ final ++ merge

def repair : Parser String := do
  let word ← leading "REPAIR"
  expectWord "TABLE"
  let table ← pathText
  let action ← acceptPhraseOf
    ["ADD PARTITIONS", "DROP PARTITIONS", "SYNC PARTITIONS", "PARTITIONS"]
  let action := if action = some "PARTITIONS" then none else action
  return "MSCK " ++ word ++ "TABLE " ++ table ++ clausePart " " action

def tableNames : Parser String := do
  if ← acceptWord "TABLE" then
    let pairs ← listedTexts (do
      let old ← pathText
      expectWord "TO"
      return old ++ " TO " ++ (← pathText))
    return "RENAME TABLE " ++ pairs
  else expected (.phrase "KEYWORD \x60TABLE\x60 after RENAME")

def isLockedName (t : Token) : Bool :=
  (nameOfToken? t).isSome && !t.capitals?.any ["READ", "WRITE", "LOW_PRIORITY"].contains

def tableLock : Parser String := do
  let table ← nameText
  let asWord ← acceptWord "AS"
  let given ← if asWord then some <$> token .nameAfterAs nameOfToken?
    else optionally (peekAny isLockedName) name
  match ← acceptPhraseOf ["READ LOCAL", "READ", "WRITE", "LOW_PRIORITY WRITE"] with
  | some lock => return table ++ clausePart " AS " (given.map Name.sql) ++ " " ++ lock
  | none => expected (.phrase "an lock type in LOCK TABLES")

def attaching (n : Nested) : Parser String := do
  let word ← leading "DATABASE"
  let file ← n.exprText
  expectWord "AS"
  return "ATTACH " ++ word ++ file ++ " AS " ++ (← nameText)

def detaching : Parser String := do
  let word ← phrasePart "DATABASE"
  let guard ← ifExists
  return "DETACH" ++ word ++ guard ++ " " ++ (← nameText)

/-! Server -/

def kill (d : Dialect) : Parser String := do
  let kind ← acceptAnyOf ["CONNECTION", "QUERY", "MUTATION"]
  let amount ← whole
  if kind = some "MUTATION" && !d.hasMutations then
    expected (.phrase "Unsupported type for KILL, allowed: CONNECTION | QUERY")
  else return "KILL" ++ clausePart " " kind ++ " " ++ amount

def flushed : List String :=
  ["BINARY LOGS", "ENGINE LOGS", "ERROR LOGS", "GENERAL LOGS", "HOSTS", "PRIVILEGES",
    "OPTIMIZER_COSTS", "RELAY LOGS", "SLOW LOGS", "STATUS", "USER_RESOURCES", "LOGS", "TABLES"]

structure FlushedTables where
  names : String := ""
  lock : String := ""
  exporting : String := ""

/-- What is said of tables to flush, in any order and up to a token that is no word, which is read
too. Words of the language that say nothing here are skipped. -/
def flushedTables : Parser FlushedTables :=
  iterate (fun (told : FlushedTables) => do
    let start ← rest
    match ← acceptToken some with
    | some (.word w) =>
        if isPlainWord w then
          goBack start
          return .inl { told with names := " " ++ (← listedTexts pathText) }
        else
          match Keyword.capitals w.text with
          | "WITH" =>
              let lock := if ← acceptPhrase "READ LOCK" then " WITH READ LOCK" else ""
              return .inl { told with lock }
          | "FOR" =>
              let exporting := if ← acceptWord "EXPORT" then " FOR EXPORT" else ""
              return .inl { told with exporting }
          | _ => return .inl told
    | _ => return .inr told) {}

def flushing (d : Dialect) : Parser String := do
  if !d.hasFlush then fail (.refusedHere "Unsupported statement FLUSH")
  else
    let reach ← acceptAnyOf ["NO_WRITE_TO_BINLOG", "LOCAL"]
    let opening := "FLUSH" ++ clausePart " " reach
    match ← acceptPhraseOf flushed with
    | some "RELAY LOGS" =>
        return opening ++ " RELAY LOGS" ++ (← clauseAfter "FOR CHANNEL" pathText)
    | some "TABLES" =>
        let told ← flushedTables
        return opening ++ " TABLES" ++ told.names ++ told.exporting ++ told.lock
    | some kind => return opening ++ " " ++ kind
    | none =>
        expected (.phrase ("BINARY LOGS, ENGINE LOGS, ERROR LOGS, GENERAL LOGS, HOSTS, LOGS, " ++
          "PRIVILEGES, OPTIMIZER_COSTS,RELAY LOGS [FOR CHANNEL channel], SLOW LOGS, STATUS, " ++
          "USER_RESOURCES"))

def discarding : Parser String := do
  match ← acceptAnyOf ["ALL", "PLANS", "SEQUENCES", "TEMP", "TEMPORARY"] with
  | some "TEMPORARY" => return "DISCARD TEMP"
  | some kind => return "DISCARD " ++ kind
  | none => expected (.phrase "ALL, PLANS, SEQUENCES, TEMP or TEMPORARY after DISCARD")

def pragmaValue (d : Dialect) : Parser String := fun ts =>
  match value d ts with
  | .ok (v, rest) =>
      match ts with
      | .string _ :: _ | .doubleString _ :: _ | .number _ _ :: _ | .placeholder _ :: _
      | .symbol _ :: _ | .word ⟨_, some '"', _⟩ :: _ => .ok (v.sql, rest)
      | _ => .error ⟨.expected (.phrase "number or string or ? placeholder"), ts⟩
  | .error failure => .error failure

def pragma (d : Dialect) : Parser String := do
  let setting ← pathText
  if ← accept .lparen then
    let text ← pragmaValue d
    expect .rparen
    return "PRAGMA " ++ setting ++ Text.parenthesized text
  else if ← accept .eq then return "PRAGMA " ++ setting ++ " = " ++ (← pragmaValue d)
  else return "PRAGMA " ++ setting

def loading (d : Dialect) : Parser String := do
  if d.hasExtensions then return "LOAD " ++ (← nameText)
  else
    let _ ← acceptWord "DATA"
    expected (.phrase "\x60DATA\x60 or an extension name after \x60LOAD\x60")

/-- What is said of a thing in the catalog. -/
def commenting : Parser String := do
  let guard ← leading "IF EXISTS"
  expectWord "ON"
  match ← acceptAnyOf ["COLUMN", "TABLE", "EXTENSION", "SCHEMA", "DATABASE", "USER", "ROLE"] with
  | none => expected (.phrase "comment object_type")
  | some kind =>
      let target ← pathText
      expectWord "IS"
      let text ← if ← acceptWord "NULL" then pure "NULL" else enclosed '\'' <$> literalText
      return "COMMENT " ++ guard ++ "ON " ++ kind ++ " " ++ target ++ " IS " ++ text

def notification : Parser String := do
  let channel ← nameText
  if ← accept .comma then return "NOTIFY " ++ channel ++ ", " ++ enclosed '\'' (← literalText)
  else return "NOTIFY " ++ channel

def unlistening : Parser String := do
  if ← accept .star then return "UNLISTEN *"
  else
    match ← attempt nameText with
    | some channel => return "UNLISTEN " ++ channel
    | none => expected (.phrase "wildcard or identifier")

/-! Procedures and prepared statements -/

def procedureCall (d : Dialect) (n : Nested) : Parser String := do
  let procedure ← path
  if ← peekSymbol .lparen then
    return "CALL " ++ (← call d n (intervalExpr d n) procedure).sql
  else return "CALL " ++ Name.pathSql procedure

def preparation (d : Dialect) (n : Nested) : Parser String := do
  let given ← nameText
  let types ← optionally (peekSymbol .lparen) (tupleText (dataTypeText d n))
  expectWord "AS"
  let prepared ← n.statement
  return "PREPARE " ++ given ++ clausePart " " types ++ " AS " ++ prepared.sql

def aliasedArgument (n : Nested) : Parser String := do
  let e ← n.exprText
  return e ++ (← clauseAfter "AS" nameText)

/-- The parameters of an execution, with or without parentheses around them. -/
def parameters (n : Nested) : Parser String := do
  if ← accept .lparen then
    let given ← commaSeparatedBefore .rparen n.expr
    expect .rparen
    return Text.parenthesized (Expr.listSql given)
  else
    let ends := ["USING", "OUTPUT", "DEFAULT"]
    if ← peekAny (fun t => t = .symbol .semicolon || t.capitals?.any ends.contains) then return ""
    else if (← peek).isNone then return ""
    else return " " ++ (← n.exprsText)

def execution (n : Nested) : Parser String := do
  let given ← pathText
  let given := given ++ (← parameters n)
  let into ← clauseAfter "INTO" (listedTexts nameText)
  let arguments ← clauseAfter "USING" (listedTexts (aliasedArgument n))
  let output ← phrasePart "OUTPUT"
  return "EXECUTE " ++ given ++ into ++ arguments ++ output ++ (← phrasePart "DEFAULT")

def deallocation : Parser String := do
  let word ← leading "PREPARE"
  return "DEALLOCATE " ++ word ++ (← nameText)

/-! Cursors -/

def holding : Parser String := do
  match ← acceptAnyOf ["WITH", "WITHOUT"] with
  | none => return ""
  | some word =>
      expectWord "HOLD"
      return " " ++ word ++ " HOLD"

def cursor (n : Nested) : Parser String := do
  let given ← nameText
  let binary ← phrasePart "BINARY"
  let sensitivity ← acceptAnyOf ["INSENSITIVE", "ASENSITIVE"]
  let scroll ← acceptPhraseOf ["SCROLL", "NO SCROLL"]
  expectWord "CURSOR"
  let hold ← holding
  expectWord "FOR"
  return "DECLARE " ++ given ++ binary ++ clausePart " " sensitivity ++ clausePart " " scroll ++
    " CURSOR" ++ hold ++ " FOR " ++ (← n.queryText)

def fetchDirection (d : Dialect) : Parser String := do
  match ← acceptPhraseOf ["NEXT", "PRIOR", "FIRST", "LAST", "ALL", "ABSOLUTE", "RELATIVE",
      "FORWARD ALL", "FORWARD", "BACKWARD ALL", "BACKWARD"] with
  | none => numberText d
  | some word =>
      if word ∈ ["ABSOLUTE", "RELATIVE", "FORWARD", "BACKWARD"] then
        return word ++ " " ++ (← numberText d)
      else return word

def fetching (d : Dialect) : Parser String := do
  let direction ← fetchDirection d
  match ← acceptAnyOf ["FROM", "IN"] with
  | none => fail (.refusedHere "Expected FROM or IN")
  | some word =>
      let given ← nameText
      let into ← clauseAfter "INTO" pathText
      return "FETCH " ++ direction ++ " " ++ word ++ " " ++ given ++ into

/-! All of them -/

/-- An error that a procedure reports, with how grave it is and where it arose. -/
def reporting (n : Nested) : Parser String := do
  expect .lparen
  let message ← n.exprText
  expect .comma
  let severity ← n.exprText
  expect .comma
  let state ← n.exprText
  let arguments ← optionally (accept .comma) n.exprsText
  expect .rparen
  let options ← clauseAfter "WITH" (listedTexts (expectAnyOf ["LOG", "NOWAIT", "SETERROR"]))
  return "RAISERROR" ++ Text.parenthesized
    (Text.listed ([message, severity, state] ++ arguments.toList)) ++ options

def raising (n : Nested) : Parser String := do
  if ← acceptPhrase "USING MESSAGE" then
    expect .eq
    return "RAISE USING MESSAGE = " ++ (← n.exprText)
  else return "RAISE" ++ clausePart " " (← attempt n.exprText)

/-- The words that open a command in any dialect, and what follows each of them. -/
def plainCommands (d : Dialect) (n : Nested) : List (String × Parser String) :=
  [("ANALYZE", analysis n),
    ("VACUUM", vacuum d),
    ("MSCK", repair),
    ("RENAME", tableNames),
    ("ATTACH", attaching n),
    ("KILL", kill d),
    ("FLUSH", flushing d),
    ("DISCARD", discarding),
    ("PRAGMA", pragma d),
    ("LOAD", loading d),
    ("CALL", procedureCall d n),
    ("PREPARE", preparation d n),
    ("EXECUTE", execution n),
    ("EXEC", execution n),
    ("DEALLOCATE", deallocation),
    ("DECLARE", cursor n),
    ("FETCH", fetching d),
    ("OPEN", return "OPEN " ++ (← nameText)),
    ("CLOSE", do
      if ← acceptWord "ALL" then return "CLOSE ALL" else return "CLOSE " ++ (← nameText)),
    ("GRANT", grant d n),
    ("REVOKE", revocation d n),
    ("ASSERT", do
      let condition ← n.exprText
      return "ASSERT " ++ condition ++ (← clauseAfter "AS" n.exprText)),
    ("PRINT", return "PRINT " ++ (← n.exprText)),
    ("RETURN", return "RETURN" ++ clausePart " " (← attempt n.exprText)),
    ("RAISE", raising n),
    ("RAISERROR", reporting n),
    ("DENY", denial d n),
    ("COPY", copying d n),
    ("CACHE", caching d n),
    ("UNLOAD", unloading d n),
    ("EXPORT", exporting d n),
    ("USE", return "USE " ++ (← pathText)),
    ("UNCACHE", do
      expectWord "TABLE"
      let guard ← ifExists
      return "UNCACHE TABLE" ++ guard ++ " " ++ (← pathText))]

/-- Commands that only some dialects know. -/
def dialectCommands (d : Dialect) (n : Nested) : List (String × Parser String) :=
  (if d.hasMaintenance then
    [("DETACH", detaching), ("OPTIMIZE", optimization n),
      ("INSTALL", return "INSTALL " ++ (← nameText))] else []) ++
  (if d.hasNotifications then
    [("LISTEN", return "LISTEN " ++ (← nameText)), ("UNLISTEN", unlistening),
      ("NOTIFY", notification)] else []) ++
  (if d.hasComments then [("COMMENT", commenting)] else [])

/-- Locks on tables, which two words open. -/
def tableLocks? (d : Dialect) : Parser (Option String) := do
  if !d.locksTables then return none
  else if ← acceptPhrase "LOCK TABLES" then
    return some ("LOCK TABLES " ++ (← listedTexts tableLock))
  else if ← acceptPhrase "UNLOCK TABLES" then return some "UNLOCK TABLES"
  else return none

end SelectTree.Sql.Grammar
