import SelectTree.Sql.Grammar.Change
import SelectTree.Sql.Grammar.TableDefinition

namespace SelectTree.Sql.Grammar

open Sql.Parser

/-! Tables, views and indexes as they are made. Each parser begins after the word for the kind of
the thing, and is given the words before it. -/

/-! Options -/

def onCluster : Parser String :=
  clauseAfter "ON CLUSTER" nameText

/-- Options in parentheses after a phrase, with `opening` before them; no options, no text. -/
def listedOptions (d : Dialect) (n : Nested) (phrase opening : String) : Parser String := do
  if ← acceptPhrase phrase then
    let given ← parenthesized (commaSeparatedBefore .rparen (sqlOption d n))
    return if given.isEmpty then "" else opening ++ Text.parenthesized (Text.listed given)
  else return ""

/-- Options of a table that are a key and its value. -/
def keyedOptions : List String :=
  ["DEFAULT CHARSET", "CHARSET", "DEFAULT CHARACTER SET", "CHARACTER SET", "DEFAULT COLLATE",
    "COLLATE", "DATA DIRECTORY", "INDEX DIRECTORY", "KEY_BLOCK_SIZE", "ROW_FORMAT", "PACK_KEYS",
    "STATS_AUTO_RECALC", "STATS_PERSISTENT", "STATS_SAMPLE_PAGES", "DELAY_KEY_WRITE",
    "COMPRESSION", "ENCRYPTION", "MAX_ROWS", "MIN_ROWS", "AUTOEXTEND_SIZE", "AVG_ROW_LENGTH",
    "CHECKSUM", "CONNECTION", "ENGINE_ATTRIBUTE", "PASSWORD", "SECONDARY_ENGINE_ATTRIBUTE",
    "INSERT_METHOD", "AUTO_INCREMENT"]

def tableComment : Parser String := do
  let sign ← accept .eq
  match ← acceptToken fun
    | .string text => some text
    | _ => none with
  | some text => return "COMMENT" ++ (if sign then " = " else " ") ++ enclosed '\'' text
  | none => fail (.expectedSomewhere (.phrase "Token::SingleQuotedString"))

/-- Names in parentheses, or nothing where there are none. -/
def possiblyEmptyNames : Parser String := do
  if ← peekSymbol .lparen then
    let names ← parenthesized (commaSeparatedBefore .rparen name)
    return if names.isEmpty then "" else Text.parenthesized (Name.listSql names)
  else return ""

def engine : Parser String := do
  let _ ← accept .eq
  let word ← token (.phrase "Token::Word") fun
    | .word w => some w.text
    | _ => none
  return "ENGINE = " ++ word ++ (← possiblyEmptyNames)

def unionOption : Parser String := do
  let _ ← accept .eq
  if ← peekSymbol .lparen then return "UNION = " ++ (← possiblyEmptyNames)
  else expected (.phrase "Token::LParen")

def tablespaceStorage : Parser String := do
  if ← acceptWord "STORAGE" then
    let _ ← accept .eq
    match ← peek with
    | some (.word w) =>
        let kind := Keyword.capitals w.text
        if kind ∈ ["DISK", "MEMORY"] then
          skipToken
          return " STORAGE " ++ kind
        else expected (.phrase "Storage type (DISK or MEMORY)")
    | _ => expected (.phrase "Token::Word")
  else return ""

def tablespace : Parser String := do
  let _ ← accept .eq
  let space ← token (.phrase "Token::Word") fun
    | .word w => some w.text
    | .string text => some text
    | _ => none
  return "TABLESPACE " ++ space ++ (← tablespaceStorage)

/-- An option that stands on its own, without parentheses around it. -/
def plainOption? (d : Dialect) : Parser (Option String) := do
  if ← acceptPhrase "START TRANSACTION" then return some "START TRANSACTION"
  else if ← acceptWord "COMMENT" then some <$> tableComment
  else if ← acceptWord "ENGINE" then some <$> engine
  else if ← acceptWord "TABLESPACE" then some <$> tablespace
  else if ← acceptWord "UNION" then some <$> unionOption
  else
    match ← acceptPhraseOf keyedOptions with
    | none => return none
    | some key =>
        let _ ← accept .eq
        let text ←
          match ← attempt (valueText d) with
          | some text => pure text
          | none => Name.sql <$> name
        return some (key ++ " = " ++ text)

def plainOptions (d : Dialect) : Parser String := do
  let given ← many (do
    let option ← plainOption? d
    let _ ← whenever option.isSome (accept .comma)
    return option)
  return String.join (given.map (" " ++ ·))

/-- The options after a table's elements: those that are printed before its keys, and those after
them. -/
def tableOptions (d : Dialect) (n : Nested) : Parser (String × String) := do
  let parents ← optionally (acceptWord "INHERITS") columnListText
  let parameters ← listedOptions d n "WITH" " WITH "
  let properties ← listedOptions d n "TBLPROPERTIES" " TBLPROPERTIES "
  let division ←
    if d.dividesTables then clauseAfter "PARTITION BY" n.exprText else pure ""
  let clusters ←
    if d.hasWarehouseOptions then clauseAfter "CLUSTER BY" n.exprsText else pure ""
  let hasOptions ← whenever d.hasWarehouseOptions (peekWord "OPTIONS")
  let options ← if hasOptions then optionsAfter "OPTIONS" (sqlOption d n) else pure ""
  let early := if properties.isEmpty then parameters else properties
  let plain ← if early.isEmpty && !hasOptions then plainOptions d else pure ""
  return ((if hasOptions then "" else early) ++ plain,
    clausePart " INHERITS " parents ++ division ++ clusters ++ options)

/-! Storage -/

/-- Columns that a table's files are divided by. -/
def distribution (d : Dialect) (n : Nested) : Parser String :=
  clauseAfter "PARTITIONED BY" (tupleText (columnDefinition d n))

def clustering (d : Dialect) (n : Nested) : Parser String := do
  if ← whenever d.hasWarehouseOptions (acceptPhrase "CLUSTERED BY") then
    let columns ← requiredNameTuple
    let order ← optionally (acceptPhrase "SORTED BY") (parenthesized (orderKeysText d n))
    expectWord "INTO"
    let amount ← numberText d
    expectWord "BUCKETS"
    return " CLUSTERED BY " ++ columns ++
      clausePart " SORTED BY " (order.map Text.parenthesized) ++ " INTO " ++ amount ++ " BUCKETS"
  else return ""

/-- What the marks in a row are for: the word that opens each, and the words that go on with it. -/
def rowDelimiters : List (String × String) :=
  [("FIELDS", "TERMINATED BY"), ("COLLECTION", "ITEMS TERMINATED BY"),
    ("MAP", "KEYS TERMINATED BY"), ("LINES", "TERMINATED BY"), ("NULL", "DEFINED AS")]

/-- A mark in a row. A word that opens none is read all the same. -/
def rowDelimiter? : Parser (Option String) := do
  match ← acceptAnyOf (rowDelimiters.map Prod.fst) with
  | none => return none
  | some word =>
      let phrase := (rowDelimiters.lookup word).getD ""
      if ← acceptPhrase phrase then
        let mark ← nameText
        let escape ← if word = "FIELDS" then clauseAfter "ESCAPED BY" nameText else pure ""
        return some (" " ++ word ++ " " ++ phrase ++ " " ++ mark ++ escape)
      else return none

def rowFormat : Parser String := do
  expectWord "FORMAT"
  match ← acceptAnyOf ["SERDE", "DELIMITED"] with
  | some "SERDE" => return " ROW FORMAT SERDE " ++ enclosed '\'' (← literalText)
  | _ => return " ROW FORMAT DELIMITED" ++ String.join (← many rowDelimiter?)

/-- How and where the files of a table are kept. -/
structure Storage where
  rows : String := ""
  /-- The formats that rows are read and written in. -/
  formats : String := ""
  format : String := ""
  properties : String := ""
  location : String := ""

def Storage.storedAs (s : Storage) (n : Nested) : Parser Storage := do
  if ← acceptWord "INPUTFORMAT" then
    let input ← n.exprText
    expectWord "OUTPUTFORMAT"
    let output ← n.exprText
    return { s with
      formats := " STORED AS INPUTFORMAT " ++ input ++ " OUTPUTFORMAT " ++ output
      format := "" }
  else return { s with formats := "", format := " STORED AS " ++ (← fileFormat) }

/-- Of several words on one thing, the last counts. -/
def storage (d : Dialect) (n : Nested) : Parser Storage :=
  iterate (fun (s : Storage) => do
    match ← acceptPhraseOf ["ROW", "STORED", "LOCATION", "WITH SERDEPROPERTIES"] with
    | none => return .inr s
    | some "ROW" => return .inl { s with rows := ← rowFormat }
    | some "STORED" =>
        expectWord "AS"
        return .inl (← s.storedAs n)
    | some "LOCATION" =>
        return .inl { s with location := " LOCATION " ++ enclosed '\'' (← literalText) }
    | some phrase =>
        let properties ← tupleText (sqlOption d n)
        return .inl { s with properties := " " ++ phrase ++ " " ++ properties }) {}

def Storage.sql (s : Storage) : String :=
  s.rows ++ s.formats ++ s.format ++ s.properties ++ s.location

/-- As `sql`, for a table whose rows are kept elsewhere: the place comes last. -/
def Storage.externalSql (s : Storage) : String :=
  s.rows ++ s.formats ++ s.properties ++ s.format ++ s.location

/-! Tables -/

def tableOrder (n : Nested) : Parser String := do
  if ← acceptPhrase "ORDER BY" then
    if ← accept .lparen then
      let keys ← commaSeparatedBefore .rparen n.expr
      expect .rparen
      return " ORDER BY " ++ Text.parenthesized (Expr.listSql keys)
    else return " ORDER BY " ++ (← n.exprText)
  else return ""

def onCommit : Parser String := do
  if ← acceptPhrase "ON COMMIT" then
    match ← acceptPhraseOf ["DELETE ROWS", "PRESERVE ROWS", "DROP"] with
    | some action => return " ON COMMIT " ++ action
    | none => fail (.refusedToken "Expecting DELETE ROWS, PRESERVE ROWS or DROP")
  else return ""

/-- The table that a new one takes its columns from. -/
def tableModel? : Parser (Option String) := do
  if (← acceptAnyOf ["LIKE", "ILIKE"]).isSome then return some (" LIKE " ++ (← pathText))
  else return none

def tableQuery? (d : Dialect) (n : Nested) : Parser (Option String) := do
  let isNamed ← acceptWord "AS"
  if ← if isNamed then pure true else whenever d.hasTableSelection (peekWord "SELECT") then
    return some (" AS " ++ (← n.queryText))
  else return none

def tableCreation (d : Dialect) (n : Nested) (opening : String) : Parser String := do
  let guard ← ifNotExists
  let table ← pathText
  let cluster ← onCluster
  let model ← tableModel?
  let clone ← optionally (acceptWord "CLONE") (attemptPast pathText)
  let clone := clone.join
  let elements ← tableElements d n
  let rowless ← phrasePart "WITHOUT ROWID"
  let parts ← distribution d n
  let clusters ← clustering d n
  let files ← storage d n
  let (early, late) ← tableOptions d n
  let key ← if d.hasWarehouseOptions then clauseAfter "PRIMARY KEY" n.exprText else pure ""
  let order ← tableOrder n
  let commit ← onCommit
  let strict ← phrasePart "STRICT"
  let query ← tableQuery? d n
  let columns :=
    if !elements.isEmpty then " " ++ Text.parenthesized (Text.listed elements)
    else if query.isNone && model.isNone && clone.isNone then " ()"
    else ""
  return opening ++ "TABLE" ++ guard ++ " " ++ table ++ cluster ++ columns ++ rowless ++
    clausePart "" model ++ clausePart " CLONE " clone ++ parts ++ clusters ++ files.sql ++ early ++
    key ++ order ++ late ++ commit ++ strict ++ clausePart "" query

/-- A table whose rows are kept elsewhere. -/
def externalTableCreation (d : Dialect) (n : Nested) (opening : String) : Parser String := do
  expectWord "TABLE"
  let guard ← ifNotExists
  let table ← pathText
  let elements ← tableElements d n
  let parts ← distribution d n
  let files ← storage d n
  let properties ← listedOptions d n "TBLPROPERTIES" " TBLPROPERTIES "
  return opening ++ "EXTERNAL TABLE" ++ guard ++ " " ++ table ++ " " ++
    Text.parenthesized (Text.listed elements) ++ parts ++ files.externalSql ++ properties

/-! Views -/

structure User where
  name : List Name
  host : Option String

def User.sql (u : User) : String :=
  Name.pathSql u.name ++ clausePart "@" u.host

/-- A user; one with a simple name may be known by a host too. -/
def user (d : Dialect) : Parser User := do
  let given ← path
  let hasHost ← whenever (d.hasUserHosts && given.length = 1) (accept .atSign)
  return ⟨given, ← optionally (pure hasHost) nameText⟩

def viewParameters (d : Dialect) : Parser String := do
  let algorithm ← optionally (acceptWord "ALGORITHM") (do
    expect .eq
    expectAnyOf ["UNDEFINED", "MERGE", "TEMPTABLE"])
  let definer ← optionally (acceptWord "DEFINER") (do
    expect .eq
    User.sql <$> user d)
  let security ← optionally (acceptPhrase "SQL SECURITY") (expectAnyOf ["DEFINER", "INVOKER"])
  let parameter (opening : String) (text : Option String) : String :=
    clausePart opening (text.map (· ++ " "))
  return parameter "ALGORITHM = " algorithm ++ parameter "DEFINER = " definer ++
    parameter "SQL SECURITY " security

def viewColumn (d : Dialect) (n : Nested) : Parser String := do
  let column ← name
  let options ← many (columnOption? d n)
  return column.sql ++ if options.isEmpty then "" else " " ++ Text.listed options

def viewColumns (d : Dialect) (n : Nested) : Parser String := do
  if ← peekSymbol .lparen then
    let columns ← parenthesized (commaSeparatedBefore .rparen (viewColumn d n))
    return if columns.isEmpty then "" else " " ++ Text.parenthesized (Text.listed columns)
  else return ""

def viewCluster : Parser String := do
  if ← acceptWord "CLUSTER" then
    expectWord "BY"
    return clausePart " CLUSTER BY " (← nameTuple?)
  else return ""

def viewComment : Parser String := do
  if ← acceptWord "COMMENT" then
    expect .eq
    return " COMMENT = " ++ (← commentText)
  else return ""

/-- A view, after the words that tell of what sort it is. -/
def viewCreation (d : Dialect) (n : Nested) (opening temporary : String) : Parser String := do
  let secure ← leading "SECURE"
  let materialized ← leading "MATERIALIZED"
  expectWord "VIEW"
  let guard ← ifNotExists
  let view ← pathText
  let lateGuard ← if guard.isEmpty then ifNotExists else pure ""
  let columns ← viewColumns d n
  let parameters ← listedOptions d n "WITH" " WITH "
  let clusters ← viewCluster
  let options ←
    if d.hasWarehouseOptions then listedOptions d n "OPTIONS" " OPTIONS" else pure ""
  let target ← if d.hasWarehouseOptions then clauseAfter "TO" pathText else pure ""
  let comment ← if d.hasWarehouseOptions then viewComment else pure ""
  expectWord "AS"
  let query ← n.queryText
  let binding ←
    if d.hasWarehouseOptions then phrasePart "WITH NO SCHEMA BINDING" else pure ""
  return opening ++ secure ++ materialized ++ temporary ++ "VIEW" ++ guard ++ " " ++ view ++
    lateGuard ++ target ++ columns ++ (if options.isEmpty then parameters else "") ++ comment ++
    clusters ++ options ++ " AS " ++ query ++ binding

/-! Indexes -/

/-- A choice for how a change is carried out, with a sign between or without one. -/
def choice (word : String) (choices : List String) (what : String) : Parser String := do
  let sign := if ← accept .eq then "= " else ""
  return word ++ " " ++ sign ++ (← expectPhraseOf (.phrase what) choices)

/-- How far a change may be carried out beside others. -/
def lockChoice : Parser String :=
  choice "LOCK" ["DEFAULT", "EXCLUSIVE", "NONE", "SHARED"]
    "DEFAULT, EXCLUSIVE, NONE or SHARED after LOCK [=]"

def algorithmChoice : Parser String :=
  choice "ALGORITHM" ["DEFAULT", "INSTANT", "INPLACE", "COPY"]
    "DEFAULT, INSTANT, INPLACE, or COPY after ALGORITHM [=]"

/-- How a new index is made beside other work. -/
def choices : Parser String := do
  let given ← many (firstOf
    [optionally (acceptWord "ALGORITHM") algorithmChoice,
      optionally (acceptWord "LOCK") lockChoice])
  return String.join (given.map (" " ++ ·))

def indexCreation (d : Dialect) (n : Nested) (opening : String) : Parser String := do
  let concurrently ← phrasePart "CONCURRENTLY"
  let guard ← ifNotExists
  let unnamed ← whenever guard.isEmpty (acceptWord "ON")
  let (given, early) ←
    if unnamed then pure ("", "")
    else
      let given ← pathText
      let method ← usingPart
      expectWord "ON"
      pure (" " ++ given, method)
  let table ← pathText
  let late ← usingPart
  let method := if late.isEmpty then early else late
  let columns ← indexColumns d n
  let included ← optionally (acceptWord "INCLUDE") nameTuple
  let nulls ← distinctNulls
  let parameters ←
    if d.hasIndexParameters then optionally (acceptWord "WITH") (parenthesized n.exprsText)
    else pure none
  let condition ← clauseAfter "WHERE" n.exprText
  let options ← indexOptionsPart
  let choices ← choices
  return opening ++ "INDEX" ++ concurrently ++ guard ++ given ++ " ON " ++ table ++
    (if method.isEmpty then "" else method ++ " ") ++ columns ++ clausePart " INCLUDE " included ++
    nulls ++ clausePart " WITH " (parameters.map Text.parenthesized) ++ condition ++ options ++
    choices

end SelectTree.Sql.Grammar
