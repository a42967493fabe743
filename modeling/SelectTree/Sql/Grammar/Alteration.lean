import SelectTree.Sql.Grammar.Definition

namespace SelectTree.Sql.Grammar

open Sql.Parser

/-! Changes of what a catalog holds. -/

/-! Columns of a table -/

def columnPlace (d : Dialect) : Parser String := do
  if !d.placesColumns then return ""
  else if ← acceptWord "FIRST" then return " FIRST"
  else clauseAfter "AFTER" nameText

def partition (n : Nested) : Parser String :=
  return "PARTITION " ++ Text.parenthesized (← parenthesized n.exprsText)

def columnAddition (d : Dialect) (n : Nested) (guard : String) : Parser String := do
  let word ← phrasePart "COLUMN"
  let lateGuard ← if d.guardsColumns then ifNotExists else pure ""
  let guarded := d.guardsColumns && !(guard.isEmpty && lateGuard.isEmpty)
  let column ← columnDefinition d n
  return "ADD" ++ word ++ (if guarded then " IF NOT EXISTS" else "") ++ " " ++ column ++
    (← columnPlace d)

/-- A selection that a table keeps beside its rows. -/
def projectionAddition (d : Dialect) (n : Nested) : Parser String := do
  let guard ← ifNotExists
  let given ← nameText
  let selection ← parenthesized (do
    expectWord "SELECT"
    let items ← projection d n
    let grouping ← grouping d n
    let (orderBy, interpolation) ← orderClause d n
    return "SELECT " ++ Text.listed (items.map Item.sql) ++
      (if grouping.isNone then "" else " " ++ grouping.sql) ++
      if orderBy.isEmpty then "" else " ORDER BY " ++ OrderKey.listSql orderBy ++ interpolation)
  return "ADD PROJECTION" ++ guard ++ " " ++ given ++ " " ++ Text.parenthesized selection

def addition (d : Dialect) (n : Nested) : Parser String := do
  match ← tableConstraint? d n with
  | some constraint => return "ADD " ++ constraint ++ (← phrasePart "NOT VALID")
  | none =>
      if ← whenever d.keepsProjections (acceptWord "PROJECTION") then projectionAddition d n
      else
        let guard ← ifNotExists
        let partitions ← many (optionally (acceptWord "PARTITION") (partition n))
        if partitions.isEmpty then columnAddition d n guard
        else return "ADD" ++ guard ++ " " ++ Text.joined " " partitions

def newName (d : Dialect) : Parser String := do
  if ← whenever d.namesConstraints (acceptWord "CONSTRAINT") then
    let old ← name
    expectWord "TO"
    return "RENAME CONSTRAINT " ++ old.sql ++ " TO " ++ (← nameText)
  else
    match ← acceptAnyOf ["TO", "AS"] with
    | some word => return "RENAME " ++ word ++ " " ++ (← pathText)
    | none =>
        let _ ← acceptWord "COLUMN"
        let old ← name
        expectWord "TO"
        return "RENAME COLUMN " ++ old.sql ++ " TO " ++ (← nameText)

def columnDropping : Parser String := do
  let word ← phrasePart "COLUMN"
  let guard ← ifExists
  let column ← name
  return "DROP" ++ word ++ guard ++ " " ++ column.sql ++ (← dropBehavior)

/-- The word for a projection is read in every dialect, and says something in few. -/
def dropping (d : Dialect) (n : Nested) : Parser String := do
  if ← acceptPhrase "IF EXISTS PARTITION" then return "DROP IF EXISTS " ++ (← partition n)
  else
    match ← acceptPhraseOf
        ["PARTITION", "CONSTRAINT", "PRIMARY KEY", "FOREIGN KEY", "INDEX", "PROJECTION",
          "CLUSTERING KEY"] with
    | some "PARTITION" => return "DROP " ++ (← partition n)
    | some "CONSTRAINT" =>
        let guard ← ifExists
        let given ← name
        return "DROP CONSTRAINT" ++ guard ++ " " ++ given.sql ++ (← dropBehavior)
    | some "PRIMARY KEY" => return "DROP PRIMARY KEY" ++ (← dropBehavior)
    | some "FOREIGN KEY" =>
        let given ← name
        return "DROP FOREIGN KEY " ++ given.sql ++ (← dropBehavior)
    | some "INDEX" => return "DROP INDEX " ++ (← nameText)
    | some "PROJECTION" =>
        if d.keepsProjections then
          let guard ← ifExists
          return "DROP PROJECTION" ++ guard ++ " " ++ (← nameText)
        else if ← acceptPhrase "CLUSTERING KEY" then return "DROP CLUSTERING KEY"
        else columnDropping
    | some phrase => return "DROP " ++ phrase
    | none => columnDropping

/-- The type, options and place of a column that stays. -/
def redefinition (d : Dialect) (n : Nested) : Parser String := do
  let type ← dataTypeText d n
  let options ← many (columnOption? d n)
  return " " ++ type ++ String.join (options.map (" " ++ ·)) ++ (← columnPlace d)

def newType (d : Dialect) (n : Nested) : Parser String := do
  let type ← dataTypeText d n
  let conversion ← if d.convertsColumns then clauseAfter "USING" n.exprText else pure ""
  return "TYPE " ++ type ++ conversion

def generation (d : Dialect) : Parser String := do
  let times ← acceptPhraseOf ["ALWAYS", "BY DEFAULT"]
  expectPhrase "AS IDENTITY"
  let options ← optionally (accept .lparen) (do
    let options ← sequenceOptions d
    expect .rparen
    return options)
  return "ADD GENERATED" ++ clausePart " " times ++ " AS IDENTITY" ++
    clausePart " (" (options.map (· ++ " )"))

def columnChange (d : Dialect) (n : Nested) : Parser String := do
  match ← acceptPhraseOf ["SET NOT NULL", "DROP NOT NULL", "SET DEFAULT", "DROP DEFAULT",
      "SET DATA TYPE", "TYPE", "ADD GENERATED"] with
  | some "SET DEFAULT" => return "SET DEFAULT " ++ (← n.exprText)
  | some "SET DATA TYPE" => return "SET DATA " ++ (← newType d n)
  | some "TYPE" => newType d n
  | some "ADD GENERATED" => generation d
  | some phrase => return phrase
  | none =>
      expected (.phrase (if d = .postgres then
        "SET/DROP NOT NULL, SET DEFAULT, SET DATA TYPE, or ADD GENERATED after ALTER COLUMN"
      else "SET/DROP NOT NULL, SET DEFAULT, or SET DATA TYPE after ALTER COLUMN"))

/-! Tables -/

def switchedRule (word what : String) (phrases : List String) : Parser String := do
  match ← acceptPhraseOf phrases with
  | some "ROW LEVEL SECURITY" => return word ++ " ROW LEVEL SECURITY"
  | some phrase => return word ++ " " ++ phrase ++ " " ++ (← nameText)
  | none => expected (.phrase what)

def renamedPartitions (n : Nested) : Parser String := do
  let old ← partition n
  expectWord "RENAME"
  expectPhrase "TO PARTITION"
  return old ++ " RENAME TO " ++ (← partition n)

def properties (d : Dialect) (n : Nested) : Parser String := do
  if ← acceptPhrase "SET TBLPROPERTIES" then
    return "SET TBLPROPERTIES" ++ (← tupleText (sqlOption d n))
  else
    let settings ← listedOptions d n "SET" "SET "
    if settings.isEmpty then
      expected (.phrase ("ADD, RENAME, PARTITION, SWAP, DROP, REPLICA IDENTITY, SET, or SET " ++
        "TBLPROPERTIES after ALTER TABLE"))
    else return settings

/-- What tells the rows of a table apart in its copies. -/
def replicaIdentity : Parser String := do
  match ← acceptPhraseOf ["NONE", "FULL", "DEFAULT", "USING INDEX"] with
  | some "USING INDEX" => return "USING INDEX " ++ (← nameText)
  | some word => return word
  | none =>
      expected (.phrase "NONE, FULL, DEFAULT, or USING INDEX index_name after REPLICA IDENTITY")

/-- What becomes of the rows in a projection. -/
def projectionChange? (d : Dialect) : Parser (Option String) :=
  let change : Parser String := do
    let guard ← ifExists
    let given ← nameText
    return guard ++ " " ++ given ++ (← clauseAfter "IN PARTITION" nameText)
  firstOf [openedIf d.keepsProjections "CLEAR PROJECTION" change,
    openedIf d.keepsProjections "MATERIALIZE PROJECTION" change]

def partText (n : Nested) : Parser String := do
  let word ← expectAnyOf ["PART", "PARTITION"]
  return word ++ " " ++ (← n.exprText)

/-- What becomes of a part of a table. -/
def partChange? (d : Dialect) (n : Nested) : Parser (Option String) := do
  if !d.keepsProjections then return none
  else
    match ← acceptAnyOf ["ATTACH", "DETACH", "FREEZE", "UNFREEZE"] with
    | none => return none
    | some word =>
        let part ← partText n
        let given ←
          if word = "FREEZE" || word = "UNFREEZE" then
            optionally (acceptWord "WITH") (do
              expectWord "NAME"
              nameText)
          else pure none
        return some (word ++ " " ++ part ++ clausePart " WITH NAME " given)

/-- A change of a table that is none of its rules, and begins with no name. -/
def ownChange (d : Dialect) (n : Nested) : Parser String := do
  match ← acceptPhraseOf ["DROP", "PARTITION", "CHANGE", "MODIFY", "ALTER", "SWAP", "CLUSTER BY",
      "SUSPEND RECLUSTER", "RESUME RECLUSTER", "LOCK", "ALGORITHM", "AUTO_INCREMENT",
      "VALIDATE CONSTRAINT", "REPLICA IDENTITY"] with
  | some "DROP" => dropping d n
  | some "PARTITION" => renamedPartitions n
  | some "CHANGE" =>
      let _ ← acceptWord "COLUMN"
      let old ← name
      let new ← name
      return "CHANGE COLUMN " ++ old.sql ++ " " ++ new.sql ++ (← redefinition d n)
  | some "MODIFY" =>
      let _ ← acceptWord "COLUMN"
      let column ← name
      return "MODIFY COLUMN " ++ column.sql ++ (← redefinition d n)
  | some "ALTER" =>
      let _ ← acceptWord "COLUMN"
      let column ← name
      return "ALTER COLUMN " ++ column.sql ++ " " ++ (← columnChange d n)
  | some "SWAP" =>
      expectWord "WITH"
      return "SWAP WITH " ++ (← pathText)
  | some "CLUSTER BY" =>
      return "CLUSTER BY " ++ Text.parenthesized (← parenthesized n.exprsText)
  | some "LOCK" => lockChoice
  | some "ALGORITHM" => algorithmChoice
  | some "AUTO_INCREMENT" =>
      let sign := if ← accept .eq then "= " else ""
      return "AUTO_INCREMENT " ++ sign ++ (← numberText d)
  | some "REPLICA IDENTITY" => return "REPLICA IDENTITY " ++ (← replicaIdentity)
  | some "VALIDATE CONSTRAINT" => return "VALIDATE CONSTRAINT " ++ (← nameText)
  | some phrase => return phrase
  | none =>
      if ← whenever d.hasOwners (acceptPhrase "OWNER TO") then
        return "OWNER TO " ++ (← owner)
      else
        match ← partChange? d n with
        | some change => return change
        | none => properties d n

def tableChange (d : Dialect) (n : Nested) : Parser String := do
  match ← acceptAnyOf ["ADD", "RENAME", "DISABLE", "ENABLE"] with
  | some "ADD" => addition d n
  | some "RENAME" => newName d
  | some "DISABLE" =>
      switchedRule "DISABLE" "ROW LEVEL SECURITY, RULE, or TRIGGER after DISABLE"
        ["ROW LEVEL SECURITY", "RULE", "TRIGGER"]
  | some _ =>
      switchedRule "ENABLE" "ALWAYS, REPLICA, ROW LEVEL SECURITY, RULE, or TRIGGER after ENABLE"
        ["ALWAYS RULE", "ALWAYS TRIGGER", "ROW LEVEL SECURITY", "REPLICA RULE", "REPLICA TRIGGER",
          "RULE", "TRIGGER"]
  | none =>
      match ← projectionChange? d with
      | some change => return change
      | none => ownChange d n

/-- A table, after the words that tell of what sort it is. -/
def tableAlteration (d : Dialect) (n : Nested) (opening : String) : Parser String := do
  let guard ← leading "IF EXISTS"
  let only ← leading "ONLY"
  let table ← pathText
  let cluster ← onCluster
  let changes ← listedTexts (tableChange d n)
  let place ← acceptPhraseOf ["LOCATION", "SET LOCATION"]
  let location ← match place with
    | some phrase => pure (" " ++ phrase ++ " " ++ (← nameText))
    | none => pure ""
  return opening ++ guard ++ only ++ table ++ cluster ++ " " ++ changes ++ location

/-! Other things -/

def indexAlteration : Parser String := do
  let index ← pathText
  if ← acceptWord "RENAME" then
    if ← acceptWord "TO" then return "ALTER INDEX " ++ index ++ " RENAME TO " ++ (← pathText)
    else expected (.phrase "TO after RENAME")
  else expected (.phrase "RENAME after ALTER INDEX")

def viewAlteration (d : Dialect) (n : Nested) : Parser String := do
  let view ← pathText
  let columns ← nameTuple?
  let parameters ← listedOptions d n "WITH" " WITH "
  expectWord "AS"
  let query ← n.queryText
  return "ALTER VIEW " ++ view ++ parameters ++ clausePart " " columns ++ " AS " ++ query

def labelPlace : Parser String := do
  match ← acceptAnyOf ["BEFORE", "AFTER"] with
  | some word => return " " ++ word ++ " " ++ (← nameText)
  | none => return ""

def typeAlteration : Parser String := do
  let type ← pathText
  match ← acceptPhraseOf ["RENAME TO", "RENAME VALUE", "ADD VALUE"] with
  | some "RENAME TO" => return "ALTER TYPE " ++ type ++ " RENAME TO " ++ (← nameText)
  | some "RENAME VALUE" =>
      let old ← name
      expectWord "TO"
      return "ALTER TYPE " ++ type ++ " RENAME VALUE " ++ old.sql ++ " TO " ++ (← nameText)
  | some _ =>
      let guard ← ifNotExists
      let label ← name
      return "ALTER TYPE " ++ type ++ " ADD VALUE" ++ guard ++ " " ++ label.sql ++ (← labelPlace)
  | none => expected (.phrase "\x7bRENAME TO | \x7b RENAME | ADD \x7d VALUE\x7d")

/-- A copy of a schema in another place, which may be given options of its own. -/
def replicaAddition (d : Dialect) (n : Nested) : Parser String := do
  let replica ← nameText
  let settings ← optionally (acceptWord "OPTIONS") (options (sqlOption d n))
  return "ADD REPLICA " ++ replica ++ clausePart " OPTIONS " settings

def schemaAlteration (d : Dialect) (n : Nested) : Parser String := do
  let guard ← ifExists
  let schema ← pathText
  let change ←
    match ← acceptPhraseOf ["SET OPTIONS", "SET DEFAULT COLLATE", "ADD REPLICA", "DROP REPLICA",
        "RENAME TO", "OWNER TO"] with
    | some "SET OPTIONS" => pure ("SET OPTIONS " ++ (← options (sqlOption d n)))
    | some "SET DEFAULT COLLATE" => pure ("SET DEFAULT COLLATE " ++ (← n.exprText))
    | some "ADD REPLICA" => replicaAddition d n
    | some "DROP REPLICA" => pure ("DROP REPLICA " ++ (← nameText))
    | some "RENAME TO" => pure ("RENAME TO " ++ (← pathText))
    | some _ => pure ("OWNER TO " ++ (← owner))
    | none => expected (.phrase "ALTER SCHEMA operation")
  return "ALTER SCHEMA" ++ guard ++ " " ++ schema ++ " " ++ change

def policyAlteration (n : Nested) : Parser String := do
  let policy ← nameText
  expectWord "ON"
  let table ← pathText
  let opening := "ALTER POLICY " ++ policy ++ " ON " ++ table
  if ← acceptWord "RENAME" then
    expectWord "TO"
    return opening ++ " RENAME TO " ++ (← nameText)
  else
    let users ← clauseAfter "TO" (listedTexts owner)
    let condition ← conditionAfter n "USING"
    return opening ++ users ++ condition ++ (← conditionAfter n "WITH CHECK")

def connectorAlteration (d : Dialect) (n : Nested) : Parser String := do
  let connector ← nameText
  expectWord "SET"
  let properties ← optionally (acceptWord "DCPROPERTIES") (tupleText (sqlOption d n))
  let address ← optionally (acceptWord "URL") literalText
  let owner ←
    match ← acceptPhraseOf ["OWNER USER", "OWNER ROLE"] with
    | some phrase => pure (" SET " ++ phrase ++ " " ++ (← nameText))
    | none => pure ""
  return "ALTER CONNECTOR " ++ connector ++ clausePart " SET DCPROPERTIES" properties ++
    clausePart " SET URL " (address.map (enclosed '\'')) ++ owner

def alteration (d : Dialect) (n : Nested) : Parser String := do
  match ← expectAnyOf
      ["VIEW", "TYPE", "TABLE", "INDEX", "ROLE", "POLICY", "CONNECTOR", "ICEBERG", "SCHEMA"] with
  | "VIEW" => viewAlteration d n
  | "TYPE" => typeAlteration
  | "TABLE" => tableAlteration d n "ALTER TABLE "
  | "INDEX" => indexAlteration
  | "ROLE" => roleAlteration d n
  | "POLICY" => policyAlteration n
  | "CONNECTOR" => connectorAlteration d n
  | "SCHEMA" => schemaAlteration d n
  | _ =>
      expectWord "TABLE"
      tableAlteration d n "ALTER ICEBERG TABLE "

end SelectTree.Sql.Grammar
