import SelectTree.Sql.Grammar.Creation

namespace SelectTree.Sql.Grammar

open Sql.Parser

/-! Privileges: what they allow, on which things, and who is given them. -/

/-! What is allowed -/

/-- Privileges that no more words belong to. -/
def plainPrivileges : List String :=
  ["IMPORTED PRIVILEGES", "ADD SEARCH OPTIMIZATION", "ATTACH LISTING", "ATTACH POLICY",
    "BIND SERVICE ENDPOINT", "EVOLVE SCHEMA", "IMPORT SHARE", "MANAGE VERSIONS",
    "MANAGE RELEASES", "OVERRIDE SHARE RESTRICTIONS", "PURCHASE DATA EXCHANGE LISTING",
    "RESOLVE ALL", "READ SESSION", "APPLYBUDGET", "AUDIT", "CONNECT", "DELETE", "FAILOVER",
    "OPERATE", "READ", "REPLICATE", "TEMPORARY", "TRIGGER", "TRUNCATE", "USAGE", "OWNERSHIP",
    "DROP"]

/-- What may be made by those who may make things. -/
def creatable : List String :=
  ["APPLICATION PACKAGE", "COMPUTE POOL", "DATA EXCHANGE LISTING", "EXTERNAL VOLUME",
    "FAILOVER GROUP", "NETWORK POLICY", "ORGANIZATION LISTING", "REPLICATION GROUP", "ACCOUNT",
    "APPLICATION", "DATABASE", "INTEGRATION", "ROLE", "SCHEMA", "SHARE", "USER", "WAREHOUSE"]

def executable : List String :=
  ["DATA METRIC FUNCTION", "MANAGED ALERT", "MANAGED TASK", "ALERT", "TASK"]

def applicable : List String :=
  ["AGGREGATION POLICY", "AUTHENTICATION POLICY", "JOIN POLICY", "MASKING POLICY",
    "PACKAGES POLICY", "PASSWORD POLICY", "PROJECTION POLICY", "ROW ACCESS POLICY",
    "SESSION POLICY", "TAG"]

def manageable : List String :=
  ["ACCOUNT SUPPORT CASES", "EVENT SHARING", "LISTING AUTO FULFILLMENT", "GRANTS",
    "USER SUPPORT CASES", "WAREHOUSES"]

def modifiable : List String :=
  ["LOG LEVEL", "TRACE LEVEL", "SESSION LOG LEVEL", "SESSION TRACE LEVEL"]

/-- What a privilege is limited to, after its word. -/
def privilegeDetail (word : String) : Parser String := do
  match word with
  | "DATABASE ROLE" | "ROLE" => return " " ++ (← pathText)
  | "APPLY" => return " " ++ (← expectPhraseOf (.phrase "GRANT APPLY type") applicable)
  | "MANAGE" => return " " ++ (← expectPhraseOf (.phrase "GRANT MANAGE type") manageable)
  | "CREATE" => return clausePart " " (← acceptPhraseOf creatable)
  | "EXEC" | "EXECUTE" => return clausePart " " (← acceptPhraseOf executable)
  | "MODIFY" => return clausePart " " (← acceptPhraseOf modifiable)
  | "MONITOR" => return clausePart " " (← acceptPhraseOf ["EXECUTION", "SECURITY", "USAGE"])
  | _ => return clausePart " " (← nameTuple?)

def privilege : Parser String := do
  match ← acceptPhraseOf plainPrivileges with
  | some phrase => return phrase
  | none =>
      let word ← expectPhraseOf (.phrase "a privilege keyword")
        ["DATABASE ROLE", "APPLY", "CREATE", "EXEC", "EXECUTE", "INSERT", "MANAGE", "MODIFY",
          "MONITOR", "REFERENCES", "ROLE", "SELECT", "UPDATE"]
      return word ++ (← privilegeDetail word)

def privileges : Parser String := do
  if ← acceptWord "ALL" then return "ALL" ++ (← phrasePart "PRIVILEGES")
  else listedTexts privilege

/-! Things -/

/-- Things that are told by the schema or database that they are in, or will be. -/
def privilegePlaces : List String :=
  ["ALL TABLES IN SCHEMA", "ALL EXTERNAL TABLES IN SCHEMA", "ALL VIEWS IN SCHEMA",
    "ALL MATERIALIZED VIEWS IN SCHEMA", "ALL FUNCTIONS IN SCHEMA", "FUTURE SCHEMAS IN DATABASE",
    "FUTURE TABLES IN SCHEMA", "FUTURE EXTERNAL TABLES IN SCHEMA", "FUTURE VIEWS IN SCHEMA",
    "FUTURE MATERIALIZED VIEWS IN SCHEMA", "ALL SEQUENCES IN SCHEMA",
    "FUTURE SEQUENCES IN SCHEMA", "RESOURCE MONITOR", "COMPUTE POOL", "FAILOVER GROUP",
    "REPLICATION GROUP", "EXTERNAL VOLUME"]

def privilegeKinds : List String :=
  ["SEQUENCE", "DATABASE", "SCHEMA", "TABLE", "VIEW", "WAREHOUSE", "INTEGRATION", "USER",
    "CONNECTION", "PROCEDURE", "FUNCTION"]

/-- A qualified name in which a star stands for every name. -/
def starredPath : Parser String := do
  let part : Parser String := do
    if ← accept .star then return "*" else nameText
  let first ← part
  let more ← many (optionally (accept .period) part)
  return Text.joined "." (first :: more)

/-- A procedure or function, told from others of its name by the types of its parameters. -/
def routine (d : Dialect) (n : Nested) (kind given : String) : Parser String := do
  let types ← optionally (peekSymbol .lparen)
    (parenthesized (commaSeparatedBefore .rparen (dataTypeText d n)))
  let types := types.getD []
  return kind ++ " " ++ given ++
    if types.isEmpty then "" else Text.parenthesized (Text.listed types)

/-- What the privileges are about; the word for a table is left out. -/
def privilegeTarget (d : Dialect) (n : Nested) : Parser String := do
  match ← acceptPhraseOf privilegePlaces with
  | some phrase => return phrase ++ " " ++ (← listedTexts pathText)
  | none =>
      let kind ← acceptAnyOf privilegeKinds
      let names ← commaSeparated starredPath
      match kind with
      | none | some "TABLE" => return Text.listed names
      | some "PROCEDURE" => routine d n "PROCEDURE" (names.headD "")
      | some "FUNCTION" => routine d n "FUNCTION" (names.headD "")
      | some kind => return kind ++ " " ++ Text.listed names

/-! Grantees -/

def granteeKinds : List String :=
  ["ROLE", "USER", "SHARE", "GROUP", "PUBLIC", "DATABASE ROLE", "APPLICATION ROLE", "APPLICATION"]

/-- A user, perhaps after a name that all names of its sort begin with. -/
def grantee (d : Dialect) : Parser String := do
  let given ← user d
  match ← optionally (accept .colon) nameText with
  | some second => return if given.host.isSome then given.sql else given.sql ++ ":" ++ second
  | none => return given.sql

/-- A grantee whose kind is not told is of the kind of the one before it. -/
def grantees (d : Dialect) : Parser String := do
  let next (kind : String) : Parser (String × String) := do
    let kind := (← acceptPhraseOf granteeKinds).getD kind
    if kind.isEmpty then return (kind, ← grantee d)
    else if kind = "PUBLIC" then return (kind, "PUBLIC ")
    else return (kind, kind ++ " " ++ (← grantee d))
  let (kind, first) ← next ""
  iterate (fun ((kind, read) : String × List String) => do
    if ← accept .comma then
      let (kind, text) ← next kind
      return .inl (kind, text :: read)
    else return .inr (Text.listed read.reverse)) (kind, [first])

/-! Statements -/

def grant (d : Dialect) (n : Nested) : Parser String := do
  let given ← privileges
  let target ← clauseAfter "ON" (privilegeTarget d n)
  expectWord "TO"
  let grantees ← grantees d
  let option ← phrasePart "WITH GRANT OPTION"
  let current ← acceptPhraseOf ["COPY CURRENT GRANTS", "REVOKE CURRENT GRANTS"]
  let grantor ← clauseAfter "AS" nameText
  return "GRANT " ++ given ++ target ++ " TO " ++ grantees ++ option ++ clausePart " " current ++
    grantor ++ (← clauseAfter "GRANTED BY" nameText)

def revocation (d : Dialect) (n : Nested) : Parser String := do
  let given ← privileges
  let target ← clauseAfter "ON" (privilegeTarget d n)
  expectWord "FROM"
  let grantees ← grantees d
  let grantor ← clauseAfter "GRANTED BY" nameText
  return "REVOKE " ++ given ++ target ++ " FROM " ++ grantees ++ grantor ++ (← dropBehavior)

def denial (d : Dialect) (n : Nested) : Parser String := do
  let given ← privileges
  let hasTarget ← acceptWord "ON"
  if !hasTarget then fail (.refusedHere "DENY statements must specify an object")
  else
    let target ← privilegeTarget d n
    expectWord "TO"
    let grantees ← grantees d
    let cascade ← dropBehavior
    let grantor ← clauseAfter "AS" nameText
    return "DENY " ++ given ++ " ON " ++ target ++ " TO " ++ grantees ++ cascade ++ grantor

end SelectTree.Sql.Grammar
