import SelectTree.Sql.Grammar.Creation
import SelectTree.Sql.Grammar.Role
import SelectTree.Sql.Grammar.Routine

namespace SelectTree.Sql.Grammar

open Sql.Parser

/-! What else a catalog holds, and how any of it is made. -/

/-! Schemas and databases -/

def schemaName : Parser String := do
  if ← acceptWord "AUTHORIZATION" then return "AUTHORIZATION " ++ (← nameText)
  else
    let schema ← pathText
    return schema ++ (← clauseAfter "AUTHORIZATION" nameText)

/-- Options in parentheses after a word, which are printed even where there are none. -/
def writtenOptions (d : Dialect) (n : Nested) (word gap : String) : Parser String := do
  if ← acceptWord word then return " " ++ word ++ gap ++ (← options (sqlOption d n))
  else return ""

def schemaCreation (d : Dialect) (n : Nested) : Parser String := do
  let guard ← ifNotExists
  let schema ← schemaName
  let collation ← clauseAfter "DEFAULT COLLATE" n.exprText
  let parameters ← writtenOptions d n "WITH" " "
  let options ← writtenOptions d n "OPTIONS" ""
  let clone ← clauseAfter "CLONE" pathText
  return "SCHEMA" ++ guard ++ " " ++ schema ++ collation ++ parameters ++ options ++ clone

def databaseCreation : Parser String := do
  let guard ← ifNotExists
  let database ← pathText
  let places ← many (do
    match ← acceptAnyOf ["LOCATION", "MANAGEDLOCATION"] with
    | some word => return some (word, enclosed '\'' (← literalText))
    | none => return none)
  let place (word : String) : String :=
    clausePart (" " ++ word ++ " ") (places.reverse.lookup word)
  let clone ← clauseAfter "CLONE" pathText
  return "DATABASE" ++ guard ++ " " ++ database ++ place "LOCATION" ++ place "MANAGEDLOCATION" ++
    clone

/-! Sequences, types and domains -/

def sequenceCreation (d : Dialect) (n : Nested) : Parser String := do
  let guard ← ifNotExists
  let sequence ← pathText
  let type ← clauseAfter "AS" (dataTypeText d n)
  let options ← sequenceOptions d
  let owner ← clauseAfter "OWNED BY" (do
    if ← acceptWord "NONE" then return "NONE" else pathText)
  return "SEQUENCE" ++ guard ++ " " ++ sequence ++ type ++ options ++ owner

def typeAttribute (d : Dialect) (n : Nested) : Parser String := do
  let part ← name
  let type ← dataTypeText d n
  return part.sql ++ " " ++ type ++ (← clauseAfter "COLLATE" pathText)

/-- The parts of a type that is made of others; a comma may end them. -/
def typeAttributes (d : Dialect) (n : Nested) : Parser (List String) := do
  if !(← accept .lparen) then return []
  else if ← accept .rparen then return []
  else
    iterate (fun (read : List String) => do
      let part ← typeAttribute d n
      let comma ← accept .comma
      if ← accept .rparen then return .inr (part :: read).reverse
      else if comma then return .inl (part :: read)
      else expected (.phrase "',' or ')' after attribute definition")) []

def typeCreation (d : Dialect) (n : Nested) : Parser String := do
  let type ← pathText
  expectWord "AS"
  if ← acceptWord "ENUM" then
    let labels ← parenthesized (commaSeparatedBefore .rparen name)
    return "TYPE " ++ type ++ " AS ENUM " ++ Text.parenthesized (Name.listSql labels)
  else
    let attributes ← typeAttributes d n
    return "TYPE " ++ type ++ " AS " ++ Text.parenthesized (Text.listed attributes)

def domainCreation (d : Dialect) (n : Nested) : Parser String := do
  let domain ← pathText
  expectWord "AS"
  let type ← dataTypeText d n
  let collation ← clauseAfter "COLLATE" nameText
  let default ← clauseAfter "DEFAULT" n.exprText
  let constraints ← many (tableConstraint? d n)
  return "DOMAIN " ++ domain ++ " AS " ++ type ++ collation ++ default ++
    String.join (constraints.map (" " ++ ·))

/-! Extensions and virtual tables -/

def extensionCreation : Parser String := do
  let guard ← ifNotExists
  let extension ← name
  let details ←
    if ← acceptWord "WITH" then
      let schema ← clauseAfter "SCHEMA" nameText
      let version ← clauseAfter "VERSION" nameText
      pure (schema ++ version ++ (← phrasePart "CASCADE"))
    else pure ""
  return "EXTENSION" ++ guard ++ " " ++ extension.sql ++
    if details.isEmpty then "" else " WITH" ++ details

def virtualTableCreation : Parser String := do
  expectWord "TABLE"
  let guard ← ifNotExists
  let table ← pathText
  expectWord "USING"
  let method ← name
  return "VIRTUAL TABLE" ++ guard ++ " " ++ table ++ " USING " ++ method.sql ++
    clausePart " " (← nameTuple?)

/-! Users, policies and secrets -/

/-- The value of an option that a sign joins to its key, without blanks. -/
def joinedValue : Parser String
  | .string text :: ts => .ok (enclosed '\'' text, ts)
  | .number text _ :: ts => .ok (text, ts)
  | .word w :: ts =>
      match w.keyword with
      | some .TRUE | some .FALSE => .ok (Keyword.capitals w.text, ts)
      | _ => .ok (w.text, ts)
  | ts => .error ⟨.expected (.phrase "expected option value"), past ts⟩

def joinedOption (w : Word) : Parser String := do
  expect .eq
  return w.text ++ "=" ++ (← joinedValue)

/-- Options up to any of the given words, or in parentheses to the closing one. The end of the text
ends them too, and commas between them say nothing. A message speaks of the token after the one at
fault. -/
def joinedOptions (inParentheses : Bool) (ends : List String) : Parser (List String) :=
  iterate (fun (read : List String) => do
    let start ← rest
    match ← acceptToken some with
    | none => return .inr read.reverse
    | some (.symbol .comma) => return .inl read
    | some (.symbol .rparen) =>
        if inParentheses then return .inr read.reverse
        else expected (.phrase " another option or EOF")
    | some (.word w) =>
        if (Token.word w).capitals?.any ends.contains then fun _ => .ok (.inr read.reverse, start)
        else return .inl ((← joinedOption w) :: read)
    | some _ => expected (.phrase "another option, EOF, Comma or ')'")) []

def userCreation (opening : String) : Parser String := do
  let guard ← ifNotExists
  let user ← nameText
  let options ← joinedOptions false ["WITH", "TAG"]
  let word ← phrasePart "WITH"
  let tags ←
    if ← acceptWord "TAG" then
      expect .lparen
      joinedOptions true []
    else pure []
  return opening ++ "USER" ++ guard ++ " " ++ user ++ String.join (options.map (" " ++ ·)) ++
    if tags.isEmpty then "" else word ++ " TAG " ++ Text.parenthesized (Text.listed tags)

/-- What a message says of a missing owner: the error of the name comes after its own. -/
def missingOwner : Expectation :=
  .phrase ("CURRENT_USER, CURRENT_ROLE, SESSION_USER or identifier after OWNER TO. " ++
    "sql parser error: Expected: identifier")

def owner : Parser String := do
  match ← acceptAnyOf ["CURRENT_USER", "CURRENT_ROLE", "SESSION_USER"] with
  | some word => return word
  | none => Name.sql <$> token missingOwner nameOfToken?

/-- A condition in parentheses after a phrase, or nothing. -/
def conditionAfter (n : Nested) (phrase : String) : Parser String :=
  clauseAfter phrase (return Text.parenthesized (← parenthesized n.exprText))

def policyCreation (n : Nested) : Parser String := do
  let policy ← nameText
  expectWord "ON"
  let table ← pathText
  let kind ← clauseAfter "AS" (expectAnyOf ["PERMISSIVE", "RESTRICTIVE"])
  let command ← clauseAfter "FOR" (expectAnyOf ["ALL", "SELECT", "INSERT", "UPDATE", "DELETE"])
  let users ← clauseAfter "TO" (listedTexts owner)
  let condition ← conditionAfter n "USING"
  return "POLICY " ++ policy ++ " ON " ++ table ++ kind ++ command ++ users ++ condition ++
    (← conditionAfter n "WITH CHECK")

/-- The name of a secret and the place where it is kept. Neither need be there. -/
def secretName : Parser String := do
  if ← peekSymbol .lparen then return ""
  else
    let isPlaced ← acceptWord "IN"
    let given ← attemptPast nameText
    let place ←
      if isPlaced && given.isSome then pure none
      else if ← peekSymbol .lparen then pure none
      else optionally (acceptWord "IN") (attemptPast nameText)
    let place := if isPlaced && given.isSome then given else place.join
    let given := if isPlaced then none else given
    return clausePart "" (given.map (· ++ " ")) ++ clausePart "IN " (place.map (· ++ " "))

def secretCreation (opening : String) : Parser String := do
  let guard ← leading "IF NOT EXISTS"
  let given ← secretName
  expect .lparen
  expectWord "TYPE"
  let type ← nameText
  let option : Parser String := do
    let key ← nameText
    return key ++ " " ++ (← nameText)
  let options ← optionally (accept .comma) (listedTexts option)
  expect .rparen
  return opening ++ "SECRET " ++ guard ++ given ++ "( TYPE " ++ type ++ clausePart ", " options ++
    " )"

/-! Connectors and servers -/

def connectorCreation (d : Dialect) (n : Nested) : Parser String := do
  let guard ← ifNotExists
  let connector ← nameText
  let quoted : Parser String := enclosed '\'' <$> literalText
  let type ← clauseAfter "TYPE" quoted
  let address ← clauseAfter "URL" quoted
  let comment ← optionally (acceptWord "COMMENT") (do
    let _ ← accept .eq
    return enclosed '\'' (← comment))
  let properties ← optionally (acceptPhrase "WITH DCPROPERTIES") (tupleText (sqlOption d n))
  return "CONNECTOR" ++ guard ++ " " ++ connector ++ type ++ address ++
    clausePart " COMMENT = " comment ++ clausePart " WITH DCPROPERTIES" properties

def serverCreation : Parser String := do
  let guard ← ifNotExists
  let server ← pathText
  let type ← clauseAfter "TYPE" nameText
  let version ← clauseAfter "VERSION" nameText
  expectPhrase "FOREIGN DATA WRAPPER"
  let wrapper ← pathText
  let option : Parser String := do
    let key ← nameText
    return key ++ " " ++ (← nameText)
  let options ← optionally (acceptWord "OPTIONS") (tupleText option)
  return "SERVER" ++ guard ++ " " ++ server ++ type ++ version ++ " FOREIGN DATA WRAPPER " ++
    wrapper ++ clausePart " OPTIONS " options

/-! Statements -/

/-- Things that can only be made where nothing is replaced. -/
def plainCreation (d : Dialect) (n : Nested) (altering temporary : String) : Parser String := do
  match ← acceptPhraseOf ["EXTENSION", "INDEX", "UNIQUE INDEX", "VIRTUAL", "SCHEMA", "DATABASE",
      "ROLE", "SEQUENCE", "TYPE", "PROCEDURE", "CONNECTOR", "SERVER"] with
  | some "EXTENSION" => return "CREATE " ++ (← extensionCreation)
  | some "INDEX" => indexCreation d n "CREATE "
  | some "UNIQUE INDEX" => indexCreation d n "CREATE UNIQUE "
  | some "VIRTUAL" => return "CREATE " ++ (← virtualTableCreation)
  | some "SCHEMA" => return "CREATE " ++ (← schemaCreation d n)
  | some "DATABASE" => return "CREATE " ++ (← databaseCreation)
  | some "ROLE" => return "CREATE " ++ (← roleCreation d)
  | some "SEQUENCE" => return "CREATE " ++ temporary ++ (← sequenceCreation d n)
  | some "TYPE" => return "CREATE " ++ (← typeCreation d n)
  | some "PROCEDURE" => procedureCreation d n altering
  | some "CONNECTOR" => return "CREATE " ++ (← connectorCreation d n)
  | some _ => return "CREATE " ++ (← serverCreation)
  | none => expected (.phrase "an object type after CREATE")

def replaceableKinds : List String :=
  ["POLICY", "EXTERNAL", "FUNCTION", "DOMAIN", "TRIGGER", "CONSTRAINT TRIGGER", "MACRO", "SECRET",
    "USER"]

/-- The words before the kind of what is made, each with a blank after it. -/
structure CreationWords where
  replacing : String
  altering : String
  temporary : String

/-- Things that may be made in place of others, after their kind, which stands at `start`. -/
def replaceableCreation (d : Dialect) (n : Nested) (words : CreationWords) (start : List Token)
    (kind : String) : Parser String := do
  let opening := "CREATE " ++ words.replacing ++ words.temporary
  let unknown : Parser String := fun _ =>
    .error ⟨.expected (.phrase "an object type after CREATE"), start⟩
  match kind with
  | "POLICY" => return "CREATE " ++ (← policyCreation n)
  | "EXTERNAL" => externalTableCreation d n ("CREATE " ++ words.replacing)
  | "FUNCTION" =>
      if d.hasFunctions then functionCreation d n opening else unknown
  | "DOMAIN" => return "CREATE " ++ (← domainCreation d n)
  | "TRIGGER" =>
      triggerCreation d n ("CREATE " ++ words.temporary ++ words.altering ++ words.replacing)
  | "CONSTRAINT TRIGGER" =>
      triggerCreation d n
        ("CREATE " ++ words.temporary ++ words.altering ++ words.replacing ++ "CONSTRAINT ")
  | "MACRO" => if d.hasMacros then macroCreation n opening else unknown
  | "SECRET" => secretCreation opening
  | _ => userCreation ("CREATE " ++ words.replacing)

def viewOpenings : List String :=
  ["MATERIALIZED", "VIEW", "SECURE MATERIALIZED VIEW", "SECURE VIEW"]

def creation (d : Dialect) (n : Nested) : Parser String := do
  let replacing ← leading "OR REPLACE"
  let altering ← leading "OR ALTER"
  let isLocal ← leading "LOCAL"
  let isGlobal ← leading "GLOBAL"
  let transient ← leading "TRANSIENT"
  let temporary :=
    if (← acceptAnyOf ["TEMP", "TEMPORARY"]).isSome then "TEMPORARY " else ""
  let parameters ← viewParameters d
  let reach := if isGlobal.isEmpty then isLocal else isGlobal
  if ← acceptWord "TABLE" then
    tableCreation d n ("CREATE " ++ replacing ++ reach ++ temporary ++ transient)
  else if ← viewOpenings.anyM peekPhrase then
    viewCreation d n ("CREATE " ++ altering ++ replacing ++ parameters) temporary
  else
    let start ← rest
    match ← acceptPhraseOf replaceableKinds with
    | some kind => replaceableCreation d n ⟨replacing, altering, temporary⟩ start kind
    | none =>
        if replacing.isEmpty then plainCreation d n altering temporary
        else
          expected (.phrase
            "[EXTERNAL] TABLE or [MATERIALIZED] VIEW or FUNCTION after CREATE OR REPLACE")

end SelectTree.Sql.Grammar
