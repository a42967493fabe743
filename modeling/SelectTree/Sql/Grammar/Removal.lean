import SelectTree.Sql.Grammar.TableDefinition

namespace SelectTree.Sql.Grammar

open Sql.Parser

/-! What is taken out of a catalog, and tables that are emptied. -/

/-! Removal -/

/-- Kinds of things that are all removed in the same words. -/
def removedKinds : List String :=
  ["TABLE", "VIEW", "MATERIALIZED VIEW", "INDEX", "ROLE", "SCHEMA", "DATABASE", "SEQUENCE",
    "STAGE", "TYPE", "USER", "STREAM"]

def removedNames (kind opening : String) : Parser String := do
  let guard ← ifExists
  let names ← listedTexts pathText
  let start ← rest
  let cascade ← phrasePart "CASCADE"
  let restrict ← phrasePart "RESTRICT"
  let purge ← phrasePart "PURGE"
  let refuse (reason : String) : Parser String :=
    fun _ => .error ⟨.refusedHere reason, start⟩
  if !cascade.isEmpty && !restrict.isEmpty then
    refuse "Cannot specify both CASCADE and RESTRICT in DROP"
  else if kind = "ROLE" && !(cascade ++ restrict ++ purge).isEmpty then
    refuse "Cannot specify CASCADE, RESTRICT, or PURGE in DROP ROLE"
  else
    let table ← clauseAfter "ON" pathText
    return opening ++ kind ++ guard ++ " " ++ names ++ cascade ++ restrict ++ purge ++ table

def parameterMode : Parser String := do
  match ← acceptAnyOf ["IN", "OUT", "INOUT"] with
  | some mode => return mode ++ " "
  | none => return ""

def isSpace : Token → Bool
  | .space _ => true
  | _ => false

/-- The last token before `finish` that is no space, and all that follows it. -/
def fromLastBefore (start finish : List Token) : List Token :=
  let read := start.take (start.length - finish.length)
  let spaces := (read.reverse.takeWhile isSpace).length
  start.drop (read.length - spaces - 1)

/-- A type with a name before it. What was read as a type, between the two places, is a name if
another type follows it; its last token counts. -/
def namedParameter? (d : Dialect) (n : Nested) (start finish : List Token) :
    Parser (Option String) := do
  let type ← if ← peekWord "DEFAULT" then pure none else attempt (dataTypeText d n)
  match type, fromLastBefore start finish with
  | none, _ => return none
  | some type, .word w :: _ => return some (w.spelling ++ " " ++ type)
  | some _, place => fun _ => .error ⟨.expected (.phrase "a name or type"), place⟩

/-- A parameter of a function: a type, perhaps with a name before it. -/
def parameter (d : Dialect) (n : Nested) : Parser String := do
  let mode ← parameterMode
  let start ← rest
  let first ← dataTypeText d n
  let named ← namedParameter? d n start (← rest)
  let byWord ← acceptWord "DEFAULT"
  let given ← if byWord then pure true else accept .eq
  let default ← if given then pure (" = " ++ (← n.exprText)) else pure ""
  return mode ++ named.getD first ++ default

def function (d : Dialect) (n : Nested) : Parser String := do
  let function ← pathText
  let parameters ← optionally (peekSymbol .lparen)
    (parenthesized (commaSeparatedBefore .rparen (parameter d n)))
  return function ++ clausePart "" (parameters.map (Text.parenthesized ∘ Text.listed))

def removedFunctions (d : Dialect) (n : Nested) (kind : String) : Parser String := do
  let guard ← ifExists
  let functions ← listedTexts (function d n)
  return "DROP " ++ kind ++ guard ++ " " ++ functions ++ (← dropBehavior)

/-- A thing that belongs to a table. -/
def removedRule (kind : String) (given table : Parser String) : Parser String := do
  let guard ← ifExists
  let given ← given
  let table ← table
  return "DROP " ++ kind ++ guard ++ " " ++ given ++ table ++ (← dropBehavior)

def removedSecret (temporary : String) : Parser String := do
  let guard ← ifExists
  let secret ← name
  let storage ← optionally (acceptWord "FROM") (attemptPast nameText)
  return "DROP " ++ temporary ++ "SECRET" ++ guard ++ " " ++ secret.sql ++
    clausePart " FROM " storage.join

def removalTargets : String :=
  "CONNECTOR, DATABASE, EXTENSION, FUNCTION, INDEX, POLICY, PROCEDURE, ROLE, SCHEMA, SECRET, " ++
    "SEQUENCE, STAGE, TABLE, TRIGGER, TYPE, VIEW, MATERIALIZED VIEW or USER after DROP"

def removal (d : Dialect) (n : Nested) : Parser String := do
  let temporary ← if d.dropsTemporary then leading "TEMPORARY" else pure ""
  match ← acceptPhraseOf removedKinds with
  | some kind => removedNames kind ("DROP " ++ temporary)
  | none =>
      match ← acceptAnyOf
          ["FUNCTION", "PROCEDURE", "POLICY", "CONNECTOR", "DOMAIN", "SECRET", "TRIGGER",
            "EXTENSION"] with
      | some "FUNCTION" => removedFunctions d n "FUNCTION"
      | some "PROCEDURE" => removedFunctions d n "PROCEDURE"
      | some "POLICY" =>
          removedRule "POLICY" nameText (do
            expectWord "ON"
            return " ON " ++ (← pathText))
      | some "CONNECTOR" =>
          let guard ← ifExists
          return "DROP CONNECTOR" ++ guard ++ " " ++ (← nameText)
      | some "DOMAIN" => removedRule "DOMAIN" pathText (pure "")
      | some "SECRET" => removedSecret temporary
      | some "TRIGGER" => removedRule "TRIGGER" pathText (clauseAfter "ON" pathText)
      | some _ =>
          let guard ← ifExists
          let names ← listedTexts nameText
          return "DROP EXTENSION" ++ guard ++ " " ++ names ++ (← dropBehavior)
      | none => expected (.phrase removalTargets)

/-! Truncation -/

def truncation (d : Dialect) (n : Nested) : Parser String := do
  let word ← leading "TABLE"
  let only ← leading "ONLY"
  let tables ← listedTexts pathText
  let partitions ← optionally (acceptWord "PARTITION") (parenthesized n.exprsText)
  let counters ←
    if d.hasTruncationOptions then acceptPhraseOf ["RESTART IDENTITY", "CONTINUE IDENTITY"]
    else pure none
  let behavior ← if d.hasTruncationOptions then dropBehavior else pure ""
  let cluster ← clauseAfter "ON CLUSTER" nameText
  return "TRUNCATE " ++ word ++ only ++ tables ++ clausePart " " counters ++ behavior ++
    clausePart " PARTITION " (partitions.map Text.parenthesized) ++ cluster

end SelectTree.Sql.Grammar
