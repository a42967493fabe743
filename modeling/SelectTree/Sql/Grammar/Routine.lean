import SelectTree.Sql.Grammar.Removal

namespace SelectTree.Sql.Grammar

open Sql.Parser

/-! Statements with statements in them, and the functions, procedures and triggers that hold
them. -/

/-! Blocks -/

/-- The spelling of a word that must stand here. -/
def spelledWord (word : String) : Parser String := do
  let given := (← peek).map Token.spelling
  expectWord word
  return given.getD word

/-- Statements up to any of the given words, each with a semicolon after it. -/
def block (n : Nested) (ends : List String) : Parser (List String) :=
  iterate (fun (read : List String) => do
    match ← peek with
    | none => return .inr read.reverse
    | some t =>
        if t.capitals?.any ends.contains then return .inr read.reverse
        else
          let inner ← n.statement
          expect .semicolon
          return .inl (inner.sql :: read)) []

def blockSql (statements : List String) : String :=
  if statements.isEmpty then "" else Text.joined "; " statements ++ ";"

/-- Statements one after another, perhaps between a `BEGIN` and an `END` of its own. -/
structure Steps where
  statements : List String
  marks : Option (String × String)

def Steps.sql (s : Steps) : String :=
  match s.marks with
  | none => blockSql s.statements
  | some (first, last) => first ++ " " ++ blockSql s.statements ++ " " ++ last

/-- The steps of a branch, which are left out where there are none. -/
def Steps.part (s : Steps) : String :=
  if s.statements.isEmpty then "" else " " ++ s.sql

def steps (n : Nested) (ends : List String) : Parser Steps := do
  if ← peekWord "BEGIN" then
    let first ← spelledWord "BEGIN"
    let statements ← block n ends
    let last ← spelledWord "END"
    return ⟨statements, some (first, last)⟩
  else return ⟨← block n ends, none⟩

/-- A branch after its word: a condition and what is done where it holds. -/
def branch (n : Nested) (word : String) (ends : List String) : Parser String := do
  let condition ← n.exprText
  expectWord "THEN"
  return word ++ " " ++ condition ++ " THEN" ++ (← steps n ends).part

def branches (n : Nested) (word : String) (ends : List String) : Parser (List String) :=
  many (do
    if ← peekWord word then
      let given ← spelledWord word
      return some (← branch n given ends)
    else return none)

def otherwise (n : Nested) : Parser (List String) := do
  if ← peekWord "ELSE" then
    let given ← spelledWord "ELSE"
    return [given ++ (← steps n ["END"]).part]
  else return []

def caseStatement (n : Nested) : Parser String := do
  let given ← spelledWord "CASE"
  let subject ← if ← peekWord "WHEN" then pure [] else pure [← n.exprText]
  let first ← spelledWord "WHEN"
  let ends := ["WHEN", "ELSE", "END"]
  let head ← branch n first ends
  let tail ← branches n "WHEN" ends
  let default ← otherwise n
  expectWord "END"
  let closing := if ← acceptWord "CASE" then " CASE" else ""
  return Text.joined " " (given :: subject ++ head :: tail ++ default) ++ " END" ++ closing

def ifStatement (n : Nested) : Parser String := do
  let given ← spelledWord "IF"
  let ends := ["ELSE", "ELSEIF", "END"]
  let head ← branch n given ends
  let tail ← branches n "ELSEIF" ends
  let default ← otherwise n
  expectWord "END"
  let last ← spelledWord "IF"
  return Text.joined " " (head :: tail ++ default) ++ " END " ++ last

def whileStatement (n : Nested) : Parser String := do
  let given ← spelledWord "WHILE"
  let condition ← n.exprText
  return given ++ " " ++ condition ++ (← steps n ["END"]).part

/-- A statement that is a block of others; it keeps the word that opens it. -/
def blockStatement? (n : Nested) : Parser (Option String) := do
  if ← peekWord "CASE" then some <$> caseStatement n
  else if ← peekWord "IF" then some <$> ifStatement n
  else if ← peekWord "WHILE" then some <$> whileStatement n
  else return none

/-! Functions -/

/-- The aspects of a function: each may be told once, in any order. -/
inductive Aspect
  | language
  | behavior
  | nullInput
  | parallel
  | body
  | result
  deriving DecidableEq

/-- The aspect that a phrase tells of, with what a message calls it. -/
def aspectPhrases : List (String × Aspect × String) :=
  let behavior := "IMMUTABLE | STABLE | VOLATILE"
  let nullInput := "CALLED ON NULL INPUT | RETURNS NULL ON NULL INPUT | STRICT"
  [("AS", .body, "AS"), ("LANGUAGE", .language, "LANGUAGE"),
    ("IMMUTABLE", .behavior, behavior), ("STABLE", .behavior, behavior),
    ("VOLATILE", .behavior, behavior), ("CALLED ON NULL INPUT", .nullInput, nullInput),
    ("RETURNS NULL ON NULL INPUT", .nullInput, nullInput), ("STRICT", .nullInput, nullInput),
    ("PARALLEL", .parallel, "PARALLEL \x7b UNSAFE | RESTRICTED | SAFE \x7d"),
    ("RETURN", .result, "RETURN")]

def Aspect.isBody : Aspect → Bool
  | .body | .result => true
  | _ => false

/-- Whether two phrases tell of the same thing. -/
def Aspect.clashes (a b : Aspect) : Bool :=
  a = b || (a.isBody && b.isBody)

def functionBody : Parser String := do
  match ← acceptToken fun
    | .dollarString tag text => some (Token.dollarString tag text).spelling
    | _ => none with
  | some text => return text
  | none => return quotedText '\'' (← literalText)

def aspectDetail (n : Nested) (phrase : String) : Aspect → Parser String
  | .body => return "AS " ++ (← functionBody)
  | .language => return "LANGUAGE " ++ (← nameText)
  | .parallel => do
      match ← acceptAnyOf ["UNSAFE", "RESTRICTED", "SAFE"] with
      | some word => return "PARALLEL " ++ word
      | none => expected (.phrase "one of UNSAFE | RESTRICTED | SAFE")
  | .result => return "RETURN " ++ (← n.exprText)
  | .behavior | .nullInput => return phrase

def aspects (n : Nested) : Parser (List (Aspect × String)) :=
  iterate (fun (read : List (Aspect × String)) => do
    match ← acceptPhraseOf (aspectPhrases.map Prod.fst) with
    | none => return .inr read
    | some phrase =>
        match aspectPhrases.lookup phrase with
        | none => return .inr read
        | some (aspect, what) =>
            if read.any fun (given, _) => given.clashes aspect then
              fail (.refused (what ++ " specified more than once"))
            else
              let detail ← aspectDetail n phrase aspect
              return .inl ((aspect, detail) :: read)) []

/-- A function, after its word. -/
def functionCreation (d : Dialect) (n : Nested) (opening : String) : Parser String := do
  let function ← pathText
  let parameters ← parenthesized (commaSeparatedBefore .rparen (parameter d n))
  let result ← clauseAfter "RETURNS" (dataTypeText d n)
  let told ← aspects n
  let order : List Aspect := [.language, .behavior, .nullInput, .parallel, .body, .result]
  let parts := order.filterMap fun aspect => told.lookup aspect
  return opening ++ "FUNCTION " ++ function ++ Text.parenthesized (Text.listed parameters) ++
    result ++ String.join (parts.map (" " ++ ·))

/-! Procedures -/

def procedureParameter (d : Dialect) (n : Nested) : Parser String := do
  let mode ← parameterMode
  let given ← nameText
  return mode ++ given ++ " " ++ (← dataTypeText d n)

/-- Parameters in parentheses; a comma may stand before the closing one. -/
def procedureParameters (d : Dialect) (n : Nested) : Parser (List String) := do
  if !(← accept .lparen) then return []
  else if ← accept .rparen then return []
  else
    iterate (fun (read : List String) => do
      let given ← optionally (peekAny Token.isWord) (procedureParameter d n)
      let read := given.toList ++ read
      let comma ← accept .comma
      if ← accept .rparen then return .inr read.reverse
      else if comma then return .inl read
      else expected (.phrase "',' or ')' after parameter definition")) []

def procedureCreation (d : Dialect) (n : Nested) (altering : String) : Parser String := do
  let procedure ← pathText
  let parameters ← procedureParameters d n
  let language ← clauseAfter "LANGUAGE" nameText
  expectWord "AS"
  let body ← steps n ["END"]
  return "CREATE " ++ altering ++ "PROCEDURE " ++ procedure ++
    (if parameters.isEmpty then "" else " " ++ Text.parenthesized (Text.listed parameters)) ++
    language ++ " AS " ++ body.sql

/-! Triggers -/

def triggerPeriods : List String :=
  ["FOR", "BEFORE", "AFTER", "INSTEAD OF"]

def triggerEvent : Parser String := do
  match ← expectAnyOf ["INSERT", "UPDATE", "DELETE", "TRUNCATE"] with
  | "UPDATE" => return "UPDATE" ++ (← clauseAfter "OF" (listedTexts nameText))
  | word => return word

def triggerEvents : Parser String := do
  let first ← triggerEvent
  let more ← many (optionally (acceptWord "OR") triggerEvent)
  return Text.joined " OR " (first :: more)

/-- A name for the rows of a table before or after the change. A word for either time is read
even where no table follows it. -/
def transitionTable? : Parser (Option String) := do
  match ← acceptPhraseOf ["OLD TABLE", "NEW TABLE", "OLD", "NEW"] with
  | none | some "OLD" | some "NEW" => return none
  | some phrase =>
      let asWord ← phrasePart "AS"
      return some (phrase ++ asWord ++ " " ++ (← pathText))

def transitionTables : Parser String := do
  if ← acceptWord "REFERENCING" then
    let tables ← many transitionTable?
    return if tables.isEmpty then "" else " REFERENCING " ++ Text.joined " " tables
  else return ""

def triggerObject : Parser String := do
  if ← acceptWord "FOR" then
    let each ← phrasePart "EACH"
    return " FOR" ++ each ++ " " ++ (← expectAnyOf ["ROW", "STATEMENT"])
  else return ""

def triggerAction (d : Dialect) (n : Nested) : Parser String := do
  if ← acceptWord "EXECUTE" then
    let kind ← expectAnyOf ["FUNCTION", "PROCEDURE"]
    return "EXECUTE " ++ kind ++ " " ++ (← function d n)
  else return (← steps n ["END"]).sql

def triggerCreation (d : Dialect) (n : Nested) (opening : String) : Parser String := do
  let trigger ← pathText
  let period ← acceptPhraseOf triggerPeriods
  let events ← triggerEvents
  expectWord "ON"
  let table ← pathText
  let origin ← optionally (acceptWord "FROM") (attemptPast pathText)
  let times ← checkTimes
  let transitions ← transitionTables
  let object ← triggerObject
  let condition ← clauseAfter "WHEN" n.exprText
  let action ← triggerAction d n
  return opening ++ "TRIGGER " ++ trigger ++ clausePart " " period ++ " " ++ events ++ " ON " ++
    table ++ clausePart " FROM " origin.join ++ times ++ transitions ++ object ++ condition ++
    " " ++ action

/-! Macros -/

def macroParameter (n : Nested) : Parser String := do
  let given ← nameText
  let assigned ← accept .assign
  let named ← whenever (!assigned) (accept .rarrow)
  if assigned || named then return given ++ " := " ++ (← n.exprText) else return given

def macroCreation (n : Nested) (opening : String) : Parser String := do
  let given ← pathText
  let parameters ← parenthesized (commaSeparatedBefore .rparen (macroParameter n))
  expectWord "AS"
  let isTable ← acceptWord "TABLE"
  let body ← if isTable then n.queryText else n.exprText
  return opening ++ "MACRO " ++ given ++
    (if parameters.isEmpty then "" else Text.parenthesized (Text.listed parameters)) ++
    (if isTable then " AS TABLE " else " AS ") ++ body

end SelectTree.Sql.Grammar
