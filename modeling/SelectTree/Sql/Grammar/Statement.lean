import SelectTree.Sql.Grammar.Alteration
import SelectTree.Sql.Grammar.Command
import SelectTree.Sql.Grammar.Definition
import SelectTree.Sql.Grammar.Query
import SelectTree.Sql.Grammar.Setting

namespace SelectTree.Sql.Grammar

open Sql.Parser

/-! Statements. Of those that are no queries the text is kept. -/

/-! Explanations -/

/-- An option of an explanation, with a value or without one. -/
def explanationOption (n : Nested) : Parser String := do
  let key ← nameText
  if ← peekAny (fun t => t = .symbol .comma || t = .symbol .rparen) then return key
  else return key ++ " " ++ (← n.exprText)

def planFormat : Parser String := do
  match ← acceptAnyOf ["TEXT", "GRAPHVIZ", "JSON", "TRADITIONAL", "TREE"] with
  | some format => return format
  | none => expected (.phrase "fileformat")

def planFormatPart : Parser String := do
  if ← acceptWord "FORMAT" then
    if ← accept .eq then return "FORMAT=" ++ (← planFormat) ++ " "
    else return "FORMAT " ++ (← planFormat) ++ " "
  else return ""

/-- How a statement is to be explained. -/
def explanationDetail (d : Dialect) (n : Nested) (word : String) : Parser String := do
  if ← whenever (word = "EXPLAIN" && d.hasUtilityOptions) (peekSymbol .lparen) then
    return (← tupleText (explanationOption n)) ++ " "
  else
    match ← acceptPhraseOf ["QUERY PLAN", "ESTIMATE"] with
    | some phrase => return phrase ++ " "
    | none =>
        let analyzed ← leading "ANALYZE"
        let verbose ← leading "VERBOSE"
        return analyzed ++ verbose ++ (← planFormatPart)

/-- The plan of a statement, or else the layout of a table, of which the detail says nothing. -/
def explanation (d : Dialect) (n : Nested) (word : String) : Parser Statement := do
  let detail ← explanationDetail d n word
  match ← attempt n.statement with
  | some (.explanation _) => fail (.refused "Explain must be root of the plan")
  | some explained => return .explanation (word ++ " " ++ detail ++ explained.sql)
  | none =>
      let format ← acceptAnyOf ["EXTENDED", "FORMATTED"]
      return .explanation (word ++ " " ++ clausePart "" (format.map (· ++ " ")) ++ (← pathText))

/-! Statements -/

/-- What the word `REPLACE` opens. -/
def replacing (d : Dialect) (n : Nested) : Parser String := do
  match d.replacement with
  | .insertion => insertion d n "REPLACE"
  | .conflictRule => fun ts => insertion d n "INSERT" (.bare "REPLACE" :: ts)
  | .refused => fail (.refusedHere "Unsupported statement REPLACE")

/-- The words that open a statement about what the catalog holds, or about the rows in it. -/
def dataCommands (d : Dialect) (n : Nested) : List (String × Parser String) :=
  [("INSERT", insertion d n "INSERT"),
    ("UPDATE", change d n),
    ("DELETE", deletion d n),
    ("MERGE", merging d n),
    ("REPLACE", replacing d n),
    ("CREATE", creation d n),
    ("DROP", removal d n),
    ("ALTER", alteration d n),
    ("TRUNCATE", truncation d n),
    ("SET", assigning d n),
    ("SHOW", showing d n)]

def commands (d : Dialect) (n : Nested) : List (String × Parser String) :=
  dataCommands d n ++ transactionCommands d ++ plainCommands d n ++ dialectCommands d n

def opensQuery (t : Token) : Bool :=
  t = .symbol .lparen || t.capitals?.any ["SELECT", "WITH", "VALUES", "FROM"].contains

def command (d : Dialect) (n : Nested) : Parser Statement := do
  match ← acceptAnyOf ((commands d n).map Prod.fst) with
  | none => expected .statement
  | some word => return .other (← ((commands d n).lookup word).getD (expected .statement))

/-- The first word decides what a statement is; a query keeps its first word. -/
def statement (d : Dialect) (n : Nested) : Parser Statement := do
  if ← peekAny opensQuery then return .query (← n.query)
  else
    match ← acceptAnyOf ["EXPLAIN", "DESCRIBE", "DESC"] with
    | some word => explanation d n word
    | none =>
        match ← firstOf [tableLocks? d, blockStatement? n] with
        | some text => return .other text
        | none => command d n

/-! Texts -/

/-- The grammar with at most `depth` layers inside one another. -/
def nestedAt (d : Dialect) : (depth : Nat) → Nested
  | 0 => .tooDeep
  | depth + 1 =>
      ⟨.plain, fun context =>
        let n := (nestedAt d depth).within context
        ⟨operand d n, query d n, statement d n, columnDefinition d n⟩⟩

/-- Statements with semicolons between them; none of them need be there. After a statement, the
word `END` ends the text. -/
def statements (n : Nested) : Parser (List Statement) :=
  iterate (fun (read, separated) => do
    if ← accept .semicolon then return .inl (read, true)
    else
      match ← peek with
      | none => return .inr read.reverse
      | some t =>
          if !separated && t.keyword = some .END then return .inr read.reverse
          else if !separated then expected .endOfStatement
          else
            let s ← n.statement
            return .inl (s :: read, false)) (([], true) : List Statement × Bool)

/-- A statement, the query in it, and every operand and query inside it are layers; fifty of them
may lie in one another. -/
def text (d : Dialect) : Parser (List Statement) :=
  statements (nestedAt d 50)

end SelectTree.Sql.Grammar
