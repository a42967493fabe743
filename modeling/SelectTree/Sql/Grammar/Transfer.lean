import SelectTree.Sql.Grammar.Creation
import SelectTree.Text.Quoted

namespace SelectTree.Sql.Grammar

open Sql.Parser

/-! Rows that are moved between tables and files, or kept at hand. -/

/-! Copying -/

def literalCharacter : Parser String := do
  let start ← rest
  let text ← literalText
  if text.utf8ByteSize = 1 then return enclosed '\'' text
  else fun _ => .error ⟨.refusedHere ("Expect a char, found " ++ Text.quoted text), start⟩

/-- A switch after its word, which is on unless it says otherwise. -/
def switch (word : String) : Parser String := do
  match ← acceptAnyOf ["TRUE", "FALSE"] with
  | some "FALSE" => return word ++ " FALSE"
  | _ => return word

def copyOption : Parser String := do
  match ← acceptAnyOf ["FORMAT", "FREEZE", "DELIMITER", "NULL", "HEADER", "QUOTE", "ESCAPE",
      "FORCE_QUOTE", "FORCE_NOT_NULL", "FORCE_NULL", "ENCODING"] with
  | none => expected (.phrase "option")
  | some word =>
      match word with
      | "FORMAT" => return "FORMAT " ++ (← nameText)
      | "FREEZE" | "HEADER" => switch word
      | "NULL" | "ENCODING" => return word ++ " " ++ quotedText '\'' (← literalText)
      | "DELIMITER" | "QUOTE" | "ESCAPE" => return word ++ " " ++ (← literalCharacter)
      | _ => return word ++ " " ++ (← requiredNameTuple)

def markedOption (word : String) (value : Parser String) : Parser String := do
  let _ ← acceptWord "AS"
  return word ++ " " ++ (← value)

def tableFileOption? : Parser (Option String) := do
  match ← acceptPhraseOf ["HEADER", "QUOTE", "ESCAPE", "FORCE NOT NULL", "FORCE QUOTE"] with
  | none => return none
  | some "HEADER" => return some "HEADER"
  | some "QUOTE" => some <$> markedOption "QUOTE" literalCharacter
  | some "ESCAPE" => some <$> markedOption "ESCAPE" literalCharacter
  | some phrase => return some (phrase ++ " " ++ (← listedTexts nameText))

/-- The role that may read or write the files. -/
def storageRole : Parser String := do
  if ← acceptWord "DEFAULT" then return "DEFAULT" else return enclosed '\'' (← literalText)

def fileSize (d : Dialect) : Parser String := do
  let size ← numberText d
  return size ++ clausePart " " (← acceptAnyOf ["MB", "GB"])

def parallelism : Parser String := do
  match ← acceptAnyOf ["TRUE", "ON", "FALSE", "OFF"] with
  | some "TRUE" | some "ON" => return "PARALLEL TRUE"
  | some _ => return "PARALLEL FALSE"
  | none => return "PARALLEL"

def filePartition : Parser String := do
  expectWord "BY"
  let columns ← requiredNameTuple
  return "PARTITION BY " ++ columns ++ (← phrasePart "INCLUDE")

/-- Options without parentheses around them that are one word. -/
def fileWords : List String :=
  ["ALLOWOVERWRITE", "ADDQUOTES", "BINARY", "BZIP2", "CLEANPATH", "ESCAPE", "GZIP", "HEADER",
    "JSON", "PARQUET", "ZSTD"]

/-- Options without parentheses around them that go on after their word. -/
def fileOptions (d : Dialect) : List (String × Parser String) :=
  let quoted : Parser String := quotedText '\'' <$> literalText
  [("CSV", do
      let details ← many (do
        match ← attempt tableFileOption? with
        | some detail => return detail
        | none => return none)
      return Text.joined " " ("CSV" :: details)),
    ("DELIMITER", markedOption "DELIMITER" literalCharacter),
    ("ENCRYPTED", return "ENCRYPTED" ++ (← phrasePart "AUTO")),
    ("EXTENSION", return "EXTENSION " ++ (← quoted)),
    ("FIXEDWIDTH", return "FIXEDWIDTH " ++ (← quoted)),
    ("IAM_ROLE", return "IAM_ROLE " ++ (← storageRole)),
    ("IGNOREHEADER", markedOption "IGNOREHEADER" whole),
    ("MANIFEST", return "MANIFEST" ++ (← phrasePart "VERBOSE")),
    ("MAXFILESIZE", markedOption "MAXFILESIZE" (fileSize d)),
    ("NULL", markedOption "NULL" quoted),
    ("PARALLEL", parallelism),
    ("PARTITION", filePartition),
    ("REGION", markedOption "REGION" quoted),
    ("ROWGROUPSIZE", markedOption "ROWGROUPSIZE" (fileSize d))]

/-- An option without parentheses around it. The word for a format may open it. -/
def bareCopyOption (d : Dialect) : Parser String := do
  if ← acceptWord "FORMAT" then
    let _ ← acceptWord "AS"
  match ← acceptAnyOf fileWords with
  | some word => return word
  | none =>
      let word ← expectAnyOf ((fileOptions d).map Prod.fst)
      ((fileOptions d).lookup word).getD (pure word)

def bareCopyOptions (d : Dialect) : Parser String :=
  return String.join ((← many (attempt (bareCopyOption d))).map (" " ++ ·))

def copySource (n : Nested) : Parser (String × Bool) := do
  if ← accept .lparen then
    let query ← n.queryText
    expect .rparen
    return (Text.parenthesized query, true)
  else
    let table ← pathText
    return (table ++ clausePart " " (← nameTuple?), false)

def copyTarget : Parser String := do
  match ← acceptAnyOf ["STDIN", "STDOUT", "PROGRAM"] with
  | some "PROGRAM" => return "PROGRAM " ++ quotedText '\'' (← literalText)
  | some word => return word
  | none => return quotedText '\'' (← literalText)

/-- The rows that follow a copy from the input: all of the text that is left. -/
def copiedRows : Parser Unit := do
  expect .semicolon
  fun _ => .ok ((), [])

def copying (d : Dialect) (n : Nested) : Parser String := do
  let (source, isQuery) ← copySource n
  match ← acceptAnyOf ["FROM", "TO"] with
  | none => expected (.phrase "FROM or TO")
  | some way =>
      if way = "FROM" && isQuery then
        fail (.refused "COPY ... FROM does not support query as a source")
      else
        let target ← copyTarget
        let _ ← acceptWord "WITH"
        let options ← optionally (peekSymbol .lparen) (tupleText copyOption)
        let bare ← bareCopyOptions d
        if target = "STDIN" then copiedRows
        return "COPY " ++ source ++ " " ++ way ++ " " ++ target ++ clausePart " " options ++ bare

/-! Keeping at hand -/

def cachedQuery (n : Nested) : Parser String := do
  if (← peek).isNone then return ""
  else if !(← peekAny Token.isWord) then expected (.phrase "a QUERY statement")
  else
    let asWord ← phrasePart "AS"
    return asWord ++ " " ++ (← n.queryText)

def cachedTable (d : Dialect) (n : Nested) (opening : String) : Parser String := do
  let table ← pathText
  let options ← listedOptions d n "OPTIONS" " OPTIONS"
  return opening ++ "TABLE " ++ table ++ options ++ (← cachedQuery n)

def caching (d : Dialect) (n : Nested) : Parser String := do
  if ← acceptWord "TABLE" then cachedTable d n "CACHE "
  else
    let start ← rest
    let flag ← pathText
    if ← acceptWord "TABLE" then cachedTable d n ("CACHE " ++ flag ++ " ")
    else
      let following ← rest
      let place := if following.isEmpty then start.drop (start.length - 1) else following
      fun _ => .error ⟨.expected (.phrase "a \x60TABLE\x60 keyword"), place⟩

/-! Unloading -/

def unloading (d : Dialect) (n : Nested) : Parser String := do
  let query ← parenthesized (do
    match ← acceptToken fun
      | .string text => some (enclosed '\'' text)
      | _ => none with
    | some text => return text
    | none => n.queryText)
  expectWord "TO"
  let file ← nameText
  let role ← clauseAfter "IAM_ROLE" storageRole
  let options ← listedOptions d n "WITH" " WITH "
  return "UNLOAD" ++ Text.parenthesized query ++ " TO " ++ file ++ role ++ options ++
    (← bareCopyOptions d)

def exporting (d : Dialect) (n : Nested) : Parser String := do
  expectWord "DATA"
  let connection ← clauseAfter "WITH CONNECTION" pathText
  expectWord "OPTIONS"
  let settings ← parenthesized (listedTexts (sqlOption d n))
  expectWord "AS"
  return "EXPORT DATA" ++ connection ++ " OPTIONS" ++ Text.parenthesized settings ++ " AS " ++
    (← n.queryText)

end SelectTree.Sql.Grammar
