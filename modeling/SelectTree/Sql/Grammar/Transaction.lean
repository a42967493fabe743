import SelectTree.Sql.Grammar.TableDefinition

namespace SelectTree.Sql.Grammar

open Sql.Parser

/-! Transactions: how they begin and end, and the places in them to go back to. -/

def isolationLevel : Parser String := do
  match ← acceptPhraseOf
      ["READ UNCOMMITTED", "READ COMMITTED", "REPEATABLE READ", "SERIALIZABLE", "SNAPSHOT"] with
  | some level => return "ISOLATION LEVEL " ++ level
  | none => expected (.phrase "isolation level")

/-- A mode must follow a comma; elsewhere there may be none. -/
def transactionMode? (required : Bool) : Parser (Option String) := do
  match ← acceptPhraseOf ["ISOLATION LEVEL", "READ ONLY", "READ WRITE"] with
  | some "ISOLATION LEVEL" => some <$> isolationLevel
  | some mode => return some mode
  | none => if required then expected (.phrase "transaction mode") else return none

/-- Modes with or without commas between them. -/
def transactionModes : Parser String := do
  let modes ← iterate (fun ((read, required) : List String × Bool) => do
    match ← transactionMode? required with
    | none => return .inr read.reverse
    | some mode => return .inl (mode :: read, ← accept .comma)) ([], false)
  return if modes.isEmpty then "" else " " ++ Text.listed modes

/-- Whether another transaction begins where this one ends. -/
def chaining : Parser String := do
  let _ ← acceptAnyOf ["TRANSACTION", "TRAN", "WORK"]
  if ← acceptWord "AND" then
    let ends ← acceptWord "NO"
    expectWord "CHAIN"
    return if ends then "" else " AND CHAIN"
  else return ""

def starting : Parser String := do
  expectWord "TRANSACTION"
  return "START TRANSACTION" ++ (← transactionModes)

def beginning (d : Dialect) : Parser String := do
  let modifier ←
    if d.hasTransactionModifiers then
      acceptAnyOf ["DEFERRED", "IMMEDIATE", "EXCLUSIVE", "TRY", "CATCH"]
    else pure none
  let word ← acceptAnyOf ["TRANSACTION", "WORK", "TRAN"]
  return "BEGIN" ++ clausePart " " modifier ++ clausePart " " word ++ (← transactionModes)

def returning : Parser String := do
  let chain ← chaining
  if ← acceptWord "TO" then
    let _ ← acceptWord "SAVEPOINT"
    return "ROLLBACK" ++ chain ++ " TO SAVEPOINT " ++ (← nameText)
  else return "ROLLBACK" ++ chain

def release : Parser String := do
  let _ ← acceptWord "SAVEPOINT"
  return "RELEASE SAVEPOINT " ++ (← nameText)

/-- The words that open a statement about transactions, and what follows each of them. -/
def transactionCommands (d : Dialect) : List (String × Parser String) :=
  [("START", starting),
    ("BEGIN", beginning d),
    ("COMMIT", return "COMMIT" ++ (← chaining)),
    ("END", return "END" ++ (← chaining)),
    ("ROLLBACK", returning),
    ("SAVEPOINT", return "SAVEPOINT " ++ (← nameText)),
    ("RELEASE", release)]

end SelectTree.Sql.Grammar
