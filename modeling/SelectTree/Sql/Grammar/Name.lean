import SelectTree.Sql.Dialect
import SelectTree.Sql.Parser
import SelectTree.Sql.Query

namespace SelectTree.Sql.Grammar

open Sql.Parser

/-! Names, and the names given to tables and projection items. -/

def nameOfToken? : Token → Option Name
  | .word w => some (.ofWord w)
  | .string text => some ⟨text, some '\''⟩
  | .doubleString text => some ⟨text, some '"'⟩
  | _ => none

def name : Parser Name :=
  token .identifier nameOfToken?

def path : Parser (List Name) := do
  let first ← name
  iterate (fun read => do
    if ← accept .period then
      let next ← name
      return .inl (next :: read)
    else return .inr read.reverse) [first]

def nameText : Parser String :=
  Name.sql <$> name

@[simp] theorem name_word (w : Word) (ts : List Token) :
    name (.word w :: ts) = .ok (.ofWord w, ts) := rfl

/-! Given names -/

def nameIfAllowed? (allowed : Option Keyword → Bool) (t : Token) : Option Name :=
  if t.isWord && !allowed t.keyword then none else nameOfToken? t

/-- A name for what stands before it: any word after `AS`, else a word that `allowed` accepts.
Quoted texts are names in either place. -/
def givenName? (allowed : Option Keyword → Bool) : Parser (Option Name) := do
  if ← acceptKeyword .AS then return some (← token .nameAfterAs nameOfToken?)
  else acceptToken (nameIfAllowed? allowed)

def itemName? : Parser (Option Name) :=
  givenName? fun
    | none => true
    | some k => !k.reservesItemName

def namesTable (d : Dialect) : Option Keyword → Bool
  | none => true
  | some k => !k.reservesTableName && !(d.hasIndexHints && k.hintsAtIndex)

/-- Names in parentheses. -/
def nameTuple : Parser String :=
  tupleText nameText

def nameTuple? : Parser (Option String) :=
  optionally (peekSymbol .lparen) nameTuple

/-- As `nameTuple`, and a list is what is missing where no parenthesis opens one. -/
def requiredNameTuple : Parser String := do
  if ← peekSymbol .lparen then nameTuple else expected .columnList

/-- The sign or the word between a variable and its value. -/
def acceptAssignment : Parser Bool := do
  if ← accept .eq then return true else acceptWord "TO"

/-- The text of a qualified name. -/
def pathText : Parser String :=
  Name.pathSql <$> path

/-- Names in parentheses, each of them qualified perhaps. -/
def columnList : Parser (List String) := do
  if ← peekSymbol .lparen then parenthesized (commaSeparated pathText)
  else expected .columnList

def columnListText : Parser String :=
  return Text.parenthesized (Text.listed (← columnList))

/-- The words among the tokens up to the end of a statement or a step; other tokens say nothing. -/
def namesUntilEnd : Parser (List Name) :=
  iterate (fun (read : List Name) => do
    match ← peek with
    | none => return .inr read.reverse
    | some t =>
        if t ∈ [.symbol .eq, .symbol .semicolon, .symbol .pipeArrow] then return .inr read.reverse
        else
          skipToken
          match t with
          | .word w => return .inl (.ofWord w :: read)
          | _ => return .inl read) []

end SelectTree.Sql.Grammar
