import SelectTree.Sql.Token

namespace SelectTree.Sql

/-! Names as they stand in a query, with the quotes that they were written in. -/

structure Name where
  text : String
  quote : Option Char
  deriving DecidableEq, Repr

/-- Writes every quote twice, except where the text already holds an escaped one: a quote after
a backslash, or two quotes in a row. -/
def escapedQuotes (quote : Char) : (afterBackslash : Bool) → List Char → List Char
  | _, [] => []
  | true, c :: cs => c :: escapedQuotes quote (c = quote || c = '\\') cs
  | false, [c] => if c = quote then [c, c] else [c]
  | false, c :: next :: cs =>
      if c = quote then
        if next = quote then c :: next :: escapedQuotes quote false cs
        else c :: c :: escapedQuotes quote false (next :: cs)
      else c :: escapedQuotes quote (c = '\\') (next :: cs)

def quotedText (quote : Char) (text : String) : String :=
  enclosed quote (String.ofList (escapedQuotes quote false text.toList))

namespace Name

def bare (text : String) : Name := ⟨text, none⟩

def ofWord (w : Word) : Name := ⟨w.text, w.quote⟩

def sql (name : Name) : String :=
  match name.quote with
  | none => name.text
  | some '[' => enclosed '[' name.text
  | some quote => quotedText quote name.text

def listSql (names : List Name) : String :=
  Text.listed (names.map sql)

/-- The text of a qualified name. -/
def pathSql (parts : List Name) : String :=
  Text.joined "." (parts.map sql)

@[simp] theorem sql_bare (text : String) : (bare text).sql = text := rfl

@[simp] theorem ofWord_bare (text : String) : ofWord (.bare text) = bare text := rfl

end Name

end SelectTree.Sql
