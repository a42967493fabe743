import SelectTree.Sql.Grammar.Call

namespace SelectTree.Sql.Grammar

open Sql.Parser

/-! Collections of expressions: arrays, structures and dictionaries, and the calls and moments
that stand in braces like them. -/

def array (n : Nested) (word : String) : Parser Expr := do
  expect .lbracket
  let items ← commaSeparatedBefore .rbracket n.exprText
  expect .rbracket
  return .other (word ++ "[" ++ Text.listed items ++ "]")

/-! Structures -/

/-- A value of a structure; where the fields have types, the types name them too. -/
def structValue (n : Nested) (isTyped : Bool) : Parser String := do
  let e ← n.exprText
  if isTyped then
    if ← peekKeyword .AS then fail (.refusedHere "Typed syntax does not allow AS")
    else return e
  else return e ++ clausePart " AS " (← optionally (acceptKeyword .AS) nameText)

/-- A structure after its word. -/
def structLiteral (d : Dialect) (n : Nested) : Parser Expr := do
  let (fields, closesOuter) ← structFields d n (openType d n)
  if closesOuter then fail (.refusedHere "unmatched > in STRUCT literal")
  else
    let values ← tupleText (structValue n !fields.isEmpty)
    let types := if fields.isEmpty then "" else "<" ++ Text.listed fields ++ ">"
    return .other ("STRUCT" ++ types ++ values)

/-! Braces -/

def bracedText (text : String) : String :=
  "\x7b" ++ text ++ "\x7d"

def entry (n : Nested) (key : Parser String) : Parser String := do
  let key ← key
  expect .colon
  return key ++ ": " ++ (← n.exprText)

def dictionary (n : Nested) (key : Parser String) : Parser String := do
  expect .lbrace
  let entries ← commaSeparatedBefore .rbrace (entry n key)
  expect .rbrace
  return bracedText (Text.listed entries)

def bracedCall (d : Dialect) (n : Nested) (interval : Parser Expr) : Parser Expr := do
  expectWord "FN"
  let path ← path
  return .call { ← call d n interval path with braced := true }

/-- A date, a time or both, by the small letters that say which. -/
def bracedMoment (d : Dialect) : Parser Expr := do
  let kind ← token .value fun
    | .word ⟨text, none, _⟩ => if text ∈ ["d", "t", "ts"] then some text else none
    | _ => none
  return .other (bracedText (kind ++ " " ++ (← valueText d)))

/-- What an opening brace begins: a call, a moment, or else a dictionary with names for keys. -/
def braced (d : Dialect) (n : Nested) (interval : Parser Expr) : Parser Expr := do
  let start ← rest
  expect .lbrace
  let read ←
    match ← attempt (bracedCall d n interval) with
    | some e => pure (some e)
    | none => attempt (bracedMoment d)
  match read with
  | some e =>
      expect .rbrace
      return e
  | none => fun _ =>
      if d.hasDictionaries then (Expr.other <$> dictionary n nameText) start
      else expected .expression start

end SelectTree.Sql.Grammar
