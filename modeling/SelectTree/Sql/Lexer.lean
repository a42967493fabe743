import SelectTree.Sql.Lexer.Number
import SelectTree.Sql.Lexer.Operator

namespace SelectTree.Sql

/-! Cutting a text into tokens. -/

def isPlainSpace (c : Char) : Bool :=
  c = ' ' || c = '\t' || c = '\n' || c = '\r'

def scan (d : Dialect) (previous : Option Token) (c : Char) (cs : List Char) : Scan :=
  if isPlainSpace c then skipTo cs
  else
    match scanTagged? d (c :: cs) with
    | some result => result
    | none =>
        if c.isAlpha then scanWord d [c] cs
        else if c = '\'' then scanString '\'' (stringEscape d) .string cs
        else if c ∈ d.identifierQuotes then scanIdentifier c cs
        else if c = '"' then scanString '"' (stringEscape d) .doubleString cs
        else if c.isDigit || c = '.' then scanNumber d previous (c :: cs)
        else
          match scanOperator? d (c :: cs) with
          | some result => result
          | none =>
              if d.isWordStart c then scanWord d [c] cs
              else if c = '$' then scanDollar d cs
              else if Text.isBlank c then skipTo cs
              else emit (.other c) cs

/-- A token, and how many characters are left where it begins. -/
structure Lexeme where
  token : Token
  left : Nat
  deriving DecidableEq, Repr

/-- What a message shows of space or of a comment. -/
def spaceText (skipped : List Char) : String :=
  match skipped with
  | '\t' :: _ => "\t"
  | '\n' :: _ | '\r' :: _ => "\n"
  | '-' :: _ | '#' :: _ | '/' :: _ => String.ofList skipped
  | _ => " "

/-- Space is a token only where a placeholder's sign stands before it. -/
def spaceAfter? (previous : Option Token) (skipped : List Char) : Option Token :=
  if previous = some (.symbol .colon) || previous = some (.symbol .atSign) then
    some (.space (spaceText skipped))
  else none

def lexFrom (d : Dialect) : (fuel : Nat) → Option Token → List Char →
    Except LexError (List Lexeme)
  | 0, _, _ => .ok []
  | _ + 1, _, [] => .ok []
  | fuel + 1, previous, c :: cs => do
      let (read, rest) ← scan d previous c cs
      let token :=
        match read with
        | some token => some token
        | none => spaceAfter? previous ((c :: cs).take (cs.length + 1 - rest.length))
      let lexemes ← lexFrom d fuel token rest
      match token with
      | some token => return ⟨token, cs.length + 1⟩ :: lexemes
      | none => return lexemes

/-- Every scan reads at least one character, so as many scans as there are characters
reach the end. -/
def lex (d : Dialect) (cs : List Char) : Except LexError (List Lexeme) :=
  lexFrom d cs.length none cs

end SelectTree.Sql
