import SelectTree.Sql.Grammar.Statement
import SelectTree.Sql.Lexer
import SelectTree.Sql.Position
import SelectTree.Text.Quoted

namespace SelectTree.Sql

/-! From a text to the statements in it, or to the place where it stops being SQL. -/

inductive SyntaxError
  | lexical (cause : LexCause) (place : Position)
  | grammatical (cause : Cause) (found : Option Token) (place : Option Position)
  deriving DecidableEq, Repr

def foundText : Option Token → String
  | none => "EOF"
  | some t => t.spelling

def placeText : Option Position → String
  | none => ""
  | some place => place.toText

/-- The class of a token that stands between operands and joins none. -/
def tokenClass : Token → String
  | .word w =>
      "Word(Word \x7b value: " ++ Text.quoted w.text ++ ", quote_style: None, keyword: " ++
        (if isVocabulary (Keyword.capitals w.text) then Keyword.capitals w.text
          else "NoKeyword") ++ " \x7d)"
  | .symbol .bang => "ExclamationMark"
  | .symbol .sharp => "Sharp"
  | .symbol .caretAt => "CaretAt"
  | .symbol .overlap => "Overlap"
  | .symbol .shiftLeft => "ShiftLeft"
  | .symbol .shiftRight => "ShiftRight"
  | .symbol .atSign => "AtSign"
  | .symbol .lbracket => "LBracket"
  | t => t.spelling

def Cause.message (found : Option Token) (place : Option Position) : Cause → String
  | .expected what =>
      "Expected: " ++ what.toText ++ ", found: " ++ foundText found ++ placeText place
  | .expectedSomewhere what => "Expected: " ++ what.toText ++ ", found: " ++ foundText found
  | .reservedItem name => "Expected an expression, found: " ++ name ++ placeText place
  | .nestingLimit => "recursion limit exceeded"
  | .incompleteOuterJoin side => "expected OUTER, SEMI, ANTI or JOIN after " ++ side.spelling
  | .renamedTwice name => "duplicate alias " ++ name
  | .allAndDistinct => "Cannot specify both ALL and DISTINCT" ++ placeText place
  | .noInfixOperator t => "No infix parser for token " ++ tokenClass t ++ placeText place
  | .notComparable op =>
      "Expected one of [=, >, <, =>, =<, !=, ~, ~*, !~, !~*, ~~, ~~*, !~~, !~~*] as " ++
        "comparison operator, found: " ++ op ++ placeText place
  | .intervalWithoutUnit => "INTERVAL requires a unit after the literal value" ++ placeText place
  | .unreadableNumber numeral type fault =>
      "Could not parse '" ++ numeral ++ "' as " ++ type ++ ": " ++ fault.message ++ placeText place
  | .refusedHere reason => reason ++ placeText place
  | .refused reason => reason
  | .refusedToken reason => reason ++ foundText found

def SyntaxError.message : SyntaxError → String
  | .lexical cause place => "sql parser error: " ++ cause.message ++ place.toText
  | .grammatical cause found place => "sql parser error: " ++ cause.message found place

/-- The place in `cs` with `left` characters after it. -/
def placeBefore (cs : List Char) (left : Nat) : Position :=
  .ofRead (cs.take (cs.length - left))

def locate (cs : List Char) (lexemes : List Lexeme) (failure : Failure) : SyntaxError :=
  let place := (lexemes.drop (lexemes.length - failure.rest.length)).head?.map fun lexeme =>
    placeBefore cs lexeme.left
  .grammatical failure.cause failure.rest.head? place

def readStatements (d : Dialect) (cs : List Char) :
    Except SyntaxError (List Statement) :=
  match lex d cs with
  | .error error => .error (.lexical error.cause (placeBefore cs error.rest.length))
  | .ok lexemes =>
      match Grammar.text d (lexemes.map Lexeme.token) with
      | .error failure => .error (locate cs lexemes failure)
      | .ok (statements, _) => .ok statements

end SelectTree.Sql
