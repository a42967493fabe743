import SelectTree.Sql.Keyword

namespace SelectTree.Sql

/-! Tokens, and the text that a message shows for one. -/

structure Word where
  text : String
  quote : Option Char
  keyword : Option Keyword
  deriving DecidableEq, Repr

def Word.bare (text : String) : Word :=
  ⟨text, none, Keyword.ofText? text⟩

def Word.quoted (quote : Char) (text : String) : Word :=
  ⟨text, some quote, none⟩

def closingQuote (quote : Char) : Char :=
  if quote = '[' then ']' else quote

def enclosed (quote : Char) (text : String) : String :=
  String.ofList (quote :: text.toList ++ [closingQuote quote])

def Word.spelling (w : Word) : String :=
  match w.quote with
  | none => w.text
  | some quote => enclosed quote w.text

inductive Symbol
  | lparen | rparen | comma | period | semicolon | lbracket | rbracket | lbrace | rbrace
  | colon | doubleColon | assign | eq | doubleEq | ne | lt | le | gt | ge | spaceship
  | plus | minus | star | slash | intDiv | percent | concat | pipe | ampersand | overlap
  | caret | caretAt | shiftLeft | shiftRight | rarrow | arrow | longArrow | hashArrow
  | hashLongArrow | hashMinus | atArrow | arrowAt | atQuestion | atAt | atSign | sharp
  | bang | doubleBang | tilde | tildeStar | notTilde | notTildeStar | doubleTilde
  | doubleTildeStar | notDoubleTilde | notDoubleTildeStar | squareRoot | cubeRoot
  | question | questionPipe | questionAnd | questionDash | atDashAt | pipeArrow | backslash
  deriving DecidableEq, Repr

def Symbol.spelling : Symbol → String
  | .lparen => "("
  | .rparen => ")"
  | .comma => ","
  | .period => "."
  | .semicolon => ";"
  | .lbracket => "["
  | .rbracket => "]"
  | .lbrace => "\x7b"
  | .rbrace => "\x7d"
  | .colon => ":"
  | .doubleColon => "::"
  | .assign => ":="
  | .eq => "="
  | .doubleEq => "=="
  | .ne => "<>"
  | .lt => "<"
  | .le => "<="
  | .gt => ">"
  | .ge => ">="
  | .spaceship => "<=>"
  | .plus => "+"
  | .minus => "-"
  | .star => "*"
  | .slash => "/"
  | .intDiv => "//"
  | .percent => "%"
  | .concat => "||"
  | .pipe => "|"
  | .ampersand => "&"
  | .overlap => "&&"
  | .caret => "^"
  | .caretAt => "^@"
  | .shiftLeft => "<<"
  | .shiftRight => ">>"
  | .rarrow => "=>"
  | .arrow => "->"
  | .longArrow => "->>"
  | .hashArrow => "#>"
  | .hashLongArrow => "#>>"
  | .hashMinus => "#-"
  | .atArrow => "@>"
  | .arrowAt => "<@"
  | .atQuestion => "@?"
  | .atAt => "@@"
  | .atSign => "@"
  | .sharp => "#"
  | .bang => "!"
  | .doubleBang => "!!"
  | .tilde => "~"
  | .tildeStar => "~*"
  | .notTilde => "!~"
  | .notTildeStar => "!~*"
  | .doubleTilde => "~~"
  | .doubleTildeStar => "~~*"
  | .notDoubleTilde => "!~~"
  | .notDoubleTildeStar => "!~~*"
  | .squareRoot => "|/"
  | .cubeRoot => "||/"
  | .question => "?"
  | .questionPipe => "?|"
  | .questionAnd => "?&"
  | .questionDash => "?-"
  | .atDashAt => "@-@"
  | .pipeArrow => "|>"
  | .backslash => "\\"

inductive Token
  | word (w : Word)
  | number (text : String) (long : Bool)
  | string (text : String)
  | doubleString (text : String)
  /-- A quoted text with letters before its opening quote, such as `X'FF'`. -/
  | tagged (tag : String) (quote : Char) (text : String)
  /-- A text with letters before its three opening quotes. -/
  | tripled (tag : String) (quote : Char) (text : String)
  | unicodeString (text : String)
  | dollarString (tag text : String)
  | placeholder (text : String)
  | symbol (s : Symbol)
  | customOperator (text : String)
  /-- Space or a comment, kept where no placeholder may begin with it. -/
  | space (text : String)
  | other (c : Char)
  deriving DecidableEq, Repr

namespace Token

def bare (text : String) : Token := .word (Word.bare text)

def spelling : Token → String
  | .word w => w.spelling
  | .number text long => text ++ if long then "L" else ""
  | .string text => enclosed '\'' text
  | .doubleString text => enclosed '"' text
  | .tagged tag quote text => tag ++ enclosed quote text
  | .tripled tag quote text => tag ++ enclosed quote (enclosed quote (enclosed quote text))
  | .unicodeString text => "U&" ++ enclosed '\'' text
  | .dollarString tag text => "$" ++ tag ++ "$" ++ text ++ "$" ++ tag ++ "$"
  | .placeholder text => text
  | .symbol s => s.spelling
  | .customOperator text => text
  | .space text => text
  | .other c => String.singleton c

def keyword : Token → Option Keyword
  | .word w => w.keyword
  | _ => none

/-- The capitals of a word without quotes. -/
def capitals? : Token → Option String
  | .word ⟨text, none, _⟩ => some (Keyword.capitals text)
  | _ => none

def isWord : Token → Bool
  | .word _ => true
  | _ => false

end Token

end SelectTree.Sql
