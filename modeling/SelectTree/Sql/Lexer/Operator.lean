import SelectTree.Sql.Lexer.Quoted

namespace SelectTree.Sql

/-! Comments, operators and placeholders. -/

def afterLine (d : Dialect) (cs : List Char) : List Char :=
  (cs.dropWhile fun c => c ≠ '\n' && !(c = '\r' && d.returnEndsComment)).drop 1

/-- What follows a comment that `depth + 1` closings end. -/
def afterComment (nests : Bool) : (depth : Nat) → List Char → Option (List Char)
  | _, [] => none
  | _, [_] => none
  | depth, c :: next :: cs =>
      if c = '/' && next = '*' && nests then afterComment nests (depth + 1) cs
      else if c = '*' && next = '/' then
        match depth with
        | 0 => some cs
        | depth + 1 => afterComment nests depth cs
      else afterComment nests depth (next :: cs)

def isOperatorPart (c : Char) : Bool :=
  c ∈ ['+', '-', '*', '/', '<', '>', '=', '~', '!', '@', '#', '%', '^', '&', '|', '\x60', '?']

/-- An operator of the given text that goes on with every operator character after it, or
else the token that `default` gives. -/
def scanLonger (d : Dialect) (start : String) (default : Option Token) (cs : List Char) : Scan :=
  let more := cs.takeWhile isOperatorPart
  if d.hasCustomOperators && !more.isEmpty then
    emit (.customOperator (start ++ String.ofList more)) (cs.dropWhile isOperatorPart)
  else
    match default with
    | some token => emit token cs
    | none => .error ⟨.unknownOperator start, cs⟩

/-- An operator, or the longer one that the operator characters after it make. -/
def scanBinary (d : Dialect) (symbol : Symbol) (cs : List Char) : Scan :=
  scanLonger d symbol.spelling (some (.symbol symbol)) cs

def scanCustom (d : Dialect) (text : String) (cs : List Char) : Scan :=
  scanLonger d text (some (.customOperator text)) cs

def scanMinus (d : Dialect) : List Char → Scan
  | '-' :: cs =>
      if d.dashCommentNeedsSpace && cs.head? ≠ some ' ' then scanBinary d .minus ('-' :: cs)
      else skipTo (afterLine d cs)
  | '>' :: '>' :: cs => scanBinary d .longArrow cs
  | '>' :: cs => scanBinary d .arrow cs
  | cs => scanBinary d .minus cs

def scanSlash (d : Dialect) : List Char → Scan
  | '*' :: cs =>
      match afterComment d.nestsComments 0 cs with
      | some rest => skipTo rest
      | none => .error ⟨.unterminatedComment, []⟩
  | '/' :: cs =>
      if d.hasIntegerDivision then emitSymbol .intDiv cs else emitSymbol .slash ('/' :: cs)
  | cs => emitSymbol .slash cs

def scanBang : List Char → Scan
  | '=' :: cs => emitSymbol .ne cs
  | '!' :: cs => emitSymbol .doubleBang cs
  | '~' :: '*' :: cs => emitSymbol .notTildeStar cs
  | '~' :: '~' :: '*' :: cs => emitSymbol .notDoubleTildeStar cs
  | '~' :: '~' :: cs => emitSymbol .notDoubleTilde cs
  | '~' :: cs => emitSymbol .notTilde cs
  | cs => emitSymbol .bang cs

def scanLess (d : Dialect) : List Char → Scan
  | '=' :: '>' :: cs => scanBinary d .spaceship cs
  | '=' :: cs => scanBinary d .le cs
  | '>' :: cs => scanBinary d .ne cs
  | '@' :: cs => scanBinary d .arrowAt cs
  | '<' :: '|' :: cs =>
      if d.hasGeometry then scanCustom d "<<|" cs else scanBinary d .shiftLeft ('|' :: cs)
  | '<' :: cs => scanBinary d .shiftLeft cs
  | c :: cs =>
      if d.hasGeometry then
        match c, cs with
        | '|', cs => scanCustom d "<<|" cs
        | '^', cs => scanCustom d "<^" cs
        | '-', '>' :: cs => scanCustom d "<->" cs
        | '-', cs => scanLonger d "<-" none cs
        | c, cs => scanBinary d .lt (c :: cs)
      else scanBinary d .lt (c :: cs)
  | [] => scanBinary d .lt []

def scanGreater (d : Dialect) : List Char → Scan
  | '=' :: cs => scanBinary d .ge cs
  | '>' :: cs => scanBinary d .shiftRight cs
  | '^' :: cs => if d.hasGeometry then scanCustom d ">^" cs else scanBinary d .gt ('^' :: cs)
  | cs => scanBinary d .gt cs

def scanPipe (d : Dialect) : List Char → Scan
  | '/' :: cs => scanBinary d .squareRoot cs
  | '|' :: '/' :: cs => scanBinary d .cubeRoot cs
  | '|' :: cs => scanBinary d .concat cs
  | '&' :: cs =>
      if d.hasGeometry then
        match cs with
        | '>' :: cs => scanCustom d "|&>" cs
        | cs => scanLonger d "|&" none cs
      else scanBinary d .pipe ('&' :: cs)
  | '>' :: cs =>
      if d.hasGeometry then
        match cs with
        | '>' :: cs => scanCustom d "|>>" cs
        | cs => scanLonger d "|>" none cs
      else if d.hasPipes then scanBinary d .pipeArrow cs
      else scanBinary d .pipe ('>' :: cs)
  | cs => scanBinary d .pipe cs

/-- The operator `&>` takes the character after it along. -/
def scanAmpersand (d : Dialect) : List Char → Scan
  | '&' :: cs => scanBinary d .overlap cs
  | '>' :: cs =>
      if d.hasGeometry then emit (.customOperator "&>") (cs.drop 1)
      else scanBinary d .ampersand ('>' :: cs)
  | '<' :: cs =>
      if d.hasGeometry then
        match cs with
        | '|' :: cs => emit (.customOperator "&<|") cs
        | cs => scanCustom d "&<" cs
      else scanBinary d .ampersand ('<' :: cs)
  | cs => scanBinary d .ampersand cs

def scanTilde (d : Dialect) : List Char → Scan
  | '*' :: cs => scanBinary d .tildeStar cs
  | '~' :: '*' :: cs => scanBinary d .doubleTildeStar cs
  | '~' :: cs => scanBinary d .doubleTilde cs
  | '=' :: cs => if d.hasGeometry then scanCustom d "~=" cs else scanBinary d .tilde ('=' :: cs)
  | cs => scanBinary d .tilde cs

def scanWord (d : Dialect) (start rest : List Char) : Scan :=
  emit (.bare (String.ofList (start ++ rest.takeWhile d.isWordPart)))
    (rest.dropWhile d.isWordPart)

def scanSharp (d : Dialect) (cs : List Char) : Scan :=
  if d.hasHashComments then skipTo (afterLine d cs)
  else
    match cs with
    | '-' :: cs => scanBinary d .hashMinus cs
    | '>' :: '>' :: cs => scanBinary d .hashLongArrow cs
    | '>' :: cs => scanBinary d .hashArrow cs
    | ' ' :: cs => emitSymbol .sharp (' ' :: cs)
    | c :: rest =>
        if c = '#' && d.hasGeometry then scanCustom d "##" rest
        else if d.isWordStart '#' then scanWord d ['#', c] rest
        else scanBinary d .sharp cs
    | [] => emitSymbol .sharp []

def scanAt (d : Dialect) : List Char → Scan
  | '>' :: cs => emitSymbol .atArrow cs
  | '?' :: cs => emitSymbol .atQuestion cs
  | '@' :: cs =>
      match cs with
      | c :: rest =>
          if c ≠ ' ' && d.isWordStart '@' then scanWord d ['@', '@', c] rest
          else emitSymbol .atAt cs
      | [] => emitSymbol .atAt cs
  | c :: rest =>
      if c = '-' && d.hasGeometry then
        match rest with
        | '@' :: rest => emitSymbol .atDashAt rest
        | rest => scanLonger d "@-" none rest
      else if c ≠ ' ' && c ≠ '\'' && c ≠ '"' && c ≠ '\x60' && d.isWordStart '@' then
        scanWord d ['@', c] rest
      else emitSymbol .atSign (c :: rest)
  | [] => emitSymbol .atSign []

/-- Where a question mark is an operator, it takes the character after it along. -/
def scanQuestion (d : Dialect) (cs : List Char) : Scan :=
  if d.hasGeometry then
    match cs with
    | '|' :: '|' :: cs => emit (.customOperator "?||") cs
    | '|' :: cs => emitSymbol .questionPipe cs
    | '&' :: cs => emitSymbol .questionAnd cs
    | '-' :: '|' :: cs => emit (.customOperator "?-|") cs
    | '-' :: cs => emitSymbol .questionDash cs
    | '#' :: cs => emit (.customOperator "?#") cs
    | cs => emitSymbol .question (cs.drop 1)
  else
    emit (.placeholder (String.ofList ('?' :: cs.takeWhile Text.isNumeral)))
      (cs.dropWhile Text.isNumeral)

def isPlaceholderPart (d : Dialect) (c : Char) : Bool :=
  Text.isLetter c || Text.isNumeral c || c = '_' || (d.hasDollarPlaceholders && c = '$')

def scanDollar (d : Dialect) (cs : List Char) : Scan :=
  let tag := cs.takeWhile (isPlaceholderPart d)
  match cs.dropWhile (isPlaceholderPart d) with
  | '$' :: rest =>
      match splitAtText ('$' :: tag ++ ['$']) rest with
      | some (text, rest) => emit (.dollarString (String.ofList tag) (String.ofList text)) rest
      | none =>
          .error ⟨if tag.isEmpty then .unterminatedDollarString else .unterminatedDollarTag, []⟩
  | rest => emit (.placeholder (String.ofList ('$' :: tag))) rest

def scanOperator? (d : Dialect) : List Char → Option Scan
  | [] => none
  | c :: cs =>
      match c with
      | '(' => some (emitSymbol .lparen cs)
      | ')' => some (emitSymbol .rparen cs)
      | ',' => some (emitSymbol .comma cs)
      | '-' => some (scanMinus d cs)
      | '/' => some (scanSlash d cs)
      | '+' => some (emitSymbol .plus cs)
      | '*' => some (emitSymbol .star cs)
      | '%' =>
          some (match cs with
            | next :: _ =>
                if Text.isBlank next then emitSymbol .percent cs else scanBinary d .percent cs
            | [] => emitSymbol .percent [])
      | '|' => some (scanPipe d cs)
      | '=' =>
          some (match cs with
            | '>' :: cs => emitSymbol .rarrow cs
            | '=' :: cs => emitSymbol .doubleEq cs
            | cs => emitSymbol .eq cs)
      | '!' => some (scanBang cs)
      | '<' => some (scanLess d cs)
      | '>' => some (scanGreater d cs)
      | ':' =>
          some (match cs with
            | ':' :: cs => emitSymbol .doubleColon cs
            | '=' :: cs => emitSymbol .assign cs
            | cs => emitSymbol .colon cs)
      | ';' => some (emitSymbol .semicolon cs)
      | '\\' => some (emitSymbol .backslash cs)
      | '[' => some (emitSymbol .lbracket cs)
      | ']' => some (emitSymbol .rbracket cs)
      | '&' => some (scanAmpersand d cs)
      | '^' =>
          some (match cs with
            | '@' :: cs => emitSymbol .caretAt cs
            | cs => emitSymbol .caret cs)
      | '\x7b' => some (emitSymbol .lbrace cs)
      | '\x7d' => some (emitSymbol .rbrace cs)
      | '~' => some (scanTilde d cs)
      | '#' => some (scanSharp d cs)
      | '@' => some (scanAt d cs)
      | '?' => some (scanQuestion d cs)
      | _ => none

end SelectTree.Sql
