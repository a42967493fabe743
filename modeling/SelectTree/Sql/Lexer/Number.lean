import SelectTree.Sql.Lexer.Quoted

namespace SelectTree.Sql

/-! Numbers, and the words and periods that begin like one. -/

def takeDigits (d : Dialect) (isDigit : Char → Bool) : List Char → List Char × List Char
  | [] => ([], [])
  | [c] => if isDigit c then ([c], []) else ([], [c])
  | c :: next :: cs =>
      if isDigit c || (d.separatesDigits && c = '_' && isHexDigit next) then
        let (digits, rest) := takeDigits d isDigit (next :: cs)
        (c :: digits, rest)
      else ([], c :: next :: cs)

/-- An exponent needs at least one digit; otherwise the letter begins something else. -/
def takeExponent : List Char → List Char × List Char
  | [] => ([], [])
  | c :: cs =>
      if c = 'e' || c = 'E' then
        let (sign, unsigned) :=
          match cs with
          | '+' :: rest => (['+'], rest)
          | '-' :: rest => (['-'], rest)
          | rest => ([], rest)
        let digits := unsigned.takeWhile Char.isDigit
        if digits.isEmpty then ([], c :: cs)
        else (c :: sign ++ digits, unsigned.dropWhile Char.isDigit)
      else ([], c :: cs)

/-- Whether a letter stands here that may begin an exponent. -/
def marksExponent (cs : List Char) : Bool :=
  match cs with
  | c :: _ => c = 'e' || c = 'E'
  | [] => false

def previousIsWord (previous : Option Token) : Bool :=
  match previous with
  | some token => token.isWord
  | none => false

/-- Where words may begin with digits, a word goes on after them unless an exponent could; after
a period, digits before a possible exponent are a word of their own. -/
def finishNumber (d : Dialect) (previous : Option Token) (mantissa rest : List Char) : Scan :=
  let (exponent, tail) := takeExponent rest
  let text := mantissa ++ exponent
  let word := tail.takeWhile d.isWordPart
  if d.hasNumericWords && !marksExponent rest && !word.isEmpty then
    emit (.bare (String.ofList (text ++ word))) (tail.dropWhile d.isWordPart)
  else if d.hasNumericWords && marksExponent rest && previous = some (.symbol .period) then
    emit (.bare (String.ofList text)) tail
  else
    match tail with
    | 'L' :: tail => emit (.number (String.ofList text) true) tail
    | _ => emit (.number (String.ofList text) false) tail

/-- A number, or the period of a qualified name. -/
def scanNumber (d : Dialect) (previous : Option Token) (cs : List Char) : Scan :=
  match cs with
  | '.' :: '_' :: rest =>
      if previousIsWord previous then emitSymbol .period ('_' :: rest)
      else .error ⟨.misplacedUnderscore, cs⟩
  | _ =>
      match takeDigits d Char.isDigit cs with
      | (['0'], 'x' :: rest) =>
          let (digits, rest) := takeDigits d isHexDigit rest
          emit (.tagged "X" '\'' (String.ofList digits)) rest
      | (whole, '.' :: rest) =>
          let (fraction, tail) := takeDigits d Char.isDigit rest
          if whole.isEmpty &&
              (fraction.isEmpty || (d.hasNumericWords && previousIsWord previous)) then
            emitSymbol .period rest
          else finishNumber d previous (whole ++ '.' :: fraction) tail
      | (whole, rest) => finishNumber d previous whole rest

end SelectTree.Sql
