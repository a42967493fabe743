import SelectTree.Sql.Dialect
import SelectTree.Sql.Token
import SelectTree.Text.Split

namespace SelectTree.Sql

/-! Quoted texts and names. A scan reads one token, or one stretch of space or comment, and
hands on the characters after it. -/

inductive LexCause
  | unterminatedString
  | unterminatedEscapeString
  | unterminatedUnicodeString
  | unfinishedHexDigits
  | badHexDigit (c : Char)
  | badCharacter (code : Nat)
  | unterminatedIdentifier (closing : Char)
  | unterminatedComment
  | unterminatedDollarString
  | unterminatedDollarTag
  | misplacedUnderscore
  | unknownOperator (start : String)
  deriving DecidableEq, Repr

def LexCause.message : LexCause → String
  | .unterminatedString => "Unterminated string literal"
  | .unterminatedEscapeString => "Unterminated encoded string literal"
  | .unterminatedUnicodeString => "Unterminated unicode encoded string literal"
  | .unfinishedHexDigits => "Unexpected EOF while parsing hex digit in escaped unicode string."
  | .badHexDigit c => "Invalid hex digit in escaped unicode string: " ++ String.singleton c
  | .badCharacter code =>
      "Invalid unicode character: " ++ String.ofList (Nat.toDigits 16 code)
  | .unterminatedIdentifier closing =>
      "Expected close delimiter '" ++ String.singleton closing ++ "' before EOF."
  | .unterminatedComment => "Unexpected EOF while in a multi-line comment"
  | .unterminatedDollarString => "Unterminated dollar-quoted string"
  | .unterminatedDollarTag => "Unterminated dollar-quoted, expected $"
  | .misplacedUnderscore => "Unexpected character '_'"
  | .unknownOperator start => "Expected a valid binary operator after '" ++ start ++ "'"

/-- A cause, and the text from the place it points at. -/
structure LexError where
  cause : LexCause
  rest : List Char
  deriving DecidableEq, Repr

abbrev Scan := Except LexError (Option Token × List Char)

def emit (token : Token) (rest : List Char) : Scan :=
  .ok (some token, rest)

def emitSymbol (symbol : Symbol) (rest : List Char) : Scan :=
  emit (.symbol symbol) rest

def skipTo (rest : List Char) : Scan :=
  .ok (none, rest)

/-! Texts -/

/-- Reads up to the closing quote; a quote written twice stands for one. -/
def readQuoted (quote : Char) (escape : Option (Char → List Char)) :
    List Char → Option (List Char × List Char)
  | [] => none
  | [c] => if c = quote then some ([], []) else none
  | c :: next :: cs =>
      if c = quote then
        if next = quote then
          (readQuoted quote escape cs).map fun (text, rest) => (quote :: text, rest)
        else some ([], next :: cs)
      else
        match escape with
        | some unescape =>
            if c = '\\' then
              (readQuoted quote escape cs).map fun (text, rest) => (unescape next ++ text, rest)
            else
              (readQuoted quote escape (next :: cs)).map fun (text, rest) => (c :: text, rest)
        | none =>
            (readQuoted quote escape (next :: cs)).map fun (text, rest) => (c :: text, rest)

/-- The meaning of a character after a backslash. -/
def controlCharacter (c : Char) : Char :=
  match c with
  | '0' => '\x00'
  | 'a' => '\x07'
  | 'b' => '\x08'
  | 'f' => '\x0c'
  | 'n' => '\n'
  | 'r' => '\r'
  | 't' => '\t'
  | 'Z' => '\x1a'
  | c => c

/-- Escaped pattern characters keep their backslash where backslashes are escapes. -/
def unescaped (d : Dialect) (c : Char) : List Char :=
  if d.escapesWithBackslash && (c = '%' || c = '_') then ['\\', c] else [controlCharacter c]

def stringEscape (d : Dialect) : Option (Char → List Char) :=
  if d.escapesWithBackslash then some (unescaped d) else none

def scanString (quote : Char) (escape : Option (Char → List Char))
    (token : String → Token) (cs : List Char) : Scan :=
  match readQuoted quote escape cs with
  | some (text, rest) => emit (token (String.ofList text)) rest
  | none => .error ⟨.unterminatedString, quote :: cs⟩

def scanIdentifier (quote : Char) (cs : List Char) : Scan :=
  match readQuoted (closingQuote quote) none cs with
  | some (text, rest) => emit (.word (.quoted quote (String.ofList text))) rest
  | none => .error ⟨.unterminatedIdentifier (closingQuote quote), quote :: cs⟩

/-! Escapes -/

def isHexDigit (c : Char) : Bool :=
  c.isDigit || ('a' ≤ c && c ≤ 'f') || ('A' ≤ c && c ≤ 'F')

def hexValue (digits : List Char) : Nat :=
  digits.foldl (fun total c =>
    16 * total +
      (if c.isDigit then c.toNat - 48 else if c.isUpper then c.toNat - 55 else c.toNat - 87)) 0

/-- Any code of a character, zero among them. -/
def charOfCode? (n : Nat) : Option Char :=
  if n < 0xd800 || (0xdfff < n && n < 0x110000) then some (Char.ofNat n) else none

def validChar? (n : Nat) : Option Char :=
  if n = 0 then none else charOfCode? n

/-- Bytes written as numbers must be ASCII. -/
def byteChar? (n : Nat) : Option Char :=
  if n % 256 < 128 then validChar? (n % 256) else none

/-- The character that an escape sequence stands for, and how many characters spell it. -/
def escapeSequence? (cs : List Char) : Option (Char × Nat) :=
  match cs with
  | [] => none
  | 'b' :: _ => some ('\x08', 1)
  | 'f' :: _ => some ('\x0c', 1)
  | 'n' :: _ => some ('\n', 1)
  | 'r' :: _ => some ('\r', 1)
  | 't' :: _ => some ('\t', 1)
  | 'u' :: digits => numbered (digits.take 4) 4
  | 'U' :: digits => numbered (digits.take 8) 8
  | 'x' :: digits =>
      let hex := (digits.take 2).takeWhile isHexDigit
      if hex.isEmpty then some ('x', 1)
      else (byteChar? (hexValue hex)).map (·, hex.length + 1)
  | c :: digits =>
      if '0' ≤ c && c ≤ '7' then
        let octal := c :: (digits.take 2).takeWhile fun e => '0' ≤ e && e ≤ '7'
        (byteChar? (octal.foldl (fun total e => 8 * total + (e.toNat - 48)) 0)).map
          (·, octal.length)
      else some (c, 1)
where
  /-- A plus sign may stand in place of the first digit. -/
  numbered (digits : List Char) (count : Nat) : Option (Char × Nat) :=
    let hex :=
      match digits with
      | '+' :: rest => rest
      | digits => digits
    if digits.length = count && hex.all isHexDigit then
      (validChar? (hexValue hex)).map (·, count + 1)
    else none

def readEscapeString : Nat → List Char → Option (List Char × List Char)
  | 0, _ => none
  | _, [] => none
  | fuel + 1, '\'' :: cs =>
      match cs with
      | '\'' :: rest =>
          (readEscapeString fuel rest).map fun (text, tail) => ('\'' :: text, tail)
      | _ => some ([], cs)
  | fuel + 1, '\\' :: cs =>
      match escapeSequence? cs with
      | some (c, count) =>
          (readEscapeString fuel (cs.drop count)).map fun (text, tail) => (c :: text, tail)
      | none => none
  | fuel + 1, c :: cs =>
      (readEscapeString fuel cs).map fun (text, tail) => (c :: text, tail)

/-- As many hexadecimal digits as `count` says, on top of the digits read before. -/
def readHexDigits :
    (count : Nat) → (code : Nat) → List Char → Except LexError (Char × List Char)
  | 0, code, cs =>
      match charOfCode? code with
      | some c => .ok (c, cs)
      | none => .error ⟨.badCharacter code, cs⟩
  | _ + 1, _, [] => .error ⟨.unfinishedHexDigits, []⟩
  | count + 1, code, c :: cs =>
      if isHexDigit c then readHexDigits count (16 * code + hexValue [c]) cs
      else .error ⟨.badHexDigit c, cs⟩

/-- The rest of a text in which a backslash names a character by its code. -/
def readUnicodeString : (fuel : Nat) → List Char → Except LexError (List Char × List Char)
  | 0, cs => .error ⟨.unterminatedUnicodeString, cs⟩
  | _, [] => .error ⟨.unterminatedUnicodeString, []⟩
  | fuel + 1, c :: cs => do
      let more (c : Char) (rest : List Char) : Except LexError (List Char × List Char) := do
        let (text, tail) ← readUnicodeString fuel rest
        return (c :: text, tail)
      match c, cs with
      | '\'', '\'' :: rest => more '\'' rest
      | '\'', rest => return ([], rest)
      | '\\', '\\' :: rest => more '\\' rest
      | '\\', '+' :: rest =>
          let (named, rest) ← readHexDigits 6 0 rest
          more named rest
      | '\\', rest =>
          let (named, rest) ← readHexDigits 4 0 rest
          more named rest
      | c, rest => more c rest

def scanUnicodeString (cs : List Char) : Scan := do
  let (text, rest) ← readUnicodeString (cs.length + 1) cs
  emit (.unicodeString (String.ofList text)) rest

/-! Raw texts -/

def splitAtText (text : List Char) : List Char → Option (List Char × List Char)
  | [] => if text.isEmpty then some ([], []) else none
  | c :: cs =>
      match Text.stripPrefix? text (c :: cs) with
      | some rest => some ([], rest)
      | none => (splitAtText text cs).map fun (before, rest) => (c :: before, rest)

/-- A text without escapes, from its opening quotes on: one, three, or two of an empty text. -/
def scanRaw (quote : Char) (cs : List Char) : Scan :=
  match cs with
  | _ :: second :: third :: rest =>
      if second = quote then
        if third = quote then
          match splitAtText [quote, quote, quote] rest with
          | some (text, rest) => emit (.tripled "R" quote (String.ofList text)) rest
          | none => .error ⟨.unterminatedString, rest⟩
        else emit (.tagged "R" quote "") (third :: rest)
      else single (second :: third :: rest)
  | [_, second] => if second = quote then emit (.tagged "R" quote "") [] else single [second]
  | rest => single (rest.drop 1)
where
  single (cs : List Char) : Scan :=
    match readQuoted quote none cs with
    | some (text, rest) => emit (.tagged "R" quote (String.ofList text)) rest
    | none => .error ⟨.unterminatedString, cs⟩

/-! Letters in front of a quote -/

/-- A quoted text with letters in front of its opening quote. -/
def scanTagged? (d : Dialect) : List Char → Option Scan
  | c :: '&' :: '\'' :: cs =>
      if d.hasUnicodeStrings && c.toLower = 'u' then some (scanUnicodeString cs) else none
  | c :: '\'' :: cs =>
      match c.toLower with
      | 'n' => some (scanString '\'' (stringEscape d) (.tagged "N" '\'') cs)
      | 'x' => some (scanString '\'' (some (unescaped d)) (.tagged "X" '\'') cs)
      | 'b' =>
          if d.hasByteStrings then some (scanString '\'' none (.tagged "B" '\'') cs) else none
      | 'r' => if d.hasRawStrings then some (scanRaw '\'' ('\'' :: cs)) else none
      | 'e' =>
          if d.hasEscapeStrings then
            some (match readEscapeString (cs.length + 1) cs with
              | some (text, rest) => emit (.tagged "E" '\'' (String.ofList text)) rest
              | none => .error ⟨.unterminatedEscapeString, c :: '\'' :: cs⟩)
          else none
      | _ => none
  | c :: '"' :: cs =>
      match c.toLower with
      | 'b' => if d.hasByteStrings then some (scanString '"' none (.tagged "B" '"') cs) else none
      | 'r' => if d.hasRawStrings then some (scanRaw '"' ('"' :: cs)) else none
      | _ => none
  | _ => none

end SelectTree.Sql
