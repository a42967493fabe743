import SelectTree.Sql.Dialect
import SelectTree.Sql.Expr
import SelectTree.Sql.Parser
import SelectTree.Sql.Vocabulary

namespace SelectTree.Sql.Grammar

open Sql.Parser

/-! Constants. -/

def escapedControl : Char → List Char
  | '\'' => ['\\', '\'']
  | '\\' => ['\\', '\\']
  | '\n' => ['\\', 'n']
  | '\t' => ['\\', 't']
  | '\r' => ['\\', 'r']
  | c => [c]

def taggedSql (tag : String) (quote : Char) (text : String) : String :=
  if tag = "E" then
    tag ++ enclosed quote (String.ofList (text.toList.flatMap escapedControl))
  else tag ++ enclosed quote text

/-- Capital hexadecimal digits, at least as many as `width` says. -/
def hexText (width n : Nat) : List Char :=
  let digits := (Nat.toDigits 16 n).map Char.toUpper
  List.replicate (width - digits.length) '0' ++ digits

/-- Characters outside ASCII are written by their codes. -/
def escapedCode (c : Char) : List Char :=
  if c = '\'' then ['\'', '\'']
  else if c = '\\' then ['\\', '\\']
  else if c.toNat < 0x80 then [c]
  else if c.toNat ≤ 0xffff then '\\' :: hexText 4 c.toNat
  else '\\' :: '+' :: hexText 6 c.toNat

def unicodeSql (text : String) : String :=
  "U&" ++ enclosed '\'' (String.ofList (text.toList.flatMap escapedCode))

/-- The constant that one token writes. -/
def valueOfToken? : Token → Option Value
  | .word w =>
      match w.keyword with
      | some .TRUE => some (.boolean true)
      | some .FALSE => some (.boolean false)
      | some .NULL => some .null
      | _ => if w.quote = some '"' then some (.other (quotedText '"' w.text)) else none
  | .number text long => some (.number text long)
  | .string text => some (.string text)
  | .doubleString text => some (.other (quotedText '"' text))
  | .tagged tag quote text => some (.other (taggedSql tag quote text))
  | .unicodeString text => some (.other (unicodeSql text))
  | .tripled tag quote text => some (.other (Token.tripled tag quote text).spelling)
  | .dollarString tag text => some (.other (Token.dollarString tag text).spelling)
  | .placeholder text => some (.other text)
  | _ => none

def missingValue : Token → Expectation
  | .word w => if w.quote.isSome then .quotedValue else .concreteValue
  | _ => .value

def adjacentText? : Token → Option String
  | .string text => some text
  | .doubleString text => some text
  | _ => none

/-- Where adjacent quoted texts are one text, what follows `text` of it. -/
def joinedText (d : Dialect) (text : String) : Parser String :=
  if d.joinsAdjacentStrings then
    iterate (fun (read : String) => do
      match ← acceptToken adjacentText? with
      | some more => return .inl (read ++ more)
      | none => return .inr read) text
  else return text

def placeholderName? : Token → Option String
  | .word w => some w.text
  | .number text false => some text
  | _ => none

/-- No space may stand between a placeholder's sign and its name. -/
def value (d : Dialect) : Parser Value := do
  match ← peek with
  | none => expected .value
  | some (.symbol s) =>
      if s = .colon || s = .atSign then
        skipToken
        let given ← token .placeholder placeholderName?
        return .other (s.spelling ++ given)
      else expected .value
  | some (.string text) =>
      let _ ← next .value
      return .string (← joinedText d text)
  | some (.doubleString text) =>
      let _ ← next .value
      return .other (quotedText '"' (← joinedText d text))
  | some t => token (missingValue t) valueOfToken?

def valueText (d : Dialect) : Parser String :=
  return (← value d).sql

/-- Tokens that can only begin a constant. -/
def beginsValue : Token → Bool
  | .word _ | .customOperator _ | .space _ | .other _ => false
  | .symbol s => s = .colon || s = .atSign
  | _ => true

/-! Texts and numbers -/

def isPlainWord (w : Word) : Bool :=
  w.quote.isSome || !isVocabulary (Keyword.capitals w.text)

/-- A text, for which a word without a meaning of its own may stand too. -/
def literalText : Parser String :=
  token .literalText fun
    | .word w => if isPlainWord w then some w.text else none
    | .string text | .doubleString text | .unicodeString text => some text
    | .tagged tag _ text => if tag = "E" then some text else none
    | _ => none

/-- A number or a placeholder. -/
def numberText (d : Dialect) : Parser String := fun ts =>
  match value d ts with
  | .ok (v, rest) =>
      match v, ts with
      | .number _ _, _ | .other _, .placeholder _ :: _ | .other _, .symbol _ :: _ =>
          .ok (v.sql, rest)
      | _, _ => .error ⟨.expected .literalNumber, ts⟩
  | .error failure => .error failure

def signedNumberText (d : Dialect) : Parser String := do
  if ← accept .plus then return "+" ++ (← numberText d)
  else if ← accept .minus then return "-" ++ (← numberText d)
  else numberText d

/-- A whole number of a type that ends at `most`. -/
def bounded (what : Expectation) (type : String) (most : Nat) : Parser Nat
  | .number text long :: ts =>
      match Text.readBounded most 0 text.toList with
      | .ok n => .ok (n, ts)
      | .error fault => .error ⟨.unreadableNumber text type fault, .number text long :: ts⟩
  | ts => .error ⟨.expected what, ts⟩

def whole : Parser String :=
  return toString (← bounded .literalWhole "u64" 18446744073709551615)

def signedWhole : Parser String := do
  let negative ← accept .minus
  if !negative then
    let _ ← accept .plus
  let n ← bounded (.phrase "number") "i64" 9223372036854775807
  return if negative && n ≠ 0 then "-" ++ toString n else toString n

def wholeInParentheses? : Parser String := do
  if ← peekSymbol .lparen then return Text.parenthesized (← parenthesized whole) else return ""

end SelectTree.Sql.Grammar
