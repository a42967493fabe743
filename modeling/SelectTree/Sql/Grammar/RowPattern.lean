import SelectTree.Sql.Grammar.Alias

namespace SelectTree.Sql.Grammar

open Sql.Parser

/-! Patterns that rows in a row match. -/

/-! Repetitions -/

/-- How often a pattern may repeat; a number that is too large is reported at `start`. -/
def repeatCount (start : List Token) (numeral : String) : Parser String := fun ts =>
  match Text.readBounded 4294967295 0 numeral.toList with
  | .ok count => .ok (toString count, ts)
  | .error fault => .error ⟨.unreadableNumber numeral "u32" fault, start⟩

def numeralOfToken? : Token → Option String
  | .number text _ => some text
  | _ => none

inductive RangeStart
  | upTo
  | fromCount (numeral : String)

def rangeStart? : Token → Option RangeStart
  | .symbol .comma => some .upTo
  | .number text _ => some (.fromCount text)
  | _ => none

/-- The bounds of a repetition after its opening brace, and the closing brace. -/
def repeatRange : Parser String := do
  let start ← rest
  match ← token (.phrase "quantifier range") rangeStart? with
  | .upTo =>
      let most ← token .literalNumber numeralOfToken?
      expect .rbrace
      return "," ++ (← repeatCount start most)
  | .fromCount least =>
      if ← accept .comma then
        if ← accept .rbrace then return (← repeatCount start least) ++ ","
        else
          let most ← token (.phrase "\x7d or upper bound") numeralOfToken?
          expect .rbrace
          let least ← repeatCount start least
          return least ++ "," ++ (← repeatCount start most)
      else
        expect .rbrace
        repeatCount start least

def repetition? : Parser (Option String) := do
  if ← accept .star then return some "*"
  else if ← accept .plus then return some "+"
  else if ← accept .lbrace then return some ("\x7b" ++ (← repeatRange) ++ "\x7d")
  else
    acceptToken fun
      | .placeholder "?" => some "?"
      | _ => none

/-! Patterns -/

inductive PatternStart
  | edge (text : String)
  | exclusion
  | permutation
  | group

def patternStart? : Token → Option PatternStart
  | .symbol .caret => some (.edge "^")
  | .placeholder "$" => some (.edge "$")
  | .symbol .lbrace => some .exclusion
  | .word ⟨"PERMUTE", none, _⟩ => some .permutation
  | .symbol .lparen => some .group
  | _ => none

def basePattern (pattern : Parser String) : Parser String := do
  match ← acceptToken patternStart? with
  | some (.edge text) => return text
  | some .exclusion =>
      expect .minus
      let symbol ← name
      expect .minus
      expect .rbrace
      return "\x7b- " ++ symbol.sql ++ " -\x7d"
  | some .permutation => return "PERMUTE" ++ (← nameTuple)
  | some .group =>
      let inner ← pattern
      expect .rparen
      return "( " ++ inner ++ " )"
  | none => nameText

def repeatedPattern (pattern : Parser String) : Parser String := do
  let base ← basePattern pattern
  return base ++ String.join (← many repetition?)

/-- Patterns one after the other, up to a bar or a closing parenthesis. -/
def patternRow (pattern : Parser String) : Parser String := do
  let first ← repeatedPattern pattern
  iterate (fun (read : String) => do
    if ← peekAny (fun t => t = .symbol .rparen || t = .symbol .pipe) then return .inr read
    else return .inl (read ++ " " ++ (← repeatedPattern pattern))) first

def patternAt : (fuel : Nat) → Parser String
  | 0 => fail .nestingLimit
  | fuel + 1 => do
      let row ← patternRow (patternAt fuel)
      if ← accept .pipe then return row ++ " | " ++ (← patternAt fuel) else return row

/-- Patterns nest by parentheses and bars, of which there are fewer than tokens. -/
def rowPattern : Parser String := fun ts =>
  patternAt (ts.length + 1) ts

/-! The clause -/

def measure (n : Nested) : Parser String := do
  let e ← n.exprText
  let _ ← acceptKeyword .AS
  return e ++ " AS " ++ (← nameText)

def rowsPerMatch : Parser String := do
  if ← acceptPhrase "ONE ROW PER MATCH" then return "ONE ROW PER MATCH "
  else if ← acceptPhrase "ALL ROWS PER MATCH" then
    let mode ← acceptPhraseOf ["SHOW EMPTY MATCHES", "OMIT EMPTY MATCHES", "WITH UNMATCHED ROWS"]
    return "ALL ROWS PER MATCH " ++ clausePart "" (mode.map (· ++ " "))
  else return ""

def afterMatch : Parser String := do
  if !(← acceptPhrase "AFTER MATCH SKIP") then return ""
  else
    match ← acceptPhraseOf ["PAST LAST ROW", "TO NEXT ROW"] with
    | some place => return "AFTER MATCH SKIP " ++ place ++ " "
    | none =>
        match ← acceptPhraseOf ["TO FIRST", "TO LAST"] with
        | some place => return "AFTER MATCH SKIP " ++ place ++ " " ++ (← nameText) ++ " "
        | none => expected (.phrase "after match skip option")

def symbolDefinition (n : Nested) : Parser String := do
  let symbol ← name
  expectKeyword .AS
  return symbol.sql ++ " AS " ++ (← n.exprText)

/-- The matches in a factor's rows, after the word. -/
def matched (d : Dialect) (n : Nested) (factor : Factor) : Parser Factor := do
  let clause (phrase : String) (p : Parser String) : Parser String := do
    if ← acceptPhrase phrase then return phrase ++ " " ++ (← p) ++ " " else return ""
  let parts ← parenthesized (do
    let partition ← clause "PARTITION BY" n.exprsText
    let order ← clause "ORDER BY" (orderKeysText d n)
    let measures ← clause "MEASURES" (listedTexts (measure n))
    let rows ← rowsPerMatch
    let skip ← afterMatch
    expectWord "PATTERN"
    let pattern ← parenthesized rowPattern
    expectWord "DEFINE"
    let symbols ← listedTexts (symbolDefinition n)
    return partition ++ order ++ measures ++ rows ++ skip ++ "PATTERN " ++
      Text.parenthesized pattern ++ " DEFINE " ++ symbols)
  return .other (factor.sql ++ " MATCH_RECOGNIZE" ++ Text.parenthesized parts)
    (← tableAlias? d n) ""

end SelectTree.Sql.Grammar
