import SelectTree.Sql.Token
import SelectTree.Text.Numeral

namespace SelectTree.Sql

/-! Parsers over tokens. A parser either reads some tokens and hands on the rest, or fails with
a cause and the tokens from the place where it failed. -/

inductive Expectation
  | symbol (s : Symbol)
  | keyword (k : Keyword)
  | word (spelling : String)
  | oneOf (spellings : List String)
  | statement
  | endOfStatement
  | queryBody
  | expression
  | identifier
  | nameAfterAs
  | joinTypeAfterNatural
  | joinOrApplyAfterCross
  | sideOfOuterJoin
  | joinedTable
  | columnList
  | partOfQualifiedName
  | value
  | concreteValue
  | quotedValue
  | placeholder
  | argumentOperator
  | testAfterIs
  | testAfterNot
  | ofAfterMember
  | frameUnits
  | frameDirection
  | dateTimeField
  | dataType
  | patternText
  | literalWhole
  | literalNumber
  | literalText
  | replacements
  | comparisonOperator
  /-- Anything else, in the words of the message. -/
  | phrase (text : String)
  deriving DecidableEq, Repr

def Expectation.toText : Expectation → String
  | .symbol s => s.spelling
  | .keyword k => k.spelling
  | .word spelling => spelling
  | .oneOf spellings => "one of " ++ Text.joined " or " spellings
  | .statement => "an SQL statement"
  | .endOfStatement => "end of statement"
  | .queryBody => "SELECT, VALUES, or a subquery in the query body"
  | .expression => "an expression"
  | .identifier => "identifier"
  | .nameAfterAs => "an identifier after AS"
  | .joinTypeAfterNatural => "a join type after NATURAL"
  | .joinOrApplyAfterCross => "JOIN or APPLY after CROSS"
  | .sideOfOuterJoin => "LEFT, RIGHT, or FULL"
  | .joinedTable => "joined table"
  | .columnList => "a list of columns in parentheses"
  | .partOfQualifiedName => "an identifier or a '*' after '.'"
  | .value => "a value"
  | .concreteValue => "a concrete value"
  | .quotedValue => "A value?"
  | .placeholder => "placeholder"
  | .argumentOperator => "argument operator"
  | .testAfterIs => "[NOT] NULL | TRUE | FALSE | DISTINCT | [form] NORMALIZED FROM after IS"
  | .testAfterNot => "IN or BETWEEN after NOT"
  | .ofAfterMember => "OF after MEMBER"
  | .frameUnits => "ROWS, RANGE, GROUPS"
  | .frameDirection => "PRECEDING or FOLLOWING"
  | .dateTimeField => "date/time field"
  | .dataType => "a data type name"
  | .patternText => "ilike pattern"
  | .literalWhole => "literal int"
  | .literalNumber => "literal number"
  | .literalText => "literal string"
  | .replacements => "( after REPLACE but"
  | .comparisonOperator => "comparison operator"
  | .phrase text => text

inductive Cause
  | expected (what : Expectation)
  /-- As `expected`, of a token whose place is not told. -/
  | expectedSomewhere (what : Expectation)
  /-- A word that cannot be a projection item was read as one. -/
  | reservedItem (name : String)
  | nestingLimit
  | incompleteOuterJoin (side : Keyword)
  | renamedTwice (name : String)
  | allAndDistinct
  | noInfixOperator (token : Token)
  | notComparable (op : String)
  | intervalWithoutUnit
  | unreadableNumber (numeral type : String) (fault : Text.NumeralFault)
  /-- Words that fit the grammar and are refused at the place where they stand. -/
  | refusedHere (reason : String)
  /-- Words that are refused wherever they stand. -/
  | refused (reason : String)
  /-- Words that are refused, and the message ends with the token at fault. -/
  | refusedToken (reason : String)
  deriving DecidableEq, Repr

structure Failure where
  cause : Cause
  rest : List Token
  deriving DecidableEq, Repr

/-- Whether a token is read before it is refused as something else than what is expected. -/
def Expectation.readsFirst : Expectation → Bool
  | .expression | .identifier | .nameAfterAs | .value | .concreteValue | .quotedValue
  | .placeholder | .dataType | .dateTimeField | .literalText | .literalWhole | .patternText
  | .partOfQualifiedName | .frameUnits | .statement => true
  | _ => false

/-- The tokens that were still to be read when the reading failed. -/
def Failure.reached : Failure → List Token
  | ⟨.expected what, t :: ts⟩ => if what.readsFirst then ts else t :: ts
  | failure => failure.rest

def Parser (α : Type) : Type :=
  List Token → Except Failure (α × List Token)

namespace Parser

protected def pure (a : α) : Parser α := fun ts => .ok (a, ts)

protected def bind (p : Parser α) (f : α → Parser β) : Parser β := fun ts =>
  match p ts with
  | .ok (a, rest) => f a rest
  | .error failure => .error failure

instance : Monad Parser where
  pure := Parser.pure
  bind := Parser.bind

@[simp] theorem run_pure (a : α) (ts : List Token) :
    (Pure.pure a : Parser α) ts = .ok (a, ts) := rfl

@[simp] theorem run_bind (p : Parser α) (f : α → Parser β) (ts : List Token) :
    (p >>= f) ts =
      match p ts with
      | .ok (a, rest) => f a rest
      | .error failure => .error failure := rfl

def fail (cause : Cause) : Parser α := fun ts => .error ⟨cause, ts⟩

def expected (what : Expectation) : Parser α := fail (.expected what)

def peek : Parser (Option Token) := fun ts => .ok (ts.head?, ts)

def rest : Parser (List Token) := fun ts => .ok (ts, ts)

/-- Goes back to tokens that were read before. -/
def goBack (ts : List Token) : Parser Unit := fun _ => .ok ((), ts)

/-- What follows a token, past the space that is kept after a sign. -/
def after : Token → List Token → List Token
  | .symbol _, .space _ :: ts => ts
  | _, ts => ts

/-- What follows the next token. -/
def past : List Token → List Token
  | [] => []
  | t :: ts => after t ts

/-- The next token, which must be there. -/
def next (what : Expectation) : Parser Token
  | [] => .error ⟨.expected what, []⟩
  | t :: ts => .ok (t, after t ts)

/-- Drops the next token and keeps the space after it. -/
def skipToken : Parser Unit := fun ts => .ok ((), ts.tail)

/-- Reads the next token if `f` knows what to make of it. -/
def token (what : Expectation) (f : Token → Option α) : Parser α
  | [] => .error ⟨.expected what, []⟩
  | t :: ts =>
      match f t with
      | some a => .ok (a, after t ts)
      | none => .error ⟨.expected what, t :: ts⟩

/-- Reads the next token if `f` knows what to make of it, and nothing elsewhere. -/
def acceptToken (f : Token → Option α) : Parser (Option α)
  | [] => .ok (none, [])
  | t :: ts =>
      match f t with
      | some a => .ok (some a, after t ts)
      | none => .ok (none, t :: ts)

def accept (s : Symbol) : Parser Bool
  | [] => .ok (false, [])
  | t :: ts => if t = .symbol s then .ok (true, after t ts) else .ok (false, t :: ts)

def expect (s : Symbol) : Parser Unit := do
  if ← accept s then return else expected (.symbol s)

def acceptKeyword (k : Keyword) : Parser Bool
  | [] => .ok (false, [])
  | t :: ts => if t.keyword = some k then .ok (true, ts) else .ok (false, t :: ts)

def expectKeyword (k : Keyword) : Parser Unit := do
  if ← acceptKeyword k then return else expected (.keyword k)

def stripKeywords? : List Keyword → List Token → Option (List Token)
  | [], ts => some ts
  | _ :: _, [] => none
  | k :: ks, t :: ts => if t.keyword = some k then stripKeywords? ks ts else none

/-- All of the keywords in a row, or nothing. -/
def acceptKeywords (ks : List Keyword) : Parser Bool := fun ts =>
  match stripKeywords? ks ts with
  | some rest => .ok (true, rest)
  | none => .ok (false, ts)

def expectKeywords : List Keyword → Parser Unit
  | [] => Pure.pure ()
  | k :: ks => do
      expectKeyword k
      expectKeywords ks

def acceptOneOf (ks : List Keyword) : Parser (Option Keyword)
  | [] => .ok (none, [])
  | t :: ts =>
      match t.keyword with
      | some k => if k ∈ ks then .ok (some k, ts) else .ok (none, t :: ts)
      | none => .ok (none, t :: ts)

def expectOneOf (ks : List Keyword) : Parser Keyword := do
  match ← acceptOneOf ks with
  | some k => return k
  | none => expected (.oneOf (ks.map Keyword.spelling))

def peekKeyword (k : Keyword) : Parser Bool := fun ts =>
  .ok (ts.head?.bind Token.keyword = some k, ts)

def peekSymbol (s : Symbol) : Parser Bool := fun ts =>
  .ok (ts.head? = some (.symbol s), ts)

def peekAny (p : Token → Bool) : Parser Bool := fun ts =>
  .ok (ts.head?.any p, ts)

/-! Words that are told apart by their spelling alone -/

def acceptWord (spelling : String) : Parser Bool
  | [] => .ok (false, [])
  | t :: ts => if t.capitals? = some spelling then .ok (true, ts) else .ok (false, t :: ts)

def peekWord (spelling : String) : Parser Bool := fun ts =>
  .ok (ts.head?.bind Token.capitals? = some spelling, ts)

def expectWord (spelling : String) : Parser Unit := do
  if ← acceptWord spelling then return else expected (.word spelling)

def acceptAnyOf (spellings : List String) : Parser (Option String)
  | [] => .ok (none, [])
  | t :: ts =>
      match t.capitals? with
      | some text => if text ∈ spellings then .ok (some text, ts) else .ok (none, t :: ts)
      | none => .ok (none, t :: ts)

def expectAnyOf (spellings : List String) : Parser String := do
  match ← acceptAnyOf spellings with
  | some spelling => return spelling
  | none => expected (.oneOf spellings)

def stripWords? : List String → List Token → Option (List Token)
  | [], ts => some ts
  | _ :: _, [] => none
  | w :: ws, t :: ts => if t.capitals? = some w then stripWords? ws ts else none

/-- All of the words of a phrase in a row, or nothing. -/
def acceptPhrase (phrase : String) : Parser Bool := fun ts =>
  match stripWords? (Text.words phrase) ts with
  | some rest => .ok (true, rest)
  | none => .ok (false, ts)

def peekPhrase (phrase : String) : Parser Bool := fun ts =>
  .ok ((stripWords? (Text.words phrase) ts).isSome, ts)

def expectPhrase (phrase : String) : Parser Unit :=
  (Text.words phrase).forM expectWord

/-- A phrase with a blank before it, or nothing where it does not stand. -/
def phrasePart (phrase : String) : Parser String := do
  if ← acceptPhrase phrase then return " " ++ phrase else return ""

/-- The first of the phrases that stands here. -/
def acceptPhraseOf : List String → Parser (Option String)
  | [] => Pure.pure none
  | phrase :: rest => do
      if ← acceptPhrase phrase then return some phrase else acceptPhraseOf rest

/-- The first of the phrases that stands here, which must be there. -/
def expectPhraseOf (what : Expectation) (phrases : List String) : Parser String := do
  match ← acceptPhraseOf phrases with
  | some phrase => return phrase
  | none => expected what

/-- What a phrase opens, with the phrase and blanks before it, or nothing. -/
def clauseAfter (phrase : String) (p : Parser String) : Parser String := do
  if ← acceptPhrase phrase then return " " ++ phrase ++ " " ++ (← p) else return ""

/-! Combinators -/

/-- Tries a parser and goes back if it fails; only too deep a nesting is final. -/
def attempt (p : Parser α) : Parser (Option α) := fun ts =>
  match p ts with
  | .ok (a, rest) => .ok (some a, rest)
  | .error ⟨.nestingLimit, rest⟩ => .error ⟨.nestingLimit, rest⟩
  | .error _ => .ok (none, ts)

/-- Tries a parser, and where it fails goes on after the token at fault. -/
def attemptPast (p : Parser α) : Parser (Option α) := fun ts =>
  match p ts with
  | .ok (a, rest) => .ok (some a, rest)
  | .error ⟨.nestingLimit, rest⟩ => .error ⟨.nestingLimit, rest⟩
  | .error failure => .ok (none, past failure.rest)

def iterateFrom (step : α → Parser (α ⊕ β)) : (fuel : Nat) → α → Parser β
  | 0, _ => fail .nestingLimit
  | fuel + 1, a => do
      match ← step a with
      | .inl a => iterateFrom step fuel a
      | .inr b => return b

/-- Repeats a step from `a` until it answers on the right. A step that answers on the left reads
at least one token, so there are fewer steps than tokens. -/
def iterate (step : α → Parser (α ⊕ β)) (a : α) : Parser β := fun ts =>
  iterateFrom step (ts.length + 1) a ts

def commaSeparated (p : Parser α) : Parser (List α) := do
  let first ← p
  iterate (fun read => do
    if ← accept .comma then
      let a ← p
      return .inl (a :: read)
    else return .inr read.reverse) [first]

/-- Whether a list that allows a comma at its end is over here. -/
def atListEnd : List Token → Bool
  | [] => true
  | .symbol s :: _ => s = .rparen || s = .semicolon || s = .rbracket || s = .rbrace
  | t :: _ =>
      match t.keyword with
      | some k => k.reservesItemName
      | none => false

def commaSeparatedUntil (atEnd : List Token → Bool) (p : Parser α) : Parser (List α) := do
  let first ← p
  iterate (fun read => do
    if ← accept .comma then
      if atEnd (← rest) then return .inr read.reverse
      else
        let a ← p
        return .inl (a :: read)
    else return .inr read.reverse) [first]

/-- As `commaSeparated`, but nothing where the closing symbol stands. -/
def commaSeparatedBefore (closing : Symbol) (p : Parser α) : Parser (List α) := do
  if ← peekSymbol closing then return [] else commaSeparated p

def listedTexts (p : Parser String) : Parser String :=
  return Text.listed (← commaSeparated p)

def parenthesized (p : Parser α) : Parser α := do
  expect .lparen
  let a ← p
  expect .rparen
  return a

/-- Texts in parentheses with commas between them, printed as they were read. -/
def tupleText (p : Parser String) : Parser String :=
  return Text.parenthesized (← parenthesized (listedTexts p))

/-- Repeats a parser until it reads nothing. -/
def many (p : Parser (Option α)) : Parser (List α) :=
  iterate (fun read => do
    match ← p with
    | some a => return .inl (a :: read)
    | none => return .inr read.reverse) []

/-- Asks a parser where it is allowed to read; elsewhere the answer is no. -/
def whenever (allowed : Bool) (p : Parser Bool) : Parser Bool :=
  if allowed then p else Pure.pure false

/-- Runs a parser where a condition holds, and reads nothing elsewhere. -/
def optionally (condition : Parser Bool) (p : Parser α) : Parser (Option α) := do
  if ← condition then return some (← p) else return none

end Parser

end SelectTree.Sql
