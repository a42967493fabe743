import SelectTree.Sql.Grammar.DataType

namespace SelectTree.Sql.Grammar

open Sql.Parser

/-! Calls, with the clauses that may follow them. -/

/-! Wildcards -/

inductive Operand
  | wildcard (table : Option (List Name))
  | expr (e : Expr)

def Operand.sql : Operand → String
  | .wildcard none => "*"
  | .wildcard (some table) => Name.pathSql table ++ ".*"
  | .expr e => e.sql

def qualifier? : Token → Option Name
  | .word w => some (.ofWord w)
  | .string text => some ⟨text, some '\''⟩
  | _ => none

/-- Reads on after a name and a period: the path of a wildcard if a star ends it. -/
def wildcardPath : List Name → Parser (Option (List Name)) :=
  iterate fun read => do
    if ← accept .period then
      if ← accept .star then return .inr (some read.reverse)
      else
        let next ← token .partOfQualifiedName qualifier?
        return .inl (next :: read)
    else return .inr none

/-- The path of a wildcard at the head of the tokens. -/
def wildcard? : Parser (Option (Option (List Name))) := fun ts =>
  match ts with
  | .symbol .star :: rest => .ok (some none, rest)
  | t :: .symbol .period :: rest =>
      match qualifier? t with
      | none => .ok (none, ts)
      | some first =>
          match wildcardPath [first] (.symbol .period :: rest) with
          | .ok (some table, rest) => .ok (some (some table), rest)
          | .ok (none, _) => .ok (none, ts)
          | .error failure => .error failure
  | _ => .ok (none, ts)

def wildcardOrExpr (n : Nested) : Parser Operand := do
  match ← wildcard? with
  | some table => return .wildcard table
  | none => return .expr (← n.expr)

/-! Arguments -/

def argumentOperator (d : Dialect) : Parser String := do
  if ← acceptKeyword .VALUE then return "VALUE"
  else
    token .argumentOperator fun
      | .symbol .rarrow => some "=>"
      | .symbol .assign => if d.hasAssignmentArguments then some ":=" else none
      | .symbol .colon => if d.hasComputedArgumentNames then some ":" else none
      | _ => none

/-- What an argument's name is followed by, after the name. -/
def argumentOperand (d : Dialect) (n : Nested) (given : String) : Parser Argument := do
  let operator ← argumentOperator d
  let operand ← wildcardOrExpr n
  return .named (given ++ " " ++ operator ++ " " ++ operand.sql)

def namedArgument (d : Dialect) (n : Nested) : Parser Argument := do
  let given ← if d.hasComputedArgumentNames then n.exprText else nameText
  argumentOperand d n given

/-- An argument whose name may be any expression. What is no wildcard is read only once: without
an operator after it, the name is the argument. -/
def computedArgument (d : Dialect) (n : Nested) : Parser Argument := do
  let e ← n.expr
  match ← attempt (argumentOperand d n e.sql) with
  | some named => return named
  | none => return .plain e.sql

def beginsWildcard : Parser Bool := fun ts =>
  .ok (match wildcard? ts with
    | .ok (none, _) => false
    | _ => true, ts)

def argument (d : Dialect) (n : Nested) : Parser Argument := do
  if d.hasComputedArgumentNames && !(← beginsWildcard) then computedArgument d n
  else
    match ← attempt (namedArgument d n) with
    | some named => return named
    | none => return .plain (← wildcardOrExpr n).sql

def quantifier? : Parser (Option Keyword) := do
  let start ← rest
  match ← acceptKeyword .ALL, ← acceptKeyword .DISTINCT with
  | true, true => fun _ => .error ⟨.allAndDistinct, start⟩
  | true, false => return some .ALL
  | false, true => return some .DISTINCT
  | false, false => return none

def nullTreatment? : Parser (Option String) := do
  match ← acceptOneOf [.RESPECT, .IGNORE] with
  | some k =>
      expectKeyword .NULLS
      return some (k.spelling ++ " NULLS")
  | none => return none

/-- What becomes of nulls in a document, and the type that it is made as. -/
def documentClauses (d : Dialect) (n : Nested) : Parser (List String) := do
  let nulls ← acceptPhraseOf ["ABSENT ON NULL", "NULL ON NULL"]
  let type ← optionally (acceptKeyword .RETURNING) (dataTypeText d n)
  return [nulls, type.map ("RETURNING " ++ ·)].filterMap id

def beginsFiller : Token → Bool
  | .string _ | .unicodeString _ => true
  | .tagged tag _ _ => tag ∈ ["E", "N", "X"]
  | _ => false

/-- What a list of values does that has become too long. -/
def overflow? (n : Nested) : Parser (Option String) := do
  if !(← acceptPhrase "ON OVERFLOW") then return none
  else if ← acceptWord "ERROR" then return some "ON OVERFLOW ERROR"
  else
    expectKeyword .TRUNCATE
    let ends := fun (t : Token) => t.keyword = some .WITH || t.keyword = some .WITHOUT
    let filler ←
      if ← peekAny ends then pure ""
      else if ← peekAny beginsFiller then pure (" " ++ (← n.exprText))
      else expected (.phrase "either filler, WITH, or WITHOUT in LISTAGG")
    match ← acceptOneOf [.WITH, .WITHOUT] with
    | none => expected (.phrase "either WITH or WITHOUT in LISTAGG")
    | some k =>
        expectWord "COUNT"
        return some ("ON OVERFLOW TRUNCATE" ++ filler ++ " " ++ k.spelling ++ " COUNT")

def argumentClauses (d : Dialect) (n : Nested) : Parser (List String) := do
  let nulls ← if d.hasArgumentNullTreatment then nullTreatment? else pure none
  let order ← optionally (acceptKeywords [.ORDER, .BY]) (orderKeysText d n)
  let limit ← optionally (acceptKeyword .LIMIT) n.exprText
  let bound ←
    if d.hasArgumentHaving then
      optionally (acceptKeyword .HAVING) (do
        let kind ← expectOneOf [.MIN, .MAX]
        return kind.spelling ++ " " ++ (← n.exprText))
    else pure none
  let separator ←
    if d.hasSeparator then optionally (acceptKeyword .SEPARATOR) (valueText d) else pure none
  let overflow ← overflow? n
  let clauses := [nulls, order.map ("ORDER BY " ++ ·), limit.map ("LIMIT " ++ ·),
    bound.map ("HAVING " ++ ·), separator.map ("SEPARATOR " ++ ·), overflow].filterMap id
  return clauses ++ (← documentClauses d n)

/-- The arguments after an opening parenthesis, and the closing one. -/
def arguments (d : Dialect) (n : Nested) : Parser Arguments := do
  let early ← documentClauses d n
  if ← accept .rparen then return ⟨none, [], early⟩
  else
    let quantifier ← quantifier?
    let items ← commaSeparated (argument d n)
    let clauses ← argumentClauses d n
    expect .rparen
    return ⟨quantifier, items, early ++ clauses⟩

/-! Windows -/

/-- A distance that a text begins is an interval. -/
def frameBound (n : Nested) (interval : Parser Expr) : Parser String := do
  if ← acceptKeywords [.CURRENT, .ROW] then return "CURRENT ROW"
  else
    let distance ←
      if ← acceptKeyword .UNBOUNDED then pure "UNBOUNDED"
      else if ← peekAny (· matches .string _) then pure (← interval).sql
      else n.exprText
    if ← acceptKeyword .PRECEDING then return distance ++ " PRECEDING"
    else if ← acceptKeyword .FOLLOWING then return distance ++ " FOLLOWING"
    else expected .frameDirection

def frame (n : Nested) (interval : Parser Expr) : Parser String := do
  match ← acceptOneOf [.ROWS, .RANGE, .GROUPS] with
  | none => expected .frameUnits
  | some units =>
      if ← acceptKeyword .BETWEEN then
        let start ← frameBound n interval
        expectKeyword .AND
        let finish ← frameBound n interval
        return units.spelling ++ " BETWEEN " ++ start ++ " AND " ++ finish
      else return units.spelling ++ " " ++ (← frameBound n interval)

/-- The name of another window is a word without a meaning of its own. -/
def baseWindow? : Token → Option String
  | .word w =>
      if w.quote.isSome || !isVocabulary (Keyword.capitals w.text) then some (Name.ofWord w).sql
      else none
  | _ => none

/-- A window after its opening parenthesis, and the closing one. -/
def window (d : Dialect) (n : Nested) (interval : Parser Expr) : Parser String := do
  let base ← acceptToken baseWindow?
  let partition ← optionally (acceptKeywords [.PARTITION, .BY]) n.exprsText
  let order ← optionally (acceptKeywords [.ORDER, .BY]) (orderKeysText d n)
  let frame ←
    if ← accept .rparen then pure none
    else
      let read ← frame n interval
      expect .rparen
      pure (some read)
  let partition := partition.map ("PARTITION BY " ++ ·)
  let order := order.map ("ORDER BY " ++ ·)
  return Text.parenthesized (Text.joined " " ([base, partition, order, frame].filterMap id))

def window? (d : Dialect) (n : Nested) (interval : Parser Expr) : Parser (Option String) := do
  if ← acceptKeyword .OVER then
    if ← accept .lparen then return some (← window d n interval)
    else return some (← nameText)
  else return none

/-! Calls -/

def withinGroup? (d : Dialect) (n : Nested) : Parser (Option String) := do
  if ← acceptKeywords [.WITHIN, .GROUP] then
    expect .lparen
    expectKeywords [.ORDER, .BY]
    let keys ← orderKeysText d n
    expect .rparen
    return some keys
  else return none

/-- The word `FILTER` is read even where no condition follows it. -/
def filter? (d : Dialect) (n : Nested) : Parser (Option String) := do
  if !d.hasAggregateFilter then return none
  else if !(← acceptKeyword .FILTER) then return none
  else if !(← accept .lparen) then return none
  else if !(← acceptKeyword .WHERE) then return none
  else
    let condition ← n.exprText
    expect .rparen
    return some condition

/-- A call of a name that stands before its opening parenthesis. -/
def call (d : Dialect) (n : Nested) (interval : Parser Expr) (path : List Name) :
    Parser Call := do
  expect .lparen
  let first ← arguments d n
  let second ←
    if d.hasCallParameters then optionally (accept .lparen) (arguments d n) else pure none
  let withinGroup ← withinGroup? d n
  let filter ← filter? d n
  let nulls ←
    if (second.getD first).clauses.any (· ∈ ["RESPECT NULLS", "IGNORE NULLS"]) then pure none
    else nullTreatment?
  let window ← window? d n interval
  match second with
  | some args =>
      return ⟨path, some first, .list args, withinGroup, filter, nulls, window, false⟩
  | none => return ⟨path, none, .list first, withinGroup, filter, nulls, window, false⟩

end SelectTree.Sql.Grammar
