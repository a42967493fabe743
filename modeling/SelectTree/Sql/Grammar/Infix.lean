import SelectTree.Sql.Grammar.Operand

namespace SelectTree.Sql.Grammar

open Sql.Parser

/-! Operands joined by infix operators. -/

def notPart (negated : Bool) : String :=
  if negated then " NOT " else " "

/-- The values that an operator compares with: a query, which more may follow, or an expression
in parentheses. -/
def manyValues (n : Nested) (strength : Nat) : Parser Expr := do
  let start ← rest
  expect .lparen
  if ← beginsQuery then fun _ => n.operand strength start
  else
    let e ← n.operand strength
    expect .rparen
    return e

def manyValuesSql : Expr → String
  | .subquery sql => (Expr.subquery sql).sql
  | e => Text.parenthesized e.sql

/-- An operator and its right side: an operand, or the values to compare with. -/
def rightSide (n : Nested) (strength : Nat) (left : Expr) (operator : Parser Operator) :
    Parser Expr := do
  let start ← rest
  let op ← operator
  match ← acceptOneOf [.ANY, .ALL, .SOME] with
  | none => return .binary left op (← n.operand strength)
  | some k =>
      let values ← manyValues n strength
      if comparesWithMany op then
        return .other (left.sql ++ " " ++ op.sql ++ " " ++ k.spelling ++ manyValuesSql values)
      else fun _ => .error ⟨.notComparable op.sql, start⟩

/-! Tests -/

def normalForms : List String :=
  ["NFC", "NFD", "NFKC", "NFKD"]

def isTest (n : Nested) (left : Expr) : Parser Expr := do
  let negated ← acceptKeyword .NOT
  let test : Parser String := do
    match ← acceptOneOf [.NULL, .TRUE, .FALSE, .UNKNOWN] with
    | some k => return k.spelling
    | none =>
        if ← acceptKeywords [.DISTINCT, .FROM] then return "DISTINCT FROM " ++ (← n.exprText)
        else
          let form ← acceptAnyOf normalForms
          if ← acceptWord "NORMALIZED" then
            return Text.joined " " (form.toList ++ ["NORMALIZED"])
          else expected .testAfterIs
  return .other (left.sql ++ " IS " ++ (if negated then "NOT " else "") ++ (← test))

def inTest (d : Dialect) (n : Nested) (left : Expr) (negated : Bool) : Parser Expr := do
  let text := left.sql ++ notPart negated ++ "IN "
  if ← acceptKeyword .UNNEST then
    let values ← parenthesized n.exprText
    return .other (text ++ "UNNEST" ++ Text.parenthesized values)
  else
    expect .lparen
    let values ←
      match ← attempt n.query with
      | some query => pure query.sql
      | none =>
          if d.allowsEmptyInList && (← peekSymbol .rparen) then pure "" else n.exprsText
    expect .rparen
    return .other (text ++ Text.parenthesized values)

def betweenTest (d : Dialect) (n : Nested) (left : Expr) (negated : Bool) : Parser Expr := do
  let low ← n.tighter d .between
  expectKeyword .AND
  let high ← n.tighter d .between
  return .other (left.sql ++ notPart negated ++ "BETWEEN " ++ low.sql ++ " AND " ++ high.sql)

def escape? (d : Dialect) : Parser (Option String) :=
  optionally (acceptKeyword .ESCAPE) (valueText d)

def likeTest (d : Dialect) (n : Nested) (left : Expr) (negated : Bool) : Parser Expr := do
  let any ← acceptKeyword .ANY
  let pattern ← n.tighter d .like
  let escape ← escape? d
  if negated || any || escape.isSome then
    return .other (left.sql ++ notPart negated ++ "LIKE " ++ (if any then "ANY " else "") ++
      pattern.sql ++ clausePart " ESCAPE " escape)
  else return .like left pattern

/-- Before an escape, no space stands after `ANY`. -/
def caselessTest (d : Dialect) (n : Nested) (left : Expr) (negated : Bool) : Parser Expr := do
  let any ← acceptKeyword .ANY
  let pattern ← n.tighter d .like
  let escape ← escape? d
  let word := if any then (if escape.isSome then "ANY" else "ANY ") else ""
  return .other (left.sql ++ notPart negated ++ "ILIKE " ++ word ++ pattern.sql ++
    clausePart " ESCAPE " escape)

def similarTest (d : Dialect) (n : Nested) (left : Expr) (negated : Bool) : Parser Expr := do
  let pattern ← n.tighter d .like
  return .other (left.sql ++ notPart negated ++ "SIMILAR TO " ++ pattern.sql ++
    clausePart " ESCAPE " (← escape? d))

def regexTest (d : Dialect) (n : Nested) (left : Expr) (negated : Bool) (word : String) :
    Parser Expr := do
  let pattern ← n.tighter d .like
  return .other (left.sql ++ notPart negated ++ word ++ " " ++ pattern.sql)

/-- A test that `NOT` may stand before. The words `REGEXP`, `RLIKE` and `NULL` may all stand, in
this order, and the first of them decides. -/
def wordTest (d : Dialect) (n : Nested) (left : Expr) : Parser Expr := do
  let negated ← acceptKeyword .NOT
  let regexp ← acceptKeyword .REGEXP
  let rlike ← acceptKeyword .RLIKE
  let null ← whenever (n.context ≠ .columnDefinition) (acceptKeyword .NULL)
  if regexp || rlike then regexTest d n left negated (if regexp then "REGEXP" else "RLIKE")
  else if negated && null then return .other (left.sql ++ " IS NOT NULL")
  else if ← acceptKeyword .IN then inTest d n left negated
  else if ← acceptKeyword .BETWEEN then betweenTest d n left negated
  else if ← acceptKeyword .LIKE then likeTest d n left negated
  else if ← acceptKeyword .ILIKE then caselessTest d n left negated
  else if ← acceptKeywords [.SIMILAR, .TO] then similarTest d n left negated
  else expected .testAfterNot

def memberTest (n : Nested) (left : Expr) : Parser Expr := do
  if ← acceptKeyword .OF then
    let values ← parenthesized n.exprText
    return .other (left.sql ++ " MEMBER OF" ++ Text.parenthesized values)
  else expected .ofAfterMember

/-- The name of an operator, in parentheses: any tokens with periods between them. -/
def operatorName : Parser Operator := do
  expectKeyword .OPERATOR
  expect .lparen
  let first ← next (.symbol .rparen)
  let parts ← iterate (fun (read : List Token) => do
    if ← accept .period then
      let part ← next (.symbol .rparen)
      return .inl (part :: read)
    else return .inr read.reverse) [first]
  expect .rparen
  return .other ("OPERATOR" ++ Text.parenthesized (Text.joined "." (parts.map Token.spelling)))

def keywordOperator (k : Keyword) (op : Operator) : Parser Operator := do
  expectKeyword k
  return op

/-! Steps -/

/-- The operator that a keyword writes between two expressions of any strength. -/
def looseOperator? (d : Dialect) : Keyword → Option String
  | .DIV => if d = .mysql then some "DIV" else none
  | .REGEXP => if d = .sqlite then some "REGEXP" else none
  | .MATCH => if d = .sqlite then some "MATCH" else none
  | _ => none

def keywordStep (d : Dialect) (n : Nested) (strength : Nat) (left : Expr) (k : Keyword)
    (unknown : Parser Expr) : Parser Expr := do
  match looseOperator? d k with
  | some op =>
      expectKeyword k
      return .binary left (.other op) (← n.expr)
  | none =>
      match k with
      | .AND => rightSide n strength left (keywordOperator k .and)
      | .OR => rightSide n strength left (keywordOperator k .or)
      | .XOR | .OVERLAPS => rightSide n strength left (keywordOperator k (.other k.spelling))
      | .OPERATOR =>
          if d = .generic || d = .postgres then rightSide n strength left operatorName else unknown
      | .IS => expectKeyword k *> isTest n left
      | .AT =>
          expectKeywords [.AT, .TIME, .ZONE]
          return .other (left.sql ++ " AT TIME ZONE " ++ (← n.operand strength).sql)
      | .NOT | .IN | .BETWEEN | .LIKE | .ILIKE | .SIMILAR | .REGEXP | .RLIKE => wordTest d n left
      | .NOTNULL =>
          if d.hasNotNullSuffix then
            expectKeyword k
            return .other (left.sql ++ " IS NOT NULL")
          else unknown
      | .MEMBER => expectKeyword k *> memberTest n left
      | _ => unknown

/-- One operator and its right side. -/
def infixStep (d : Dialect) (n : Nested) (strength : Nat) (left : Expr) : Parser Expr := do
  match ← peek with
  | some (.symbol s) =>
      if s = .doubleColon then
        expect s
        return .other (left.sql ++ "::" ++ (← dataTypeText d n))
      else if s = .bang && d = .postgres then
        expect s
        return .other (left.sql ++ "!")
      else
        match symbolOperator? d s with
        | some op => rightSide n strength left (do expect s; return op)
        | none => fail (.noInfixOperator (.symbol s))
  | some (.customOperator op) =>
      rightSide n strength left (do skipToken; return .other op)
  | some (.word w) =>
      match w.keyword with
      | some k => keywordStep d n strength left k (fail (.noInfixOperator (.word w)))
      | none => fail (.noInfixOperator (.word w))
  | _ => expected .expression

/-- Reads on while the next operator binds more tightly than `strength`. Periods belong to the
operand before them. -/
def infixSteps (d : Dialect) (n : Nested) (strength : Nat) : Expr → Parser Expr :=
  iterate fun left => do
    let binding := nextBinding d n.context (← rest)
    if binding.strength d ≤ strength || binding = .period then return .inr left
    else return .inl (← infixStep d n (binding.strength d) left)

/-- An operand and the operators after it that bind more tightly than `strength`. -/
def operand (d : Dialect) (n : Nested) (strength : Nat) : Parser Expr := do
  let first ← prefixExpr d n
  let first ← accesses d n first
  infixSteps d n strength first

end SelectTree.Sql.Grammar
