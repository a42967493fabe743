import SelectTree.Sql.Grammar.Operator
import SelectTree.Sql.Query

namespace SelectTree.Sql.Grammar

open Sql.Parser

/-! What the grammar refers back to. Statements, queries and operands nest in one another; each
layer is read by parsers for the layer below it, and the lowest refuses to go on. -/

structure Layer where
  /-- An expression whose operators all bind more tightly than the given strength. -/
  operand : Nat → Parser Expr
  query : Parser Query
  statement : Parser Statement
  column : Parser String

def Layer.tooDeep : Layer :=
  ⟨fun _ => fail .nestingLimit, fail .nestingLimit, fail .nestingLimit, fail .nestingLimit⟩

structure Nested where
  context : Context
  layer : Context → Layer

def Nested.tooDeep : Nested :=
  ⟨.plain, fun _ => .tooDeep⟩

namespace Nested

/-- The same grammar, read in another context. -/
def within (n : Nested) (context : Context) : Nested :=
  { n with context }

def operand (n : Nested) (strength : Nat) : Parser Expr :=
  (n.layer n.context).operand strength

def query (n : Nested) : Parser Query :=
  (n.layer n.context).query

def statement (n : Nested) : Parser Statement :=
  (n.layer n.context).statement

/-- A column as a table's definition has it. -/
def column (n : Nested) : Parser String :=
  (n.layer n.context).column

def expr (n : Nested) : Parser Expr :=
  n.operand 0

def exprs (n : Nested) : Parser (List Expr) :=
  commaSeparated n.expr

def exprText (n : Nested) : Parser String :=
  return (← n.expr).sql

def exprsText (n : Nested) : Parser String :=
  return Expr.listSql (← n.exprs)

def queryText (n : Nested) : Parser String :=
  return (← n.query).sql

/-- An expression whose operators bind more tightly than `b`. -/
def tighter (n : Nested) (d : Dialect) (b : Binding) : Parser Expr :=
  n.operand (b.strength d)

end Nested

/-- An expression. Where none can be read, the message speaks of the place that was reached. -/
def exprOr (n : Nested) (what : Expectation) : Parser String := fun ts =>
  match n.exprText ts with
  | .ok read => .ok read
  | .error failure => .error ⟨.expected what, failure.reached⟩

/-- Whether a query begins here. -/
def beginsQuery : Parser Bool :=
  peekAny fun t => t.keyword = some .SELECT || t.keyword = some .WITH

def direction? : Parser (Option Bool) := do
  match ← acceptOneOf [.ASC, .DESC] with
  | some .ASC => return some true
  | some _ => return some false
  | none => return none

def fill? (d : Dialect) (n : Nested) : Parser (Option String) := do
  if ← whenever d.hasFilling (acceptPhrase "WITH FILL") then
    let start ← clauseAfter "FROM" n.exprText
    let finish ← clauseAfter "TO" n.exprText
    return some (start ++ finish ++ (← clauseAfter "STEP" n.exprText))
  else return none

/-- The direction of an order, and where it puts nulls. -/
def orderKeyAfter (d : Dialect) (n : Nested) (expr : Expr) : Parser OrderKey := do
  let ascending ← direction?
  let nullsFirst ←
    if ← acceptKeywords [.NULLS, .FIRST] then pure (some true)
    else if ← acceptKeywords [.NULLS, .LAST] then pure (some false)
    else pure none
  return ⟨expr, ascending, nullsFirst, ← fill? d n⟩

def orderKey (d : Dialect) (n : Nested) : Parser OrderKey := do
  let expr ← n.expr
  orderKeyAfter d n expr

def orderKeys (d : Dialect) (n : Nested) : Parser (List OrderKey) :=
  commaSeparated (orderKey d n)

def orderKeysText (d : Dialect) (n : Nested) : Parser String :=
  return OrderKey.listSql (← orderKeys d n)

end SelectTree.Sql.Grammar
