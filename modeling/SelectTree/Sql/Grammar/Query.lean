import SelectTree.Sql.Grammar.Infix
import SelectTree.Sql.Grammar.Pipe

namespace SelectTree.Sql.Grammar

open Sql.Parser

/-! Queries: set operations over selections, with the clauses before and after them. -/

/-! Bodies -/

/-- The table after `TABLE`. Three tokens are read whatever they are, and a schema is one of them
where a period follows it. -/
def wholeTable : Parser String := do
  let start ← rest
  let first ← acceptToken some
  let second ← acceptToken some
  let second' ← rest
  let third ← acceptToken some
  let word (what : String) (place : List Token) : Option Token → Parser String
    | some (.word w) => pure w.text
    | _ => fun _ => .error ⟨.expected (.phrase what), place⟩
  if second = some (.symbol .period) then
    let schema ← word "Schema name" start first
    return "TABLE " ++ schema ++ "." ++ (← word "Table name" second' third)
  else return "TABLE " ++ (← word "Table name" start first)

def bodyHead (d : Dialect) (n : Nested) : Parser Body := do
  let selects ← peekKeyword .SELECT
  let sourcesFirst ← peekKeyword .FROM
  if selects || (sourcesFirst && d.allowsFromFirst) then return .selection (← selection d n)
  else if ← accept .lparen then
    let query ← n.queryText
    expect .rparen
    return .other (Text.parenthesized query)
  else if ← acceptKeyword .VALUES then return .other (← rows n d.allowsEmptyRows)
  else if ← acceptKeyword .TABLE then return .other (← wholeTable)
  else expected .queryBody

/-- Operands joined from the left by any of the given set operators. -/
def combined (operators : List Keyword) (operand : Parser Body) : Parser Body := do
  let first ← operand
  iterate (fun (left : Body) => do
    match ← acceptOneOf operators with
    | some op =>
        let quantifier ← setQuantifier
        let right ← operand
        return .inl (.other (left.sql ++ " " ++ op.spelling ++ quantifier ++ " " ++ right.sql))
    | none => return .inr left) first

/-- Intersections bind more tightly than the other set operations. -/
def body (d : Dialect) (n : Nested) : Parser Body :=
  combined [.UNION, .EXCEPT, .MINUS] (combined [.INTERSECT] (bodyHead d n))

/-! The clause before the body -/

def materialization (d : Dialect) : Parser String := do
  if d.hasMaterialization then
    match ← acceptPhraseOf ["MATERIALIZED", "NOT MATERIALIZED"] with
    | some phrase => return phrase ++ " "
    | none => return ""
  else return ""

def commonTable (d : Dialect) (n : Nested) : Parser String := do
  let given ← name
  let early ← acceptKeyword .AS
  let columns ← if early then pure [] else aliasColumns d n
  if !early then expectKeyword .AS
  let words ← materialization d
  let query ← parenthesizedQuery n
  let origin ← optionally (acceptKeyword .FROM) nameText
  return (Alias.mk given columns).sql ++ " AS " ++ words ++ query ++ clausePart " FROM " origin

def withClause? (d : Dialect) (n : Nested) : Parser (Option String) := do
  if ← acceptKeyword .WITH then
    let recursive ← phrasePart "RECURSIVE"
    return some ("WITH" ++ recursive ++ " " ++ (← listedTexts (commonTable d n)))
  else return none

/-! Queries -/

def query (d : Dialect) (n : Nested) : Parser Query := do
  let withClause ← withClause? d n
  match ← change? d n with
  | some sql => return { Query.ofBody (.other sql) with withClause }
  | none =>
      let body ← body d n
      let (orderBy, interpolation) ← orderClause d n
      let limit ← limitClause d n
      let settings ← settings? d n
      let fetch ← fetch? d
      let purposes ← purposes
      let format ← format? d
      let pipes ← pipes d n
      return ⟨withClause, body, orderBy, interpolation, limit, settings, fetch,
        purposes ++ format.toList ++ pipes⟩

end SelectTree.Sql.Grammar
