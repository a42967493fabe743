import SelectTree.Sql.Grammar.Value
import SelectTree.Sql.Grammar.Nested

namespace SelectTree.Sql.Grammar

open Sql.Parser

/-! Samples of a table's rows. -/

def bucket (d : Dialect) (n : Nested) : Parser String := do
  let chosen ← numberText d
  expectPhrase "OUT OF"
  let total ← numberText d
  return "BUCKET " ++ chosen ++ " OUT OF " ++ total ++ (← clauseAfter "ON" n.exprText)

/-- A size that is no expression may be one word. -/
def sampleSize (n : Nested) : Parser String := do
  let size ←
    match ← attempt n.exprText with
    | some text => pure text
    | none =>
        match ← peek with
        | some (.word w) =>
            skipToken
            pure w.text
        | _ =>
            skipToken
            fail (.refusedHere "Expecting number or byte length e.g. 100M")
  match ← acceptOneOf [.ROWS, .PERCENT] with
  | some unit => return size ++ " " ++ unit.spelling
  | none => return size

def sampleSeed (d : Dialect) : Parser String := do
  match ← acceptAnyOf ["REPEATABLE", "SEED"] with
  | some word => return " " ++ word ++ " " ++ Text.parenthesized (← parenthesized (numberText d))
  | none => return ""

/-- A bucket is printed after the seed, a size before it. -/
def sampleRows (d : Dialect) (n : Nested) : Parser String := do
  let inParentheses ← accept .lparen
  if ← whenever inParentheses (acceptWord "BUCKET") then
    let bucket ← bucket d n
    expect .rparen
    return (← sampleSeed d) ++ " " ++ Text.parenthesized bucket
  else
    let size ← sampleSize n
    if inParentheses then
      expect .rparen
      return " " ++ Text.parenthesized size ++ (← sampleSeed d)
    else return " " ++ size ++ (← sampleSeed d)

/-- A sample after the word that opens it. -/
def sampleAfter (d : Dialect) (n : Nested) (word : String) : Parser String := do
  let method ← acceptAnyOf ["BERNOULLI", "ROW", "SYSTEM", "BLOCK"]
  let rows ← sampleRows d n
  return word ++ clausePart " " method ++ rows ++ (← clauseAfter "OFFSET" n.exprText)

def sample? (d : Dialect) (n : Nested) : Parser (Option String) := do
  match ← acceptAnyOf ["TABLESAMPLE", "SAMPLE"] with
  | some word => return some (← sampleAfter d n word)
  | none => return none

end SelectTree.Sql.Grammar
