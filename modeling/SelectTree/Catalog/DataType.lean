import SelectTree.Text.Split

namespace SelectTree

inductive DataType
  | boolean
  | smallInt
  | integer
  | bigInt
  | numeric (precision scale : Nat)
  | float
  | double
  | char (length : Option Nat)
  | varChar (length : Option Nat)
  | text
  | date
  | time
  | timestamp
  | uuid
  | json
  deriving DecidableEq, Repr

namespace DataType

def lengthText : Option Nat → String
  | none => "None"
  | some n => toString n

def toText : DataType → String
  | .boolean => "Boolean"
  | .smallInt => "SmallInt"
  | .integer => "Integer"
  | .bigInt => "BigInt"
  | .numeric precision scale =>
      "Numeric" ++ Text.parenthesized (Text.listed [toString precision, toString scale])
  | .float => "Float"
  | .double => "Double"
  | .char length => "Char" ++ Text.parenthesized (lengthText length)
  | .varChar length => "VarChar" ++ Text.parenthesized (lengthText length)
  | .text => "Text"
  | .date => "Date"
  | .time => "Time"
  | .timestamp => "Timestamp"
  | .uuid => "Uuid"
  | .json => "Json"

/-- Values of these types are written as bare numerals. -/
def isNumeric : DataType → Bool
  | .smallInt | .integer | .bigInt | .numeric _ _ | .float | .double => true
  | _ => false

/-- Values of these types are written as quoted texts. -/
def isTextual : DataType → Bool
  | .char _ | .varChar _ | .text | .date | .time | .timestamp | .uuid | .json => true
  | _ => false

theorem not_numeric_and_textual (t : DataType) : (t.isNumeric && t.isTextual) = false := by
  cases t <;> rfl

/-- Types are ordered by kind, then by their numbers; an absent length comes first. -/
def sortKey : DataType → List Nat
  | .boolean => [0]
  | .smallInt => [1]
  | .integer => [2]
  | .bigInt => [3]
  | .numeric precision scale => [4, precision, scale]
  | .float => [5]
  | .double => [6]
  | .char none => [7]
  | .char (some n) => [7, n]
  | .varChar none => [8]
  | .varChar (some n) => [8, n]
  | .text => [9]
  | .date => [10]
  | .time => [11]
  | .timestamp => [12]
  | .uuid => [13]
  | .json => [14]

theorem sortKey_injective {a b : DataType} (h : a.sortKey = b.sortKey) : a = b := by
  unfold sortKey at h
  split at h <;> split at h <;> simp_all

def sorted (types : List DataType) : List DataType :=
  types.mergeSort fun a b => !b.sortKey.lex a.sortKey Nat.blt

end DataType

end SelectTree
