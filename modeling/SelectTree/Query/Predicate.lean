import SelectTree.Query.Literal

namespace SelectTree

/-! `WHERE` trees: tests of a column against a constant, joined by `AND` and `OR`. -/

inductive Comparison
  | lt
  | le
  | eq
  | ge
  | gt
  | ne
  deriving DecidableEq, Repr

def Comparison.sql : Comparison → String
  | .lt => "<"
  | .le => "<="
  | .eq => "="
  | .ge => ">="
  | .gt => ">"
  | .ne => "<>"

def Comparison.ofText? : String → Option Comparison
  | "<" => some .lt
  | "<=" => some .le
  | "=" => some .eq
  | ">=" => some .ge
  | ">" => some .gt
  | "<>" => some .ne
  | "!=" => some .ne
  | _ => none

theorem Comparison.ofText?_sql (op : Comparison) : ofText? op.sql = some op := by
  cases op <;> rfl

inductive Test
  | compare (column : String) (op : Comparison) (value : Literal)
  | like (column : String) (pattern : Literal)
  deriving DecidableEq, Repr

def Test.column : Test → String
  | .compare column _ _ => column
  | .like column _ => column

def Test.sql : Test → String
  | .compare column op value => column ++ " " ++ op.sql ++ " " ++ value.sql
  | .like column pattern => column ++ " LIKE " ++ pattern.sql

inductive Predicate
  | test (t : Test)
  | and (left right : Predicate)
  | or (left right : Predicate)
  deriving DecidableEq, Repr

namespace Predicate

def isTest : Predicate → Bool
  | .test _ => true
  | _ => false

def isOr : Predicate → Bool
  | .or _ _ => true
  | _ => false

def tests : Predicate → List Test
  | .test t => [t]
  | .and left right => left.tests ++ right.tests
  | .or left right => left.tests ++ right.tests

/-- Truth on a row, given as the truth of every test on it. -/
def holds (row : Test → Bool) : Predicate → Bool
  | .test t => row t
  | .and left right => left.holds row && right.holds row
  | .or left right => left.holds row || right.holds row

def columns (p : Predicate) : List String :=
  p.tests.map Test.column

/-- An `OR` under an `AND` stands in parentheses; nothing else needs them. -/
def sql : Predicate → String
  | .test t => t.sql
  | .and left right =>
      (if left.isOr then Text.parenthesized left.sql else left.sql) ++ " AND " ++
        (if right.isOr then Text.parenthesized right.sql else right.sql)
  | .or left right => left.sql ++ " OR " ++ right.sql

@[simp] theorem tests_test (t : Test) : (test t).tests = [t] := rfl

@[simp] theorem tests_and (left right : Predicate) :
    (and left right).tests = left.tests ++ right.tests := rfl

@[simp] theorem tests_or (left right : Predicate) :
    (or left right).tests = left.tests ++ right.tests := rfl

@[simp] theorem holds_test (row : Test → Bool) (t : Test) : (test t).holds row = row t := rfl

@[simp] theorem holds_and (row : Test → Bool) (left right : Predicate) :
    (and left right).holds row = (left.holds row && right.holds row) := rfl

@[simp] theorem holds_or (row : Test → Bool) (left right : Predicate) :
    (or left right).holds row = (left.holds row || right.holds row) := rfl

theorem tests_ne_nil (p : Predicate) : p.tests ≠ [] := by
  induction p with
  | test t => simp
  | and left right ihLeft _ => simp [ihLeft]
  | or left right ihLeft _ => simp [ihLeft]

end Predicate

end SelectTree
