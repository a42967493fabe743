import SelectTree.Error
import SelectTree.Text.Blank

namespace SelectTree

/-! Filter operators, as a user names them. -/

/-- The comparison that a text writes, with blanks around it. -/
def Comparison.ofText (text : String) : Except Error Comparison :=
  match ofText? (Text.trim text) with
  | some op => .ok op
  | none => .error (.unsupportedEdit (.unknownComparison (Text.trim text)))

namespace Edit

inductive FilterOperator
  | like
  | compare (op : Comparison)
  deriving DecidableEq, Repr

namespace FilterOperator

def toText : FilterOperator → String
  | .like => "like"
  | .compare op => op.sql

def ofText (text : String) : Except Error FilterOperator :=
  if (Text.trim text).toList.map Char.toLower = "like".toList then .ok .like
  else (Comparison.ofText text).map .compare

/-- Any comparison stands for all of them here. -/
def targets : FilterOperator → Test → Bool
  | .like, .like _ _ => true
  | .compare _, .compare _ _ _ => true
  | _, _ => false

/-- The test that a filter makes. -/
def test (operator : FilterOperator) (column : String) (value : Literal) : Test :=
  match operator with
  | .like => .like column value
  | .compare op => .compare column op value

@[simp] theorem column_test (operator : FilterOperator) (column : String) (value : Literal) :
    (operator.test column value).column = column := by
  cases operator <;> rfl

@[simp] theorem targets_test (operator : FilterOperator) (column : String) (value : Literal) :
    operator.targets (operator.test column value) = true := by
  cases operator <;> rfl

end FilterOperator

/-- The filter on a column, as a user would type it. -/
structure Filter where
  operator : FilterOperator
  value : String
  deriving DecidableEq, Repr

end Edit

end SelectTree
