import SelectTree.Query.Select
import SelectTree.Text.Quoted

namespace SelectTree

/-! Well-formed queries: what every edit asks of the tree that it is given. -/

inductive Malformation
  | emptyProjection
  | badIdentifier (text : String)
  | namelessCall
  | namelessTable
  | emptySourceList
  | namelessTest
  deriving DecidableEq, Repr

def Malformation.message : Malformation → String
  | .emptyProjection => "empty projection"
  | .badIdentifier text => "bad identifier " ++ Text.quoted text
  | .namelessCall => "function call without a name"
  | .namelessTable => "table reference without a name"
  | .emptySourceList => "empty table reference list"
  | .namelessTest => "predicate without a column"

abbrev Check := Except Malformation Unit

def requires (condition : Bool) (fault : Malformation) : Check :=
  if condition then .ok () else .error fault

theorem requires_eq_ok_iff {condition : Bool} {fault : Malformation} :
    requires condition fault = .ok () ↔ condition = true := by
  cases condition <;> simp [requires]

/-- Identifiers have no empty part between, before or after their dots. -/
def hasFullSegments (text : String) : Bool :=
  (Text.segments '.' text.toList).all fun part => !part.isEmpty

mutual
def ColumnRef.check : ColumnRef → Check
  | .identifier text => requires (hasFullSegments text) (.badIdentifier text)
  | .call name args => do
      requires (!name.isEmpty) .namelessCall
      ColumnRef.checkList args

def ColumnRef.checkList : List ColumnRef → Check
  | [] => .ok ()
  | c :: cs => do
      c.check
      ColumnRef.checkList cs
end

def Test.check (t : Test) : Check :=
  requires (!t.column.isEmpty) .namelessTest

def Predicate.check : Predicate → Check
  | .test t => t.check
  | .and left right => do
      left.check
      right.check
  | .or left right => do
      left.check
      right.check

mutual
def Source.check : Source → Check
  | .table name _ => requires (!name.isEmpty) .namelessTable
  | .join _ left right _ => do
      left.check
      right.check
  | .naturalJoin left right => do
      left.check
      right.check
  | .list items => do
      requires (!items.isEmpty) .emptySourceList
      Source.checkList items
  | .nested inner => inner.check
  | .derived query _ => query.check

def Source.checkList : List Source → Check
  | [] => .ok ()
  | item :: rest => do
      item.check
      Source.checkList rest

def Select.check : Select → Check
  | ⟨items, source, filter, groupBy, orderBy⟩ => do
      requires (!items.isEmpty) .emptyProjection
      ColumnRef.checkList items
      source.check
      match filter with
      | none => .ok ()
      | some predicate => predicate.check
      ColumnRef.checkList groupBy
      ColumnRef.checkList (orderBy.map OrderItem.column)
end

end SelectTree
