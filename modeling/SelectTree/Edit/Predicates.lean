import SelectTree.Edit.Filter

namespace SelectTree

/-! Edits of the `WHERE` tree. -/

namespace Predicate

/-- The first test of a column. -/
def find? (column : String) : Predicate → Option Test
  | .test t => if t.column = column then some t else none
  | .and left right => (left.find? column).or (right.find? column)
  | .or left right => (left.find? column).or (right.find? column)

/-- Requires one more test. It joins the last test of the root, where the root ends in one. -/
def attach (added : Test) : Predicate → Predicate
  | .and left (.test t) => .and left (.and (.test t) (.test added))
  | .or left (.test t) => .or left (.and (.test t) (.test added))
  | p => .and p (.test added)

def isTarget (target : Test → Bool) : Predicate → Bool
  | .test t => target t
  | _ => false

/-- Drops targets, except one that is the whole tree. A pair loses its first target only, and
puts the other side in its place as it is. -/
def collapse (target : Test → Bool) : Predicate → Predicate
  | .test t => .test t
  | .and left right =>
      if left.isTarget target then right
      else if right.isTarget target then left
      else .and (left.collapse target) (right.collapse target)
  | .or left right =>
      if left.isTarget target then right
      else if right.isTarget target then left
      else .or (left.collapse target) (right.collapse target)

def remove (target : Test → Bool) : Predicate → Option Predicate
  | .test t => if target t then none else some (.test t)
  | p => some (p.collapse target)

def rejoin (join : Predicate → Predicate → Predicate) :
    Option Predicate → Option Predicate → Option Predicate
  | some left, some right => some (join left right)
  | side, none => side
  | none, side => side

/-- Keeps the tests that are to stay; a pair that loses a side becomes the other one. -/
def prune (keep : Test → Bool) : Predicate → Option Predicate
  | .test t => if keep t then some (.test t) else none
  | .and left right => rejoin .and (left.prune keep) (right.prune keep)
  | .or left right => rejoin .or (left.prune keep) (right.prune keep)

end Predicate

namespace Select

def findTest (q : Select) (column : String) : Option Test :=
  q.filter.bind (·.find? column)

def appendTest (q : Select) (t : Test) : Except Error Select := do
  q.validate
  return { q with filter := some (match q.filter with
    | none => .test t
    | some root => root.attach t) }

/-- The tests that setting a filter replaces. -/
def isReplaced (column : String) (operator : Edit.FilterOperator) (t : Test) : Bool :=
  operator.targets t && t.column = column

def removeTest (q : Select) (column : String) (operator : Edit.FilterOperator) :
    Except Error Select := do
  q.validate
  return { q with filter := q.filter.bind (·.remove (isReplaced column operator)) }

def pruneTests (q : Select) (keep : Test → Bool) : Select :=
  { q with filter := q.filter.bind (·.prune keep) }

end Select

end SelectTree
