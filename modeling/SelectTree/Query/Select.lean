import SelectTree.Query.Column
import SelectTree.Query.Predicate

namespace SelectTree

/-! Queries as trees: the `SELECT` statements that can be edited, and the `FROM` trees inside. -/

inductive JoinKind
  | plain
  | inner
  | left
  | leftOuter
  | right
  | rightOuter
  | fullOuter
  deriving DecidableEq, Repr

def JoinKind.sql : JoinKind → String
  | .plain => "JOIN"
  | .inner => "INNER JOIN"
  | .left => "LEFT JOIN"
  | .leftOuter => "LEFT OUTER JOIN"
  | .right => "RIGHT JOIN"
  | .rightOuter => "RIGHT OUTER JOIN"
  | .fullOuter => "FULL OUTER JOIN"

/-- The condition of an explicit join. It is kept as text, since no edit looks inside. -/
inductive JoinConstraint
  | none
  | on (condition : String)
  | usingColumns (columns : List String)
  deriving DecidableEq, Repr

def JoinConstraint.sql : JoinConstraint → String
  | .none => ""
  | .on condition => " ON " ++ condition
  | .usingColumns columns => " USING " ++ Text.parenthesized (Text.listed columns)

mutual
inductive Source
  | table (name : String) (asName : Option String)
  | join (kind : JoinKind) (left right : Source) (constraint : JoinConstraint)
  | naturalJoin (left right : Source)
  | list (items : List Source)
  | nested (inner : Source)
  | derived (query : Select) (asName : Option String)

structure Select where
  items : List ColumnRef
  source : Source
  filter : Option Predicate
  groupBy : List ColumnRef
  orderBy : List OrderItem
end

mutual
def Source.decEq : (a b : Source) → Decidable (a = b)
  | .table n a, .table m b =>
      if h : n = m ∧ a = b then .isTrue (by rw [h.1, h.2])
      else .isFalse (by simpa using h)
  | .join k l r c, .join k' l' r' c' =>
      match Source.decEq l l', Source.decEq r r' with
      | .isTrue hl, .isTrue hr =>
          if h : k = k' ∧ c = c' then .isTrue (by rw [h.1, h.2, hl, hr])
          else .isFalse (by rintro ⟨⟩; exact h ⟨rfl, rfl⟩)
      | .isFalse hl, _ => .isFalse (by rintro ⟨⟩; exact hl rfl)
      | _, .isFalse hr => .isFalse (by rintro ⟨⟩; exact hr rfl)
  | .naturalJoin l r, .naturalJoin l' r' =>
      match Source.decEq l l', Source.decEq r r' with
      | .isTrue hl, .isTrue hr => .isTrue (by rw [hl, hr])
      | .isFalse hl, _ => .isFalse (by rintro ⟨⟩; exact hl rfl)
      | _, .isFalse hr => .isFalse (by rintro ⟨⟩; exact hr rfl)
  | .list xs, .list ys =>
      match Source.decEqList xs ys with
      | .isTrue h => .isTrue (by rw [h])
      | .isFalse h => .isFalse (by rintro ⟨⟩; exact h rfl)
  | .nested a, .nested b =>
      match Source.decEq a b with
      | .isTrue h => .isTrue (by rw [h])
      | .isFalse h => .isFalse (by rintro ⟨⟩; exact h rfl)
  | .derived q a, .derived q' b =>
      match Select.decEq q q' with
      | .isTrue hq =>
          if h : a = b then .isTrue (by rw [hq, h]) else .isFalse (by rintro ⟨⟩; exact h rfl)
      | .isFalse hq => .isFalse (by rintro ⟨⟩; exact hq rfl)
  | .table .., .join .. | .table .., .naturalJoin .. | .table .., .list ..
  | .table .., .nested .. | .table .., .derived ..
  | .join .., .table .. | .join .., .naturalJoin .. | .join .., .list ..
  | .join .., .nested .. | .join .., .derived ..
  | .naturalJoin .., .table .. | .naturalJoin .., .join .. | .naturalJoin .., .list ..
  | .naturalJoin .., .nested .. | .naturalJoin .., .derived ..
  | .list .., .table .. | .list .., .join .. | .list .., .naturalJoin ..
  | .list .., .nested .. | .list .., .derived ..
  | .nested .., .table .. | .nested .., .join .. | .nested .., .naturalJoin ..
  | .nested .., .list .. | .nested .., .derived ..
  | .derived .., .table .. | .derived .., .join .. | .derived .., .naturalJoin ..
  | .derived .., .list .. | .derived .., .nested .. => .isFalse nofun

def Source.decEqList : (xs ys : List Source) → Decidable (xs = ys)
  | [], [] => .isTrue rfl
  | [], _ :: _ => .isFalse nofun
  | _ :: _, [] => .isFalse nofun
  | x :: xs, y :: ys =>
      match Source.decEq x y, Source.decEqList xs ys with
      | .isTrue hhead, .isTrue htail => .isTrue (by rw [hhead, htail])
      | .isFalse hhead, _ => .isFalse (by rintro ⟨⟩; exact hhead rfl)
      | _, .isFalse htail => .isFalse (by rintro ⟨⟩; exact htail rfl)

def Select.decEq : (a b : Select) → Decidable (a = b)
  | ⟨items, source, filter, groupBy, orderBy⟩, ⟨items', source', filter', groupBy', orderBy'⟩ =>
      match Source.decEq source source' with
      | .isTrue hsource =>
          if h : items = items' ∧ filter = filter' ∧ groupBy = groupBy' ∧ orderBy = orderBy' then
            .isTrue (by rw [hsource, h.1, h.2.1, h.2.2.1, h.2.2.2])
          else .isFalse (by rintro ⟨⟩; exact h ⟨rfl, rfl, rfl, rfl⟩)
      | .isFalse hsource => .isFalse (by rintro ⟨⟩; exact hsource rfl)
end

instance : DecidableEq Source := Source.decEq

instance : DecidableEq Select := Select.decEq

def Select.new (items : List ColumnRef) (source : Source) : Select :=
  ⟨items, source, none, [], []⟩

namespace Source

def bare (name : String) : Source := .table name none

/-- The name of a table leaf. -/
def tableName : Source → Option String
  | .table name _ => some name
  | _ => none

/-- Holds of a tree that its table names determine: unaliased tables, natural joins and
parentheses only. -/
def isNaturalChain : Source → Bool
  | .table _ asName => asName.isNone
  | .naturalJoin left right => left.isNaturalChain && right.isNaturalChain
  | .nested inner => inner.isNaturalChain
  | _ => false

def isList : Source → Bool
  | .list _ => true
  | _ => false

def isCombined : Source → Bool
  | .join .. | .naturalJoin .. | .list _ => true
  | _ => false

def asSql : Option String → String
  | none => ""
  | some asName => " AS " ++ asName

end Source

mutual
/-- Joins associate to the left, so a join on the right of a join stands in parentheses; a
comma list does on either side. -/
def Source.sql : Source → String
  | .table name asName => name ++ Source.asSql asName
  | .join kind left right constraint =>
      (if left.isList then Text.parenthesized left.sql else left.sql) ++ " " ++ kind.sql ++ " " ++
        (if right.isCombined then Text.parenthesized right.sql else right.sql) ++ constraint.sql
  | .naturalJoin left right =>
      (if left.isList then Text.parenthesized left.sql else left.sql) ++ " NATURAL JOIN " ++
        (if right.isCombined then Text.parenthesized right.sql else right.sql)
  | .list items => Text.listed (Source.sqlList items)
  | .nested inner => Text.parenthesized inner.sql
  | .derived query asName => Text.parenthesized query.sql ++ Source.asSql asName

def Source.sqlList : List Source → List String
  | [] => []
  | item :: rest => item.sql :: Source.sqlList rest

def Select.sql : Select → String
  | ⟨items, source, filter, groupBy, orderBy⟩ =>
      "SELECT " ++ Text.listed (items.map ColumnRef.sql) ++ " FROM " ++ source.sql ++
        (match filter with
          | none => ""
          | some predicate => " WHERE " ++ predicate.sql) ++
        (if groupBy.isEmpty then ""
          else " GROUP BY " ++ Text.listed (groupBy.map ColumnRef.sql)) ++
        (if orderBy.isEmpty then ""
          else " ORDER BY " ++ Text.listed (orderBy.map OrderItem.sql))
end

theorem Source.sqlList_eq_map (items : List Source) :
    Source.sqlList items = items.map Source.sql := by
  induction items with
  | nil => rfl
  | cons item rest ih => simp [Source.sqlList, ih]

end SelectTree
