import SelectTree.Text.Split

namespace SelectTree

/-! Column references: projection items, grouping keys and sort keys. -/

inductive ColumnRef
  | identifier (text : String)
  | call (name : String) (args : List ColumnRef)
  deriving Repr

mutual
def ColumnRef.decEq : (a b : ColumnRef) → Decidable (a = b)
  | .identifier s, .identifier t =>
      if h : s = t then .isTrue (by rw [h]) else .isFalse (by simp [h])
  | .call f xs, .call g ys =>
      match ColumnRef.decEqList xs ys with
      | .isTrue hargs =>
          if h : f = g then .isTrue (by rw [h, hargs]) else .isFalse (by simp [h])
      | .isFalse hargs => .isFalse (by simp [hargs])
  | .identifier _, .call _ _ => .isFalse nofun
  | .call _ _, .identifier _ => .isFalse nofun

def ColumnRef.decEqList : (xs ys : List ColumnRef) → Decidable (xs = ys)
  | [], [] => .isTrue rfl
  | [], _ :: _ => .isFalse nofun
  | _ :: _, [] => .isFalse nofun
  | x :: xs, y :: ys =>
      match ColumnRef.decEq x y, ColumnRef.decEqList xs ys with
      | .isTrue hhead, .isTrue htail => .isTrue (by rw [hhead, htail])
      | .isFalse hhead, _ => .isFalse (by simp [hhead])
      | _, .isFalse htail => .isFalse (by simp [htail])
end

instance : DecidableEq ColumnRef := ColumnRef.decEq

/-- What an identifier refers to once its qualifier is split off at the last dot. -/
inductive Target
  | wildcard
  | tableWildcard (table : String)
  | column (table : Option String) (name : String)
  deriving DecidableEq, Repr

def Target.ofText (text : String) : Target :=
  if text = "*" then .wildcard
  else
    match Text.splitLast '.' text.toList with
    | some (table, ['*']) => .tableWildcard (String.ofList table)
    | some (table, name) => .column (some (String.ofList table)) (String.ofList name)
    | none => .column none text

/-- The name that a column text contributes to a resolved projection: its last part, unless it
is a wildcard or the rendering of a call. -/
def projectedName (text : String) : String :=
  if '(' ∈ text.toList then text
  else
    match Target.ofText text with
    | .column _ name => name
    | _ => text

namespace ColumnRef

def target : ColumnRef → Option Target
  | .identifier text => some (Target.ofText text)
  | .call _ _ => none

def columnName (c : ColumnRef) : Option String :=
  match c.target with
  | some (.column _ name) => some name
  | _ => none

def isCall : ColumnRef → Bool
  | .identifier _ => false
  | .call _ _ => true

mutual
def sql : ColumnRef → String
  | .identifier text => text
  | .call name args => name ++ Text.parenthesized (Text.listed (sqlList args))

def sqlList : List ColumnRef → List String
  | [] => []
  | c :: cs => c.sql :: sqlList cs
end

mutual
/-- The compact rendering, which names a call in a resolved projection. -/
def rendering : ColumnRef → String
  | .identifier text => text
  | .call name args => name ++ Text.parenthesized (Text.joined "," (renderings args))

def renderings : List ColumnRef → List String
  | [] => []
  | c :: cs => c.rendering :: renderings cs
end

/-- The name by which a grouping or sort key is known; wildcards have none. -/
def resolvedName : ColumnRef → Option String
  | .identifier text => (identifier text).columnName
  | .call name args => some (call name args).rendering

mutual
/-- Plain columns read by the arguments of a call, those of nested calls included. -/
def argumentColumns : ColumnRef → List String
  | .identifier _ => []
  | .call _ args => argumentColumnsList args

def argumentColumnsList : List ColumnRef → List String
  | [] => []
  | .identifier text :: rest => projectedName text :: argumentColumnsList rest
  | .call name args :: rest => (call name args).argumentColumns ++ argumentColumnsList rest
end

theorem sqlList_eq_map (cs : List ColumnRef) : sqlList cs = cs.map sql := by
  induction cs with
  | nil => rfl
  | cons c cs ih => simp [sqlList, ih]

theorem renderings_eq_map (cs : List ColumnRef) : renderings cs = cs.map rendering := by
  induction cs with
  | nil => rfl
  | cons c cs ih => simp [renderings, ih]

end ColumnRef

structure OrderItem where
  column : ColumnRef
  ascending : Option Bool
  deriving DecidableEq, Repr

def OrderItem.sql (item : OrderItem) : String :=
  item.column.sql ++
    match item.ascending with
    | some true => " ASC"
    | some false => " DESC"
    | none => ""

end SelectTree
