import SelectTree.Edit.Joins
import SelectTree.Proofs.ItemReading
import SelectTree.Proofs.FactorReading

namespace SelectTree

open Sql Sql.Grammar

/-! Query trees in plain words, and the trees that their texts are read as. -/

/-! Parts of sources -/

/-- A qualified name that is read as a table. -/
def IsPlainTable (d : Dialect) (text : String) : Prop :=
  ∃ (first : Name) (more : List Name), isTableName d first = true ∧
    (∀ name ∈ more, name.isWord d = true) ∧ text = Name.pathSql (first :: more)

/-- A name for a table that is one word without quotes. -/
def IsPlainAlias (d : Dialect) (asName : Option String) : Prop :=
  ∀ text ∈ asName, isWordText d text = true

/-- The condition of a join is read as the text that it is. -/
def JoinConstraint.IsPlain (d : Dialect) (depth : Nat) : JoinConstraint → Prop
  | .none => True
  | .on condition => ∃ ts e, Phrase d depth 0 condition ts e ∧ e.sql = condition
  | .usingColumns columns => ∃ paths : List (List Name), paths ≠ [] ∧
      (∀ names ∈ paths, names ≠ [] ∧ ∀ name ∈ names, name.isWord d = true) ∧
      columns = paths.map Name.pathSql

namespace Source

/-- Whether parentheses may stand around a source. -/
def nests : Source → Bool
  | .join .. | .naturalJoin .. | .nested _ => true
  | _ => false

/-- How many parentheses the right side of a join stands in. -/
def parentheses (source : Source) : Nat :=
  if source.isCombined then 1 else 0

/-- The text of the right side of a join. -/
def operand (source : Source) : String :=
  if source.isCombined then Text.parenthesized source.sql else source.sql

/-- Parentheses around the right side of a join are part of the tree that is read. -/
def grouped (source : Source) (read : Source) : Source :=
  if source.isCombined then .nested read else read

end Source

/-! Trees -/

mutual
/-- Names, conditions and columns of a tree are read as what they are, within `depth` layers; lists
stand in no join and no parentheses. -/
def Source.IsPlain (d : Dialect) : (depth : Nat) → Source → Prop
  | _, .table name asName => IsPlainTable d name ∧ IsPlainAlias d asName
  | depth, .join _ left right constraint =>
      (left.isList = false ∧ left.IsPlain d depth) ∧
        (right.isList = false ∧ right.parentheses ≤ depth ∧
          right.IsPlain d (depth - right.parentheses)) ∧ constraint.IsPlain d depth
  | depth, .naturalJoin left right =>
      (left.isList = false ∧ left.IsPlain d depth) ∧
        (right.isList = false ∧ right.parentheses ≤ depth ∧
          right.IsPlain d (depth - right.parentheses))
  | depth, .list items => 2 ≤ items.length ∧ Source.IsPlainList d depth items
  | depth, .nested inner => 0 < depth ∧ inner.nests = true ∧ inner.IsPlain d (depth - 1)
  | depth, .derived query asName =>
      0 < depth ∧ query.IsPlain d (depth - 1) ∧ IsPlainAlias d asName

def Source.IsPlainList (d : Dialect) : (depth : Nat) → List Source → Prop
  | _, [] => True
  | depth, item :: rest =>
      (item.isList = false ∧ item.IsPlain d depth) ∧ Source.IsPlainList d depth rest

def Select.IsPlain (d : Dialect) : (depth : Nat) → Select → Prop
  | depth, ⟨items, source, filter, groupBy, orderBy⟩ =>
      (items ≠ [] ∧ ∀ item ∈ items, IsPlainItem d depth item) ∧ source.IsPlain d depth ∧
        (∀ p ∈ filter, p.IsPlain d depth) ∧ (∀ key ∈ groupBy, key.IsPlain d depth) ∧
        ∀ key ∈ orderBy, key.IsPlain d depth
end

mutual
/-- The tree that is read from the text of a tree in plain words. -/
def Source.reread : Source → Source
  | .table name asName => .table name asName
  | .join kind left right constraint =>
      .join kind left.reread (right.grouped right.reread) constraint
  | .naturalJoin left right => .naturalJoin left.reread (right.grouped right.reread)
  | .list items => .list (Source.rereadList items)
  | .nested inner => .nested inner.reread
  | .derived query asName => .derived query.reread asName

def Source.rereadList : List Source → List Source
  | [] => []
  | item :: rest => item.reread :: Source.rereadList rest

def Select.reread : Select → Select
  | ⟨items, source, filter, groupBy, orderBy⟩ =>
      ⟨items, source.reread, filter.map Predicate.reassociated, groupBy, orderBy⟩
end

theorem Source.isPlainList_iff {d : Dialect} {depth : Nat} {items : List Source} :
    Source.IsPlainList d depth items ↔
      ∀ item ∈ items, item.isList = false ∧ item.IsPlain d depth := by
  induction items with
  | nil => simp [Source.IsPlainList]
  | cons item rest ih => rw [Source.IsPlainList, ih, List.forall_mem_cons]

theorem Source.rereadList_eq_map (items : List Source) :
    Source.rereadList items = items.map Source.reread := by
  induction items with
  | nil => rfl
  | cons item rest ih => simp [Source.rereadList, ih]

/-! What is kept -/

theorem Source.nests_reread (source : Source) : source.reread.nests = source.nests := by
  cases source <;> rfl

@[simp] theorem Source.tableNames_grouped (source read : Source) :
    (source.grouped read).tableNames = read.tableNames := by
  unfold grouped
  split <;> rfl

mutual
/-- The same tables in the same order. -/
theorem Source.tableNames_reread : (source : Source) →
    source.reread.tableNames = source.tableNames
  | .table _ _ => rfl
  | .join _ left right _ => by
      simp [Source.reread, Source.tableNames, Source.tableNames_reread left,
        Source.tableNames_reread right]
  | .naturalJoin left right => by
      simp [Source.reread, Source.tableNames, Source.tableNames_reread left,
        Source.tableNames_reread right]
  | .list items => by
      simp [Source.reread, Source.tableNames, Source.tableNamesList_reread items]
  | .nested inner => by simp [Source.reread, Source.tableNames, Source.tableNames_reread inner]
  | .derived query _ => by simp [Source.reread, Source.tableNames, Select.tableNames_reread query]

theorem Source.tableNamesList_reread : (items : List Source) →
    Source.tableNamesList (Source.rereadList items) = Source.tableNamesList items
  | [] => rfl
  | item :: rest => by
      simp [Source.rereadList, Source.tableNamesList, Source.tableNames_reread item,
        Source.tableNamesList_reread rest]

theorem Select.tableNames_reread : (q : Select) → q.reread.tableNames = q.tableNames
  | ⟨_, source, _, _, _⟩ => by
      simp [Select.reread, Select.tableNames, Source.tableNames_reread source]
end

theorem Select.tables_reread (q : Select) : q.reread.tables = q.tables := by
  obtain ⟨items, source, filter, groupBy, orderBy⟩ := q
  simp [tables, reread, Source.tableNames_reread]

theorem Source.check_grouped (source read : Source) : (source.grouped read).check = read.check := by
  unfold grouped
  split <;> rfl

theorem Predicate.check_reassociated {p : Predicate} (h : p.check = .ok ()) :
    p.reassociated.check = .ok () := by
  rw [check_iff] at h ⊢
  rwa [tests_reassociated]

mutual
theorem Source.check_reread : (source : Source) → source.check = .ok () →
    source.reread.check = .ok ()
  | .table _ _, h => h
  | .join _ left right _, h => by
      rw [Source.check_join_iff] at h
      rw [Source.reread, Source.check_join_iff, Source.check_grouped]
      exact ⟨Source.check_reread left h.1, Source.check_reread right h.2⟩
  | .naturalJoin left right, h => by
      rw [Source.check_naturalJoin_iff] at h
      rw [Source.reread, Source.check_naturalJoin_iff, Source.check_grouped]
      exact ⟨Source.check_reread left h.1, Source.check_reread right h.2⟩
  | .list items, h => by
      rw [Source.check, Check.both_iff] at h
      rw [Source.reread, Source.check, Check.both_iff]
      refine ⟨?_, Source.checkList_reread items h.2⟩
      cases items with
      | nil => exact h.1
      | cons item rest => rfl
  | .nested inner, h => Source.check_reread inner h
  | .derived query _, h => Select.check_reread query h

theorem Source.checkList_reread : (items : List Source) → Source.checkList items = .ok () →
    Source.checkList (Source.rereadList items) = .ok ()
  | [], h => h
  | item :: rest, h => by
      rw [Source.checkList, Check.both_iff] at h
      rw [Source.rereadList, Source.checkList, Check.both_iff]
      exact ⟨Source.check_reread item h.1, Source.checkList_reread rest h.2⟩

/-- A tree that passes the check is read as one that passes it. -/
theorem Select.check_reread : (q : Select) → q.check = .ok () → q.reread.check = .ok ()
  | ⟨items, source, filter, groupBy, orderBy⟩, h => by
      obtain ⟨hne, hitems, hsource, hfilter, hgroup, horder⟩ := Select.check_iff.mp h
      refine Select.check_iff.mpr
        ⟨hne, hitems, Source.check_reread source hsource, ?_, hgroup, horder⟩
      intro p hp
      obtain ⟨given, hgiven, rfl⟩ := Option.map_eq_some_iff.mp hp
      exact Predicate.check_reassociated (hfilter given hgiven)
end

end SelectTree
