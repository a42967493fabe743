import SelectTree.Proofs.UndoneJoins

namespace SelectTree

/-! The leaves of a `FROM` tree: its tables and its derived tables. A table that is joined comes
in as one more of them, and a table that is taken out is the only one that goes. -/

namespace Source

variable {table : String}

/-! Leaves -/

mutual
/-- The tables and the derived tables from left to right, those inside derived tables left out. -/
def leaves : Source → List Source
  | .table name asName => [.table name asName]
  | .derived query asName => [.derived query asName]
  | .join _ left right _ => left.leaves ++ right.leaves
  | .naturalJoin left right => left.leaves ++ right.leaves
  | .list items => leavesList items
  | .nested inner => inner.leaves

def leavesList : List Source → List Source
  | [] => []
  | item :: rest => item.leaves ++ leavesList rest
end

/-- The leaves that do not go by the name. -/
def unlike (table : String) (leaves : List Source) : List Source :=
  leaves.filter (·.tableName ≠ some table)

theorem leaves_of_tableName {source : Source} (h : source.tableName = some table) :
    source.leaves = [source] := by
  cases source with
  | table name asName => rfl
  | _ => cases h

theorem leaves_parenthesize (source : Source) : source.parenthesize.leaves = source.leaves := by
  cases source with
  | _ => simp only [parenthesize, leaves]

theorem leaves_ne_nil : (source : Source) → source.check = .ok () → source.leaves ≠ []
  | .table _ _, _ => List.cons_ne_nil _ _
  | .derived _ _, _ => List.cons_ne_nil _ _
  | .join _ left _ _, h =>
      List.append_ne_nil_of_left_ne_nil (leaves_ne_nil left (check_join_iff.mp h).1) _
  | .naturalJoin left _, h =>
      List.append_ne_nil_of_left_ne_nil (leaves_ne_nil left (check_naturalJoin_iff.mp h).1) _
  | .list [], h => absurd rfl (check_list_iff.mp h).1
  | .list (first :: _), h =>
      List.append_ne_nil_of_left_ne_nil
        (leaves_ne_nil first ((check_list_iff.mp h).2 first List.mem_cons_self)) _
  | .nested inner, h => leaves_ne_nil inner h

/-! Grown trees -/

/-- The table comes in right after the first leaf. -/
theorem leaves_grow (table : String) : (source : Source) → source.check = .ok () →
    ∃ first rest, source.leaves = first :: rest ∧
      (source.grow table).leaves = first :: .bare table :: rest
  | .table name asName, _ => ⟨.table name asName, [], rfl, rfl⟩
  | .derived query asName, _ => ⟨.derived query asName, [], rfl, rfl⟩
  | .nested inner, h => leaves_grow table inner h
  | .list [], h => absurd rfl (check_list_iff.mp h).1
  | .list (item :: items), h => by
      obtain ⟨first, rest, hleaves, hgrown⟩ :=
        leaves_grow table item ((check_list_iff.mp h).2 item List.mem_cons_self)
      exact ⟨first, rest ++ leavesList items, by simp [leaves, leavesList, hleaves],
        by simp [grow, leaves, leavesList, hgrown]⟩
  | .join kind left right constraint, h => by
      obtain ⟨first, rest, hleaves, hgrown⟩ := leaves_grow table left (check_join_iff.mp h).1
      exact ⟨first, rest ++ right.leaves, by simp [leaves, hleaves], by simp [grow, leaves, hgrown]⟩
  | .naturalJoin left right, h => by
      obtain ⟨first, rest, hleaves, hgrown⟩ := leaves_grow table left (check_naturalJoin_iff.mp h).1
      exact ⟨first, rest ++ right.leaves, by simp [leaves, hleaves], by simp [grow, leaves, hgrown]⟩

/-! Pruned trees -/

mutual
theorem leaves_prune_sublist (table : String) :
    (source : Source) → (source.prune table).leaves.Sublist source.leaves
  | .table _ _ => List.Sublist.refl _
  | .derived _ _ => List.Sublist.refl _
  | .join _ _ _ _ => List.Sublist.refl _
  | .nested inner => by
      rw [prune, leaves_parenthesize, leaves]
      exact leaves_prune_sublist table inner
  | .list items => leavesList_pruneList_sublist table items
  | .naturalJoin left right => by
      rw [prune, leaves]
      split
      · exact List.sublist_append_right _ _
      · split
        · exact List.sublist_append_left _ _
        · exact (leaves_prune_sublist table left).append (leaves_prune_sublist table right)

theorem leavesList_pruneList_sublist (table : String) :
    (items : List Source) → (leavesList (pruneList table items)).Sublist (leavesList items)
  | [] => List.Sublist.refl _
  | item :: rest =>
      (leaves_prune_sublist table item).append (leavesList_pruneList_sublist table rest)
end

theorem unlike_append (xs ys : List Source) :
    unlike table (xs ++ ys) = unlike table xs ++ unlike table ys :=
  List.filter_append xs ys

theorem unlike_leaves_of_tableName {source : Source} (h : source.tableName = some table) :
    unlike table source.leaves = [] := by
  rw [leaves_of_tableName h]
  simp [unlike, h]

mutual
/-- A leaf that goes is a table of the name. -/
theorem unlike_leaves_prune (table : String) :
    (source : Source) → unlike table (source.prune table).leaves = unlike table source.leaves
  | .table _ _ => rfl
  | .derived _ _ => rfl
  | .join _ _ _ _ => rfl
  | .nested inner => by
      rw [prune, leaves_parenthesize, leaves]
      exact unlike_leaves_prune table inner
  | .list items => unlike_leavesList_pruneList table items
  | .naturalJoin left right => by
      rw [prune, leaves, unlike_append]
      split
      · rename_i hleft
        rw [unlike_leaves_of_tableName hleft, List.nil_append]
      · split
        · rename_i hright
          rw [unlike_leaves_of_tableName hright, List.append_nil]
        · rw [leaves, unlike_append, unlike_leaves_prune table left,
            unlike_leaves_prune table right]

theorem unlike_leavesList_pruneList (table : String) :
    (items : List Source) →
      unlike table (leavesList (pruneList table items)) = unlike table (leavesList items)
  | [] => rfl
  | item :: rest => by
      rw [pruneList, leavesList, leavesList, unlike_append, unlike_append,
        unlike_leaves_prune table item, unlike_leavesList_pruneList table rest]
end

/-! Sides of natural joins -/

mutual
/-- Whether the table is a side of some natural join, outside explicit joins and derived
tables. -/
def hasSide (table : String) : Source → Bool
  | .table _ _ => false
  | .derived _ _ => false
  | .join _ _ _ _ => false
  | .naturalJoin left right =>
      left.tableName = some table || right.tableName = some table || left.hasSide table ||
        right.hasSide table
  | .list items => haveSide table items
  | .nested inner => inner.hasSide table

def haveSide (table : String) : List Source → Bool
  | [] => false
  | item :: rest => item.hasSide table || haveSide table rest
end

theorem length_append_lt_iff {xs xs' ys ys' : List Source} {p q : Prop}
    (hxs : xs'.length ≤ xs.length) (hys : ys'.length ≤ ys.length)
    (hp : xs'.length < xs.length ↔ p) (hq : ys'.length < ys.length ↔ q) :
    (xs' ++ ys').length < (xs ++ ys).length ↔ p ∨ q := by
  rw [List.length_append, List.length_append, ← hp, ← hq]
  omega

mutual
/-- Some leaf goes exactly if the table is a side of a natural join that can be reached. -/
theorem length_leaves_prune_lt_iff (table : String) :
    (source : Source) → source.check = .ok () →
      ((source.prune table).leaves.length < source.leaves.length ↔ source.hasSide table = true)
  | .table _ _, _ => by simp [prune, hasSide]
  | .derived _ _, _ => by simp [prune, hasSide]
  | .join _ _ _ _, _ => by simp [prune, hasSide]
  | .nested inner, h => by
      rw [prune, leaves_parenthesize, leaves, hasSide]
      exact length_leaves_prune_lt_iff table inner h
  | .list items, h =>
      length_leavesList_pruneList_lt_iff table items (checkList_iff.mpr (check_list_iff.mp h).2)
  | .naturalJoin left right, h => by
      obtain ⟨hleft, hright⟩ := check_naturalJoin_iff.mp h
      have hposLeft := List.length_pos_iff.mpr (leaves_ne_nil left hleft)
      have hposRight := List.length_pos_iff.mpr (leaves_ne_nil right hright)
      rw [prune, hasSide, leaves]
      split
      · rename_i hside
        simpa [hside] using hposLeft
      · split
        · rename_i hside
          simpa [hside] using hposRight
        · rename_i hnotLeft hnotRight
          rw [leaves, length_append_lt_iff (leaves_prune_sublist table left).length_le
            (leaves_prune_sublist table right).length_le
            (length_leaves_prune_lt_iff table left hleft)
            (length_leaves_prune_lt_iff table right hright)]
          simp [hnotLeft, hnotRight]

theorem length_leavesList_pruneList_lt_iff (table : String) :
    (items : List Source) → checkList items = .ok () →
      ((leavesList (pruneList table items)).length < (leavesList items).length ↔
        haveSide table items = true)
  | [], _ => by simp [pruneList, haveSide]
  | item :: rest, h => by
      rw [checkList, Check.both_iff] at h
      rw [pruneList, leavesList, leavesList, haveSide, Bool.or_eq_true]
      exact length_append_lt_iff (leaves_prune_sublist table item).length_le
        (leavesList_pruneList_sublist table rest).length_le
        (length_leaves_prune_lt_iff table item h.1)
        (length_leavesList_pruneList_lt_iff table rest h.2)
end

/-! Explicit joins -/

mutual
/-- The explicit joins that stand in no other, each as a whole. -/
def joinTrees : Source → List Source
  | .table _ _ => []
  | .derived _ _ => []
  | .join kind left right constraint => [.join kind left right constraint]
  | .naturalJoin left right => left.joinTrees ++ right.joinTrees
  | .list items => joinTreesList items
  | .nested inner => inner.joinTrees

def joinTreesList : List Source → List Source
  | [] => []
  | item :: rest => item.joinTrees ++ joinTreesList rest
end

theorem joinTrees_of_tableName {source : Source} (h : source.tableName = some table) :
    source.joinTrees = [] := by
  cases source with
  | table name asName => rfl
  | _ => cases h

theorem joinTrees_parenthesize (source : Source) :
    source.parenthesize.joinTrees = source.joinTrees := by
  cases source with
  | _ => simp only [parenthesize, joinTrees]

mutual
theorem joinTrees_prune (table : String) :
    (source : Source) → (source.prune table).joinTrees = source.joinTrees
  | .table _ _ => rfl
  | .derived _ _ => rfl
  | .join _ _ _ _ => rfl
  | .nested inner => by
      rw [prune, joinTrees_parenthesize, joinTrees]
      exact joinTrees_prune table inner
  | .list items => joinTreesList_pruneList table items
  | .naturalJoin left right => by
      rw [prune, joinTrees]
      split
      · rename_i hleft
        rw [joinTrees_of_tableName hleft, List.nil_append]
      · split
        · rename_i hright
          rw [joinTrees_of_tableName hright, List.append_nil]
        · rw [joinTrees, joinTrees_prune table left, joinTrees_prune table right]

theorem joinTreesList_pruneList (table : String) :
    (items : List Source) → joinTreesList (pruneList table items) = joinTreesList items
  | [] => rfl
  | item :: rest => by
      rw [pruneList, joinTreesList, joinTreesList, joinTrees_prune table item,
        joinTreesList_pruneList table rest]
end

end Source

namespace Select

open Source

variable {q : Select} {table : String}

theorem validate_pruned (valid : q.validate = .ok ()) (table : String) :
    (q.replaceSource (q.source.prune table)).validate = .ok () :=
  Edit.validate_replaceSource valid (check_prune table q.source (validate_source valid))

/-- Joining a table adds it after the first leaf. Taking a table out drops leaves of its name
only, never all leaves, and some wherever the table is a side of a natural join that can be
reached; explicit joins stay whole. Both leave a valid query, the same but for its `FROM`. -/
theorem naturalJoin_edits_leaves (valid : q.validate = .ok ()) (htable : table ≠ "") :
    (∃ grown first rest, q.addNaturalJoin table = .ok grown ∧ grown.validate = .ok () ∧
      grown = q.replaceSource grown.source ∧ q.source.leaves = first :: rest ∧
      grown.source.leaves = first :: .bare table :: rest) ∧
    ∃ pruned, q.removeNaturalJoin table = .ok pruned ∧ pruned.validate = .ok () ∧
      pruned = q.replaceSource pruned.source ∧ pruned.source.leaves ≠ [] ∧
      pruned.source.leaves.Sublist q.source.leaves ∧
      unlike table pruned.source.leaves = unlike table q.source.leaves ∧
      (pruned.source.leaves.length < q.source.leaves.length ↔ q.source.hasSide table = true) ∧
      pruned.source.joinTrees = q.source.joinTrees := by
  have hsource := validate_source valid
  constructor
  · obtain ⟨first, rest, hleaves, hgrown⟩ := leaves_grow table q.source hsource
    exact ⟨_, first, rest, addNaturalJoin_eq valid table, validate_grown valid htable, rfl, hleaves,
      hgrown⟩
  · have hpruned := validate_pruned valid table
    exact ⟨_, removeNaturalJoin_eq valid table, hpruned, rfl,
      leaves_ne_nil _ (validate_source hpruned), leaves_prune_sublist table q.source,
      unlike_leaves_prune table q.source, length_leaves_prune_lt_iff table q.source hsource,
      joinTrees_prune table q.source⟩

/-- `flights` beside a join of `carriers` that is explicit. -/
def flightsBesideCarriers : Select :=
  .new [.identifier "id"] (.list [.naturalJoin (.bare "flights") (.bare "airports"),
    .join .left (.bare "flights") (.bare "carriers") .none])

theorem naturalJoin_edits_leaves_flights :
    (∃ grown first rest, flightsBesideCarriers.addNaturalJoin "flights" = .ok grown ∧
      grown.validate = .ok () ∧ grown = flightsBesideCarriers.replaceSource grown.source ∧
      flightsBesideCarriers.source.leaves = first :: rest ∧
      grown.source.leaves = first :: .bare "flights" :: rest) ∧
    ∃ pruned, flightsBesideCarriers.removeNaturalJoin "flights" = .ok pruned ∧
      pruned.validate = .ok () ∧ pruned = flightsBesideCarriers.replaceSource pruned.source ∧
      pruned.source.leaves ≠ [] ∧
      pruned.source.leaves.Sublist flightsBesideCarriers.source.leaves ∧
      unlike "flights" pruned.source.leaves =
        unlike "flights" flightsBesideCarriers.source.leaves ∧
      (pruned.source.leaves.length < flightsBesideCarriers.source.leaves.length ↔
        flightsBesideCarriers.source.hasSide "flights" = true) ∧
      pruned.source.joinTrees = flightsBesideCarriers.source.joinTrees :=
  naturalJoin_edits_leaves rfl (by decide)

end Select

end SelectTree
