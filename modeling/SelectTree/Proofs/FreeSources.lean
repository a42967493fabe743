import SelectTree.Proofs.PrunedTables
import SelectTree.Proofs.Validity

namespace SelectTree

namespace Source

/-! Which tables of a `FROM` tree can be taken out again. -/

theorem tableName_grow (table : String) (source : Source) :
    (source.grow table).tableName = none := by
  cases source with
  | list items => cases items <;> rfl
  | _ => rfl

mutual
theorem tableNames_prune_sublist (table : String) :
    (source : Source) → (source.prune table).tableNames.Sublist source.tableNames
  | .table _ _ => List.Sublist.refl _
  | .join _ _ _ _ => List.Sublist.refl _
  | .derived _ _ => List.Sublist.refl _
  | .nested inner => by
      rw [prune, tableNames_parenthesize, tableNames]
      exact tableNames_prune_sublist table inner
  | .list items => tableNamesList_pruneList_sublist table items
  | .naturalJoin left right => by
      rw [prune, tableNames]
      split
      · exact List.sublist_append_right _ _
      · split
        · exact List.sublist_append_left _ _
        · exact (tableNames_prune_sublist table left).append (tableNames_prune_sublist table right)

theorem tableNamesList_pruneList_sublist (table : String) :
    (items : List Source) →
      (tableNamesList (pruneList table items)).Sublist (tableNamesList items)
  | [] => List.Sublist.refl _
  | item :: rest =>
      (tableNames_prune_sublist table item).append (tableNamesList_pruneList_sublist table rest)
end

/-- Holds of a tree whose first leaf stands on the left of an explicit join. -/
def opensInJoin : Source → Bool
  | .table _ _ => false
  | .derived _ _ => false
  | .nested inner => inner.opensInJoin
  | .list [] => false
  | .list (first :: _) => first.opensInJoin
  | .join _ _ _ _ => true
  | .naturalJoin left _ => left.opensInJoin

/-- A table that was joined onto the first leaf is stuck there exactly if an explicit join holds
that leaf. -/
theorem mem_tableNames_prune_grow_iff {table : String} :
    (source : Source) → source.check = .ok () → table ∉ source.tableNames →
      (table ∈ ((source.grow table).prune table).tableNames ↔ source.opensInJoin = true)
  | .table name asName, _, hnew => by
      have hne : (Source.table name asName).tableName ≠ some table := by
        intro heq
        exact hnew (by rw [tableNames_of_tableName heq]; exact List.mem_singleton_self _)
      rw [grow, prune, if_neg hne, if_pos (by rfl), opensInJoin]
      simpa using hnew
  | .derived query asName, _, hnew => by
      rw [grow, prune, if_neg (by simp [tableName]), if_pos (by rfl), opensInJoin]
      simpa using hnew
  | .nested inner, h, hnew => by
      rw [grow, prune, tableNames_parenthesize, opensInJoin]
      exact mem_tableNames_prune_grow_iff inner h hnew
  | .list [], h, _ => by
      exact absurd rfl (check_list_iff.mp h).1
  | .list (first :: rest), h, hnew => by
      rw [tableNames, tableNamesList, List.mem_append, not_or] at hnew
      have hfirst := (check_list_iff.mp h).2 first List.mem_cons_self
      have hrest : table ∉ tableNamesList (pruneList table rest) :=
        fun hmem => hnew.2 ((tableNamesList_pruneList_sublist table rest).mem hmem)
      rw [grow, prune, pruneList, tableNames, tableNamesList, List.mem_append, opensInJoin,
        mem_tableNames_prune_grow_iff first hfirst hnew.1]
      exact or_iff_left hrest
  | .join kind left right constraint, h, hnew => by
      have hleft := (check_join_iff.mp h).1
      have hkept : ((Source.join kind left right constraint).grow table).prune table =
          .join kind (left.grow table) right constraint := rfl
      rw [hkept, tableNames, List.mem_append, mem_tableNames_grow left hleft]
      simp [opensInJoin]
  | .naturalJoin left right, h, hnew => by
      rw [tableNames, List.mem_append, not_or] at hnew
      have hleft := (check_naturalJoin_iff.mp h).1
      have hother : right.tableName ≠ some table := by
        intro heq
        exact hnew.2 (by rw [tableNames_of_tableName heq]; exact List.mem_singleton_self _)
      have hright : table ∉ (right.prune table).tableNames :=
        fun hmem => hnew.2 ((tableNames_prune_sublist table right).mem hmem)
      rw [grow, prune, if_neg (by simp [tableName_grow]), if_neg hother, tableNames,
        List.mem_append, opensInJoin, mem_tableNames_prune_grow_iff left hleft hnew.1]
      exact or_iff_left hright

theorem ne_empty_of_check_grow {table : String} :
    (source : Source) → source.check = .ok () → (source.grow table).check = .ok () → table ≠ ""
  | .table _ _, _, hgrown => check_table_iff.mp (check_naturalJoin_iff.mp hgrown).2
  | .derived _ _, _, hgrown => check_table_iff.mp (check_naturalJoin_iff.mp hgrown).2
  | .nested inner, h, hgrown => ne_empty_of_check_grow inner h hgrown
  | .list [], h, _ => absurd rfl (check_list_iff.mp h).1
  | .list (first :: rest), h, hgrown => by
      rw [grow, check_list_iff] at hgrown
      exact ne_empty_of_check_grow first ((check_list_iff.mp h).2 first List.mem_cons_self)
        (hgrown.2 _ List.mem_cons_self)
  | .join _ left _ _, h, hgrown =>
      ne_empty_of_check_grow left (check_join_iff.mp h).1 (check_join_iff.mp hgrown).1
  | .naturalJoin left _, h, hgrown =>
      ne_empty_of_check_grow left (check_naturalJoin_iff.mp h).1 (check_naturalJoin_iff.mp hgrown).1

end Source

namespace Edit

variable {schema : Schema} {options : Options} {q : Select} {stale remaining : List String}

/-! Tables that are not stuck -/

/-- No table is left of those that are dropped one after the other. -/
def IsCleared (source : Source) (stale : List String) : Prop :=
  ∀ table ∈ stale,
    table ∉ (stale.foldl (fun source table => source.prune table) source).tableNames

theorem exists_removeTables_iff (valid : q.validate = .ok ()) :
    (∃ pruned, removeTables q stale = .ok pruned) ↔ IsCleared q.source stale := by
  have hstuck : ∀ names : List String,
      (names.eraseDups.filter (stale.contains ·)).isEmpty = true ↔
        ∀ table ∈ stale, table ∉ names := by
    intro names
    rw [List.isEmpty_iff, List.filter_eq_nil_iff]
    simp only [List.mem_eraseDups, List.contains_iff_mem]
    exact ⟨fun h table hstale hmem => h table hmem hstale,
      fun h table hmem hstale => h table hstale hmem⟩
  unfold IsCleared removeTables
  rw [foldlM_removeNaturalJoin valid, ← hstuck]
  dsimp only [bind, Except.bind]
  constructor
  · rintro ⟨pruned, h⟩
    split at h
    · assumption
    · cases h
  · intro h
    exact ⟨_, if_pos h⟩

/-- The tables that the columns of a query do not need can be taken out. -/
def IsPrunable (schema : Schema) (options : Options) (q : Select) (remaining : List String) :
    Prop :=
  if isReread schema q remaining then
    ∃ source, readChain options.dialect (neededTables schema q remaining) = .ok source
  else IsCleared q.source (staleTables schema q remaining)

theorem pruneTables_of_not_isReread (h : isReread schema q remaining = false) :
    pruneTables schema options q remaining =
      removeTables q (staleTables schema q remaining) := by
  unfold isReread at h
  unfold pruneTables staleTables
  dsimp only
  split
  · rename_i hnone
    rw [List.isEmpty_iff.mp hnone, removeTables]
    simp [pure, Except.pure, bind, Except.bind]
  · rw [h, if_neg Bool.false_ne_true]

theorem exists_pruneTables_iff (valid : q.validate = .ok ()) :
    (∃ pruned, pruneTables schema options q remaining = .ok pruned) ↔
      IsPrunable schema options q remaining := by
  unfold IsPrunable
  cases hreread : isReread schema q remaining with
  | true =>
      rw [pruneTables_of_isReread hreread, if_pos rfl]
      constructor
      · rintro ⟨pruned, h⟩
        obtain ⟨source, hread, -⟩ := map_eq_ok_iff.mp h
        exact ⟨source, hread⟩
      · rintro ⟨source, hread⟩
        exact ⟨_, map_eq_ok_iff.mpr ⟨source, hread, rfl⟩⟩
  | false =>
      rw [pruneTables_of_not_isReread hreread, if_neg Bool.false_ne_true]
      exact exists_removeTables_iff valid

end Edit

end SelectTree
