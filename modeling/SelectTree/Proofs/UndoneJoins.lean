import SelectTree.Proofs.FreeSources

namespace SelectTree

/-! Joins that are undone: a table that was joined onto the first leaf is taken out again. -/

namespace Source

mutual
/-- No parentheses hold a lone table, but perhaps inside explicit joins and derived tables. -/
def isTidy : Source → Bool
  | .table _ _ => true
  | .derived _ _ => true
  | .join _ _ _ _ => true
  | .naturalJoin left right => left.isTidy && right.isTidy
  | .list items => areTidy items
  | .nested inner => inner.tableName.isNone && inner.isTidy

def areTidy : List Source → Bool
  | [] => true
  | item :: rest => item.isTidy && areTidy rest
end

theorem parenthesize_eq_nested {source : Source} (h : source.tableName = none) :
    source.parenthesize = .nested source := by
  cases source with
  | table name asName => cases h
  | _ => rfl

theorem tableName_ne_of_not_mem {source : Source} {table : String} (h : table ∉ source.tableNames) :
    source.tableName ≠ some table := by
  intro heq
  rw [tableNames_of_tableName heq] at h
  exact h (List.mem_singleton_self table)

mutual
/-- A tree stays as it is if the table is not in it. -/
theorem prune_eq_self {table : String} :
    (source : Source) → source.isTidy = true → table ∉ source.tableNames →
      source.prune table = source
  | .table _ _, _, _ => rfl
  | .derived _ _, _, _ => rfl
  | .join _ _ _ _, _, _ => rfl
  | .nested inner, tidy, hnew => by
      rw [isTidy, Bool.and_eq_true, Option.isNone_iff_eq_none] at tidy
      rw [prune, prune_eq_self inner tidy.2 hnew, parenthesize_eq_nested tidy.1]
  | .list items, tidy, hnew => by
      rw [prune, pruneList_eq_self items tidy hnew]
  | .naturalJoin left right, tidy, hnew => by
      rw [isTidy, Bool.and_eq_true] at tidy
      rw [tableNames, List.mem_append, not_or] at hnew
      rw [prune, if_neg (tableName_ne_of_not_mem hnew.1), if_neg (tableName_ne_of_not_mem hnew.2),
        prune_eq_self left tidy.1 hnew.1, prune_eq_self right tidy.2 hnew.2]

theorem pruneList_eq_self {table : String} :
    (items : List Source) → areTidy items = true → table ∉ tableNamesList items →
      pruneList table items = items
  | [], _, _ => rfl
  | item :: rest, tidy, hnew => by
      rw [areTidy, Bool.and_eq_true] at tidy
      rw [tableNamesList, List.mem_append, not_or] at hnew
      rw [pruneList, prune_eq_self item tidy.1 hnew.1, pruneList_eq_self rest tidy.2 hnew.2]
end

/-- A grown tree gets back to what it was, unless an explicit join holds its first leaf: such a
tree keeps the table. -/
theorem prune_grow {table : String} :
    (source : Source) → source.isTidy = true → table ∉ source.tableNames →
      (source.grow table).prune table =
        if source.opensInJoin then source.grow table else source
  | .table name asName, _, hnew => by
      rw [grow, prune, if_neg (tableName_ne_of_not_mem hnew), if_pos (by rfl), opensInJoin]
      rfl
  | .derived query asName, _, _ => by
      rw [grow, prune, if_neg (by simp [tableName]), if_pos (by rfl), opensInJoin]
      rfl
  | .join _ _ _ _, _, _ => rfl
  | .nested inner, tidy, hnew => by
      rw [isTidy, Bool.and_eq_true, Option.isNone_iff_eq_none] at tidy
      rw [grow, prune, prune_grow inner tidy.2 hnew, opensInJoin]
      split
      · exact parenthesize_eq_nested (tableName_grow table inner)
      · exact parenthesize_eq_nested tidy.1
  | .list [], _, _ => rfl
  | .list (first :: rest), tidy, hnew => by
      rw [isTidy, areTidy, Bool.and_eq_true] at tidy
      rw [tableNames, tableNamesList, List.mem_append, not_or] at hnew
      rw [grow, prune, pruneList, prune_grow first tidy.1 hnew.1,
        pruneList_eq_self rest tidy.2 hnew.2, opensInJoin]
      split <;> rfl
  | .naturalJoin left right, tidy, hnew => by
      rw [isTidy, Bool.and_eq_true] at tidy
      rw [tableNames, List.mem_append, not_or] at hnew
      rw [grow, prune, if_neg (by simp [tableName_grow]),
        if_neg (tableName_ne_of_not_mem hnew.2), prune_grow left tidy.1 hnew.1,
        prune_eq_self right tidy.2 hnew.2, opensInJoin]
      split <;> rfl

end Source

namespace Select

variable {q : Select} {table : String}

theorem validate_grown (valid : q.validate = .ok ()) (htable : table ≠ "") :
    (q.replaceSource (q.source.grow table)).validate = .ok () :=
  Edit.validate_replaceSource valid (Source.check_grow htable q.source (validate_source valid))

/-- A table that is joined to a query without it and then taken out again leaves the query as it
was, unless the first leaf stands in an explicit join. There the table stays. -/
theorem removeNaturalJoin_addNaturalJoin (valid : q.validate = .ok ())
    (tidy : q.source.isTidy = true) (htable : table ≠ "") (hnew : table ∉ q.tables) :
    ∃ grown, q.addNaturalJoin table = .ok grown ∧ table ∈ grown.tables ∧
      grown.removeNaturalJoin table = if q.source.opensInJoin then .ok grown else .ok q := by
  have hnames : table ∉ q.source.tableNames := by rwa [tables, List.mem_eraseDups] at hnew
  have hmem : table ∈ (q.source.grow table).tableNames :=
    (Source.mem_tableNames_grow q.source (validate_source valid)).mpr (.inl rfl)
  refine ⟨_, addNaturalJoin_eq valid table, List.mem_eraseDups.mpr hmem, ?_⟩
  rw [removeNaturalJoin_eq (validate_grown valid htable)]
  have hprune := Source.prune_grow q.source tidy hnames
  cases hopens : q.source.opensInJoin with
  | true =>
      rw [hopens, if_pos rfl] at hprune
      rw [if_pos rfl]
      exact congrArg (fun source => Except.ok (q.replaceSource source)) hprune
  | false =>
      rw [hopens, if_neg Bool.false_ne_true] at hprune
      rw [if_neg Bool.false_ne_true]
      calc Except.ok (q.replaceSource ((q.source.grow table).prune table))
          = .ok (q.replaceSource q.source) := by rw [hprune]
        _ = .ok q := by rw [Edit.replaceSource_source]

/-- Both outcomes: `flights` opens no explicit join, and does open one after `JOIN`. -/
theorem removeNaturalJoin_addNaturalJoin_carriers :
    (∃ grown, (Select.new [.identifier "id"] (.bare "flights")).addNaturalJoin "carriers" =
        .ok grown ∧ "carriers" ∈ grown.tables ∧
      grown.removeNaturalJoin "carriers" = .ok (.new [.identifier "id"] (.bare "flights"))) ∧
    ∃ grown, (Select.new [.identifier "id"]
        (.join .left (.bare "flights") (.bare "airports") .none)).addNaturalJoin "carriers" =
        .ok grown ∧ "carriers" ∈ grown.tables ∧ grown.removeNaturalJoin "carriers" = .ok grown :=
  ⟨removeNaturalJoin_addNaturalJoin rfl rfl (by decide) (by decide),
    removeNaturalJoin_addNaturalJoin rfl rfl (by decide) (by decide)⟩

end Select

end SelectTree
