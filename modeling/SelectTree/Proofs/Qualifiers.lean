import SelectTree.Proofs.RemovedColumns

namespace SelectTree

/-! Qualifiers: the tables that the columns of a query are said to come from, and when they are
still read once a column is removed. -/

/-! Qualifiers of a query -/

def Target.qualifier : Target → Option String
  | .wildcard => none
  | .tableWildcard table => some table
  | .column table _ => table

/-- What stands before the last dot of a column text. -/
def textQualifiers (text : String) : List String :=
  (Target.ofText text).qualifier.toList

mutual
/-- The qualifiers of an identifier, or of all arguments of a call. -/
def ColumnRef.qualifiers : ColumnRef → List String
  | .identifier text => textQualifiers text
  | .call _ args => ColumnRef.qualifiersList args

def ColumnRef.qualifiersList : List ColumnRef → List String
  | [] => []
  | c :: cs => c.qualifiers ++ ColumnRef.qualifiersList cs
end

/-- The qualifiers in the tests, grouping keys and sort keys. -/
def Select.conditionQualifiers (q : Select) : List String :=
  q.tests.flatMap (textQualifiers ·.column) ++ (Edit.keys q).flatMap ColumnRef.qualifiers

def Select.qualifiers (q : Select) : List String :=
  q.items.flatMap ColumnRef.qualifiers ++ q.conditionQualifiers

/-- No column is said to come from a table that is not read. -/
def Select.IsAnchored (q : Select) : Prop :=
  ∀ table ∈ q.qualifiers, table ∈ q.tables

instance (q : Select) : Decidable q.IsAnchored :=
  inferInstanceAs (Decidable (∀ table ∈ q.qualifiers, table ∈ q.tables))

theorem textQualifiers_star (table : String) : textQualifiers (Edit.star table) = [table] := by
  rw [textQualifiers, Target.ofText_star]
  rfl

theorem Select.isAnchored_iff {q : Select} :
    q.IsAnchored ↔
      (∀ item ∈ q.items, ∀ table ∈ item.qualifiers, table ∈ q.tables) ∧
        ∀ table ∈ q.conditionQualifiers, table ∈ q.tables := by
  unfold IsAnchored qualifiers
  simp only [List.forall_mem_append, List.mem_flatMap, forall_exists_index, and_imp]
  constructor
  · rintro ⟨hitems, hconditions⟩
    exact ⟨fun item hitem table htable => hitems table item hitem htable, hconditions⟩
  · rintro ⟨hitems, hconditions⟩
    exact ⟨fun table item hitem htable => hitems item hitem table htable, hconditions⟩

namespace Edit

variable {schema : Schema} {options : Options} {q edited : Select} {column text : String}

/-! Rebuilt items -/

/-- Stars are anchored wherever they are written, so only the columns written out matter. -/
theorem rebuilt_anchored_iff {items : List ColumnRef} {columns tables : List String} :
    (∀ item ∈ rebuildItems items (write schema options columns tables),
      ∀ table ∈ item.qualifiers, table ∈ tables) ↔
    ∀ x ∈ columns, x ∈ write schema options columns tables →
      ∀ table ∈ (rebuildItem items x).qualifiers, table ∈ tables := by
  rw [rebuildItems_eq_map, List.forall_mem_map]
  constructor
  · intro h x _ hx
    exact h x hx
  · intro h x hx table htable
    rcases mem_of_mem_write options hx with rfl | ⟨other, hother, -, rfl⟩ | hcolumn
    · rw [rebuildItem_wildcard] at htable
      cases htable
    · rw [rebuildItem_of_isStar (isStar_star other), ColumnRef.qualifiers,
        textQualifiers_star, List.mem_singleton] at htable
      exact htable ▸ hother
    · exact h x hcolumn hx table htable

/-! Removed columns -/

/-- The tables that a query reads once a column is removed. -/
def tablesWithout (schema : Schema) (options : Options) (q : Select) (column : String) :
    List String :=
  tablesLeft schema options (withoutColumn q column) (remaining schema q column)

/-- The columns that are written out once a column is removed, not put under a star. -/
def writtenOut (schema : Schema) (options : Options) (q : Select) (column : String) :
    List String :=
  (remaining schema q column).filter
    ((write schema options (remaining schema q column)
      (tablesWithout schema options q column)).contains ·)

/-- The qualifiers that stay: those of other tests and keys, and those in the arguments of calls
that are projected still. -/
def qualifiersWithout (schema : Schema) (options : Options) (q : Select) (column : String) :
    List String :=
  (withoutColumn q column).conditionQualifiers ++
    (writtenOut schema options q column).flatMap fun x => (rebuildItem q.items x).qualifiers

theorem tables_unprojectColumn (h : unprojectColumn schema options q text = .ok edited) :
    edited.tables = tablesWithout schema options q (projectedName text) := by
  obtain ⟨pruned, hpruned, rfl⟩ := unprojectColumn_eq_ok h
  exact (pruneTables_eq_ok hpruned).2

theorem conditionQualifiers_unprojectColumn
    (h : unprojectColumn schema options q text = .ok edited) :
    edited.conditionQualifiers =
      (withoutColumn q (projectedName text)).conditionQualifiers := by
  rw [eq_of_unprojectColumn h]
  rfl

theorem unprojectColumn_anchored_iff (h : unprojectColumn schema options q text = .ok edited) :
    edited.IsAnchored ↔
      ∀ table ∈ qualifiersWithout schema options q (projectedName text),
        table ∈ tablesWithout schema options q (projectedName text) := by
  have htables := tables_unprojectColumn h
  rw [Select.isAnchored_iff, conditionQualifiers_unprojectColumn h, htables]
  obtain ⟨pruned, hpruned, rfl⟩ := unprojectColumn_eq_ok h
  have hpruned : pruned.tables = tablesWithout schema options q (projectedName text) := htables
  rw [hpruned, rebuilt_anchored_iff, qualifiersWithout, writtenOut, List.forall_mem_append,
    and_comm]
  simp only [List.mem_flatMap, List.mem_filter, List.contains_iff_mem, forall_exists_index,
    and_imp]
  apply and_congr_right
  intro _
  exact ⟨fun hitems table x hx hwritten => hitems x hx hwritten table,
    fun hitems x hx hwritten table => hitems table x hx hwritten⟩

/-- Where the `FROM` tree is pruned, a table is left if it is useful for the columns that the
query still reads, or if no table is. -/
theorem mem_tablesWithout_iff
    (pruned : isReread schema (withoutColumn q column) (remaining schema q column) = false)
    {table : String} :
    table ∈ tablesWithout schema options q column ↔
      table ∈ q.tables ∧
        (IsNeeded schema q.tables
            (references (withoutColumn q column) (remaining schema q column)) table ∨
          ∀ other, ¬ IsNeeded schema q.tables
            (references (withoutColumn q column) (remaining schema q column)) other) := by
  rw [tablesWithout, tablesLeft, pruned, if_neg Bool.false_ne_true, List.mem_filter,
    List.contains_iff_mem]
  apply and_congr_right
  intro htable
  exact mem_neededTables_iff htable

/-- What a removed column leaves is anchored exactly when the tables that are left are those of
all qualifiers that stay. Which tables are left depends on the names of columns alone. -/
theorem removeColumn_anchored_iff
    (h : removeColumn schema options q text = .ok (some edited)) :
    (edited.IsAnchored ↔
      if projectedName text ∈ resolve schema q then
        ∀ table ∈ qualifiersWithout schema options q (projectedName text),
          table ∈ tablesWithout schema options q (projectedName text)
      else q.IsAnchored) ∧
    (isReread schema (withoutColumn q (projectedName text))
        (remaining schema q (projectedName text)) = false →
      ∀ table, table ∈ tablesWithout schema options q (projectedName text) ↔
        table ∈ q.tables ∧
          (IsNeeded schema q.tables (references (withoutColumn q (projectedName text))
              (remaining schema q (projectedName text))) table ∨
            ∀ other, ¬ IsNeeded schema q.tables (references (withoutColumn q (projectedName text))
              (remaining schema q (projectedName text))) other)) := by
  obtain ⟨⟨⟩, valid, -⟩ := bind_eq_ok_iff.mp h
  refine ⟨?_, fun hpruned table => mem_tablesWithout_iff hpruned⟩
  split
  · rename_i hmem
    have hedit := removeColumn_eq_some valid hmem h
    rw [unprojectColumn_anchored_iff hedit, projectedName_projectedName]
  · rename_i hmem
    rw [removeColumn_of_not_mem valid hmem] at h
    cases h
    rfl

/-- The flights of one carrier by its own number, and its name. -/
def namedFlights : Select :=
  { items := [.identifier "id", .identifier "name"]
    source := .naturalJoin (.bare "flights") (.bare "carriers")
    filter := some (.test (.compare "carriers.carrier_id" .eq (.number "7")))
    groupBy := []
    orderBy := [] }

theorem removeColumn_anchored_iff_id :
    ∃ edited, removeColumn .flights .default namedFlights "id" = .ok (some edited) ∧
      edited.IsAnchored :=
  ⟨_, rfl, (@removeColumn_anchored_iff .flights .default namedFlights _ "id" rfl).1.mpr
    (by decide)⟩

/-- The flights have a carrier number too, so that the carriers go with their name. The test
still asks for the number in the carriers. -/
theorem removeColumn_name_not_anchored :
    namedFlights.IsAnchored ∧
      ∃ edited, removeColumn .flights .default namedFlights "name" = .ok (some edited) ∧
        ¬ edited.IsAnchored :=
  ⟨by decide, _, rfl, by decide⟩

end Edit

end SelectTree
