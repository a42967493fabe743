import SelectTree.Proofs.FreeSources
import SelectTree.Proofs.GrownQueries
import SelectTree.Proofs.NeededTables

namespace SelectTree.Edit

/-! Columns that are dragged in and out again: what the table that came with a column takes over,
and when it can leave. -/

variable {schema : Schema} {options : Options} {q edited : Select} {table column : String}
  {columns candidates : List String}

/-! Columns dragged in -/

theorem extendQuery_of_addColumn (h : addColumn schema options (some q) table column = .ok edited) :
    checkColumn schema table column = .ok () ∧
      extendQuery schema options q table column = .ok edited := by
  obtain ⟨⟨⟩, hcolumn, hextend⟩ := bind_eq_ok_iff.mp h
  exact ⟨hcolumn, hextend⟩

/-- The projection is checked before the table is joined, and then only the name of the table
can be wrong. -/
theorem validate_joined_iff (hnew : table ∉ q.tables)
    (h : extendQuery schema options q table column = .ok edited) :
    edited.validate = .ok () ↔ table ≠ "" := by
  have hjoined : ∃ projected : Select, projected.addNaturalJoin table = .ok edited := by
    have hread : q.tables.contains table = false := by simpa using hnew
    obtain ⟨⟨⟩, -, h⟩ := bind_eq_ok_iff.mp h
    simp only [hread, Bool.false_eq_true, if_false] at h
    split at h
    · obtain ⟨projected, -, h⟩ := bind_eq_ok_iff.mp h
      exact ⟨projected, h⟩
    · exact ⟨q, h⟩
  obtain ⟨projected, hjoin⟩ := hjoined
  obtain ⟨⟨⟩, valid, heq⟩ := bind_eq_ok_iff.mp hjoin
  obtain rfl := Except.ok.inj heq
  have hsource := Select.validate_source valid
  constructor
  · intro hgrown
    exact Source.ne_empty_of_check_grow projected.source hsource (Select.validate_source hgrown)
  · intro htable
    exact validate_replaceSource valid (Source.check_grow htable projected.source hsource)

theorem mem_resolve_of_fresh (plain : schema.HasPlainColumns)
    (hcolumn : column ∈ schema.columnNames table) (hfresh : column ∉ resolve schema q)
    (h : addColumn schema options (some q) table column = .ok edited) {x : String} :
    x ∈ resolve schema edited ↔ x ∈ resolve schema q ∨ x = column := by
  obtain ⟨hchecked, hextend⟩ := extendQuery_of_addColumn h
  have hne : column ≠ "*" := (isColumnName_iff.mp (isColumnName_of_mem_columnNames plain hcolumn)).2
  have hneeds : needsItem schema q column = true := by
    simp [needsItem, hfresh]
  rw [mem_resolve_of_needsItem plain hchecked hextend hneeds, requested, if_neg hne,
    List.mem_singleton]

theorem mem_remaining_of_fresh (plain : schema.HasPlainColumns)
    (hcolumn : column ∈ schema.columnNames table) (hfresh : column ∉ resolve schema q)
    (h : addColumn schema options (some q) table column = .ok edited) {x : String} :
    x ∈ remaining schema edited column ↔ x ∈ resolve schema q := by
  rw [mem_remaining, mem_resolve_of_fresh plain hcolumn hfresh h]
  constructor
  · rintro ⟨hx | hx, hne⟩
    · exact hx
    · exact absurd hx hne
  · intro hx
    refine ⟨.inl hx, ?_⟩
    rintro rfl
    exact hfresh hx

/-! Tables that leave with a column -/

/-- The tables that a query no longer needs once a column is gone. -/
def lostTables (schema : Schema) (q : Select) (column : String) : List String :=
  staleTables schema (withoutColumn q column) (remaining schema q column)

theorem mem_lostTables_iff {t : String} :
    t ∈ lostTables schema q column ↔ t ∈ q.tables ∧
      t ∉ neededTables schema (withoutColumn q column) (remaining schema q column) := by
  rw [lostTables, staleTables, List.mem_filter]
  simp [Select.tables, withoutColumn, Select.pruneTests]

theorem nodup_lostTables : (lostTables schema q column).Nodup :=
  (nodup_eraseDups _).filter _

/-- Where all tables were needed, only the table of the column itself can make one of them
superfluous. -/
theorem supplied_of_mem_lostTables (plain : schema.HasPlainColumns)
    (hcolumn : column ∈ schema.columnNames table) (hfresh : column ∉ resolve schema q)
    (hneeded : tablesForWithin schema (resolve schema q) q.tables = q.tables)
    (h : addColumn schema options (some q) table column = .ok edited) {t : String}
    (hlost : t ∈ lostTables schema edited column) (ht : t ∈ q.tables) :
    ∃ name, supplied schema (references (withoutColumn edited column)
        (remaining schema edited column)) t = [name] ∧ name ∈ schema.columnNames table := by
  obtain ⟨-, hextend⟩ := extendQuery_of_addColumn h
  obtain ⟨hread, hstale⟩ := mem_lostTables_iff.mp hlost
  generalize hbase : withoutColumn edited column = base at hstale ⊢
  generalize hrest : remaining schema edited column = rest at hstale ⊢
  have htables : base.tables = edited.tables := by
    rw [← hbase]
    rfl
  have hnodup : base.tables.Nodup := nodup_eraseDups _
  have hkept : ∀ x ∈ resolve schema q, x ∈ references base rest := by
    intro x hx
    rw [← mem_remaining_of_fresh plain hcolumn hfresh h, hrest] at hx
    simp [references, hx]
  have hall : ∀ other ∈ q.tables, IsNeeded schema q.tables (resolve schema q) other := by
    intro other hother
    rw [← mem_tablesForWithin_iff, hneeded]
    exact hother
  have hbrings : ∀ other ∈ q.tables, supplied schema (resolve schema q) other ≠ [] := by
    intro other hother hnone
    obtain ⟨-, -, -, hseveral | ⟨name, hname, -⟩⟩ := hall other hother
    · simp [hnone] at hseveral
    · simp [hnone] at hname
  have hsublist : (supplied schema (resolve schema q) t).Sublist
      (supplied schema (references base rest) t) := supplied_sublist hkept t
  have hsome : supplied schema (references base rest) t ≠ [] := by
    intro hnone
    rw [hnone] at hsublist
    exact hbrings t ht (List.sublist_nil.mp hsublist)
  have hnot : ¬ IsNeeded schema base.tables (references base rest) t := by
    intro hisneeded
    exact hstale ((mem_neededTables_iff (htables ▸ hread)).mpr (.inl hisneeded))
  obtain ⟨name, hname, other, hother, hne, hsupplies⟩ :=
    exists_supplier_of_not_isNeeded hnodup (htables ▸ hread) hsome hnot
  refine ⟨name, hname, ?_⟩
  rw [htables, mem_tables_extendQuery hextend] at hother
  rcases hother with rfl | hother
  · exact (mem_supplied.mp hsupplies).1
  · -- Two tables of the query had the same column before, and both were needed.
    have hbefore : supplied schema (resolve schema q) t = [name] := by
      rw [hname] at hsublist
      exact hsublist.eq_of_length_le (List.length_pos_iff.mpr (hbrings t ht))
    have hprojected : name ∈ resolve schema q := by
      have hbrought : name ∈ supplied schema (resolve schema q) t := by simp [hbefore]
      exact (mem_supplied.mp hbrought).2
    exact absurd ((hall t ht).eq_of_mem_supplied (hall other hother) hbefore
      (mem_supplied.mpr ⟨(mem_supplied.mp hsupplies).1, hprojected⟩)) hne

/-- A table that leaves alone is the one that was joined onto the first leaf. -/
theorem isPrunable_of_joined_iff (hnew : table ∉ q.tables) (valid : q.validate = .ok ())
    (h : extendQuery schema options q table column = .ok edited)
    (hlost : ∀ t ∈ lostTables schema edited column, t ∉ q.tables) :
    IsPrunable schema options (withoutColumn edited column) (remaining schema edited column) ↔
      (table ∈ lostTables schema edited column → q.source.opensInJoin = false) := by
  have hsource : (withoutColumn edited column).source = q.source.grow table := by
    have hgrown := source_extendQuery h
    rwa [if_neg (by simpa using hnew)] at hgrown
  have honly : ∀ t ∈ lostTables schema edited column, t = table := by
    intro t ht
    have hread := (mem_tables_extendQuery h).mp (mem_lostTables_iff.mp ht).1
    exact hread.resolve_right (hlost t ht)
  have hstuck := Source.mem_tableNames_prune_grow_iff q.source (Select.validate_source valid)
    (fun hmem => hnew (mem_tables.mpr hmem))
  have hnodup : (lostTables schema edited column).Nodup := nodup_lostTables
  rw [List.eq_replicate_of_mem honly, List.nodup_replicate] at hnodup
  have hpruned : isReread schema (withoutColumn edited column)
      (remaining schema edited column) = false := by
    rw [isReread, Bool.and_eq_false_iff]
    left
    exact decide_eq_false (by simpa [lostTables, staleTables] using hnodup)
  rw [IsPrunable, hpruned, if_neg Bool.false_ne_true, hsource, ← lostTables]
  rcases hlist : lostTables schema edited column with _ | ⟨first, _ | ⟨second, rest⟩⟩
  · simp [IsCleared]
  · obtain rfl := honly first (by simp [hlist])
    simp [IsCleared, hstuck]
  · rw [hlist] at hnodup
    simp at hnodup

/-! Columns dragged out again -/

/-- Flights beside themselves, in an explicit join. -/
def flightPairs : Select :=
  { items := [.identifier "id"]
    source := .join .plain (.bare "flights") (.table "flights" (some "f"))
      (.on "f.id = flights.id")
    filter := none
    groupBy := []
    orderBy := [] }

end SelectTree.Edit
