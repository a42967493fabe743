import SelectTree.Proofs.Names
import SelectTree.Proofs.Sources

namespace SelectTree.Edit

/-! Resolved projections. Columns that are written with stars and rebuilt into items stand for
the same columns again, whichever tables they are written for. -/

variable {schema : Schema} {items : List ColumnRef} {columns tables : List String}

/-! Expansion -/

/-- The columns of a table are those of a table of the catalog. -/
theorem exists_of_mem_columnNames {table name : String} (h : name ∈ schema.columnNames table) :
    ∃ found ∈ schema.tables, found.name = table ∧ ∃ column ∈ found.columns, column.name = name := by
  unfold Schema.columnNames at h
  split at h
  · rename_i found hfound
    have hname : found.name = table := by simpa using List.find?_some hfound
    exact ⟨found, List.mem_of_find?_eq_some hfound, hname, List.mem_map.mp h⟩
  · cases h

theorem isColumnName_of_mem_columnNames (plain : schema.HasPlainColumns) {table name : String}
    (h : name ∈ schema.columnNames table) : IsColumnName name := by
  obtain ⟨found, hfound, -, column, hcolumn, rfl⟩ := exists_of_mem_columnNames h
  exact (plain found hfound column hcolumn).isColumnName

theorem mem_columnNames_iff {table name : String} :
    name ∈ schema.columnNames table ↔ (schema.column? table name).isSome = true := by
  unfold Schema.columnNames Schema.column?
  cases schema.table? table with
  | none => simp
  | some found => simp [Table.columnNames, Table.column?]

theorem star_not_mem_columnNames (plain : schema.HasPlainColumns) (table other : String) :
    star table ∉ schema.columnNames other := by
  intro h
  exact star_ne_of_isColumnName (isColumnName_of_mem_columnNames plain h) table rfl

theorem expand_identifier {name : String} (h : IsColumnName name) :
    expand schema tables (.identifier name) = [name] := by
  rw [expand, ColumnRef.target_identifier, h.ofText_eq]

theorem expand_star (table : String) :
    expand schema tables (.identifier (star table)) = schema.columnNames table := by
  rw [expand, ColumnRef.target_identifier, Target.ofText_star]

theorem expand_wildcard :
    expand schema tables (.identifier "*") = tables.flatMap schema.columnNames := rfl

theorem expand_call {item : ColumnRef} (h : item.isCall = true) :
    expand schema tables item = [item.rendering] := by
  cases item with
  | identifier text => cases h
  | call name args => rfl

/-- Only a lone star depends on the tables of the query. -/
theorem expand_eq_of_target_ne {item : ColumnRef} (h : item.target ≠ some .wildcard)
    (others : List String) : expand schema tables item = expand schema others item := by
  unfold expand
  split
  · rename_i hwild
    exact absurd hwild h
  all_goals rfl

theorem mem_resolve {q : Select} {x : String} :
    x ∈ resolve schema q ↔ ∃ item ∈ q.items, x ∈ expand schema q.tables item := by
  rw [resolve, List.mem_eraseDups, List.mem_flatMap]

theorem resolve_nodup (schema : Schema) (q : Select) : (resolve schema q).Nodup :=
  nodup_eraseDups _

/-! What a projection can resolve to -/

/-- Texts that become items which stand for them alone. -/
inductive Projectable (items : List ColumnRef) : String → Prop
  | name {column : String} (h : IsColumnName column) : Projectable items column
  | call {item : ColumnRef} (hitem : item ∈ items) (hcall : item.isCall = true) :
      Projectable items item.rendering

theorem Projectable.isStar_eq_false {column : String} (h : Projectable items column) :
    isStar column = false := by
  cases h with
  | name h => exact isStar_eq_false_of_isColumnName h
  | call hitem hcall => exact isStar_rendering hcall

theorem Projectable.ne_wildcard {column : String} (h : Projectable items column) :
    column ≠ "*" := by
  cases h with
  | name h => exact h.ne_wildcard
  | call hitem hcall => exact ColumnRef.rendering_ne_wildcard hcall

theorem Projectable.mono {column : String} (h : Projectable items column)
    {more : List ColumnRef} (hsub : ∀ item ∈ items, item ∈ more) : Projectable more column := by
  cases h with
  | name h => exact .name h
  | call hitem hcall => exact .call (hsub _ hitem) hcall

theorem projectable_of_mem_expand (plain : schema.HasPlainColumns) {item : ColumnRef}
    (hitem : item ∈ items) {x : String} (h : x ∈ expand schema tables item) :
    Projectable items x := by
  cases item with
  | call name args =>
      rw [expand_call rfl, List.mem_singleton] at h
      subst h
      exact .call hitem rfl
  | identifier text =>
      rw [expand, ColumnRef.target_identifier] at h
      cases htarget : Target.ofText text with
      | wildcard =>
          rw [htarget] at h
          obtain ⟨table, -, hname⟩ := List.mem_flatMap.mp h
          exact .name (isColumnName_of_mem_columnNames plain hname)
      | tableWildcard table =>
          rw [htarget] at h
          exact .name (isColumnName_of_mem_columnNames plain h)
      | column table name =>
          rw [htarget] at h
          obtain rfl := List.mem_singleton.mp h
          exact .name (Target.isColumnName_of_ofText htarget)

theorem projectable_of_mem_resolve (plain : schema.HasPlainColumns) {q : Select} {x : String}
    (h : x ∈ resolve schema q) : Projectable q.items x := by
  obtain ⟨item, hitem, hx⟩ := mem_resolve.mp h
  exact projectable_of_mem_expand plain hitem hx

end SelectTree.Edit
