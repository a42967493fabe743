import SelectTree.Proofs.Resolution

namespace SelectTree.Edit

/-! Stars written for columns, and items built from what is written. Whatever stars there are,
the items stand for the columns that were to be written, no more and no fewer. -/

variable {schema : Schema} {items : List ColumnRef} {columns tables others : List String}

/-! Covered tables -/

/-- A table gets a star when it has columns and all of them are to be written. -/
def IsCovered (schema : Schema) (columns : List String) (table : String) : Bool :=
  !(schema.columnNames table).isEmpty &&
    (schema.columnNames table).all (columns.contains ·)

theorem isCovered_iff {table : String} :
    IsCovered schema columns table = true ↔
      schema.columnNames table ≠ [] ∧ ∀ name ∈ schema.columnNames table, name ∈ columns := by
  simp [IsCovered]

theorem mem_columns_of_isCovered {table name : String}
    (covered : IsCovered schema columns table = true) (h : name ∈ schema.columnNames table) :
    name ∈ columns :=
  (isCovered_iff.mp covered).2 name h

theorem exists_mem_of_isCovered {table : String}
    (covered : IsCovered schema columns table = true) : ∃ name, name ∈ schema.columnNames table :=
  List.exists_mem_of_ne_nil _ (isCovered_iff.mp covered).1

/-- Which tables are covered depends on which columns there are, not on their order. -/
theorem isCovered_congr (h : ∀ x, x ∈ columns ↔ x ∈ others) :
    IsCovered schema columns = IsCovered schema others := by
  funext table
  rw [IsCovered, IsCovered, contains_congr h]

/-- The columns that stand under the stars of covered tables. -/
def starredNames (schema : Schema) (columns tables : List String) : List String :=
  (tables.filter (IsCovered schema columns)).flatMap schema.columnNames

theorem starredNames_congr (h : ∀ x, x ∈ columns ↔ x ∈ others) (tables : List String) :
    starredNames schema columns tables = starredNames schema others tables := by
  rw [starredNames, starredNames, isCovered_congr h]

theorem mem_starredNames_iff {name : String} :
    name ∈ starredNames schema columns tables ↔
      ∃ table ∈ tables, IsCovered schema columns table = true ∧
        name ∈ schema.columnNames table := by
  simp [starredNames, and_assoc]

theorem starredNames_cons_of_covered {table : String} {rest : List String}
    (covered : IsCovered schema columns table = true) :
    starredNames schema columns (table :: rest) =
      schema.columnNames table ++ starredNames schema columns rest := by
  rw [starredNames, List.filter_cons_of_pos covered, List.flatMap_cons, ← starredNames]

theorem isStar_eq_false_of_mem_starredNames (plain : schema.HasPlainColumns) {name : String}
    (h : name ∈ starredNames schema columns tables) : isStar name = false := by
  obtain ⟨table, -, -, hname⟩ := mem_starredNames_iff.mp h
  exact isStar_eq_false_of_isColumnName (isColumnName_of_mem_columnNames plain hname)

theorem star_not_mem_starredNames (plain : schema.HasPlainColumns) (table : String) :
    star table ∉ starredNames schema columns tables := by
  intro h
  have hstar := isStar_eq_false_of_mem_starredNames plain h
  rw [isStar_star] at hstar
  cases hstar

theorem compressTable_eq (written : List String) (table : String) :
    compressTable schema columns written table =
      if IsCovered schema columns table then
        star table :: written.filter (!(schema.columnNames table).contains ·)
      else written := rfl

/-- What is written is the stars of covered tables, the last table first, and then the columns
that stand under none of them. -/
theorem foldl_compressTable_eq (plain : schema.HasPlainColumns) (tables written : List String) :
    tables.foldl (compressTable schema columns) written =
      ((tables.filter (IsCovered schema columns)).map star).reverse ++
        written.filter (!(starredNames schema columns tables).contains ·) := by
  induction tables generalizing written with
  | nil => exact (List.filter_eq_self.mpr fun _ _ => rfl).symm
  | cons table rest ih =>
      rw [List.foldl_cons, ih, compressTable_eq]
      by_cases covered : IsCovered schema columns table = true
      · have hkept : (star table :: written.filter (!(schema.columnNames table).contains ·)).filter
            (!(starredNames schema columns rest).contains ·) =
              star table :: written.filter
                (!(starredNames schema columns (table :: rest)).contains ·) := by
          rw [List.filter_cons, if_pos (by simpa using star_not_mem_starredNames plain table),
            List.filter_filter, starredNames_cons_of_covered covered]
          congr 1
          apply List.filter_congr
          intro x _
          simp [Bool.and_comm]
        rw [if_pos covered, hkept, List.filter_cons_of_pos covered, List.map_cons,
          List.reverse_cons, List.append_assoc, List.singleton_append]
      · rw [if_neg covered, starredNames, starredNames, List.filter_cons_of_neg covered]

/-- What is written is stars for covered tables, and columns that no covered table has. -/
theorem mem_foldl_compressTable (plain : schema.HasPlainColumns) (tables : List String)
    (written : List String) (x : String) :
    x ∈ tables.foldl (compressTable schema columns) written ↔
      (∃ table ∈ tables, IsCovered schema columns table = true ∧ x = star table) ∨
        x ∈ written ∧ ∀ table ∈ tables, IsCovered schema columns table = true →
          x ∉ schema.columnNames table := by
  rw [foldl_compressTable_eq plain, List.mem_append, List.mem_reverse, List.mem_map,
    List.mem_filter, Bool.not_eq_true', List.contains_eq_mem, decide_eq_false_iff_not,
    mem_starredNames_iff]
  simp only [List.mem_filter, and_assoc, eq_comm, not_exists, not_and]

/-- The columns that stand under no star. -/
def starless (schema : Schema) (columns tables : List String) : List String :=
  columns.filter (!(starredNames schema columns tables).contains ·)

theorem mem_starless_iff {x : String} :
    x ∈ starless schema columns tables ↔
      x ∈ columns ∧ x ∉ starredNames schema columns tables := by
  simp [starless]

theorem foldl_compressTable_columns (plain : schema.HasPlainColumns)
    (columns tables : List String) :
    tables.foldl (compressTable schema columns) columns =
      ((tables.filter (IsCovered schema columns)).map star).reverse ++
        starless schema columns tables :=
  foldl_compressTable_eq plain tables columns

/-- Where nothing but stars is written, no column is left without one. -/
theorem starless_eq_nil (plain : schema.HasPlainColumns)
    (hcolumns : ∀ x ∈ columns, isStar x = false)
    (hall : (tables.foldl (compressTable schema columns) columns).all isStar = true) :
    starless schema columns tables = [] := by
  rw [foldl_compressTable_columns plain, List.all_append, Bool.and_eq_true] at hall
  rw [List.eq_nil_iff_forall_not_mem]
  intro x hx
  have hstar := List.all_eq_true.mp hall.2 x hx
  rw [hcolumns x (mem_starless_iff.mp hx).1] at hstar
  cases hstar

/-- One star stands for everything only where every table is covered. -/
theorem forall_isCovered_of_all_isStar (plain : schema.HasPlainColumns)
    (hcolumns : ∀ x ∈ columns, isStar x = false)
    (hall : (tables.foldl (compressTable schema columns) columns).all isStar = true)
    (hlength : (tables.foldl (compressTable schema columns) columns).length = tables.length) :
    ∀ table ∈ tables, IsCovered schema columns table = true := by
  rw [foldl_compressTable_columns plain, starless_eq_nil plain hcolumns hall, List.append_nil,
    List.length_reverse, List.length_map] at hlength
  exact List.length_filter_eq_length_iff.mp hlength

theorem compress_eq_or (schema : Schema) (columns tables : List String) :
    compress schema columns tables = tables.foldl (compressTable schema columns) columns ∨
      compress schema columns tables = ["*"] ∧
        (tables.foldl (compressTable schema columns) columns).all isStar = true ∧
        (tables.foldl (compressTable schema columns) columns).length = tables.length := by
  simp only [compress]
  split
  · rename_i h
    simp only [Bool.and_eq_true, decide_eq_true_eq] at h
    exact .inr ⟨rfl, h.1.2, h.2⟩
  · exact .inl rfl

theorem foldl_compressTable_of_not_isCovered
    (h : ∀ table ∈ tables, ¬ IsCovered schema columns table = true) (written : List String) :
    tables.foldl (compressTable schema columns) written = written := by
  induction tables with
  | nil => rfl
  | cons table rest ih =>
      obtain ⟨htable, hrest⟩ := List.forall_mem_cons.mp h
      rw [List.foldl_cons, compressTable_eq, if_neg htable, ih hrest]

theorem mem_of_mem_foldl_compressTable (tables : List String) (written : List String)
    {x : String} (h : x ∈ tables.foldl (compressTable schema columns) written) :
    (∃ table ∈ tables, IsCovered schema columns table = true ∧ x = star table) ∨ x ∈ written := by
  induction tables generalizing written with
  | nil => exact .inr h
  | cons table rest ih =>
      rw [List.foldl_cons] at h
      rcases ih _ h with ⟨other, hother, hstar⟩ | hx
      · exact .inl ⟨other, List.mem_cons_of_mem table hother, hstar⟩
      · rw [compressTable_eq] at hx
        split at hx
        · rename_i covered
          rcases List.mem_cons.mp hx with heq | hx
          · exact .inl ⟨table, List.mem_cons_self, covered, heq⟩
          · exact .inr (List.mem_filter.mp hx).1
        · exact .inr hx

/-- Nothing is written but stars and some of the columns, whatever the columns are called. -/
theorem mem_of_mem_write (options : Options) {x : String}
    (h : x ∈ write schema options columns tables) :
    x = "*" ∨ (∃ table ∈ tables, IsCovered schema columns table = true ∧ x = star table) ∨
      x ∈ columns := by
  unfold write at h
  split at h
  · rcases compress_eq_or schema columns tables with heq | ⟨heq, -, -⟩
    · rw [heq] at h
      exact .inr (mem_of_mem_foldl_compressTable tables columns h)
    · rw [heq, List.mem_singleton] at h
      exact .inl h
  · exact .inr (.inr h)

theorem foldl_compressTable_ne_nil {written : List String} (h : written ≠ []) :
    tables.foldl (compressTable schema columns) written ≠ [] := by
  induction tables generalizing written with
  | nil => exact h
  | cons table rest ih =>
      rw [List.foldl_cons]
      apply ih
      rw [compressTable_eq]
      split
      · exact List.cons_ne_nil _ _
      · exact h

theorem not_isCovered_nil (table : String) : ¬ IsCovered schema [] table = true := by
  intro covered
  obtain ⟨name, hname⟩ := exists_mem_of_isCovered covered
  cases mem_columns_of_isCovered covered hname

/-- Something is written exactly if there is something to write. -/
theorem write_eq_nil_iff (options : Options) :
    write schema options columns tables = [] ↔ columns = [] := by
  constructor
  · intro h
    apply Decidable.byContradiction
    intro hne
    unfold write at h
    split at h
    · rcases compress_eq_or schema columns tables with heq | ⟨heq, -, -⟩
      · exact foldl_compressTable_ne_nil hne (heq ▸ h)
      · rw [heq] at h
        cases h
    · exact hne h
  · rintro rfl
    have hnone : tables.foldl (compressTable schema []) [] = [] :=
      foldl_compressTable_of_not_isCovered (fun table _ => not_isCovered_nil table) []
    unfold write
    split
    · simp [compress, hnone]
    · rfl

/-! Rebuilt items -/

/-- The item that a written column becomes. -/
def rebuildItem (items : List ColumnRef) (column : String) : ColumnRef :=
  (items.find? fun item => item.isCall && item.rendering = column).getD (.identifier column)

theorem rebuildItems_eq_map (items : List ColumnRef) (columns : List String) :
    rebuildItems items columns = columns.map (rebuildItem items) := rfl

theorem rebuildItem_cases (items : List ColumnRef) (column : String) :
    rebuildItem items column = .identifier column ∧
        (∀ item ∈ items, item.isCall = true → item.rendering ≠ column) ∨
      rebuildItem items column ∈ items ∧ (rebuildItem items column).isCall = true ∧
        (rebuildItem items column).rendering = column := by
  unfold rebuildItem
  cases hfound : items.find? fun item => item.isCall && item.rendering = column with
  | none =>
      refine .inl ⟨rfl, ?_⟩
      intro item hitem hcall
      have hnot := List.find?_eq_none.mp hfound item hitem
      simpa [hcall] using hnot
  | some item =>
      have hmem := List.mem_of_find?_eq_some hfound
      have hfits := List.find?_some hfound
      simp only [Bool.and_eq_true, decide_eq_true_eq] at hfits
      exact .inr ⟨hmem, hfits.1, hfits.2⟩

theorem rebuildItem_of_isStar {column : String} (h : isStar column = true) :
    rebuildItem items column = .identifier column := by
  rcases rebuildItem_cases items column with ⟨heq, -⟩ | ⟨-, hcall, hrendering⟩
  · exact heq
  · rw [← hrendering, isStar_rendering hcall] at h
    cases h

theorem rebuildItem_wildcard : rebuildItem items "*" = .identifier "*" := by
  rcases rebuildItem_cases items "*" with ⟨heq, -⟩ | ⟨-, hcall, hrendering⟩
  · exact heq
  · exact absurd hrendering (ColumnRef.rendering_ne_wildcard hcall)

theorem expand_rebuildItem {column : String} (h : Projectable items column) :
    expand schema tables (rebuildItem items column) = [column] := by
  rcases rebuildItem_cases items column with ⟨heq, hno⟩ | ⟨-, hcall, hrendering⟩
  · rw [heq]
    cases h with
    | name h => exact expand_identifier h
    | call hitem hcall => exact absurd rfl (hno _ hitem hcall)
  · rw [expand_call hcall, hrendering]

theorem mem_rebuilt_columns (hcolumns : ∀ x ∈ columns, Projectable items x) {x : String} :
    (∃ item ∈ rebuildItems items columns, x ∈ expand schema tables item) ↔ x ∈ columns := by
  rw [rebuildItems_eq_map]
  constructor
  · rintro ⟨item, hitem, hx⟩
    obtain ⟨column, hcolumn, rfl⟩ := List.mem_map.mp hitem
    rw [expand_rebuildItem (hcolumns column hcolumn), List.mem_singleton] at hx
    exact hx ▸ hcolumn
  · intro hx
    refine ⟨rebuildItem items x, List.mem_map_of_mem hx, ?_⟩
    rw [expand_rebuildItem (hcolumns x hx)]
    exact List.mem_singleton_self x

theorem mem_rebuilt_stars (plain : schema.HasPlainColumns)
    (hcolumns : ∀ x ∈ columns, Projectable items x) {x : String} :
    (∃ item ∈ rebuildItems items (tables.foldl (compressTable schema columns) columns),
      x ∈ expand schema others item) ↔ x ∈ columns := by
  rw [rebuildItems_eq_map]
  constructor
  · rintro ⟨item, hitem, hx⟩
    obtain ⟨column, hcolumn, rfl⟩ := List.mem_map.mp hitem
    rw [mem_foldl_compressTable plain] at hcolumn
    rcases hcolumn with ⟨table, -, covered, rfl⟩ | ⟨hcolumn, -⟩
    · rw [rebuildItem_of_isStar (isStar_star table), expand_star] at hx
      exact mem_columns_of_isCovered covered hx
    · rw [expand_rebuildItem (hcolumns column hcolumn), List.mem_singleton] at hx
      exact hx ▸ hcolumn
  · intro hx
    by_cases hstar : ∃ table ∈ tables, IsCovered schema columns table = true ∧
        x ∈ schema.columnNames table
    · obtain ⟨table, htable, covered, hname⟩ := hstar
      refine ⟨rebuildItem items (star table), List.mem_map_of_mem ?_, ?_⟩
      · exact (mem_foldl_compressTable plain ..).mpr (.inl ⟨table, htable, covered, rfl⟩)
      · rw [rebuildItem_of_isStar (isStar_star table), expand_star]
        exact hname
    · refine ⟨rebuildItem items x, List.mem_map_of_mem ?_, ?_⟩
      · refine (mem_foldl_compressTable plain ..).mpr (.inr ⟨hx, ?_⟩)
        intro table htable covered hname
        exact hstar ⟨table, htable, covered, hname⟩
      · rw [expand_rebuildItem (hcolumns x hx)]
        exact List.mem_singleton_self x

theorem mem_rebuilt_wildcard (plain : schema.HasPlainColumns)
    (hcolumns : ∀ x ∈ columns, Projectable items x)
    (hall : (tables.foldl (compressTable schema columns) columns).all isStar = true)
    (hlength : (tables.foldl (compressTable schema columns) columns).length = tables.length)
    (same : ∀ table, table ∈ others ↔ table ∈ tables) {x : String} :
    (∃ item ∈ rebuildItems items ["*"], x ∈ expand schema others item) ↔ x ∈ columns := by
  have covered := forall_isCovered_of_all_isStar plain
    (fun x hx => (hcolumns x hx).isStar_eq_false) hall hlength
  rw [rebuildItems_eq_map, List.map_singleton, rebuildItem_wildcard]
  simp only [List.mem_singleton, exists_eq_left, expand_wildcard, List.mem_flatMap, same]
  constructor
  · rintro ⟨table, htable, hname⟩
    exact mem_columns_of_isCovered (covered table htable) hname
  · intro hx
    have hname : x ∈ starredNames schema columns tables := by
      apply Decidable.byContradiction
      intro hno
      have hleft := mem_starless_iff.mpr ⟨hx, hno⟩
      rw [starless_eq_nil plain (fun x hx => (hcolumns x hx).isStar_eq_false) hall] at hleft
      cases hleft
    obtain ⟨table, htable, -, hname⟩ := mem_starredNames_iff.mp hname
    exact ⟨table, htable, hname⟩

/-- Items rebuilt from what is written for some columns stand for these columns, in every query
of the tables that they were written for. -/
theorem mem_rebuilt_write (plain : schema.HasPlainColumns) (options : Options)
    (hcolumns : ∀ x ∈ columns, Projectable items x)
    (same : ∀ table, table ∈ others ↔ table ∈ tables) {x : String} :
    (∃ item ∈ rebuildItems items (write schema options columns tables),
      x ∈ expand schema others item) ↔ x ∈ columns := by
  unfold write
  split
  · rcases compress_eq_or schema columns tables with heq | ⟨heq, hall, hlength⟩
    · rw [heq]
      exact mem_rebuilt_stars plain hcolumns
    · rw [heq]
      exact mem_rebuilt_wildcard plain hcolumns hall hlength same
  · exact mem_rebuilt_columns hcolumns

end SelectTree.Edit
