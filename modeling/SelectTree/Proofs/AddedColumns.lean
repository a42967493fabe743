import SelectTree.Edit.Gesture
import SelectTree.Proofs.Compression
import SelectTree.Proofs.Sources

namespace SelectTree.Edit

/-! Added columns: what a query projects and reads after a column of a table was dragged in. -/

variable {schema : Schema} {options : Options} {q edited : Select} {table column : String}

theorem mem_tables {x : String} : x ∈ q.tables ↔ x ∈ q.source.tableNames := by
  rw [Select.tables, List.mem_eraseDups]

theorem checkColumn_eq_ok (h : checkColumn schema table column = .ok ()) :
    column = "*" ∨ column ∈ schema.columnNames table := by
  unfold checkColumn Schema.columnsOf? at h
  unfold Schema.columnNames
  cases hfound : schema.table? table with
  | none =>
      rw [hfound] at h
      cases h
  | some found =>
      simp only [hfound, Option.map_some] at h
      split at h
      · rename_i hcolumn
        rw [Bool.or_eq_true, decide_eq_true_eq, List.any_eq_true] at hcolumn
        rcases hcolumn with hwild | ⟨listed, hlisted, hname⟩
        · exact .inl hwild
        · rw [decide_eq_true_eq] at hname
          exact .inr (List.mem_map.mpr ⟨listed, hlisted, hname⟩)
      · cases h

/-- The columns that are asked for by a column, or by all columns, of a table. -/
def requested (schema : Schema) (table column : String) : List String :=
  if column = "*" then schema.columnNames table else [column]

theorem expand_newItem (plain : schema.HasPlainColumns)
    (h : checkColumn schema table column = .ok ()) (tables : List String) :
    expand schema tables (newItem table column) = requested schema table column := by
  unfold newItem requested
  split
  · exact expand_star table
  · rename_i hne
    have hmem := (checkColumn_eq_ok h).resolve_left hne
    exact expand_identifier (isColumnName_of_mem_columnNames plain hmem)

/-! Projected columns -/

/-- A query with one more item, as it stands before it is written anew. -/
def longer (q : Select) (table column : String) : Select :=
  { q with items := q.items ++ [newItem table column] }

/-- The query that the projection of one more column gives. -/
def projecting (schema : Schema) (options : Options) (q : Select) (table column : String) :
    Select :=
  { q with
    items := rebuildItems (longer q table column).items
      (write schema options (resolve schema (longer q table column)) (table :: q.tables).eraseDups) }

theorem projectColumn_eq (h : q.validate = .ok ()) :
    projectColumn schema options q table column =
      .ok (projecting schema options q table column) := by
  rw [projectColumn, h]
  rfl

theorem mem_resolve_longer (plain : schema.HasPlainColumns)
    (h : checkColumn schema table column = .ok ()) {x : String} :
    x ∈ resolve schema (longer q table column) ↔
      x ∈ resolve schema q ∨ x ∈ requested schema table column := by
  simp only [mem_resolve, longer, List.mem_append, List.mem_singleton, or_and_right, exists_or,
    exists_eq_left, expand_newItem plain h]
  rfl

/-- Once the table is read as well, the items stand for the old columns and the new ones. -/
theorem mem_expand_projecting (plain : schema.HasPlainColumns)
    (h : checkColumn schema table column = .ok ()) {tables : List String}
    (same : ∀ t, t ∈ tables ↔ t = table ∨ t ∈ q.tables) {x : String} :
    (∃ item ∈ (projecting schema options q table column).items, x ∈ expand schema tables item) ↔
      x ∈ resolve schema q ∨ x ∈ requested schema table column := by
  rw [← mem_resolve_longer plain h]
  apply mem_rebuilt_write plain options
  · intro y hy
    exact projectable_of_mem_resolve plain hy
  · intro t
    rw [same, List.mem_eraseDups, List.mem_cons]

/-! Joined tables -/

/-- The query with the table joined, unless it reads the table already. -/
def joining (q : Select) (table : String) : Select :=
  if q.tables.contains table then q else { q with source := q.source.grow table }

theorem mem_tables_joining (h : q.source.check = .ok ()) {t : String} :
    t ∈ (joining q table).tables ↔ t = table ∨ t ∈ q.tables := by
  unfold joining
  split
  · rename_i hmem
    rw [List.contains_iff_mem] at hmem
    exact ⟨.inr, fun ht => ht.elim (fun heq => heq ▸ hmem) id⟩
  · rw [mem_tables, mem_tables, Source.mem_tableNames_grow _ h]

theorem joining_items : (joining q table).items = q.items := by
  unfold joining
  split <;> rfl

theorem addNaturalJoin_eq_ok (h : q.addNaturalJoin table = .ok edited) :
    edited = { q with source := q.source.grow table } := by
  obtain ⟨⟨⟩, -, heq⟩ := bind_eq_ok_iff.mp h
  cases heq
  rfl

/-! The whole edit -/

/-- A column is projected anew unless it is projected already. -/
def needsItem (schema : Schema) (q : Select) (column : String) : Bool :=
  column = "*" || !(resolve schema q).contains column

theorem extendQuery_eq_ok (h : extendQuery schema options q table column = .ok edited) :
    q.validate = .ok () ∧
      edited = joining
        (if needsItem schema q column then projecting schema options q table column else q)
        table := by
  obtain ⟨⟨⟩, hvalid, h⟩ := bind_eq_ok_iff.mp h
  refine ⟨hvalid, ?_⟩
  have hjoin : ∀ {projected : Select}, projected.source = q.source →
      (if q.tables.contains table then pure projected else projected.addNaturalJoin table) =
        Except.ok edited → edited = joining projected table := by
    intro projected hsource h
    rw [joining, Select.tables, hsource]
    split at h
    · rename_i hread
      rw [Select.tables] at hread
      rw [if_pos hread]
      exact (Except.ok.inj h).symm
    · rename_i hread
      rw [Select.tables] at hread
      rw [if_neg hread, addNaturalJoin_eq_ok h, hsource]
  dsimp only at h
  by_cases hneeds : needsItem schema q column = true
  · rw [needsItem] at hneeds
    rw [if_pos hneeds, projectColumn_eq hvalid] at h
    rw [needsItem, if_pos hneeds]
    exact hjoin rfl h
  · rw [needsItem] at hneeds
    rw [if_neg hneeds] at h
    rw [needsItem, if_neg hneeds]
    exact hjoin rfl h

/-- A column that is projected already keeps the items as they are, a lone star among them. The
star then stands for the other columns of a table that is newly joined, too. -/
def SpillsColumns (schema : Schema) (q : Select) (table column : String) : Prop :=
  (column ≠ "*" ∧ column ∈ resolve schema q) ∧ table ∉ q.tables ∧
    ColumnRef.identifier "*" ∈ q.items ∧
      ∃ x ∈ schema.columnNames table, x ∉ resolve schema q

theorem needsItem_eq_false_iff :
    needsItem schema q column = false ↔ column ≠ "*" ∧ column ∈ resolve schema q := by
  simp [needsItem]

theorem eq_wildcard_of_target {item : ColumnRef} (h : item.target = some .wildcard) :
    item = .identifier "*" := by
  cases item with
  | call name args => cases h
  | identifier text =>
      rw [ColumnRef.target_identifier, Option.some.injEq, Target.ofText_eq_wildcard_iff] at h
      rw [h]

/-- Joining a table changes what a lone star stands for, and nothing else. -/
theorem mem_resolve_joining (h : q.source.check = .ok ()) {x : String} :
    x ∈ resolve schema (joining q table) ↔
      x ∈ resolve schema q ∨
        ColumnRef.identifier "*" ∈ q.items ∧ x ∈ schema.columnNames table := by
  have hwild : ∀ {tables : List String},
      x ∈ expand schema tables (.identifier "*") ↔ ∃ t ∈ tables, x ∈ schema.columnNames t := by
    intro tables
    rw [expand_wildcard, List.mem_flatMap]
  simp only [mem_resolve, joining_items]
  constructor
  · rintro ⟨item, hitem, hx⟩
    by_cases htarget : item.target = some .wildcard
    · obtain rfl := eq_wildcard_of_target htarget
      obtain ⟨t, ht, hname⟩ := hwild.mp hx
      rcases (mem_tables_joining h).mp ht with rfl | ht
      · exact .inr ⟨hitem, hname⟩
      · exact .inl ⟨_, hitem, hwild.mpr ⟨t, ht, hname⟩⟩
    · refine .inl ⟨item, hitem, ?_⟩
      rwa [expand_eq_of_target_ne htarget q.tables] at hx
  · rintro (⟨item, hitem, hx⟩ | ⟨hitem, hname⟩)
    · refine ⟨item, hitem, ?_⟩
      by_cases htarget : item.target = some .wildcard
      · obtain rfl := eq_wildcard_of_target htarget
        obtain ⟨t, ht, hname⟩ := hwild.mp hx
        exact hwild.mpr ⟨t, (mem_tables_joining h).mpr (.inr ht), hname⟩
      · rwa [expand_eq_of_target_ne htarget q.tables]
    · exact ⟨_, hitem, hwild.mpr ⟨table, (mem_tables_joining h).mpr (.inl rfl), hname⟩⟩

theorem mem_resolve_of_needsItem (plain : schema.HasPlainColumns)
    (hcolumn : checkColumn schema table column = .ok ())
    (h : extendQuery schema options q table column = .ok edited)
    (hneeds : needsItem schema q column = true) {x : String} :
    x ∈ resolve schema edited ↔ x ∈ resolve schema q ∨ x ∈ requested schema table column := by
  obtain ⟨hvalid, rfl⟩ := extendQuery_eq_ok h
  have hsource := Select.validate_source hvalid
  rw [if_pos hneeds, mem_resolve, joining_items]
  apply mem_expand_projecting plain hcolumn
  intro t
  exact mem_tables_joining (q := projecting schema options q table column) hsource

theorem mem_resolve_of_not_needsItem (h : extendQuery schema options q table column = .ok edited)
    (hneeds : needsItem schema q column = false) {x : String} :
    x ∈ resolve schema edited ↔
      x ∈ resolve schema q ∨
        ColumnRef.identifier "*" ∈ q.items ∧ x ∈ schema.columnNames table := by
  obtain ⟨hvalid, rfl⟩ := extendQuery_eq_ok h
  rw [hneeds, if_neg Bool.false_ne_true]
  exact mem_resolve_joining (Select.validate_source hvalid)

theorem mem_tables_extendQuery (h : extendQuery schema options q table column = .ok edited)
    {t : String} : t ∈ edited.tables ↔ t = table ∨ t ∈ q.tables := by
  obtain ⟨hvalid, rfl⟩ := extendQuery_eq_ok h
  have hsource := Select.validate_source hvalid
  split
  · exact mem_tables_joining (q := projecting schema options q table column) hsource
  · exact mem_tables_joining hsource

theorem frame_extendQuery (h : extendQuery schema options q table column = .ok edited) :
    edited.filter = q.filter ∧ edited.groupBy = q.groupBy ∧ edited.orderBy = q.orderBy := by
  obtain ⟨-, rfl⟩ := extendQuery_eq_ok h
  unfold joining
  split <;> split <;> exact ⟨rfl, rfl, rfl⟩

/-- A star that does not spill already stands for whatever it stands for after the join. -/
theorem mem_resolve_of_not_spills (hspills : ¬ SpillsColumns schema q table column)
    (hneeds : needsItem schema q column = false) {x : String}
    (hstar : ColumnRef.identifier "*" ∈ q.items) (hname : x ∈ schema.columnNames table) :
    x ∈ resolve schema q := by
  by_cases hread : table ∈ q.tables
  · refine mem_resolve.mpr ⟨_, hstar, ?_⟩
    rw [expand_wildcard, List.mem_flatMap]
    exact ⟨table, hread, hname⟩
  · apply Decidable.byContradiction
    intro hnot
    exact hspills ⟨needsItem_eq_false_iff.mp hneeds, hread, hstar, x, hname, hnot⟩

/-- An added column is what the projection gains, and its table is what the query reads besides;
but where columns spill, the projection gains all columns of the table. -/
theorem addColumn_projects (plain : schema.HasPlainColumns)
    (h : addColumn schema options (some q) table column = .ok edited) :
    ((∀ x, x ∈ resolve schema edited ↔
        x ∈ resolve schema q ∨ x ∈ requested schema table column) ↔
      ¬ SpillsColumns schema q table column) ∧
    (SpillsColumns schema q table column → ∀ x, x ∈ resolve schema edited ↔
      x ∈ resolve schema q ∨ x ∈ schema.columnNames table) ∧
    (∀ t, t ∈ edited.tables ↔ t = table ∨ t ∈ q.tables) ∧
    edited.filter = q.filter ∧ edited.groupBy = q.groupBy ∧ edited.orderBy = q.orderBy := by
  obtain ⟨⟨⟩, hcolumn, h⟩ := bind_eq_ok_iff.mp h
  refine ⟨?_, ?_, fun t => mem_tables_extendQuery h, frame_extendQuery h⟩
  · cases hneeds : needsItem schema q column with
    | true =>
        have hnot : ¬ SpillsColumns schema q table column := by
          intro hspills
          rw [needsItem_eq_false_iff.mpr hspills.1] at hneeds
          cases hneeds
        have hgain := fun x => mem_resolve_of_needsItem plain hcolumn h hneeds (x := x)
        exact ⟨fun _ => hnot, fun _ => hgain⟩
    | false =>
        obtain ⟨hne, hprojected⟩ := needsItem_eq_false_iff.mp hneeds
        have hgain := fun x => mem_resolve_of_not_needsItem h hneeds (x := x)
        have hrequested : requested schema table column = [column] := if_neg hne
        constructor
        · intro hall hspills
          obtain ⟨-, -, hstar, x, hname, hnot⟩ := hspills
          have hx := (hall x).mp ((hgain x).mpr (.inr ⟨hstar, hname⟩))
          rw [hrequested, List.mem_singleton] at hx
          rcases hx with hx | rfl
          · exact hnot hx
          · exact hnot hprojected
        · intro hspills x
          rw [hgain x, hrequested, List.mem_singleton]
          constructor
          · rintro (hx | ⟨hstar, hname⟩)
            · exact .inl hx
            · exact .inl (mem_resolve_of_not_spills hspills hneeds hstar hname)
          · rintro (hx | rfl)
            · exact .inl hx
            · exact .inl hprojected
  · intro hspills x
    rw [mem_resolve_of_not_needsItem h (needsItem_eq_false_iff.mpr hspills.1)]
    have hstar := hspills.2.2.1
    exact ⟨fun hx => hx.imp_right And.right, fun hx => hx.imp_right (⟨hstar, ·⟩)⟩

theorem addColumn_projects_carrier_name :
    ∃ edited, addColumn .flights .default (some (startQuery "flights" "id")) "carriers" "name" =
        .ok edited ∧
      (∀ t, t ∈ edited.tables ↔ t = "carriers" ∨ t ∈ (startQuery "flights" "id").tables) ∧
      edited.filter = none :=
  have h := @addColumn_projects .flights .default (startQuery "flights" "id") _ "carriers" "name"
    (by decide) rfl
  ⟨_, rfl, h.2.2.1, h.2.2.2.1⟩

/-- The carrier is a column of the flights already. Asked for as a column of the carriers, it
brings their names along. -/
theorem addColumn_spills_carrier_name :
    ∃ edited, addColumn .flights .default (some (startQuery "flights" "*")) "carriers" "carrier_id" =
        .ok edited ∧
      "name" ∈ resolve .flights edited ∧
      ¬ ("name" ∈ resolve .flights (startQuery "flights" "*") ∨
        "name" ∈ requested .flights "carriers" "carrier_id") :=
  ⟨_, rfl, by decide, by decide⟩

end SelectTree.Edit
