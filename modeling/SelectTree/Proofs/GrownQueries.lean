import SelectTree.Proofs.Ledger
import SelectTree.Proofs.ReadChains
import SelectTree.Proofs.Validity

namespace SelectTree

/-! Grown queries: what gestures make of an empty session, without loading any text. They read
different tables in one chain of natural joins, which supplies all their columns and sort keys. -/

/-! Catalogs -/

/-- A catalog of plain names, none of whose tables is without columns. -/
structure Schema.IsPlain (schema : Schema) : Prop where
  tableNames : ∀ table ∈ schema.tables, IsPlainName table.name
  filled : ∀ table ∈ schema.tables, table.columns ≠ []
  columns : schema.HasPlainColumns

theorem Schema.isPlain_iff {schema : Schema} :
    schema.IsPlain ↔ (∀ table ∈ schema.tables, IsPlainName table.name) ∧
      (∀ table ∈ schema.tables, table.columns ≠ []) ∧ schema.HasPlainColumns :=
  ⟨fun ⟨htables, hfilled, hcolumns⟩ => ⟨htables, hfilled, hcolumns⟩,
    fun ⟨htables, hfilled, hcolumns⟩ => ⟨htables, hfilled, hcolumns⟩⟩

instance (schema : Schema) : Decidable schema.IsPlain :=
  decidable_of_iff' _ Schema.isPlain_iff

namespace Schema.IsPlain

variable {schema : Schema} {table column : String}

theorem hasDotlessNames (plain : schema.IsPlain) : schema.HasDotlessNames := by
  intro table htable
  have hname := plain.tableNames table htable
  refine ⟨⟨hname.ne_empty, hname.dotless⟩, ?_⟩
  intro column hcolumn
  have hcolumn := plain.columns table htable column hcolumn
  exact ⟨hcolumn.ne_empty, hcolumn.dotless⟩

theorem columnNames_ne_nil (plain : schema.IsPlain)
    (h : Edit.checkColumn schema table column = .ok ()) : schema.columnNames table ≠ [] := by
  unfold Edit.checkColumn Schema.columnsOf? at h
  unfold Schema.columnNames
  cases hfound : schema.table? table with
  | none =>
      rw [hfound] at h
      cases h
  | some found =>
      have hfilled := plain.filled found (List.mem_of_find?_eq_some hfound)
      simpa [Table.columnNames] using hfilled

end Schema.IsPlain

namespace Edit

variable {schema : Schema} {options : Options} {q edited : Select}
  {table column text operator value : String}

theorem mem_tableNames_of_checkColumn (h : checkColumn schema table column = .ok ()) :
    table ∈ schema.tableNames := by
  unfold checkColumn Schema.columnsOf? at h
  cases hfound : schema.table? table with
  | none =>
      rw [hfound] at h
      cases h
  | some found =>
      have hname : found.name = table := by simpa using List.find?_some hfound
      exact List.mem_map.mpr ⟨found, List.mem_of_find?_eq_some hfound, hname⟩

/-! Grown queries -/

/-- A valid query that reads different tables of the catalog in one chain of natural joins. These
have every column that it projects or is sorted by. -/
structure IsGrown (schema : Schema) (q : Select) : Prop where
  valid : q.validate = .ok ()
  joins : q.source.Joins q.tables
  listed : ∀ table ∈ q.tables, table ∈ schema.tableNames
  projected : ∀ x ∈ resolve schema q, IsSupplied schema q.tables x
  sorted : ∀ key ∈ q.orderBy, ∃ x, key.column.resolvedName = some x ∧
    IsSupplied schema q.tables x

/-- The names of any tables of the catalog are read as the chain of natural joins of these. -/
def ReadsChains (d : Sql.Dialect) (schema : Schema) : Prop :=
  ∀ tables, tables ≠ [] → (∀ table ∈ tables, table ∈ schema.tableNames) →
    ∃ source, readChain d tables = .ok source ∧ source.IsLeftChain tables

theorem ReadsChains.isLeftChain {d : Sql.Dialect} (chains : ReadsChains d schema)
    {tables : List String} {source : Source} (h : ∀ table ∈ tables, table ∈ schema.tableNames)
    (hread : readChain d tables = .ok source) : source.IsLeftChain tables := by
  have hne : tables ≠ [] := by
    rintro rfl
    cases hread
  obtain ⟨chain, hchain, hleft⟩ := chains tables hne h
  rw [hread] at hchain
  cases hchain
  exact hleft

/-- A name that stands alone after `FROM` is read as the table of that name. -/
def ReadsTable (d : Sql.Dialect) (name : String) : Prop :=
  readChain d [name] = .ok (.bare name)

theorem readsTable_iff {d : Sql.Dialect} {name : String} :
    ReadsTable d name ↔ (readChain d [name]).toOption = some (.bare name) := by
  unfold ReadsTable
  cases readChain d [name] <;> simp [Except.toOption]

instance (d : Sql.Dialect) (name : String) : Decidable (ReadsTable d name) :=
  decidable_of_iff' _ readsTable_iff

theorem ReadsTable.exists_isTableFactor {d : Sql.Dialect} {name : String} (h : ReadsTable d name) :
    ∃ ts f, Source.IsTableFactor d name ts f := by
  obtain ⟨q, hparse, hsource⟩ := map_eq_ok_iff.mp h
  exact Source.exists_isTableFactor hparse hsource

theorem ReadsTable.ne_empty {d : Sql.Dialect} {name : String} (h : ReadsTable d name) : name ≠ "" :=
  Source.check_table_iff.mp (check_of_readChain h)

theorem exists_readChain_of_isTableFactor {d : Sql.Dialect} {names : List String} (hne : names ≠ [])
    (hnames : ∀ name ∈ names, name ≠ "")
    (h : ∀ name ∈ names, ∃ ts f, Source.IsTableFactor d name ts f) :
    ∃ source, readChain d names = .ok source ∧ source.IsLeftChain names := by
  obtain ⟨source, hchain⟩ := Source.exists_isLeftChain hne
  refine ⟨source, ?_, hchain⟩
  rw [readChain, if_neg (by simpa using hne), parseSelect_chain hchain hnames h]
  rfl

/-- Tables that are read one by one are read in chains. -/
theorem exists_readChain {d : Sql.Dialect} {names : List String} (hne : names ≠ [])
    (h : ∀ name ∈ names, ReadsTable d name) :
    ∃ source, readChain d names = .ok source ∧ source.IsLeftChain names :=
  exists_readChain_of_isTableFactor hne (fun name hmem => (h name hmem).ne_empty)
    fun name hmem => (h name hmem).exists_isTableFactor

theorem readsChains_of_isTableText {d : Sql.Dialect} (plain : schema.IsPlain)
    (h : ∀ name ∈ schema.tableNames, Source.IsTableText d name) : ReadsChains d schema := by
  intro tables hne hlisted
  apply exists_readChain_of_isTableFactor hne
  · intro name hmem
    obtain ⟨table, htable, rfl⟩ := List.mem_map.mp (hlisted name hmem)
    exact (plain.tableNames table htable).ne_empty
  · exact fun name hmem => (h name (hlisted name hmem)).exists_isTableFactor

theorem readsChains_of_readsTable {d : Sql.Dialect}
    (h : ∀ name ∈ schema.tableNames, ReadsTable d name) : ReadsChains d schema :=
  fun _ hne hlisted => exists_readChain hne fun name hmem => h name (hlisted name hmem)

/-! Added columns -/

theorem mem_columnNames_of_requested (h : checkColumn schema table column = .ok ()) {x : String}
    (hx : x ∈ requested schema table column) : x ∈ schema.columnNames table := by
  unfold requested at hx
  split at hx
  · exact hx
  · rename_i hne
    rw [List.mem_singleton.mp hx]
    exact (checkColumn_eq_ok h).resolve_left hne

theorem joins_startQuery (table column : String) :
    (startQuery table column).source.Joins [table] :=
  ⟨.single table, by simp⟩

theorem mem_resolve_startQuery (plain : schema.HasPlainColumns)
    (h : checkColumn schema table column = .ok ()) {x : String}
    (hx : x ∈ resolve schema (startQuery table column)) : x ∈ schema.columnNames table := by
  obtain ⟨item, hitem, hx⟩ := mem_resolve.mp hx
  obtain rfl := List.mem_singleton.mp hitem
  rw [tables_of_joins (joins_startQuery table column)] at hx
  rcases checkColumn_eq_ok h with rfl | hcolumn
  · simpa [expand_wildcard] using hx
  · rw [expand_identifier (isColumnName_of_mem_columnNames plain hcolumn)] at hx
    rwa [List.mem_singleton.mp hx]

theorem isGrown_startQuery (plain : schema.IsPlain)
    (h : checkColumn schema table column = .ok ()) :
    IsGrown schema (startQuery table column) := by
  have hjoins := joins_startQuery table column
  have htables := tables_of_joins hjoins
  refine ⟨validate_startQuery plain.hasDotlessNames h, htables ▸ hjoins, ?_, ?_, ?_⟩
  · intro other hother
    rw [htables, List.mem_singleton] at hother
    exact hother ▸ mem_tableNames_of_checkColumn h
  · intro x hx
    rw [htables]
    exact ⟨table, List.mem_singleton_self table, mem_resolve_startQuery plain.columns h hx⟩
  · intro key hkey
    cases hkey

theorem source_extendQuery (h : extendQuery schema options q table column = .ok edited) :
    edited.source = if q.tables.contains table then q.source else q.source.grow table := by
  obtain ⟨-, rfl⟩ := extendQuery_eq_ok h
  have htables : ∀ {projected : Select}, projected.source = q.source →
      (joining projected table).source =
        if q.tables.contains table then q.source else q.source.grow table := by
    intro projected hsource
    rw [joining, Select.tables, Select.tables, hsource]
    split
    · exact hsource
    · rfl
  split
  · exact htables rfl
  · exact htables rfl

theorem joins_extendQuery (hjoins : q.source.Joins q.tables)
    (h : extendQuery schema options q table column = .ok edited) :
    edited.source.Joins edited.tables := by
  suffices hnames : ∃ names, edited.source.Joins names by
    obtain ⟨names, hnames⟩ := hnames
    rwa [tables_of_joins hnames]
  rw [source_extendQuery h]
  split
  · exact ⟨_, hjoins⟩
  · rename_i hnew
    rw [List.contains_iff_mem] at hnew
    obtain ⟨first, rest, hnames, hchain⟩ := hjoins.chain.grow table
    refine ⟨_, hchain, ?_⟩
    have hnodup := hjoins.nodup
    rw [hnames] at hnew hnodup
    have hperm : (first :: table :: rest).Perm (table :: first :: rest) := .swap table first rest
    exact hperm.nodup_iff.mpr (List.nodup_cons.mpr ⟨hnew, hnodup⟩)

/-- Whatever the projection gains is a column of the table. -/
theorem mem_resolve_extendQuery (plain : schema.HasPlainColumns)
    (hcolumn : checkColumn schema table column = .ok ())
    (h : extendQuery schema options q table column = .ok edited) {x : String}
    (hx : x ∈ resolve schema edited) :
    x ∈ resolve schema q ∨ x ∈ schema.columnNames table := by
  cases hneeds : needsItem schema q column with
  | true =>
      have hgain := (mem_resolve_of_needsItem plain hcolumn h hneeds).mp hx
      exact hgain.imp_right (mem_columnNames_of_requested hcolumn)
  | false =>
      have hgain := (mem_resolve_of_not_needsItem h hneeds).mp hx
      exact hgain.imp_right And.right

theorem IsGrown.extendQuery (plain : schema.IsPlain) (grown : IsGrown schema q)
    (hcolumn : checkColumn schema table column = .ok ())
    (h : Edit.extendQuery schema options q table column = .ok edited) :
    IsGrown schema edited := by
  have htables : ∀ {other : String}, other ∈ edited.tables ↔ other = table ∨ other ∈ q.tables :=
    mem_tables_extendQuery h
  have hkept : ∀ {x : String}, IsSupplied schema q.tables x →
      IsSupplied schema edited.tables x := fun hx => hx.mono fun _ => htables.mpr ∘ .inr
  refine ⟨?_, joins_extendQuery grown.joins h, ?_, ?_, ?_⟩
  · rw [validate_extendQuery_iff plain.hasDotlessNames hcolumn h]
    exact fun hnothing => plain.columnNames_ne_nil hcolumn hnothing.2.2
  · intro other hother
    rcases htables.mp hother with rfl | hother
    · exact mem_tableNames_of_checkColumn hcolumn
    · exact grown.listed other hother
  · intro x hx
    rcases mem_resolve_extendQuery plain.columns hcolumn h hx with hx | hx
    · exact hkept (grown.projected x hx)
    · exact ⟨table, htables.mpr (.inl rfl), hx⟩
  · intro key hkey
    rw [(frame_extendQuery h).2.2] at hkey
    obtain ⟨x, hname, hx⟩ := grown.sorted key hkey
    exact ⟨x, hname, hkept hx⟩

/-! Removed columns -/

theorem remaining_ne_nil_of_mem (hmem : column ∈ resolve schema q)
    (hmore : resolve schema q ≠ [column]) : remaining schema q column ≠ [] := by
  intro hnone
  have hall : ∀ x ∈ resolve schema q, x = column := by
    intro x hx
    apply Decidable.byContradiction
    intro hne
    have hkept := mem_remaining.mpr ⟨hx, hne⟩
    rw [hnone] at hkept
    cases hkept
  have hnodup := resolve_nodup schema q
  rw [List.eq_replicate_of_mem hall] at hmem hmore hnodup
  have hlength := List.nodup_replicate.mp hnodup
  have hpos := List.length_pos_of_mem hmem
  rw [List.length_replicate] at hpos
  exact hmore (by rw [show (resolve schema q).length = 1 by omega]; rfl)

/-- A query that keeps some columns keeps the tables that it needs for them, in one chain. -/
theorem exists_unprojectColumn (reads : ReadsChains options.dialect schema)
    (grown : IsGrown schema q) (hmore : remaining schema q (projectedName text) ≠ []) :
    ∃ edited left, unprojectColumn schema options q text = .ok edited ∧
      edited.source.Joins left ∧
      ∀ table, table ∈ left ↔ table ∈ neededTables schema (withoutColumn q (projectedName text))
        (remaining schema q (projectedName text)) := by
  have hread : ∀ tables, tables ≠ [] → (∀ table ∈ tables, table ∈ q.tables) →
      ∃ source, readChain options.dialect tables = .ok source ∧ source.IsLeftChain tables :=
    fun tables hne hsub => reads tables hne fun table htable => grown.listed table (hsub table htable)
  have valid : (withoutColumn q (projectedName text)).validate = .ok () :=
    validate_withoutColumn grown.valid
  obtain ⟨source, left, hpruned, hjoins, hleft⟩ := exists_pruneTables valid grown.joins hread
  exact ⟨_, left, unprojectColumn_of_pruned grown.valid hmore hpruned, hjoins, hleft⟩

theorem mem_references_of_mem_orderBy {columns : List String} {key : OrderItem}
    (hkey : key ∈ q.orderBy) {x : String} (hname : key.column.resolvedName = some x) :
    x ∈ references q columns := by
  have hmem : key.column ∈ keys q :=
    List.mem_append_right _ (List.mem_map.mpr ⟨key, hkey, rfl⟩)
  have hresolved : x ∈ (keys q).filterMap ColumnRef.resolvedName :=
    List.mem_filterMap.mpr ⟨key.column, hmem, hname⟩
  simp [references, hresolved]

/-- The tables that are left supply what is left. -/
theorem IsGrown.unprojectColumn (plain : schema.IsPlain) (grown : IsGrown schema q)
    (h : Edit.unprojectColumn schema options q text = .ok edited) {left : List String}
    (hjoins : edited.source.Joins left)
    (hleft : ∀ table, table ∈ left ↔
      table ∈ neededTables schema (withoutColumn q (projectedName text))
        (remaining schema q (projectedName text))) :
    IsGrown schema edited := by
  obtain rfl := tables_of_joins hjoins
  have hsupplied : ∀ {x : String},
      x ∈ references (withoutColumn q (projectedName text))
        (remaining schema q (projectedName text)) →
      IsSupplied schema q.tables x → IsSupplied schema edited.tables x := by
    intro x hreferred hx
    exact (isSupplied_neededTables hreferred hx).mono fun table => (hleft table).mpr
  refine ⟨validate_unprojectColumn plain.hasDotlessNames h grown.valid, hjoins, ?_, ?_, ?_⟩
  · intro table htable
    exact grown.listed table
      ((neededTables_sublist schema _ _).mem ((hleft table).mp htable))
  · intro x hx
    have hkept := (mem_resolve_unprojectColumn plain.columns h).mp hx
    apply hsupplied _ (grown.projected x hkept.1)
    simp [references, mem_remaining.mpr hkept]
  · intro key hkey
    have hkey : key ∈ (withoutColumn q (projectedName text)).orderBy := by
      rwa [eq_of_unprojectColumn h] at hkey
    obtain ⟨x, hname, hx⟩ := grown.sorted key (List.mem_filter.mp hkey).1
    exact ⟨x, hname, hsupplied (mem_references_of_mem_orderBy hkey hname) hx⟩

/-- No column is stuck in a grown query. -/
theorem IsGrown.exists_removeColumn (plain : schema.IsPlain)
    (reads : ReadsChains options.dialect schema) (grown : IsGrown schema q) (text : String) :
    ∃ edited, Edit.removeColumn schema options q text = .ok edited ∧
      ∀ q ∈ edited, IsGrown schema q := by
  by_cases hmem : projectedName text ∈ resolve schema q
  · by_cases hlast : resolve schema q = [projectedName text]
    · exact ⟨none, removeColumn_of_eq_singleton grown.valid hlast, fun _ hq => by cases hq⟩
    · have hmore : remaining schema q (projectedName (projectedName text)) ≠ [] := by
        rw [projectedName_projectedName]
        exact remaining_ne_nil_of_mem hmem hlast
      obtain ⟨edited, left, hedit, hjoins, hleft⟩ := exists_unprojectColumn reads grown hmore
      refine ⟨some edited, by rw [removeColumn_of_mem grown.valid hmem hlast, hedit]; rfl, ?_⟩
      rintro _ ⟨⟩
      exact grown.unprojectColumn plain hedit hjoins hleft
  · refine ⟨some q, removeColumn_of_not_mem grown.valid hmem, ?_⟩
    rintro _ ⟨⟩
    exact grown

/-! Filters and order -/

/-- Nothing but filters and sort keys changes, and the keys have their columns. -/
theorem IsGrown.of_frame (grown : IsGrown schema q) (hvalid : edited.validate = .ok ())
    (hitems : edited.items = q.items) (hsource : edited.source = q.source)
    (hsorted : ∀ key ∈ edited.orderBy, ∃ x, key.column.resolvedName = some x ∧
      IsSupplied schema q.tables x) : IsGrown schema edited := by
  have htables : edited.tables = q.tables := by rw [Select.tables, Select.tables, hsource]
  have hresolve : resolve schema edited = resolve schema q := by
    rw [resolve, resolve, hitems, htables]
  refine ⟨hvalid, ?_, ?_, ?_, ?_⟩
  · rw [hsource, htables]
    exact grown.joins
  · rw [htables]
    exact grown.listed
  · rw [hresolve, htables]
    exact grown.projected
  · rw [htables]
    exact hsorted

theorem IsGrown.setFilter (grown : IsGrown schema q) (hname : column ≠ "")
    (h : Edit.setFilter schema options q column operator value = .ok edited) :
    IsGrown schema edited := by
  have hframe := frame_setFilter h
  have hvalid := (validate_setFilter_iff h).mpr fun hnameless => hname hnameless.1
  rw [hframe] at hvalid ⊢
  exact grown.of_frame hvalid rfl rfl grown.sorted

theorem IsGrown.clearFilters (grown : IsGrown schema q) : IsGrown schema (Edit.clearFilters q) := by
  have hvalid : (Edit.clearFilters q).validate = .ok () :=
    validate_of_tests grown.valid fun _ ht => by cases ht
  exact grown.of_frame hvalid rfl rfl grown.sorted

theorem IsGrown.removeOrder (grown : IsGrown schema q) (h : Edit.removeOrder q text = .ok edited) :
    IsGrown schema edited := by
  have hvalid := validate_removeOrder h
  obtain ⟨-, rfl⟩ := removeOrder_eq_ok h
  exact grown.of_frame hvalid rfl rfl fun key hkey => grown.sorted key (List.mem_filter.mp hkey).1

theorem IsGrown.clearOrder (grown : IsGrown schema q) : IsGrown schema (Edit.clearOrder q) := by
  have hvalid : (Edit.clearOrder q).validate = .ok () :=
    (validate_orderBy_iff grown.valid).mpr fun _ hkey => by cases hkey
  exact grown.of_frame hvalid rfl rfl fun _ hkey => by cases hkey

/-- A text that a query can be sorted by names a column of its tables. -/
theorem IsGrown.isSupplied_of_isAvailable (grown : IsGrown schema q)
    (h : isAvailable schema q text = true) : IsSupplied schema q.tables (projectedName text) := by
  rw [isAvailable, Bool.or_eq_true, List.contains_iff_mem, List.any_eq_true] at h
  rcases h with hresolved | ⟨table, htable, hcolumn⟩
  · exact grown.projected _ hresolved
  · exact ⟨table, htable, mem_columnNames_iff.mpr hcolumn⟩

theorem isColumnName_of_isSupplied (plain : schema.HasPlainColumns) {tables : List String}
    {x : String} (h : IsSupplied schema tables x) : IsColumnName x := by
  obtain ⟨table, -, hx⟩ := h
  exact isColumnName_of_mem_columnNames plain hx

theorem IsGrown.orderBy (plain : schema.IsPlain) (grown : IsGrown schema q)
    {ascending : Option Bool} (hfull : hasFullSegments text = true)
    (h : Edit.orderBy schema q text ascending = .ok edited) : IsGrown schema edited := by
  have hvalid := (validate_orderBy_iff_hasFullSegments h).mpr hfull
  obtain ⟨-, havailable, rfl⟩ := orderBy_eq_ok h
  have hsupplied := grown.isSupplied_of_isAvailable havailable
  refine grown.of_frame hvalid rfl rfl ?_
  intro key hkey
  rcases List.mem_append.mp hkey with hkept | hnew
  · exact grown.sorted key (List.mem_filter.mp hkept).1
  · obtain rfl := List.mem_singleton.mp hnew
    have hname := isColumnName_of_isSupplied plain.columns hsupplied
    exact ⟨_, resolvedName_identifier hname, hsupplied⟩

/-! Sessions -/

namespace Session

variable {s : Session} {g : Gesture} {gestures : List Gesture}

/-- Holds of gestures that load no text, and that name the column that they filter or sort by. -/
def isNamed : Gesture → Bool
  | .load _ => false
  | .setFilter column _ _ => column ≠ ""
  | .orderBy text _ => hasFullSegments text
  | _ => true

/-- There is no query, or a grown one. -/
def HasGrown (s : Session) : Prop :=
  ∀ q ∈ s.query, IsGrown s.schema q

theorem hasGrown_of_edits (plain : s.schema.IsPlain)
    (reads : ReadsChains s.options.dialect s.schema) (grown : s.HasGrown)
    (hnamed : isNamed g = true) {query : Option Select} (h : s.Edits g query) :
    ∀ q ∈ query, IsGrown s.schema q := by
  cases h with
  | load => cases hnamed
  | start _ _ hcolumn =>
      rintro _ ⟨⟩
      exact isGrown_startQuery plain hcolumn
  | extend _ hquery hcolumn h =>
      rintro _ ⟨⟩
      exact (grown _ hquery).extendQuery plain hcolumn h
  | @removeColumn text _ _ hquery h =>
      obtain ⟨edited, hedit, hgrown⟩ := (grown _ hquery).exists_removeColumn plain reads text
      obtain rfl := Except.ok.inj (hedit.symm.trans h)
      exact hgrown
  | setFilter hquery h =>
      rintro _ ⟨⟩
      exact (grown _ hquery).setFilter (of_decide_eq_true hnamed) h
  | orderBy hquery h =>
      rintro _ ⟨⟩
      exact (grown _ hquery).orderBy plain hnamed h
  | removeOrder hquery h =>
      rintro _ ⟨⟩
      exact (grown _ hquery).removeOrder h
  | clearFilters =>
      intro edited hedited
      obtain ⟨q, hq, rfl⟩ := Option.map_eq_some_iff.mp hedited
      exact (grown q hq).clearFilters
  | clearOrder =>
      intro edited hedited
      obtain ⟨q, hq, rfl⟩ := Option.map_eq_some_iff.mp hedited
      exact (grown q hq).clearOrder
  | clear =>
      intro q hq
      cases hq

theorem HasGrown.perform (plain : s.schema.IsPlain)
    (reads : ReadsChains s.options.dialect s.schema) (grown : s.HasGrown)
    (hnamed : isNamed g = true) : (s.perform g).HasGrown :=
  perform_keeps (P := fun query => ∀ q ∈ query, IsGrown s.schema q) grown
    fun _ h => hasGrown_of_edits plain reads grown hnamed h

theorem hasGrown_run {schema : Schema} {options : Options} (plain : schema.IsPlain)
    (reads : ReadsChains options.dialect schema) (hnamed : ∀ g ∈ gestures, isNamed g = true) :
    ((start schema options).run gestures).HasGrown := by
  refine run_induction (P := HasGrown) (fun q hq => by cases hq) ?_ (List.prefix_refl gestures)
  intro before g hprefix grown
  have hmem : g ∈ gestures := hprefix.subset (by simp)
  apply grown.perform
  · rw [run_schema]
    exact plain
  · rw [run_schema, run_options]
    exact reads
  · exact hnamed g hmem

/-- A table is joined, and then the one before it is needed no more. -/
def carrierGestures : List Gesture :=
  [.addColumn "flights.id", .addColumn "carriers.name", .orderBy "name" none, .removeColumn "id"]

end Session

end Edit

end SelectTree
