import SelectTree.Proofs.AddedColumns
import SelectTree.Proofs.Filters
import SelectTree.Proofs.Readback
import SelectTree.Proofs.RemovedColumns
import SelectTree.Proofs.Runs

namespace SelectTree

/-! Validity: which gestures leave a query that passes the check, whatever they are given. -/

/-! Names -/

/-- A name without dots, as catalogs give them. -/
structure IsDotless (name : String) : Prop where
  ne_empty : name ≠ ""
  dotless : '.' ∉ name.toList

theorem isDotless_iff {name : String} : IsDotless name ↔ name ≠ "" ∧ '.' ∉ name.toList :=
  ⟨fun ⟨hempty, hdot⟩ => ⟨hempty, hdot⟩, fun ⟨hempty, hdot⟩ => ⟨hempty, hdot⟩⟩

instance (name : String) : Decidable (IsDotless name) :=
  decidable_of_iff' _ isDotless_iff

/-- All tables and all their columns have names without dots. -/
def Schema.HasDotlessNames (schema : Schema) : Prop :=
  ∀ table ∈ schema.tables, IsDotless table.name ∧ ∀ column ∈ table.columns, IsDotless column.name

instance (schema : Schema) : Decidable schema.HasDotlessNames :=
  inferInstanceAs (Decidable (∀ table ∈ schema.tables,
    IsDotless table.name ∧ ∀ column ∈ table.columns, IsDotless column.name))

/-- A catalog of one table, which has no columns. -/
def Schema.log : Schema :=
  ⟨[⟨"log", []⟩]⟩

theorem IsDotless.segments {name : String} (h : IsDotless name) :
    Text.segments '.' name.toList = [name.toList] :=
  Text.segments_of_not_mem h.dotless

theorem IsDotless.hasFullSegments {name : String} (h : IsDotless name) :
    hasFullSegments name = true := by
  have hne : name.toList ≠ [] := fun heq => h.ne_empty (String.toList_eq_nil_iff.mp heq)
  simp [SelectTree.hasFullSegments, h.segments, hne]

theorem IsDotless.hasFullSegments_star {name : String} (h : IsDotless name) :
    SelectTree.hasFullSegments (Edit.star name) = true := by
  have hne : name.toList ≠ [] := fun heq => h.ne_empty (String.toList_eq_nil_iff.mp heq)
  have hstar : (Edit.star name).toList = name.toList ++ '.' :: ['*'] := by simp [Edit.star]
  rw [SelectTree.hasFullSegments, hstar, Text.segments_append, h.segments]
  simp [hne, Text.segments]

/-- The column that an identifier names is one of the parts between its dots. -/
theorem mem_segments_of_ofText {text name : String} {table : Option String}
    (h : Target.ofText text = .column table name) :
    name.toList ∈ Text.segments '.' text.toList := by
  have hname := Text.segments_of_not_mem (Target.isColumnName_of_ofText h).dotless
  rcases Target.toList_of_ofText h with rfl | ⟨before, hlist⟩
  · rw [hname]
    exact List.mem_singleton_self _
  · rw [hlist, Text.segments_append, hname]
    exact List.mem_append_right _ (List.mem_singleton_self _)

theorem isDotless_of_ofText {text name : String} {table : Option String}
    (h : hasFullSegments text = true) (htarget : Target.ofText text = .column table name) :
    IsDotless name := by
  refine ⟨?_, (Target.isColumnName_of_ofText htarget).dotless⟩
  rintro rfl
  have hpart := List.all_eq_true.mp h _ (mem_segments_of_ofText htarget)
  simp at hpart

namespace Schema

variable {schema : Schema} {table name : String}

theorem HasDotlessNames.tableName (dotless : schema.HasDotlessNames) {found : Table}
    (h : schema.table? table = some found) : IsDotless table := by
  have hname : found.name = table := by simpa using List.find?_some h
  exact hname ▸ (dotless found (List.mem_of_find?_eq_some h)).1

theorem HasDotlessNames.columnName (dotless : schema.HasDotlessNames)
    (h : name ∈ schema.columnNames table) : IsDotless table ∧ IsDotless name := by
  obtain ⟨found, hfound, rfl, column, hcolumn, rfl⟩ := Edit.exists_of_mem_columnNames h
  exact ⟨(dotless found hfound).1, (dotless found hfound).2 column hcolumn⟩

end Schema

namespace Edit

variable {schema : Schema} {options : Options} {q edited : Select} {items : List ColumnRef}
  {columns tables : List String} {table column text operator value : String}

theorem isDotless_of_checkColumn (dotless : schema.HasDotlessNames)
    (h : checkColumn schema table column = .ok ()) : IsDotless table := by
  unfold checkColumn Schema.columnsOf? at h
  cases hfound : schema.table? table with
  | none =>
      rw [hfound] at h
      cases h
  | some found => exact dotless.tableName hfound

/-! Rebuilt items -/

theorem check_identifier_iff :
    (ColumnRef.identifier text).check = .ok () ↔ hasFullSegments text = true := by
  rw [ColumnRef.check, requires_eq_ok_iff]

/-- Texts that become well-formed items. -/
def Rebuildable (items : List ColumnRef) (x : String) : Prop :=
  hasFullSegments x = true ∨ ∃ item ∈ items, item.isCall = true ∧ item.rendering = x

theorem check_rebuildItem (hitems : ∀ item ∈ items, item.check = .ok ()) {x : String}
    (hx : Rebuildable items x) : (rebuildItem items x).check = .ok () := by
  rcases rebuildItem_cases items x with ⟨heq, hno⟩ | ⟨hmem, -, -⟩
  · rw [heq, check_identifier_iff]
    rcases hx with hx | ⟨item, hitem, hcall, hrendering⟩
    · exact hx
    · exact absurd hrendering (hno item hitem hcall)
  · exact hitems _ hmem

theorem rebuildable_of_mem_expand (dotless : schema.HasDotlessNames)
    (hitems : ∀ item ∈ items, item.check = .ok ()) {item : ColumnRef} (hitem : item ∈ items)
    {x : String} (hx : x ∈ expand schema tables item) : Rebuildable items x := by
  cases item with
  | call name args =>
      rw [expand_call rfl, List.mem_singleton] at hx
      exact .inr ⟨_, hitem, rfl, hx.symm⟩
  | identifier text =>
      have hfull := check_identifier_iff.mp (hitems _ hitem)
      refine .inl (IsDotless.hasFullSegments ?_)
      rw [expand, ColumnRef.target_identifier] at hx
      cases htarget : Target.ofText text with
      | wildcard =>
          rw [htarget] at hx
          obtain ⟨table, -, hname⟩ := List.mem_flatMap.mp hx
          exact (dotless.columnName hname).2
      | tableWildcard table =>
          rw [htarget] at hx
          exact (dotless.columnName hx).2
      | column table name =>
          rw [htarget] at hx
          obtain rfl := List.mem_singleton.mp hx
          exact isDotless_of_ofText hfull htarget

theorem rebuildable_of_mem_resolve (dotless : schema.HasDotlessNames)
    (hitems : ∀ item ∈ q.items, item.check = .ok ()) {x : String} (hx : x ∈ resolve schema q) :
    Rebuildable q.items x := by
  obtain ⟨item, hitem, hx⟩ := mem_resolve.mp hx
  exact rebuildable_of_mem_expand dotless hitems hitem hx

/-- A star is written for a table of the catalog only, so every item that is built is
well-formed. -/
theorem check_rebuilt (dotless : schema.HasDotlessNames) (options : Options)
    (tables : List String)
    (hitems : ∀ item ∈ items, item.check = .ok ())
    (hcolumns : ∀ x ∈ columns, Rebuildable items x) :
    ∀ item ∈ rebuildItems items (write schema options columns tables), item.check = .ok () := by
  rw [rebuildItems_eq_map, List.forall_mem_map]
  intro x hx
  rcases mem_of_mem_write options hx with rfl | ⟨table, -, covered, rfl⟩ | hcolumn
  · exact check_rebuildItem hitems (.inl (by decide))
  · obtain ⟨name, hname⟩ := exists_mem_of_isCovered covered
    exact check_rebuildItem hitems (.inl (dotless.columnName hname).1.hasFullSegments_star)
  · exact check_rebuildItem hitems (hcolumns x hcolumn)

/-! Parts of a valid query -/

theorem check_items (valid : q.validate = .ok ()) : ∀ item ∈ q.items, item.check = .ok () :=
  (Select.check_iff.mp (Select.validate_iff.mp valid)).2.1

theorem validate_replaceSource (valid : q.validate = .ok ()) {source : Source}
    (h : source.check = .ok ()) : (q.replaceSource source).validate = .ok () := by
  rw [Select.validate_iff, Select.check_iff] at valid ⊢
  exact ⟨valid.1, valid.2.1, h, valid.2.2.2⟩

theorem foldlM_removeNaturalJoin (valid : q.validate = .ok ()) (stale : List String) :
    stale.foldlM Select.removeNaturalJoin q =
      .ok (q.replaceSource (stale.foldl (fun source table => source.prune table) q.source)) := by
  induction stale generalizing q with
  | nil => exact congrArg Except.ok (replaceSource_source q).symm
  | cons table rest ih =>
      have hpruned := Source.check_prune table q.source (Select.validate_source valid)
      rw [List.foldlM_cons, Select.removeNaturalJoin_eq valid]
      exact ih (validate_replaceSource valid hpruned)

theorem validate_items_iff (valid : q.validate = .ok ()) :
    Select.validate { q with items } = .ok () ↔
      items ≠ [] ∧ ∀ item ∈ items, item.check = .ok () := by
  rw [Select.validate_iff, Select.check_iff] at valid ⊢
  exact ⟨fun h => ⟨h.1, h.2.1⟩, fun h => ⟨h.1, h.2, valid.2.2⟩⟩

theorem validate_orderBy_iff (valid : q.validate = .ok ()) {keys : List OrderItem} :
    Select.validate { q with orderBy := keys } = .ok () ↔
      ∀ key ∈ keys, key.column.check = .ok () := by
  rw [Select.validate_iff, Select.check_iff] at valid ⊢
  obtain ⟨hne, hitems, hsource, hfilter, hgroup, -⟩ := valid
  exact ⟨fun h => h.2.2.2.2.2, fun h => ⟨hne, hitems, hsource, hfilter, hgroup, h⟩⟩

theorem check_keys (valid : q.validate = .ok ()) : ∀ key ∈ q.orderBy, key.column.check = .ok () :=
  (Select.check_iff.mp (Select.validate_iff.mp valid)).2.2.2.2.2

/-! Added columns -/

theorem validate_startQuery (dotless : schema.HasDotlessNames)
    (h : checkColumn schema table column = .ok ()) :
    (startQuery table column).validate = .ok () := by
  have hcolumn : hasFullSegments column = true := by
    rcases checkColumn_eq_ok h with rfl | hmem
    · decide
    · exact (dotless.columnName hmem).2.hasFullSegments
  rw [Select.validate_iff, Select.check_iff]
  refine ⟨List.cons_ne_nil _ _, ?_, ?_, nofun, nofun, nofun⟩
  · intro item hitem
    obtain rfl := List.mem_singleton.mp hitem
    exact check_identifier_iff.mpr hcolumn
  · exact Source.check_table_iff.mpr (isDotless_of_checkColumn dotless h).ne_empty

theorem check_newItem (dotless : schema.HasDotlessNames)
    (h : checkColumn schema table column = .ok ()) : (newItem table column).check = .ok () := by
  unfold newItem
  rw [check_identifier_iff]
  split
  · exact (isDotless_of_checkColumn dotless h).hasFullSegments_star
  · rename_i hne
    exact (dotless.columnName ((checkColumn_eq_ok h).resolve_left hne)).2.hasFullSegments

theorem expand_newItem_eq_nil_iff (dotless : schema.HasDotlessNames)
    (h : checkColumn schema table column = .ok ()) :
    expand schema tables (newItem table column) = [] ↔
      column = "*" ∧ schema.columnNames table = [] := by
  unfold newItem
  by_cases hwild : column = "*"
  · rw [if_pos hwild, expand_star]
    exact ⟨fun hnone => ⟨hwild, hnone⟩, And.right⟩
  · have hmem := (checkColumn_eq_ok h).resolve_left hwild
    have hname : IsColumnName column :=
      isColumnName_iff.mpr ⟨(dotless.columnName hmem).2.dotless, hwild⟩
    rw [if_neg hwild, expand_identifier hname]
    exact ⟨fun hnone => absurd hnone (List.cons_ne_nil _ _), fun hnone => absurd hnone.1 hwild⟩

theorem eraseDups_eq_nil_iff {names : List String} : names.eraseDups = [] ↔ names = [] := by
  simp only [List.eq_nil_iff_forall_not_mem, List.mem_eraseDups]

theorem resolve_longer_eq_nil_iff (dotless : schema.HasDotlessNames)
    (h : checkColumn schema table column = .ok ()) :
    resolve schema (longer q table column) = [] ↔
      resolve schema q = [] ∧ column = "*" ∧ schema.columnNames table = [] := by
  unfold resolve longer
  rw [eraseDups_eq_nil_iff, eraseDups_eq_nil_iff, List.flatMap_append, List.append_eq_nil_iff]
  apply and_congr Iff.rfl
  rw [← expand_newItem_eq_nil_iff dotless h, List.flatMap_singleton]

/-- All columns of a table without columns, in a query that projects no columns either. -/
def AddsNothing (schema : Schema) (q : Select) (table column : String) : Prop :=
  resolve schema q = [] ∧ column = "*" ∧ schema.columnNames table = []

theorem validate_projecting_iff (dotless : schema.HasDotlessNames) (valid : q.validate = .ok ())
    (h : checkColumn schema table column = .ok ()) :
    (projecting schema options q table column).validate = .ok () ↔
      ¬ AddsNothing schema q table column := by
  have hlonger : ∀ item ∈ (longer q table column).items, item.check = .ok () :=
    List.forall_mem_append.mpr ⟨check_items valid, by simpa using check_newItem dotless h⟩
  have hrebuilt := check_rebuilt dotless options (table :: q.tables).eraseDups hlonger
    fun x hx => rebuildable_of_mem_resolve dotless hlonger hx
  rw [projecting, validate_items_iff valid, AddsNothing, ← resolve_longer_eq_nil_iff dotless h,
    rebuildItems_eq_map, Ne, List.map_eq_nil_iff, write_eq_nil_iff]
  exact ⟨And.left, fun hne => ⟨hne, hrebuilt⟩⟩

theorem validate_joining_iff (htable : table ≠ "") (hsource : q.source.check = .ok ()) :
    (joining q table).validate = .ok () ↔ q.validate = .ok () := by
  unfold joining
  split
  · exact Iff.rfl
  · have hgrown := Source.check_grow htable q.source hsource
    rw [Select.validate_iff, Select.validate_iff, Select.check_iff, Select.check_iff]
    simp only [hgrown, hsource]

theorem validate_extendQuery_iff (dotless : schema.HasDotlessNames)
    (hcolumn : checkColumn schema table column = .ok ())
    (h : extendQuery schema options q table column = .ok edited) :
    edited.validate = .ok () ↔ ¬ AddsNothing schema q table column := by
  obtain ⟨valid, rfl⟩ := extendQuery_eq_ok h
  have htable := (isDotless_of_checkColumn dotless hcolumn).ne_empty
  have hsource := Select.validate_source valid
  cases hneeds : needsItem schema q column with
  | true =>
      rw [if_pos rfl, validate_joining_iff (q := projecting schema options q table column) htable hsource,
        validate_projecting_iff dotless valid hcolumn]
  | false =>
      have hwild := (needsItem_eq_false_iff.mp hneeds).1
      rw [if_neg Bool.false_ne_true, validate_joining_iff htable hsource]
      exact ⟨fun _ hnothing => hwild hnothing.2.1, fun _ => valid⟩

/-! Removed columns -/

theorem check_of_readChain {d : Sql.Dialect} {tables : List String} {source : Source}
    (h : readChain d tables = .ok source) : source.check = .ok () := by
  unfold readChain at h
  split at h
  · cases h
  · obtain ⟨tree, htree, rfl⟩ := map_eq_ok_iff.mp h
    obtain ⟨query, hquery, htree⟩ := bind_eq_ok_iff.mp htree
    cases query with
    | none => cases htree
    | some query =>
        cases htree
        exact Select.validate_source (validate_of_parse hquery)

theorem validate_pruneTables (valid : q.validate = .ok ()) {remaining : List String}
    (h : pruneTables schema options q remaining = .ok edited) : edited.validate = .ok () := by
  rw [(pruneTables_eq_ok h).1]
  apply validate_replaceSource valid
  rcases source_pruneTables h with hpruned | ⟨-, hread⟩
  · rw [hpruned]
    exact Source.check_foldl_prune _ (Select.validate_source valid)
  · exact check_of_readChain hread

/-- Whatever stays of the tests and keys was valid before. -/
theorem validate_withoutColumn (valid : q.validate = .ok ()) :
    (withoutColumn q column).validate = .ok () := by
  have htests := Select.tests_pruneTests q fun t => projectedName t.column ≠ column
  have hpruned : (q.pruneTests fun t => projectedName t.column ≠ column).validate = .ok () := by
    apply validate_of_tests valid
    intro t ht
    have hkept : t ∈ q.tests.filter fun t => projectedName t.column ≠ column := htests ▸ ht
    exact column_ne_of_validate valid t (List.mem_filter.mp hkept).1
  rw [Select.validate_iff, Select.check_iff] at hpruned ⊢
  obtain ⟨hne, hitems, hsource, hfilter, hgroup, horder⟩ := hpruned
  exact ⟨hne, hitems, hsource, hfilter,
    fun key hkey => hgroup key (List.mem_filter.mp hkey).1,
    fun key hkey => horder key (List.mem_filter.mp hkey).1⟩

theorem remaining_ne_nil (h : unprojectColumn schema options q text = .ok edited) :
    remaining schema q (projectedName text) ≠ [] := by
  obtain ⟨⟨⟩, -, h⟩ := bind_eq_ok_iff.mp h
  dsimp only at h
  split at h
  · cases h
  · rename_i hmore
    simpa [remaining] using hmore

theorem validate_unprojectColumn (dotless : schema.HasDotlessNames)
    (h : unprojectColumn schema options q text = .ok edited) (valid : q.validate = .ok ()) :
    edited.validate = .ok () := by
  have hmore := remaining_ne_nil h
  obtain ⟨pruned, hpruned, rfl⟩ := unprojectColumn_eq_ok h
  have hcolumns : ∀ x ∈ remaining schema q (projectedName text), Rebuildable q.items x :=
    fun x hx => rebuildable_of_mem_resolve dotless (check_items valid) (mem_remaining.mp hx).1
  rw [validate_items_iff (validate_pruneTables (validate_withoutColumn valid) hpruned)]
  refine ⟨?_, check_rebuilt dotless options _ (check_items valid) hcolumns⟩
  rwa [rebuildItems_eq_map, Ne, List.map_eq_nil_iff, write_eq_nil_iff]

theorem validate_removeColumn (dotless : schema.HasDotlessNames) (valid : q.validate = .ok ())
    (h : removeColumn schema options q text = .ok (some edited)) : edited.validate = .ok () := by
  by_cases hmem : projectedName text ∈ resolve schema q
  · have hedit := removeColumn_eq_some valid hmem h
    exact validate_unprojectColumn dotless hedit valid
  · rw [removeColumn_of_not_mem valid hmem] at h
    cases h
    exact valid

/-! Filters and order -/

theorem validate_setFilter_iff (h : setFilter schema options q column operator value = .ok edited) :
    edited.validate = .ok () ↔ ¬ (column = "" ∧ Text.isBlankText value = false) := by
  obtain ⟨valid, op, hop, ⟨hblank, rfl⟩ | ⟨hblank, literal, -, rfl⟩⟩ := setFilter_eq_ok h
  · simp [validate_cleared valid, hblank]
  · constructor
    · rintro hfiltered ⟨hname, -⟩
      have hmem : op.test column literal ∈ (filtering q column op literal).tests := by
        simp [tests_filtering]
      have hne := column_ne_of_validate hfiltered _ hmem
      rw [FilterOperator.column_test] at hne
      exact hne hname
    · intro hnamed
      exact validate_filtering valid fun hname => hnamed ⟨hname, hblank⟩

theorem validate_removeOrder (h : removeOrder q text = .ok edited) : edited.validate = .ok () := by
  obtain ⟨valid, rfl⟩ := removeOrder_eq_ok h
  rw [validate_orderBy_iff valid]
  intro key hkey
  exact check_keys valid key (List.mem_filter.mp hkey).1

theorem validate_orderBy_iff_hasFullSegments {ascending : Option Bool}
    (h : orderBy schema q text ascending = .ok edited) :
    edited.validate = .ok () ↔ hasFullSegments text = true := by
  obtain ⟨valid, -, rfl⟩ := orderBy_eq_ok h
  rw [validate_orderBy_iff valid, List.forall_mem_append]
  simp only [List.mem_singleton, forall_eq, check_identifier_iff]
  exact ⟨And.right, fun hfull => ⟨fun key hkey =>
    check_keys valid key (List.mem_filter.mp hkey).1, hfull⟩⟩

/-! Sessions -/

namespace Session

variable {s : Session} {g : Gesture} {gestures : List Gesture}

/-- There is no query, or one that passes the check that the next edit makes. -/
def IsValid (s : Session) : Prop :=
  ∀ q ∈ s.query, q.validate = .ok ()

instance (s : Session) : Decidable s.IsValid :=
  inferInstanceAs (Decidable (∀ q ∈ s.query, q.validate = .ok ()))

/-- What a gesture writes is no part of a valid query: an empty projection, a test without a
column, or a key with an empty part between its dots. -/
def Misfits (s : Session) : Gesture → Prop
  | .addColumn qualified => ∃ table column,
      splitQualified qualified = .ok (table, column) ∧
        ∃ q ∈ s.query, AddsNothing s.schema q table column
  | .setFilter column _ value => column = "" ∧ Text.isBlankText value = false
  | .orderBy text _ => ¬ hasFullSegments text = true
  | _ => False

/-- A gesture succeeds with what is no part of a valid query. -/
def Malforms (s : Session) (g : Gesture) : Prop :=
  s.errorOf g = none ∧ s.Misfits g

theorem misfits_addColumn_iff {qualified table column : String} {q : Select}
    (hname : splitQualified qualified = .ok (table, column)) (hquery : s.query = some q) :
    s.Misfits (.addColumn qualified) ↔ AddsNothing s.schema q table column := by
  constructor
  · rintro ⟨table', column', hname', q', hq', hnothing⟩
    obtain ⟨rfl, rfl⟩ := Prod.mk.inj (Except.ok.inj (hname.symm.trans hname'))
    obtain rfl : q = q' := Option.some.inj (hquery.symm.trans hq')
    exact hnothing
  · intro hnothing
    exact ⟨table, column, hname, q, hquery, hnothing⟩

theorem valid_iff_of_edits (dotless : s.schema.HasDotlessNames) (valid : s.IsValid)
    {query : Option Select} (h : s.Edits g query) :
    (∀ q ∈ query, q.validate = .ok ()) ↔ ¬ s.Misfits g := by
  have hall : ∀ {edited : Select},
      (∀ q ∈ some edited, q.validate = .ok ()) ↔ edited.validate = .ok () := by simp
  have hfits : ∀ {query : Option Select}, (∀ q ∈ query, q.validate = .ok ()) →
      ((∀ q ∈ query, q.validate = .ok ()) ↔ ¬ False) := fun h => ⟨fun _ => id, fun _ => h⟩
  cases h with
  | load h =>
      apply hfits
      rintro q rfl
      exact validate_of_parse h
  | @start qualified _ _ _ hquery hcolumn =>
      have hfit : ¬ s.Misfits (.addColumn qualified) := by
        rintro ⟨_, _, -, q, hq, -⟩
        rw [hquery] at hq
        cases hq
      exact hall.trans ⟨fun _ => hfit, fun _ => validate_startQuery dotless hcolumn⟩
  | extend hname hquery hcolumn h =>
      rw [hall, misfits_addColumn_iff hname hquery]
      exact validate_extendQuery_iff dotless hcolumn h
  | removeColumn hquery h =>
      apply hfits
      rintro edited rfl
      exact validate_removeColumn dotless (valid _ hquery) h
  | setFilter hquery h => exact hall.trans (validate_setFilter_iff h)
  | orderBy hquery h =>
      rw [hall, validate_orderBy_iff_hasFullSegments h, Misfits, not_not]
  | removeOrder hquery h => exact hfits (hall.mpr (validate_removeOrder h))
  | clearFilters =>
      apply hfits
      intro edited hedited
      obtain ⟨q, hq, rfl⟩ := Option.map_eq_some_iff.mp hedited
      exact validate_of_tests (valid q hq) nofun
  | clearOrder =>
      apply hfits
      intro edited hedited
      obtain ⟨q, hq, rfl⟩ := Option.map_eq_some_iff.mp hedited
      exact (validate_orderBy_iff (valid q hq)).mpr nofun
  | clear => exact hfits nofun

theorem isValid_perform_iff (dotless : s.schema.HasDotlessNames) (valid : s.IsValid) :
    (s.perform g).IsValid ↔ ¬ s.Malforms g := by
  cases hedited : s.edited g with
  | error e =>
      rw [IsValid, query_perform_of_error hedited, Malforms, errorOf_of_error hedited]
      exact ⟨fun _ hforms => (by cases hforms.1), fun _ => valid⟩
  | ok query =>
      rw [IsValid, query_perform_of_ok hedited, Malforms, errorOf_of_ok hedited,
        valid_iff_of_edits dotless valid (edits_of_edited hedited)]
      simp

/-- Along a run from the empty session every query is valid, unless some gesture malforms it. -/
theorem states_valid_iff {schema : Schema} (dotless : schema.HasDotlessNames) (options : Options)
    (gestures : List Gesture) :
    (∀ before, before <+: gestures → ((start schema options).run before).IsValid) ↔
      ∀ before g, before ++ [g] <+: gestures →
        ¬ ((start schema options).run before).Malforms g := by
  have hschema : ∀ before, ((start schema options).run before).schema.HasDotlessNames := by
    intro before
    rw [run_schema]
    exact dotless
  constructor
  · intro hvalid before g hprefix
    rw [← isValid_perform_iff (hschema before)
      (hvalid before ((List.prefix_append before [g]).trans hprefix)), ← run_concat]
    exact hvalid _ hprefix
  · intro hforms before hprefix
    refine run_induction (P := IsValid) (fun q hq => (by cases hq)) ?_ hprefix
    intro before g hbefore hvalid
    exact (isValid_perform_iff (hschema before) hvalid).mpr (hforms before g hbefore)

theorem states_valid_filtered_flights :
    ((start .flights .default).run
      [.addColumn "flights.id", .setFilter "id" "like" "1"]).IsValid := by
  refine (states_valid_iff (by decide) .default
    [.addColumn "flights.id", .setFilter "id" "like" "1"]).mpr ?_ _ (List.prefix_refl _)
  intro before g hprefix
  rcases before with _ | ⟨first, _ | ⟨second, rest⟩⟩
  · obtain rfl : g = .addColumn "flights.id" := by simpa using hprefix
    rintro ⟨-, _, _, -, q, hq, -⟩
    cases hq
  · obtain ⟨rfl, rfl⟩ : first = .addColumn "flights.id" ∧ g = .setFilter "id" "like" "1" := by
      simpa using hprefix
    rintro ⟨-, hname, -⟩
    exact absurd hname (by decide)
  · simp at hprefix

/-- All columns of a table without columns are added twice. No item is left to write then, and
the next edit rejects the query. -/
theorem run_log_malformed :
    Schema.log.HasDotlessNames ∧
      ¬ ((start .log .default).run [.addColumn "log.*", .addColumn "log.*"]).IsValid ∧
      ((start .log .default).run [.addColumn "log.*", .addColumn "log.*"]).errorOf
        (.removeOrder "id") = some (.malformedTree .emptyProjection) := by
  decide

end Session

end Edit

end SelectTree
