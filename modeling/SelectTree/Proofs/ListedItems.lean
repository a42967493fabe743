import SelectTree.Proofs.GrownQueries

namespace SelectTree.Edit

/-! Listed items: stars and columns of the catalog, which is all that gestures project where no
text is loaded. -/

/-- An item that says no more than the catalog lists: a star, a star for a table that has columns,
or the name of a column. -/
inductive IsListed (schema : Schema) : ColumnRef → Prop
  | wildcard : IsListed schema (.identifier "*")
  | star {table : String} (h : schema.columnNames table ≠ []) :
      IsListed schema (.identifier (star table))
  | column {table name : String} (h : name ∈ schema.columnNames table) :
      IsListed schema (.identifier name)

/-- The items of a query, of which there are some, are all listed. -/
structure IsListedQuery (schema : Schema) (q : Select) : Prop where
  ne_nil : q.items ≠ []
  listed : ∀ item ∈ q.items, IsListed schema item

variable {schema : Schema} {options : Options} {q edited : Select} {items : List ColumnRef}
  {columns tables : List String} {table column text : String}

/-- Each of the columns is one of the catalog. -/
def AreColumns (schema : Schema) (columns : List String) : Prop :=
  ∀ x ∈ columns, ∃ table, x ∈ schema.columnNames table

namespace IsListed

variable {item : ColumnRef}

theorem isCall_eq (h : IsListed schema item) : item.isCall = false := by
  cases h <;> rfl

theorem argumentColumns_eq (h : IsListed schema item) : item.argumentColumns = [] := by
  cases h <;> rfl

theorem check_eq_ok (dotless : schema.HasDotlessNames) (h : IsListed schema item) :
    item.check = .ok () := by
  cases h with
  | wildcard => rfl
  | star h =>
      obtain ⟨name, hname⟩ := List.exists_mem_of_ne_nil _ h
      exact check_identifier_iff.mpr (dotless.columnName hname).1.hasFullSegments_star
  | column h => exact check_identifier_iff.mpr (dotless.columnName h).2.hasFullSegments

theorem areColumns_expand (plain : schema.HasPlainColumns) (h : IsListed schema item) :
    AreColumns schema (expand schema tables item) := by
  intro x hx
  cases h with
  | wildcard =>
      rw [expand_wildcard] at hx
      obtain ⟨table, -, hname⟩ := List.mem_flatMap.mp hx
      exact ⟨table, hname⟩
  | star h =>
      rw [expand_star] at hx
      exact ⟨_, hx⟩
  | column h =>
      rw [expand_identifier (isColumnName_of_mem_columnNames plain h), List.mem_singleton] at hx
      exact ⟨_, hx ▸ h⟩

end IsListed

theorem rebuildItem_of_listed (h : ∀ item ∈ items, IsListed schema item) (x : String) :
    rebuildItem items x = .identifier x := by
  rcases rebuildItem_cases items x with ⟨heq, -⟩ | ⟨hmem, hcall, -⟩
  · exact heq
  · rw [(h _ hmem).isCall_eq] at hcall
    cases hcall

/-- Columns of the catalog are written as listed items. -/
theorem isListed_of_mem_rebuilt (hitems : ∀ item ∈ items, IsListed schema item)
    (hcolumns : AreColumns schema columns) {item : ColumnRef}
    (h : item ∈ rebuildItems items (write schema options columns tables)) :
    IsListed schema item := by
  rw [rebuildItems_eq_map] at h
  obtain ⟨x, hx, rfl⟩ := List.mem_map.mp h
  rw [rebuildItem_of_listed hitems]
  rcases mem_of_mem_write options hx with rfl | ⟨table, -, covered, rfl⟩ | hcolumn
  · exact .wildcard
  · exact .star (isCovered_iff.mp covered).1
  · obtain ⟨table, hname⟩ := hcolumns x hcolumn
    exact .column hname

/-- Without stars, nothing but columns is written. -/
theorem wildcard_not_mem_rebuilt (plain : schema.HasPlainColumns)
    (hitems : ∀ item ∈ items, IsListed schema item) (hcolumns : AreColumns schema columns)
    (explicit : options.compressStars = false) :
    ColumnRef.identifier "*" ∉ rebuildItems items (write schema options columns tables) := by
  rw [write, explicit, if_neg Bool.false_ne_true, rebuildItems_eq_map]
  intro h
  obtain ⟨x, hx, heq⟩ := List.mem_map.mp h
  rw [rebuildItem_of_listed hitems] at heq
  cases heq
  obtain ⟨table, hname⟩ := hcolumns "*" hx
  exact (isColumnName_of_mem_columnNames plain hname).ne_wildcard rfl

namespace IsListedQuery

theorem check_items (dotless : schema.HasDotlessNames) (h : IsListedQuery schema q) :
    ∀ item ∈ q.items, item.check = .ok () :=
  fun item hitem => (h.listed item hitem).check_eq_ok dotless

theorem areColumns_resolve (plain : schema.HasPlainColumns) (h : IsListedQuery schema q) :
    AreColumns schema (resolve schema q) := by
  intro x hx
  obtain ⟨item, hitem, hx⟩ := mem_resolve.mp hx
  exact (h.listed item hitem).areColumns_expand plain x hx

/-! Gestures -/

theorem of_items_eq (h : IsListedQuery schema q) (heq : edited.items = q.items) :
    IsListedQuery schema edited :=
  ⟨heq ▸ h.ne_nil, heq ▸ h.listed⟩

theorem startQuery (hcolumn : checkColumn schema table column = .ok ()) :
    IsListedQuery schema (Edit.startQuery table column) := by
  refine ⟨List.cons_ne_nil _ _, ?_⟩
  intro item hitem
  obtain rfl := List.mem_singleton.mp hitem
  rcases checkColumn_eq_ok hcolumn with rfl | hname
  · exact .wildcard
  · exact .column hname

theorem longer (plain : schema.IsPlain) (h : IsListedQuery schema q)
    (hcolumn : checkColumn schema table column = .ok ()) :
    IsListedQuery schema (Edit.longer q table column) := by
  refine ⟨List.append_ne_nil_of_left_ne_nil h.ne_nil _, ?_⟩
  refine List.forall_mem_append.mpr ⟨h.listed, ?_⟩
  intro item hitem
  obtain rfl := List.mem_singleton.mp hitem
  unfold newItem
  split
  · exact .star (plain.columnNames_ne_nil hcolumn)
  · rename_i hne
    exact .column ((checkColumn_eq_ok hcolumn).resolve_left hne)

theorem projecting (plain : schema.IsPlain) (h : IsListedQuery schema q)
    (hcolumn : checkColumn schema table column = .ok ()) :
    IsListedQuery schema (Edit.projecting schema options q table column) := by
  have hlonger := h.longer plain hcolumn
  constructor
  · rw [Edit.projecting, rebuildItems_eq_map, Ne, List.map_eq_nil_iff, write_eq_nil_iff,
      resolve_longer_eq_nil_iff plain.hasDotlessNames hcolumn]
    exact fun hnothing => plain.columnNames_ne_nil hcolumn hnothing.2.2
  · intro item hitem
    exact isListed_of_mem_rebuilt hlonger.listed (hlonger.areColumns_resolve plain.columns) hitem

theorem extendQuery (plain : schema.IsPlain) (h : IsListedQuery schema q)
    (hcolumn : checkColumn schema table column = .ok ())
    (hedit : Edit.extendQuery schema options q table column = .ok edited) :
    IsListedQuery schema edited := by
  obtain ⟨-, rfl⟩ := extendQuery_eq_ok hedit
  split
  · exact (h.projecting plain hcolumn).of_items_eq joining_items
  · exact h.of_items_eq joining_items

theorem areColumns_remaining (plain : schema.HasPlainColumns) (h : IsListedQuery schema q)
    (column : String) : AreColumns schema (remaining schema q column) :=
  fun x hx => h.areColumns_resolve plain x (mem_remaining.mp hx).1

theorem unprojectColumn (plain : schema.HasPlainColumns) (h : IsListedQuery schema q)
    (hedit : Edit.unprojectColumn schema options q text = .ok edited) :
    IsListedQuery schema edited := by
  have hmore := remaining_ne_nil hedit
  obtain ⟨pruned, -, rfl⟩ := unprojectColumn_eq_ok hedit
  constructor
  · rwa [rebuildItems_eq_map, Ne, List.map_eq_nil_iff, write_eq_nil_iff]
  · intro item hitem
    exact isListed_of_mem_rebuilt h.listed (h.areColumns_remaining plain _) hitem

theorem removeColumn (plain : schema.HasPlainColumns) (h : IsListedQuery schema q)
    (hedit : Edit.removeColumn schema options q text = .ok (some edited)) :
    IsListedQuery schema edited := by
  obtain ⟨⟨⟩, valid, -⟩ := bind_eq_ok_iff.mp hedit
  by_cases hmem : projectedName text ∈ resolve schema q
  · exact h.unprojectColumn plain (removeColumn_eq_some valid hmem hedit)
  · rw [removeColumn_of_not_mem valid hmem] at hedit
    cases hedit
    exact h

end IsListedQuery

/-! Sessions -/

namespace Session

variable {s : Session} {g : Gesture} {gestures : List Gesture}

/-- There is no query, or one of listed items only. -/
def IsListed (s : Session) : Prop :=
  ∀ q ∈ s.query, IsListedQuery s.schema q

theorem isListed_of_edits (plain : s.schema.IsPlain) (hloads : ∀ text, g ≠ .load text)
    (listed : s.IsListed) {query : Option Select} (h : s.Edits g query) :
    ∀ q ∈ query, IsListedQuery s.schema q := by
  cases h with
  | load => exact absurd rfl (hloads _)
  | start hname hquery hcolumn =>
      rintro _ ⟨⟩
      exact .startQuery hcolumn
  | extend hname hquery hcolumn hedit =>
      rintro _ ⟨⟩
      exact (listed _ hquery).extendQuery plain hcolumn hedit
  | removeColumn hquery hedit =>
      rintro _ rfl
      exact (listed _ hquery).removeColumn plain.columns hedit
  | setFilter hquery hedit =>
      rintro _ ⟨⟩
      exact (listed _ hquery).of_items_eq (by rw [frame_setFilter hedit])
  | orderBy hquery hedit =>
      rintro _ ⟨⟩
      exact (listed _ hquery).of_items_eq (by rw [(orderBy_eq_ok hedit).2.2])
  | removeOrder hquery hedit =>
      rintro _ ⟨⟩
      exact (listed _ hquery).of_items_eq (by rw [(removeOrder_eq_ok hedit).2])
  | clearFilters =>
      intro edited hedited
      obtain ⟨q, hquery, rfl⟩ := Option.map_eq_some_iff.mp hedited
      exact (listed q hquery).of_items_eq rfl
  | clearOrder =>
      intro edited hedited
      obtain ⟨q, hquery, rfl⟩ := Option.map_eq_some_iff.mp hedited
      exact (listed q hquery).of_items_eq rfl
  | clear => exact fun _ hq => by cases hq

theorem IsListed.perform (plain : s.schema.IsPlain) (hloads : ∀ text, g ≠ .load text)
    (listed : s.IsListed) : (s.perform g).IsListed :=
  perform_keeps (P := fun query => ∀ q ∈ query, IsListedQuery s.schema q) listed
    fun _ h => isListed_of_edits plain hloads listed h

theorem isListed_run (plain : schema.IsPlain) (hloads : ∀ text, .load text ∉ gestures) :
    ((start schema options).run gestures).IsListed := by
  refine run_induction (fun _ hq => by cases hq) ?_ (List.prefix_refl gestures)
  intro before g hprefix listed
  have hmem : g ∈ gestures := hprefix.mem (by simp)
  refine listed.perform (by rwa [run_schema]) ?_
  rintro text rfl
  exact hloads text hmem

end Session

end SelectTree.Edit
