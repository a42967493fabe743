import SelectTree.Proofs.ListedItems
import SelectTree.Proofs.SuppliedColumns

namespace SelectTree.Edit

/-! Runs with stars and without. The same gestures lead to the same columns, tables, tests and
keys whether stars are written or not, until a star spills that only one of the two has. -/

/-! Outcomes -/

/-- Two edits that fail with the same error, or give related results. -/
inductive SameOutcome {α β : Type} (R : α → β → Prop) : Except Error α → Except Error β → Prop
  | ok {a : α} {b : β} (h : R a b) : SameOutcome R (.ok a) (.ok b)
  | error (e : Error) : SameOutcome R (.error e) (.error e)

namespace SameOutcome

variable {α β γ δ : Type} {R : α → β → Prop} {S : γ → δ → Prop}

theorem of_eq {x y : Except Error α} (h : x = y) : SameOutcome Eq x y := by
  subst h
  cases x with
  | error e => exact .error e
  | ok a => exact .ok rfl

theorem bind {x : Except Error α} {y : Except Error β} {f : α → Except Error γ}
    {g : β → Except Error δ} (h : SameOutcome R x y)
    (hnext : ∀ a b, R a b → SameOutcome S (f a) (g b)) : SameOutcome S (x >>= f) (y >>= g) := by
  cases h with
  | error e => exact .error e
  | ok h => exact hnext _ _ h

theorem bind_same {x : Except Error γ} {f : γ → Except Error α} {g : γ → Except Error β}
    (hnext : ∀ c, x = .ok c → SameOutcome R (f c) (g c)) : SameOutcome R (x >>= f) (x >>= g) := by
  cases x with
  | error e => exact .error e
  | ok c => exact hnext c rfl

/-- Two edits that check their queries first. -/
theorem of_validate {q r : Select} {f : Unit → Except Error α} {g : Unit → Except Error β}
    (h : q.validate = r.validate)
    (hok : q.validate = .ok () → r.validate = .ok () →
      SameOutcome R (q.validate >>= f) (r.validate >>= g)) :
    SameOutcome R (q.validate >>= f) (r.validate >>= g) := by
  cases hvalid : q.validate with
  | error e =>
      rw [← h, hvalid]
      exact .error e
  | ok =>
      rw [← hvalid]
      exact hok hvalid (h.symm.trans hvalid)

end SameOutcome

variable {schema : Schema} {options : Options} {q r edited : Select} {columns : List String}
  {table column operator value text : String}

/-! Twins -/

/-- The queries stand for the same columns, and differ in nothing but their items. -/
structure AgreesWith (schema : Schema) (q r : Select) : Prop where
  resolved : ∀ x, x ∈ resolve schema q ↔ x ∈ resolve schema r
  source : q.source = r.source
  filter : q.filter = r.filter
  groupBy : q.groupBy = r.groupBy
  orderBy : q.orderBy = r.orderBy

/-- What two runs of the same gestures hold. All items are listed, and the first query has a
star where the second one has it. -/
structure Twins (schema : Schema) (q r : Select) : Prop extends AgreesWith schema q r where
  starred : IsListedQuery schema q
  explicit : IsListedQuery schema r
  wildcard : ColumnRef.identifier "*" ∈ r.items → ColumnRef.identifier "*" ∈ q.items

theorem AgreesWith.tables_eq (h : AgreesWith schema q r) : q.tables = r.tables := by
  rw [Select.tables, Select.tables, h.source]

theorem check_eq_of_items (hne : q.items ≠ []) (hitems : ∀ item ∈ q.items, item.check = .ok ()) :
    q.check = (do
      q.source.check
      match q.filter with
      | none => .ok ()
      | some predicate => predicate.check
      ColumnRef.checkList q.groupBy
      ColumnRef.checkList (q.orderBy.map OrderItem.column)) := by
  have hlist := ColumnRef.checkList_iff.mpr hitems
  obtain ⟨items, source, filter, groupBy, orderBy⟩ := q
  have hnonempty : requires (!items.isEmpty) .emptyProjection = .ok () :=
    requires_eq_ok_iff.mpr (by simpa using hne)
  rw [Select.check, hnonempty, hlist]
  rfl

namespace Twins

theorem validate_eq (dotless : schema.HasDotlessNames) (h : Twins schema q r) :
    q.validate = r.validate := by
  rw [Select.validate, Select.validate, check_eq_of_items h.starred.ne_nil (h.starred.check_items dotless),
    check_eq_of_items h.explicit.ne_nil (h.explicit.check_items dotless), h.source, h.filter,
    h.groupBy, h.orderBy]

theorem resolve_length_eq (h : Twins schema q r) :
    (resolve schema q).length = (resolve schema r).length :=
  ((List.perm_ext_iff_of_nodup (resolve_nodup schema q) (resolve_nodup schema r)).mpr
    h.resolved).length_eq

/-- Tests and keys may change in both alike. -/
theorem reframe (h : Twins schema q r) {q' r' : Select} (hitems : q'.items = q.items)
    (hitems' : r'.items = r.items) (hsource : q'.source = q.source)
    (hsource' : r'.source = r.source) (hfilter : q'.filter = r'.filter)
    (hgroup : q'.groupBy = r'.groupBy) (horder : q'.orderBy = r'.orderBy) :
    Twins schema q' r' where
  resolved := by
    have hresolve : ∀ {a b : Select}, a.items = b.items → a.source = b.source →
        resolve schema a = resolve schema b := by
      intro a b hitems hsource
      rw [resolve, resolve, Select.tables, Select.tables, hitems, hsource]
    rw [hresolve hitems hsource, hresolve hitems' hsource']
    exact h.resolved
  source := by rw [hsource, hsource', h.source]
  filter := hfilter
  groupBy := hgroup
  orderBy := horder
  starred := h.starred.of_items_eq hitems
  explicit := h.explicit.of_items_eq hitems'
  wildcard := by
    rw [hitems, hitems']
    exact h.wildcard

/-! Filters and order -/

theorem removeTest (dotless : schema.HasDotlessNames) (h : Twins schema q r)
    (op : FilterOperator) :
    SameOutcome (Twins schema) (q.removeTest column op) (r.removeTest column op) := by
  refine (SameOutcome.of_eq (h.validate_eq dotless)).bind fun _ _ _ => .ok ?_
  exact h.reframe rfl rfl rfl rfl (by rw [h.filter]) h.groupBy h.orderBy

theorem appendTest (dotless : schema.HasDotlessNames) (h : Twins schema q r) (t : Test) :
    SameOutcome (Twins schema) (q.appendTest t) (r.appendTest t) := by
  refine (SameOutcome.of_eq (h.validate_eq dotless)).bind fun _ _ _ => .ok ?_
  exact h.reframe rfl rfl rfl rfl (by rw [h.filter]) h.groupBy h.orderBy

theorem filterLiteral_eq (h : Twins schema q r) (op : FilterOperator) (text : String) :
    filterLiteral schema options q column op text =
      filterLiteral schema { options with compressStars := false } r column op text := by
  cases op with
  | like => rfl
  | compare op => rw [filterLiteral, filterLiteral, columnType?, columnType?, h.tables_eq]

theorem setFilter (dotless : schema.HasDotlessNames) (h : Twins schema q r) :
    SameOutcome (Twins schema) (Edit.setFilter schema options q column operator value)
      (Edit.setFilter schema { options with compressStars := false } r column operator value) := by
  refine (SameOutcome.of_eq (h.validate_eq dotless)).bind fun _ _ _ => ?_
  refine (SameOutcome.of_eq rfl).bind ?_
  rintro op _ rfl
  refine (h.removeTest dotless op).bind fun q r hcleared => ?_
  dsimp only
  split
  · exact .ok hcleared
  · refine (SameOutcome.of_eq (h.filterLiteral_eq op _)).bind ?_
    rintro literal _ rfl
    exact hcleared.appendTest dotless _

theorem removeOrder (dotless : schema.HasDotlessNames) (h : Twins schema q r) :
    SameOutcome (Twins schema) (Edit.removeOrder q text) (Edit.removeOrder r text) := by
  refine (SameOutcome.of_eq (h.validate_eq dotless)).bind fun _ _ _ => .ok ?_
  exact h.reframe rfl rfl rfl rfl h.filter h.groupBy (by rw [h.orderBy])

theorem isAvailable_eq (h : Twins schema q r) :
    isAvailable schema q text = isAvailable schema r text := by
  have hresolved : (resolve schema q).contains (projectedName text) =
      (resolve schema r).contains (projectedName text) := by
    rw [Bool.eq_iff_iff, List.contains_iff_mem, List.contains_iff_mem]
    exact h.resolved _
  rw [isAvailable, isAvailable, h.tables_eq, hresolved]

theorem orderedBy (dotless : schema.HasDotlessNames) (h : Twins schema q r)
    (ascending : Option Bool) :
    SameOutcome (Twins schema) (Edit.orderBy schema q text ascending)
      (Edit.orderBy schema r text ascending) := by
  refine (h.removeOrder dotless).bind fun q' r' hordered => ?_
  rw [h.isAvailable_eq]
  split
  · refine .ok (hordered.reframe rfl rfl rfl rfl hordered.filter hordered.groupBy ?_)
    rw [hordered.orderBy]
  · exact .error _

theorem clearFilters (h : Twins schema q r) :
    Twins schema (Edit.clearFilters q) (Edit.clearFilters r) :=
  h.reframe rfl rfl rfl rfl rfl h.groupBy h.orderBy

theorem clearOrder (h : Twins schema q r) :
    Twins schema (Edit.clearOrder q) (Edit.clearOrder r) :=
  h.reframe rfl rfl rfl rfl h.filter h.groupBy rfl

end Twins

/-! Added columns -/

/-- A valid query is extended by any column of the catalog. -/
theorem extendQuery_eq (plain : schema.IsPlain) (options : Options) (valid : q.validate = .ok ())
    (hcolumn : checkColumn schema table column = .ok ()) :
    extendQuery schema options q table column = .ok (joining
      (if needsItem schema q column then projecting schema options q table column else q) table) := by
  have hjoin : ∀ {projected : Select}, projected.source = q.source →
      projected.validate = .ok () →
      (if q.tables.contains table then pure projected else projected.addNaturalJoin table) =
        Except.ok (joining projected table) := by
    intro projected hsource hvalid
    rw [joining, Select.tables, Select.tables, hsource]
    split
    · rfl
    · rw [Select.addNaturalJoin_eq hvalid, Select.replaceSource, hsource]
  have hprojecting : (projecting schema options q table column).validate = .ok () := by
    rw [validate_projecting_iff plain.hasDotlessNames valid hcolumn]
    exact fun hnothing => plain.columnNames_ne_nil hcolumn hnothing.2.2
  refine bind_eq_ok_iff.mpr ⟨(), valid, ?_⟩
  by_cases hneeds : needsItem schema q column = true
  · rw [if_pos hneeds]
    rw [needsItem] at hneeds
    dsimp only
    rw [if_pos hneeds, projectColumn_eq valid]
    exact hjoin rfl hprojecting
  · rw [if_neg hneeds]
    rw [needsItem] at hneeds
    dsimp only
    rw [if_neg hneeds]
    exact hjoin rfl valid

/-- The star of the first query stands for more once a table is joined, and the second query has
none. -/
def SpillsApart (schema : Schema) (q r : Select) (table column : String) : Prop :=
  SpillsColumns schema q table column ∧ ColumnRef.identifier "*" ∉ r.items

namespace Twins

theorem needsItem_eq (h : Twins schema q r) : needsItem schema q column = needsItem schema r column := by
  have hresolved : (resolve schema q).contains column = (resolve schema r).contains column := by
    rw [Bool.eq_iff_iff, List.contains_iff_mem, List.contains_iff_mem]
    exact h.resolved column
  rw [needsItem, needsItem, hresolved]

theorem mem_resolve_extended (plain : schema.IsPlain) (h : Twins schema q r)
    (hcolumn : checkColumn schema table column = .ok ()) {options' : Options} {q' r' : Select}
    (hq : Edit.extendQuery schema options q table column = .ok q')
    (hr : Edit.extendQuery schema options' r table column = .ok r')
    (together : ¬ SpillsApart schema q r table column) (x : String) :
    x ∈ resolve schema q' ↔ x ∈ resolve schema r' := by
  cases hneeds : needsItem schema q column with
  | true =>
      rw [mem_resolve_of_needsItem plain.columns hcolumn hq hneeds,
        mem_resolve_of_needsItem plain.columns hcolumn hr (h.needsItem_eq ▸ hneeds), h.resolved]
  | false =>
      rw [mem_resolve_of_not_needsItem hq hneeds,
        mem_resolve_of_not_needsItem hr (h.needsItem_eq ▸ hneeds), ← h.resolved]
      constructor
      · rintro (hx | ⟨hstar, hname⟩)
        · exact .inl hx
        · by_cases hstar' : ColumnRef.identifier "*" ∈ r.items
          · exact .inr ⟨hstar', hname⟩
          · have hspills : ¬ SpillsColumns schema q table column :=
              fun hspills => together ⟨hspills, hstar'⟩
            exact .inl (mem_resolve_of_not_spills hspills hneeds hstar hname)
      · rintro (hx | ⟨hstar, hname⟩)
        · exact .inl hx
        · exact .inr ⟨h.wildcard hstar, hname⟩

theorem wildcard_extended (plain : schema.IsPlain) (h : Twins schema q r)
    (hcolumn : checkColumn schema table column = .ok ()) {q' r' : Select}
    (hq : Edit.extendQuery schema options q table column = .ok q')
    (hr : Edit.extendQuery schema { options with compressStars := false } r table column = .ok r')
    (hstar : ColumnRef.identifier "*" ∈ r'.items) : ColumnRef.identifier "*" ∈ q'.items := by
  obtain ⟨-, rfl⟩ := extendQuery_eq_ok hq
  obtain ⟨-, rfl⟩ := extendQuery_eq_ok hr
  rw [h.needsItem_eq]
  rw [joining_items] at hstar ⊢
  cases hneeds : needsItem schema r column with
  | true =>
      rw [hneeds, if_pos rfl] at hstar
      have hlonger := h.explicit.longer plain hcolumn
      exact absurd hstar (wildcard_not_mem_rebuilt plain.columns hlonger.listed
        (hlonger.areColumns_resolve plain.columns) rfl)
  | false =>
      rw [hneeds] at hstar
      exact h.wildcard hstar

theorem extended (plain : schema.IsPlain) (h : Twins schema q r)
    (hcolumn : checkColumn schema table column = .ok ()) {q' r' : Select}
    (hq : Edit.extendQuery schema options q table column = .ok q')
    (hr : Edit.extendQuery schema { options with compressStars := false } r table column = .ok r')
    (together : ¬ SpillsApart schema q r table column) : Twins schema q' r' := by
  obtain ⟨hfilter, hgroup, horder⟩ := frame_extendQuery hq
  obtain ⟨hfilter', hgroup', horder'⟩ := frame_extendQuery hr
  refine { resolved := h.mem_resolve_extended plain hcolumn hq hr together
           source := ?_
           filter := by rw [hfilter, hfilter', h.filter]
           groupBy := by rw [hgroup, hgroup', h.groupBy]
           orderBy := by rw [horder, horder', h.orderBy]
           starred := h.starred.extendQuery plain hcolumn hq
           explicit := h.explicit.extendQuery plain hcolumn hr
           wildcard := h.wildcard_extended plain hcolumn hq hr }
  rw [source_extendQuery hq, source_extendQuery hr, h.tables_eq, h.source]

theorem extendQuery (plain : schema.IsPlain) (h : Twins schema q r)
    (hcolumn : checkColumn schema table column = .ok ())
    (together : q.validate = .ok () → ¬ SpillsApart schema q r table column) :
    SameOutcome (Twins schema) (Edit.extendQuery schema options q table column)
      (Edit.extendQuery schema { options with compressStars := false } r table column) := by
  refine SameOutcome.of_validate (h.validate_eq plain.hasDotlessNames) fun valid valid' => ?_
  have hq := extendQuery_eq plain options valid hcolumn
  have hr := extendQuery_eq plain { options with compressStars := false } valid' hcolumn
  have hextended := h.extended plain hcolumn hq hr (together valid)
  rw [← Edit.extendQuery, ← Edit.extendQuery, hq, hr]
  exact .ok hextended

end Twins

/-! Removed columns -/

/-- A `FROM` tree without some tables, if all of them can be taken out. -/
def removedSource (source : Source) (stale : List String) : Except Error Source :=
  let pruned := stale.foldl (fun source table => source.prune table) source
  let stuck := pruned.tableNames.eraseDups.filter (stale.contains ·)
  if stuck.isEmpty then .ok pruned else .error (.unsupportedEdit (.stuckTables stuck))

theorem removeTables_eq (valid : q.validate = .ok ()) (stale : List String) :
    removeTables q stale = (removedSource q.source stale).map q.replaceSource := by
  rw [removeTables, foldlM_removeNaturalJoin valid]
  dsimp only [removedSource, bind, Except.bind, Select.tables, Select.replaceSource]
  split
  · rfl
  · rfl

/-- The `FROM` tree of some tables, with the needed ones alone. -/
def prunedSource (d : Sql.Dialect) (source : Source) (tables needed : List String) :
    Except Error Source :=
  let stale := tables.filter (!needed.contains ·)
  if stale.isEmpty then .ok source
  else if 1 < stale.length && source.isNaturalChain then readChain d needed
  else removedSource source stale

theorem pruneTables_eq (valid : q.validate = .ok ()) {remaining : List String} :
    pruneTables schema options q remaining =
      (prunedSource options.dialect q.source q.tables (neededTables schema q remaining)).map
        q.replaceSource := by
  unfold pruneTables prunedSource
  dsimp only
  split
  · rw [Except.map, replaceSource_source]
  · rw [removeTables_eq valid]
    split
    · rfl
    · rfl

theorem unprojectColumn_of_nil (valid : q.validate = .ok ())
    (hnone : remaining schema q (projectedName text) = []) :
    unprojectColumn schema options q text =
      .error (.unsupportedEdit (.wouldBeEmpty (projectedName text))) := by
  rw [unprojectColumn, valid]
  dsimp only [bind, Except.bind]
  rw [if_pos (by simpa [remaining] using hnone)]
  rfl

/-- The `FROM` tree that a query reads without a column. -/
def sourceWithout (schema : Schema) (d : Sql.Dialect) (q : Select) (column : String) :
    Except Error Source :=
  prunedSource d q.source q.tables
    (neededTables schema (withoutColumn q column) (remaining schema q column))

/-- Whether a column can be removed is up to the `FROM` tree. -/
theorem unprojectColumn_cases (options : Options) (valid : q.validate = .ok ())
    (hmore : remaining schema q (projectedName text) ≠ []) :
    (∃ e, sourceWithout schema options.dialect q (projectedName text) = .error e ∧
      unprojectColumn schema options q text = .error e) ∨
    ∃ edited, sourceWithout schema options.dialect q (projectedName text) = .ok edited.source ∧
      unprojectColumn schema options q text = .ok edited := by
  have hpruned : pruneTables schema options (withoutColumn q (projectedName text))
      (remaining schema q (projectedName text)) =
        (sourceWithout schema options.dialect q (projectedName text)).map
          (withoutColumn q (projectedName text)).replaceSource :=
    pruneTables_eq (validate_withoutColumn valid)
  cases hsource : sourceWithout schema options.dialect q (projectedName text) with
  | error e =>
      rw [hsource] at hpruned
      refine .inl ⟨e, rfl, ?_⟩
      rw [unprojectColumn_eq valid hmore, hpruned]
      rfl
  | ok source =>
      rw [hsource] at hpruned
      exact .inr ⟨_, rfl, unprojectColumn_of_pruned valid hmore hpruned⟩

/-- No item has arguments, so that items refer to nothing but what they stand for. -/
theorem IsListedQuery.mem_references_iff (h : IsListedQuery schema q) {x : String} :
    x ∈ references q columns ↔
      x ∈ columns ∨ x ∈ q.tests.map (projectedName ·.column) ∨
        x ∈ (keys q).filterMap ColumnRef.resolvedName ∨
          ∃ key ∈ keys q, x ∈ key.argumentColumns := by
  have hno : ¬ ∃ item ∈ q.items, item.rendering ∈ columns ∧ x ∈ item.argumentColumns := by
    rintro ⟨item, hitem, -, hx⟩
    rw [(h.listed item hitem).argumentColumns_eq] at hx
    cases hx
  rw [mem_references]
  simp only [hno, false_or]

namespace Twins

theorem mem_remaining_iff (h : Twins schema q r) (column x : String) :
    x ∈ remaining schema q column ↔ x ∈ remaining schema r column := by
  rw [mem_remaining, mem_remaining, h.resolved]

theorem neededTables_eq (h : Twins schema q r) (column : String) :
    neededTables schema (withoutColumn q column) (remaining schema q column) =
      neededTables schema (withoutColumn r column) (remaining schema r column) := by
  have hkeys : keys (withoutColumn q column) = keys (withoutColumn r column) := by
    simp only [keys, withoutColumn, Select.pruneTests, h.groupBy, h.orderBy]
  have htests : (withoutColumn q column).tests = (withoutColumn r column).tests := by
    simp only [Select.tests, withoutColumn, Select.pruneTests, h.filter]
  have hreferences : ∀ x,
      x ∈ references (withoutColumn q column) (remaining schema q column) ↔
        x ∈ references (withoutColumn r column) (remaining schema r column) := by
    intro x
    have hstarred : IsListedQuery schema (withoutColumn q column) := h.starred.of_items_eq rfl
    have hexplicit : IsListedQuery schema (withoutColumn r column) := h.explicit.of_items_eq rfl
    rw [hstarred.mem_references_iff, hexplicit.mem_references_iff, htests, hkeys,
      h.mem_remaining_iff]
  have htables : (withoutColumn q column).tables = (withoutColumn r column).tables := h.tables_eq
  rw [neededTables, neededTables, htables, tablesForWithin_congr hreferences]

theorem unprojected (plain : schema.HasPlainColumns) (h : Twins schema q r) {q' r' : Select}
    (hq : Edit.unprojectColumn schema options q text = .ok q')
    (hr : Edit.unprojectColumn schema { options with compressStars := false } r text = .ok r')
    (hsource : q'.source = r'.source) : Twins schema q' r' := by
  have hitems : ColumnRef.identifier "*" ∉ r'.items := by
    obtain ⟨pruned, -, rfl⟩ := unprojectColumn_eq_ok hr
    exact wildcard_not_mem_rebuilt plain h.explicit.listed
      (h.explicit.areColumns_remaining plain _) rfl
  have hframe := eq_of_unprojectColumn hq
  have hframe' := eq_of_unprojectColumn hr
  exact {
    resolved := fun x => by
      rw [mem_resolve_unprojectColumn plain hq, mem_resolve_unprojectColumn plain hr, h.resolved]
    source := hsource
    filter := by
      rw [hframe, hframe']
      simp only [withoutColumn, Select.pruneTests, h.filter]
    groupBy := by
      rw [hframe, hframe']
      simp only [withoutColumn, h.groupBy]
    orderBy := by
      rw [hframe, hframe']
      simp only [withoutColumn, h.orderBy]
    starred := h.starred.unprojectColumn plain hq
    explicit := h.explicit.unprojectColumn plain hr
    wildcard := fun hstar => absurd hstar hitems }

theorem sourceWithout_eq (h : Twins schema q r) (d : Sql.Dialect) (column : String) :
    sourceWithout schema d q column = sourceWithout schema d r column := by
  rw [sourceWithout, sourceWithout, h.source, h.tables_eq, h.neededTables_eq]

theorem remaining_eq_nil_iff (h : Twins schema q r) (column : String) :
    remaining schema q column = [] ↔ remaining schema r column = [] := by
  rw [List.eq_nil_iff_forall_not_mem, List.eq_nil_iff_forall_not_mem]
  simp only [h.mem_remaining_iff]

theorem unprojectColumn (plain : schema.IsPlain) (h : Twins schema q r) (text : String) :
    SameOutcome (Twins schema) (Edit.unprojectColumn schema options q text)
      (Edit.unprojectColumn schema { options with compressStars := false } r text) := by
  refine SameOutcome.of_validate (h.validate_eq plain.hasDotlessNames) fun valid valid' => ?_
  rw [← Edit.unprojectColumn, ← Edit.unprojectColumn]
  have hsame := h.sourceWithout_eq options.dialect (projectedName text)
  by_cases hnone : remaining schema q (projectedName text) = []
  · have hnone' := (h.remaining_eq_nil_iff _).mp hnone
    rw [unprojectColumn_of_nil valid hnone, unprojectColumn_of_nil valid' hnone']
    exact .error _
  · have hmore' := mt (h.remaining_eq_nil_iff _).mpr hnone
    rcases unprojectColumn_cases options valid hnone with
      ⟨e, hsource, hq⟩ | ⟨q', hsource, hq⟩ <;>
    rcases unprojectColumn_cases { options with compressStars := false } valid' hmore' with
      ⟨e', hsource', hr⟩ | ⟨r', hsource', hr⟩ <;>
    rw [hsame, hsource'] at hsource
    · cases hsource
      rw [hq, hr]
      exact .error e
    · cases hsource
    · cases hsource
    · rw [hq, hr]
      exact .ok (h.unprojected plain.columns hq hr (Except.ok.inj hsource).symm)

theorem removeColumn (plain : schema.IsPlain) (h : Twins schema q r) (text : String) :
    SameOutcome (Option.Rel (Twins schema)) (Edit.removeColumn schema options q text)
      (Edit.removeColumn schema { options with compressStars := false } r text) := by
  refine (SameOutcome.of_eq (h.validate_eq plain.hasDotlessNames)).bind fun _ _ _ => ?_
  have hresolved : (resolve schema q).contains (projectedName text) =
      (resolve schema r).contains (projectedName text) := by
    rw [Bool.eq_iff_iff, List.contains_iff_mem, List.contains_iff_mem]
    exact h.resolved _
  dsimp only
  rw [hresolved, h.resolve_length_eq]
  split
  · exact .ok (.some h)
  · split
    · exact .ok .none
    · exact (h.unprojectColumn plain _).bind fun _ _ hedited => .ok (.some hedited)

end Twins

/-! Sessions -/

namespace Session

variable {s t : Session} {g : Gesture} {gestures before : List Gesture}

/-- Sessions of the same gestures, the second of which writes no stars. -/
structure InStep (s t : Session) : Prop where
  schema : t.schema = s.schema
  options : t.options = { s.options with compressStars := false }
  queries : Option.Rel (Twins s.schema) s.query t.query

/-- A gesture that both sessions carry out adds a column that both project already, and with it
a table whose other columns only the first session then projects. -/
def Splits (s t : Session) (g : Gesture) : Prop :=
  ∃ qualified table column q r, g = .addColumn qualified ∧
    splitQualified qualified = .ok (table, column) ∧ s.errorOf g = none ∧
    s.query = some q ∧ t.query = some r ∧ SpillsApart s.schema q r table column

theorem twins_startQuery {schema : Schema} {table column : String}
    (h : checkColumn schema table column = .ok ()) :
    Twins schema (startQuery table column) (startQuery table column) :=
  ⟨⟨fun _ => Iff.rfl, rfl, rfl, rfl, rfl⟩, .startQuery h, .startQuery h, id⟩

theorem InStep.agree (h : InStep s t) : Option.Rel (AgreesWith s.schema) s.query t.query := by
  have hqueries := h.queries
  generalize s.query = query at hqueries ⊢
  generalize t.query = query' at hqueries ⊢
  cases hqueries with
  | none => exact .none
  | some htwins => exact .some htwins.toAgreesWith

theorem InStep.current (h : InStep s t) :
    SameOutcome (Twins s.schema) s.current t.current := by
  have hqueries := h.queries
  unfold Session.current
  generalize s.query = query at hqueries ⊢
  generalize t.query = query' at hqueries ⊢
  cases hqueries with
  | none => exact .error _
  | some htwins => exact .ok htwins

theorem InStep.map (h : InStep s t) {f : Select → Select}
    (hf : ∀ q r, Twins s.schema q r → Twins s.schema (f q) (f r)) :
    Option.Rel (Twins s.schema) (s.query.map f) (t.query.map f) := by
  have hqueries := h.queries
  generalize s.query = query at hqueries ⊢
  generalize t.query = query' at hqueries ⊢
  cases hqueries with
  | none => exact .none
  | some htwins => exact .some (hf _ _ htwins)

theorem InStep.addColumn (plain : s.schema.IsPlain) (h : InStep s t) {table column : String}
    (together : ∀ q r, s.query = some q → t.query = some r →
      checkColumn s.schema table column = .ok () → q.validate = .ok () →
        ¬ SpillsApart s.schema q r table column) :
    SameOutcome (Twins s.schema) (Edit.addColumn s.schema s.options s.query table column)
      (Edit.addColumn t.schema t.options t.query table column) := by
  have hqueries := h.queries
  rw [h.schema, h.options]
  refine SameOutcome.bind_same fun _ hcolumn => ?_
  cases hs : s.query <;> cases ht : t.query <;> rw [hs, ht] at hqueries <;> cases hqueries
  · exact .ok (twins_startQuery hcolumn)
  · rename_i q r htwins
    exact htwins.extendQuery plain hcolumn (together q r hs ht hcolumn)

/-- Unless it splits the sessions, a gesture fails in both alike, or gives twins again. -/
theorem InStep.sameOutcome (plain : s.schema.IsPlain) (h : InStep s t) (hloads : ∀ text, g ≠ .load text)
    (together : ¬ Splits s t g) :
    SameOutcome (Option.Rel (Twins s.schema)) (s.edited g) (t.edited g) := by
  have dotless := plain.hasDotlessNames
  cases g with
  | load text => exact absurd rfl (hloads text)
  | addColumn qualified =>
      refine SameOutcome.bind_same ?_
      rintro ⟨table, column⟩ hname
      refine (h.addColumn plain ?_).bind fun _ _ hedited => .ok (.some hedited)
      intro q r hs ht hcolumn valid hspills
      refine together ⟨qualified, table, column, q, r, rfl, hname, ?_, hs, ht, hspills⟩
      obtain ⟨edited, hadd⟩ : ∃ edited,
          Edit.addColumn s.schema s.options s.query table column = .ok edited := by
        rw [hs]
        exact ⟨_, bind_eq_ok_iff.mpr
          ⟨(), hcolumn, extendQuery_eq plain s.options valid hcolumn⟩⟩
      exact errorOf_of_ok
        (bind_eq_ok_iff.mpr ⟨_, hname, bind_eq_ok_iff.mpr ⟨_, hadd, rfl⟩⟩)
  | removeColumn column =>
      refine h.current.bind fun q r htwins => ?_
      rw [h.schema, h.options]
      exact htwins.removeColumn plain column
  | setFilter column operator value =>
      refine h.current.bind fun q r htwins => ?_
      rw [h.schema, h.options]
      exact (htwins.setFilter dotless).bind fun _ _ hedited => .ok (.some hedited)
  | orderBy column ascending =>
      refine h.current.bind fun q r htwins => ?_
      rw [h.schema]
      exact (htwins.orderedBy dotless ascending).bind fun _ _ hedited => .ok (.some hedited)
  | removeOrder column =>
      refine h.current.bind fun q r htwins => ?_
      exact (htwins.removeOrder dotless).bind fun _ _ hedited => .ok (.some hedited)
  | clearFilters => exact .ok (h.map fun _ _ => Twins.clearFilters)
  | clearOrder => exact .ok (h.map fun _ _ => Twins.clearOrder)
  | clear => exact .ok .none

theorem InStep.errorOf_eq (h : SameOutcome (Option.Rel (Twins s.schema)) (s.edited g) (t.edited g)) :
    s.errorOf g = t.errorOf g := by
  unfold errorOf
  generalize s.edited g = x at h ⊢
  generalize t.edited g = y at h ⊢
  cases h with
  | ok h => rfl
  | error e => rfl

theorem InStep.perform (plain : s.schema.IsPlain) (h : InStep s t)
    (hloads : ∀ text, g ≠ .load text) (together : ¬ Splits s t g) :
    InStep (s.perform g) (t.perform g) := by
  refine ⟨h.schema, h.options, ?_⟩
  have houtcome := h.sameOutcome plain hloads together
  have hqueries := h.queries
  rw [perform_schema]
  unfold Session.perform queryAfter
  generalize s.edited g = x at houtcome ⊢
  generalize t.edited g = y at houtcome ⊢
  cases houtcome with
  | ok h => exact h
  | error e => exact hqueries

/-- The session after some gestures, with stars in place of all columns of a table or without. -/
def runWith (schema : Schema) (options : Options) (compressStars : Bool)
    (gestures : List Gesture) : Session :=
  (start schema { options with compressStars }).run gestures

variable {schema : Schema} {options : Options}

theorem inStep_runWith (plain : schema.IsPlain) (hloads : ∀ text, .load text ∉ gestures)
    (together : ∀ before g, before ++ [g] <+: gestures →
      ¬ Splits (runWith schema options true before) (runWith schema options false before) g)
    {before : List Gesture} (h : before <+: gestures) :
    InStep (runWith schema options true before) (runWith schema options false before) := by
  induction before using List.reverseRecOn with
  | nil => exact ⟨rfl, rfl, .none⟩
  | append_singleton before g ih =>
      have hstep := ih ((List.prefix_append before [g]).trans h)
      have hmem : g ∈ gestures := h.subset (by simp)
      rw [runWith, runWith, run_concat, run_concat]
      refine hstep.perform ?_ ?_ (together before g h)
      · rwa [runWith, run_schema]
      · rintro text rfl
        exact hloads text hmem

/-- A column that is added to a query extends it, unless the gesture fails. -/
theorem exists_extended {qualified table column : String} {q : Select}
    (hname : splitQualified qualified = .ok (table, column)) (hquery : s.query = some q)
    (hok : s.errorOf (.addColumn qualified) = none) :
    ∃ edited, extendQuery s.schema s.options q table column = .ok edited ∧
      (s.perform (.addColumn qualified)).query = some edited := by
  cases hedited : s.edited (.addColumn qualified) with
  | error e =>
      rw [errorOf_of_error hedited] at hok
      cases hok
  | ok query =>
      rw [query_perform_of_ok hedited]
      cases edits_of_edited hedited with
      | start _ hnone _ =>
          rw [hquery] at hnone
          cases hnone
      | extend hname' hquery' _ hextend =>
          rw [hname] at hname'
          rw [hquery] at hquery'
          cases hname'
          cases hquery'
          exact ⟨_, hextend, rfl⟩

/-- Sessions that a gesture splits do not project the same columns any more. -/
theorem Splits.not_agree (h : Splits s t g)
    (hagree : Option.Rel (AgreesWith s.schema) s.query t.query) (hschema : t.schema = s.schema)
    (herror : s.errorOf g = t.errorOf g) :
    ¬ Option.Rel (AgreesWith s.schema) (s.perform g).query (t.perform g).query := by
  obtain ⟨qualified, table, column, q, r, rfl, hname, hok, hs, ht, hspills, hstar⟩ := h
  obtain ⟨q', hq, hs'⟩ := exists_extended hname hs hok
  obtain ⟨r', hr, ht'⟩ := exists_extended hname ht (herror ▸ hok)
  rw [hs, ht] at hagree
  rw [hs', ht']
  rw [hschema] at hr
  obtain ⟨hwild, hprojected⟩ := hspills.1
  obtain ⟨x, hx, hnew⟩ := hspills.2.2.2
  cases hagree with
  | some hagree =>
      rintro ⟨hagree'⟩
      have hgained : x ∈ resolve s.schema q' :=
        (mem_resolve_of_not_needsItem hq (needsItem_eq_false_iff.mpr hspills.1)).mpr
          (.inr ⟨hspills.2.2.1, hx⟩)
      have hneeds : needsItem s.schema r column = false :=
        needsItem_eq_false_iff.mpr ⟨hwild, (hagree.resolved column).mp hprojected⟩
      rcases (mem_resolve_of_not_needsItem hr hneeds).mp ((hagree'.resolved x).mp hgained) with
        hold | ⟨hstar', -⟩
      · exact hnew ((hagree.resolved x).mpr hold)
      · exact hstar hstar'

/-- Whether stars are written or not, the same gestures fail, and lead to the same columns, tables,
tests and keys, exactly as long as no star spills in one session alone. -/
theorem runs_agree_iff (plain : schema.IsPlain) (hloads : ∀ text, .load text ∉ gestures) :
    (∀ before, before <+: gestures →
      Option.Rel (AgreesWith schema) (runWith schema options true before).query
          (runWith schema options false before).query ∧
        ∀ g, before ++ [g] <+: gestures →
          (runWith schema options true before).errorOf g =
            (runWith schema options false before).errorOf g) ↔
    ∀ before g, before ++ [g] <+: gestures →
      ¬ Splits (runWith schema options true before) (runWith schema options false before) g := by
  have hschema : ∀ stars before, (runWith schema options stars before).schema = schema :=
    fun stars before => run_schema
  constructor
  · intro hagree before g hprefix hsplits
    obtain ⟨hbefore, herrors⟩ := hagree before ((List.prefix_append before [g]).trans hprefix)
    have hafter := (hagree _ hprefix).1
    rw [runWith, runWith, run_concat, run_concat] at hafter
    refine hsplits.not_agree ?_ ?_ (herrors g hprefix) ?_
    · rwa [hschema]
    · rw [hschema, hschema]
    · rwa [hschema]
  · intro together before hprefix
    have hstep := inStep_runWith plain hloads together hprefix
    have hqueries := hstep.agree
    rw [hschema] at hqueries
    refine ⟨hqueries, ?_⟩
    intro g hnext
    have hmem : g ∈ gestures := hnext.subset (by simp)
    refine InStep.errorOf_eq (hstep.sameOutcome ?_ ?_ (together before g hnext))
    · rwa [hschema]
    · rintro text rfl
      exact hloads text hmem

/-- All columns of the flights, one by one. -/
def flightGestures : List Gesture :=
  [.addColumn "flights.id", .addColumn "flights.carrier_id"]

theorem runs_agree_iff_flights :
    ∃ q r, (runWith .flights .default true flightGestures).query = some q ∧
      (runWith .flights .default false flightGestures).query = some r ∧
      q.items = [.identifier "*"] ∧ r.items = [.identifier "id", .identifier "carrier_id"] ∧
      ∀ x, x ∈ resolve .flights q ↔ x ∈ resolve .flights r := by
  have together : ∀ before g, before ++ [g] <+: flightGestures →
      ¬ Splits (runWith .flights .default true before) (runWith .flights .default false before)
        g := by
    rintro before g ⟨rest, heq⟩ ⟨_, _, _, q, _, -, -, -, hs, -, ⟨-, -, hstar, -⟩, -⟩
    rcases before with _ | ⟨first, _ | ⟨second, before⟩⟩
    · cases hs
    · obtain rfl : first = .addColumn "flights.id" := (List.cons.inj heq).1
      have hitems : (runWith .flights .default true [.addColumn "flights.id"]).query.map
          Select.items = some [.identifier "id"] := by
        decide +kernel
      rw [hs] at hitems
      rw [Option.some.inj hitems] at hstar
      simp at hstar
    · simp [flightGestures] at heq
  have hloads : ∀ text, .load text ∉ flightGestures := by simp [flightGestures]
  have hagree := ((runs_agree_iff (by decide) hloads).mpr together _ (List.prefix_refl _)).1
  have hstarred : (runWith .flights .default true flightGestures).query.map Select.items =
      some [.identifier "*"] := by
    decide +kernel
  have hexplicit : (runWith .flights .default false flightGestures).query.map Select.items =
      some [.identifier "id", .identifier "carrier_id"] := by
    decide +kernel
  obtain ⟨q, hq, hitems⟩ := Option.map_eq_some_iff.mp hstarred
  obtain ⟨r, hr, hitems'⟩ := Option.map_eq_some_iff.mp hexplicit
  rw [hq, hr] at hagree
  cases hagree with
  | some hagree => exact ⟨q, r, hq, hr, hitems, hitems', hagree.resolved⟩

/-- The carrier is added once more, as a column of the carriers. -/
def carrierAgain : List Gesture :=
  flightGestures ++ [.addColumn "carriers.carrier_id"]

/-- With stars, the names of the carriers come along. -/
theorem runs_disagree_carrier_again :
    Schema.flights.IsPlain ∧ (∀ text, .load text ∉ carrierAgain) ∧
      (runWith .flights .default true carrierAgain).columns = ["id", "carrier_id", "name"] ∧
      (runWith .flights .default false carrierAgain).columns = ["id", "carrier_id"] :=
  ⟨by decide, by simp [carrierAgain, flightGestures], by decide +kernel, by decide +kernel⟩

end Session

end SelectTree.Edit
