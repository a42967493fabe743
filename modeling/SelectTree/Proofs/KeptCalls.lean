import SelectTree.Proofs.AddedColumns
import SelectTree.Proofs.RemovedColumns
import SelectTree.Proofs.SortKeys

namespace SelectTree

/-! Calls in projections that are written anew. A call goes through the edit as its rendering and
comes out as the call that it was, at its place among the calls. -/

/-! First elements -/

section First

variable {α β : Type} [BEq β] {key : α → β} {x : α} {xs : List α}

/-- The elements whose key none of those before them has. -/
def firstByKey (key : α → β) : List α → List α
  | [] => []
  | x :: xs => x :: (firstByKey key xs).filter (!key · == key x)

theorem map_firstByKey [LawfulBEq β] (key : α → β) (xs : List α) :
    (firstByKey key xs).map key = (xs.map key).eraseDups := by
  induction xs with
  | nil => rfl
  | cons x xs ih =>
      have hrest : ((firstByKey key xs).filter (!key · == key x)).map key =
          ((firstByKey key xs).map key).filter (!· == key x) := by
        rw [List.filter_map]
        rfl
      rw [firstByKey, List.map_cons, hrest, ih, List.map_cons, List.eraseDups_cons,
        eraseDups_filter]

theorem mem_of_mem_firstByKey (h : x ∈ firstByKey key xs) : x ∈ xs := by
  induction xs with
  | nil => cases h
  | cons first xs ih =>
      rw [firstByKey, List.mem_cons, List.mem_filter] at h
      rcases h with rfl | ⟨h, -⟩
      · exact List.mem_cons_self
      · exact List.mem_cons_of_mem first (ih h)

/-- A search by key comes upon the first element that has it. -/
theorem find?_of_mem_firstByKey [LawfulBEq β] (h : x ∈ firstByKey key xs) :
    xs.find? (key · == key x) = some x := by
  induction xs with
  | nil => cases h
  | cons first xs ih =>
      rw [firstByKey, List.mem_cons, List.mem_filter, Bool.not_eq_true', beq_eq_false_iff_ne] at h
      rcases h with rfl | ⟨h, hne⟩
      · exact List.find?_cons_of_pos (beq_self_eq_true (key x))
      · rw [List.find?_cons_of_neg (by simpa using Ne.symm hne)]
        exact ih h

end First

/-! Texts without parentheses -/

/-- No column of the catalog has an opening parenthesis in its name. -/
def Schema.HasNoParens (schema : Schema) : Prop :=
  ∀ table ∈ schema.tables, ∀ column ∈ table.columns, '(' ∉ column.name.toList

instance (schema : Schema) : Decidable schema.HasNoParens :=
  inferInstanceAs (Decidable (∀ table ∈ schema.tables, ∀ column ∈ table.columns,
    '(' ∉ column.name.toList))

/-- The name of a column is a part of the text that is read as the column. -/
theorem Target.mem_of_ofText {text name : String} {table : Option String} {c : Char}
    (h : Target.ofText text = .column table name) (hc : c ∈ name.toList) : c ∈ text.toList := by
  rcases Target.toList_of_ofText h with rfl | ⟨before, hlist⟩
  · exact hc
  · rw [hlist]
    exact List.mem_append_right _ (List.mem_cons_of_mem _ hc)

theorem ColumnRef.rendering_eq_projectedName_iff {c : ColumnRef} (h : c.isCall = true)
    (text : String) : c.rendering = projectedName text ↔ c.rendering = text := by
  by_cases hparen : '(' ∈ text.toList
  · rw [projectedName, if_pos hparen]
  · have hname : '(' ∉ (projectedName text).toList := by
      rw [projectedName, if_neg hparen]
      split
      · rename_i table name htarget
        exact mt (Target.mem_of_ofText htarget) hparen
      · exact hparen
    have hrendering := ColumnRef.paren_mem_rendering h
    exact iff_of_false (fun heq => hname (heq ▸ hrendering)) (fun heq => hparen (heq ▸ hrendering))

namespace Edit

variable {schema : Schema} {options : Options} {q edited : Select} {items : List ColumnRef}
  {columns tables : List String} {table column text : String}

theorem paren_not_mem_columnNames (parenless : schema.HasNoParens)
    (h : column ∈ schema.columnNames table) : '(' ∉ column.toList := by
  obtain ⟨found, hfound, -, listed, hlisted, rfl⟩ := exists_of_mem_columnNames h
  exact parenless found hfound listed hlisted

/-- Nothing that a plain item stands for has a parenthesis, unless the item is a text with one. -/
theorem paren_not_mem_expand (parenless : schema.HasNoParens) (htext : '(' ∉ text.toList)
    {x : String} (h : x ∈ expand schema tables (.identifier text)) : '(' ∉ x.toList := by
  rw [expand, ColumnRef.target_identifier] at h
  cases htarget : Target.ofText text with
  | wildcard =>
      rw [htarget] at h
      obtain ⟨table, -, hname⟩ := List.mem_flatMap.mp h
      exact paren_not_mem_columnNames parenless hname
  | tableWildcard table =>
      rw [htarget] at h
      exact paren_not_mem_columnNames parenless h
  | column table name =>
      rw [htarget] at h
      obtain rfl := List.mem_singleton.mp h
      exact mt (Target.mem_of_ofText htarget) htext

/-! Columns that become calls -/

/-- The calls among projection items, in their order. -/
def calls (items : List ColumnRef) : List ColumnRef :=
  items.filter ColumnRef.isCall

/-- A written column that becomes a call again. -/
def becomesCall (items : List ColumnRef) (column : String) : Bool :=
  (rebuildItem items column).isCall

theorem calls_rebuildItems (items : List ColumnRef) (columns : List String) :
    calls (rebuildItems items columns) =
      (columns.filter (becomesCall items)).map (rebuildItem items) := by
  rw [calls, rebuildItems_eq_map, List.filter_map]
  rfl

theorem becomesCall_eq_false (h : '(' ∉ column.toList) : becomesCall items column = false := by
  unfold becomesCall
  rcases rebuildItem_cases items column with ⟨heq, -⟩ | ⟨-, hcall, hrendering⟩
  · rw [heq]
    rfl
  · exact absurd (hrendering ▸ ColumnRef.paren_mem_rendering hcall) h

theorem becomesCall_of_isStar (h : isStar column = true) : becomesCall items column = false := by
  rw [becomesCall, rebuildItem_of_isStar h]
  rfl

theorem becomesCall_rendering {item : ColumnRef} (hitem : item ∈ items)
    (hcall : item.isCall = true) : becomesCall items item.rendering = true := by
  unfold becomesCall
  rcases rebuildItem_cases items item.rendering with ⟨-, hnone⟩ | ⟨-, hbecomes, -⟩
  · exact absurd rfl (hnone item hitem hcall)
  · exact hbecomes

/-- The first call with a rendering is the one that the rendering becomes. -/
theorem rebuildItem_of_mem_firstByKey {item : ColumnRef}
    (h : item ∈ firstByKey ColumnRef.rendering (calls items)) :
    rebuildItem items item.rendering = item := by
  have hfound := find?_of_mem_firstByKey h
  rw [calls, List.find?_filter] at hfound
  have hsame : (items.find? fun other => other.isCall && other.rendering = item.rendering) =
      some item := by
    simpa using hfound
  rw [rebuildItem, hsame, Option.getD_some]

/-- Renderings become the calls again that they are renderings of. -/
theorem map_rebuildItem_rendering {kept : List ColumnRef}
    (h : ∀ item ∈ kept, item ∈ firstByKey ColumnRef.rendering (calls items)) :
    (kept.map ColumnRef.rendering).map (rebuildItem items) = kept := by
  rw [List.map_map]
  refine Eq.trans (List.map_congr_left fun item hitem => ?_) (List.map_id kept)
  exact rebuildItem_of_mem_firstByKey (h item hitem)

/-! Resolved and written columns -/

/-- No item but a call stands for a text with a parenthesis. -/
def PlainBesideCalls (schema : Schema) (items : List ColumnRef) : Prop :=
  ∀ text, ColumnRef.identifier text ∈ items → ∀ tables,
    ∀ x ∈ expand schema tables (.identifier text), '(' ∉ x.toList

theorem filter_expand (plain : PlainBesideCalls schema items) {item : ColumnRef}
    (hitem : item ∈ items) :
    (expand schema tables item).filter (becomesCall items) =
      ([item].filter ColumnRef.isCall).map ColumnRef.rendering := by
  cases item with
  | call name args =>
      rw [expand_call rfl, List.filter_cons_of_pos (becomesCall_rendering hitem rfl)]
      rfl
  | identifier text =>
      refine List.filter_eq_nil_iff.mpr fun x hx => ?_
      rw [becomesCall_eq_false (plain text hitem tables x hx)]
      exact Bool.false_ne_true

/-- The calls of a query are resolved in their order, each rendering once. -/
theorem filter_resolve (plain : PlainBesideCalls schema q.items) :
    (resolve schema q).filter (becomesCall q.items) =
      (firstByKey ColumnRef.rendering (calls q.items)).map ColumnRef.rendering := by
  have hflat : ∀ items, (∀ item ∈ items, item ∈ q.items) →
      (items.flatMap (expand schema q.tables)).filter (becomesCall q.items) =
        (calls items).map ColumnRef.rendering := by
    intro items hsub
    induction items with
    | nil => rfl
    | cons item rest ih =>
        obtain ⟨hitem, hrest⟩ := List.forall_mem_cons.mp hsub
        rw [List.flatMap_cons, List.filter_append, filter_expand plain hitem, ih hrest,
          ← List.map_append, calls, calls, ← List.filter_append, List.singleton_append]
  rw [resolve, ← eraseDups_filter, hflat q.items fun _ h => h, map_firstByKey]

theorem filter_compressTable (parenless : schema.HasNoParens) (written : List String)
    (table : String) :
    (compressTable schema columns written table).filter (becomesCall items) =
      written.filter (becomesCall items) := by
  rw [compressTable_eq]
  split
  · rw [List.filter_cons_of_neg (by simp [becomesCall_of_isStar]), List.filter_filter]
    apply List.filter_congr
    intro x _
    by_cases hname : x ∈ schema.columnNames table
    · simp [becomesCall_eq_false (paren_not_mem_columnNames parenless hname)]
    · simp [hname]
  · rfl

theorem filter_foldl_compressTable (parenless : schema.HasNoParens) (tables written : List String) :
    (tables.foldl (compressTable schema columns) written).filter (becomesCall items) =
      written.filter (becomesCall items) := by
  induction tables generalizing written with
  | nil => rfl
  | cons table rest ih => rw [List.foldl_cons, ih, filter_compressTable parenless]

/-- Stars take no call along. -/
theorem filter_write (parenless : schema.HasNoParens) (options : Options)
    (columns tables : List String) :
    (write schema options columns tables).filter (becomesCall items) =
      columns.filter (becomesCall items) := by
  unfold write
  split
  · rw [← filter_foldl_compressTable parenless tables columns]
    rcases compress_eq_or schema columns tables with heq | ⟨heq, hall, -⟩
    · rw [heq]
    · have hnone : (tables.foldl (compressTable schema columns) columns).filter
          (becomesCall items) = [] := by
        rw [List.filter_eq_nil_iff]
        intro x hx
        rw [becomesCall_of_isStar (List.all_eq_true.mp hall x hx)]
        exact Bool.false_ne_true
      rw [heq, hnone, List.filter_cons_of_neg (by simp [becomesCall_eq_false])]
      rfl
  · rfl

/-! Edited projections -/

theorem plainBesideCalls_of_texts (parenless : schema.HasNoParens)
    (htexts : ∀ text, ColumnRef.identifier text ∈ items → '(' ∉ text.toList) :
    PlainBesideCalls schema items :=
  fun text hitem _ _ hx => paren_not_mem_expand parenless (htexts text hitem) hx

/-- A star may be one of a table with a parenthesis in its name. -/
theorem PlainBesideCalls.longer (plain : PlainBesideCalls schema q.items)
    (parenless : schema.HasNoParens) (hcolumn : '(' ∉ column.toList) :
    PlainBesideCalls schema (longer q table column).items := by
  intro text hitem tables x hx
  rcases List.mem_append.mp hitem with hitem | hnew
  · exact plain text hitem tables x hx
  · rw [List.mem_singleton] at hnew
    rw [hnew, newItem] at hx
    split at hx
    · rw [expand_star] at hx
      exact paren_not_mem_columnNames parenless hx
    · exact paren_not_mem_expand parenless hcolumn hx

theorem calls_projecting (parenless : schema.HasNoParens)
    (plain : PlainBesideCalls schema q.items) (hcolumn : '(' ∉ column.toList) :
    calls (projecting schema options q table column).items =
      firstByKey ColumnRef.rendering (calls q.items) := by
  have hcalls : calls (longer q table column).items = calls q.items := by
    simp [calls, longer, newItem, ColumnRef.isCall]
  rw [projecting, calls_rebuildItems, filter_write parenless,
    filter_resolve (plain.longer parenless hcolumn),
    map_rebuildItem_rendering fun _ hitem => hitem, hcalls]

theorem calls_unprojectColumn (parenless : schema.HasNoParens)
    (plain : PlainBesideCalls schema q.items)
    (h : unprojectColumn schema options q text = .ok edited) :
    calls edited.items =
      (firstByKey ColumnRef.rendering (calls q.items)).filter (·.rendering ≠ text) := by
  obtain ⟨pruned, -, rfl⟩ := unprojectColumn_eq_ok h
  have hremaining : (remaining schema q (projectedName text)).filter (becomesCall q.items) =
      ((firstByKey ColumnRef.rendering (calls q.items)).filter
        (·.rendering ≠ text)).map ColumnRef.rendering := by
    rw [remaining, List.filter_filter, funext fun x => Bool.and_comm (becomesCall q.items x) _,
      ← List.filter_filter, filter_resolve plain, List.filter_map]
    congr 1
    apply List.filter_congr
    intro item hitem
    have hcall := (List.mem_filter.mp (mem_of_mem_firstByKey hitem)).2
    simp [ColumnRef.rendering_eq_projectedName_iff hcall text]
  rw [calls_rebuildItems, filter_write parenless, hremaining,
    map_rebuildItem_rendering fun _ hitem => (List.mem_filter.mp hitem).1]

/-- Where no name and no plain item has a parenthesis, an added column changes nothing about the
calls of a projection but that each rendering is left once, and a removed one takes the call along
that is rendered like it, and no other. -/
theorem edits_keep_calls (parenless : schema.HasNoParens) (valid : q.validate = .ok ())
    (htexts : ∀ text, ColumnRef.identifier text ∈ q.items → '(' ∉ text.toList) :
    (∀ table column, '(' ∉ column.toList →
      ∃ edited, projectColumn schema options q table column = .ok edited ∧
        calls edited.items = firstByKey ColumnRef.rendering (calls q.items)) ∧
    ∀ text edited, unprojectColumn schema options q text = .ok edited →
      calls edited.items =
        (firstByKey ColumnRef.rendering (calls q.items)).filter (·.rendering ≠ text) := by
  have plain := plainBesideCalls_of_texts parenless htexts
  constructor
  · intro table column hcolumn
    exact ⟨_, projectColumn_eq valid, calls_projecting parenless plain hcolumn⟩
  · intro text edited h
    exact calls_unprojectColumn parenless plain h

/-- All about the flights, their number twice, and the longest name of a carrier. -/
def talliedFlights : Select :=
  .new [.call "count" [.identifier "id"], .identifier "*",
      .call "max" [.call "length" [.identifier "carriers.name"]],
      .call "count" [.identifier "id"]]
    (.naturalJoin (.bare "flights") (.bare "carriers"))

/-- The number is removed with all its copies; the call in a call stays what it is. -/
theorem edits_keep_calls_longest :
    (∃ edited, projectColumn .flights .default talliedFlights "carriers" "*" = .ok edited ∧
      calls edited.items = [.call "count" [.identifier "id"],
        .call "max" [.call "length" [.identifier "carriers.name"]]]) ∧
    ∃ edited, unprojectColumn .flights .default talliedFlights "count(id)" = .ok edited ∧
      calls edited.items = [.call "max" [.call "length" [.identifier "carriers.name"]]] := by
  have htexts : ∀ text, ColumnRef.identifier text ∈ talliedFlights.items → '(' ∉ text.toList := by
    simp [talliedFlights, Select.new]
  have h := @edits_keep_calls .flights .default talliedFlights (by decide) rfl htexts
  exact ⟨h.1 "carriers" "*" (by decide), _, rfl, h.2 "count(id)" _ rfl⟩

end Edit

end SelectTree
