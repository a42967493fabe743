import SelectTree.Proofs.FilledTexts

namespace SelectTree

open Sql

/-! Malformed trees: which texts are answered with a malformed tree. In a tree that a text was read
into, the names of calls and tables and the columns of tests have a text, but an argument of a call
is kept as it is written, whatever it is, and is yet checked as an identifier. -/

/-! Faults -/

/-- A check that finds these faults answers the first. -/
def firstFault : List Malformation → Check
  | [] => .ok ()
  | fault :: _ => .error fault

theorem firstFault_append (faults more : List Malformation) :
    firstFault (faults ++ more) = (do firstFault faults; firstFault more) := by
  cases faults <;> rfl

theorem firstFault_eq_error_iff {faults : List Malformation} {fault : Malformation} :
    firstFault faults = .error fault ↔ faults.head? = some fault := by
  cases faults <;> simp [firstFault]

theorem requires_eq_firstFault (condition : Bool) (fault : Malformation) :
    requires condition fault = firstFault (if condition then [] else [fault]) := by
  cases condition <;> rfl

mutual
/-- The identifiers with an empty part, from left to right. -/
def ColumnRef.faults : ColumnRef → List Malformation
  | .identifier text => if hasFullSegments text then [] else [.badIdentifier text]
  | .call _ args => ColumnRef.faultsList args

def ColumnRef.faultsList : List ColumnRef → List Malformation
  | [] => []
  | c :: cs => c.faults ++ ColumnRef.faultsList cs
end

mutual
def Source.faults : Source → List Malformation
  | .table _ _ => []
  | .join _ left right _ => left.faults ++ right.faults
  | .naturalJoin left right => left.faults ++ right.faults
  | .list items => Source.faultsList items
  | .nested inner => inner.faults
  | .derived query _ => query.faults

def Source.faultsList : List Source → List Malformation
  | [] => []
  | item :: rest => item.faults ++ Source.faultsList rest

/-- The empty projections and the identifiers with an empty part, derived tables included. -/
def Select.faults : Select → List Malformation
  | ⟨items, source, _, groupBy, orderBy⟩ =>
      (if items.isEmpty then [.emptyProjection] else []) ++ (ColumnRef.faultsList items ++
        (source.faults ++ (ColumnRef.faultsList groupBy ++
          ColumnRef.faultsList (orderBy.map OrderItem.column))))
end

/-! Checks that report these faults -/

/-- What the check of the column answers is the first of these faults, and never another one. -/
def ColumnRef.Reports (c : ColumnRef) : Prop :=
  c.check = firstFault c.faults

def Source.Reports (source : Source) : Prop :=
  source.check = firstFault source.faults

structure Select.Reports (q : Select) : Prop where
  items : ∀ c ∈ q.items, c.Reports
  source : q.source.Reports
  filter : ∀ p ∈ q.filter, p.check = .ok ()
  groupBy : ∀ c ∈ q.groupBy, c.Reports
  orderBy : ∀ key ∈ q.orderBy, key.column.Reports

theorem ColumnRef.checkList_eq {cs : List ColumnRef} (h : ∀ c ∈ cs, c.Reports) :
    checkList cs = firstFault (faultsList cs) := by
  induction cs with
  | nil => rfl
  | cons c cs ih =>
      obtain ⟨hc, hcs⟩ := List.forall_mem_cons.mp h
      rw [checkList, faultsList, firstFault_append, hc, ih hcs]

theorem ColumnRef.reports_identifier (text : String) : (identifier text).Reports := by
  rw [Reports, check, faults, requires_eq_firstFault]

theorem ColumnRef.reports_call {name : String} {args : List ColumnRef} (hname : name ≠ "")
    (hargs : ∀ c ∈ args, c.Reports) : (call name args).Reports := by
  have hnamed : requires (!name.isEmpty) .namelessCall = .ok () :=
    requires_eq_ok_iff.mpr (by simp [hname])
  rw [Reports, check, faults, ← checkList_eq hargs, hnamed]
  rfl

theorem Source.reports_both {left right : Source} (hleft : left.Reports) (hright : right.Reports) :
    (do left.check; right.check) = firstFault (left.faults ++ right.faults) := by
  rw [firstFault_append, hleft, hright]

theorem Source.checkList_eq {items : List Source} (h : ∀ item ∈ items, item.Reports) :
    checkList items = firstFault (faultsList items) := by
  induction items with
  | nil => rfl
  | cons item rest ih =>
      obtain ⟨hitem, hrest⟩ := List.forall_mem_cons.mp h
      rw [checkList, faultsList, firstFault_append, hitem, ih hrest]

theorem Source.reports_list {items : List Source} (hne : items ≠ [])
    (h : ∀ item ∈ items, item.Reports) : (list items).Reports := by
  have hfull : requires (!items.isEmpty) .emptySourceList = .ok () :=
    requires_eq_ok_iff.mpr (by simp [hne])
  rw [Reports, check, faults, ← checkList_eq h, hfull]
  rfl

theorem Select.Reports.check_eq {q : Select} (h : q.Reports) : q.check = firstFault q.faults := by
  obtain ⟨items, source, filter, groupBy, orderBy⟩ := q
  have hproject : requires (!items.isEmpty) .emptyProjection =
      firstFault (if items.isEmpty then [.emptyProjection] else []) := by
    cases items <;> rfl
  have hkeys : ColumnRef.checkList (orderBy.map OrderItem.column) =
      firstFault (ColumnRef.faultsList (orderBy.map OrderItem.column)) :=
    ColumnRef.checkList_eq (List.forall_mem_map.mpr h.orderBy)
  have hsource : source.check = firstFault source.faults := h.source
  simp only [check, faults, firstFault_append, ← ColumnRef.checkList_eq h.items, ← hsource,
    ← ColumnRef.checkList_eq h.groupBy, ← hkeys, ← hproject]
  cases filter with
  | none => rfl
  | some predicate => simp only [h.filter predicate rfl]; rfl

theorem Source.reports_derived {q : Select} (h : q.Reports) (asName : Option String) :
    (derived q asName).Reports := by
  rw [Reports, check, faults]
  exact h.check_eq

namespace Sql

/-! Columns and tests of filled queries -/

theorem forall_of_mapM_eq_ok {α β ε : Type} {f : α → Except ε β} {P : β → Prop} {as : List α}
    {bs : List β} (h : as.mapM f = .ok bs) (hf : ∀ a ∈ as, ∀ b, f a = .ok b → P b) :
    ∀ b ∈ bs, P b := by
  induction as generalizing bs with
  | nil =>
      cases h
      exact nofun
  | cons a as ih =>
      obtain ⟨ha, has⟩ := List.forall_mem_cons.mp hf
      rw [List.mapM_cons] at h
      obtain ⟨b, hb, h⟩ := bind_eq_ok_iff.mp h
      obtain ⟨more, hmore, h⟩ := bind_eq_ok_iff.mp h
      obtain rfl := Except.ok.inj h
      exact List.forall_mem_cons.mpr ⟨ha b hb, ih hmore has⟩

theorem Argument.reports_column {a : Argument} {c : ColumnRef} (h : a.column = .ok c) :
    c.Reports := by
  cases a with
  | plain sql =>
      obtain rfl := Except.ok.inj h
      exact ColumnRef.reports_identifier sql
  | named sql => cases h

theorem Call.reports_column {call : Call} {c : ColumnRef} (hfilled : Filled call)
    (h : call.column = .ok c) : c.Reports := by
  have hname : call.name ≠ "" := (filled_call.mp hfilled).pathSql_ne
  unfold Call.column at h
  split at h
  · cases h
  · split at h
    · obtain rfl := Except.ok.inj h
      exact ColumnRef.reports_call hname nofun
    · cases h
    · split at h
      · cases h
      · obtain ⟨args, hargs, rfl⟩ := map_eq_ok_iff.mp h
        exact ColumnRef.reports_call hname
          (forall_of_mapM_eq_ok hargs fun _ _ _ => Argument.reports_column)

theorem Expr.reports_columnRef {e : Expr} {c : ColumnRef} (hfilled : Filled e)
    (h : e.columnRef = .ok c) : c.Reports := by
  cases e with
  | column path =>
      obtain rfl := Except.ok.inj h
      exact ColumnRef.reports_identifier _
  | call call => exact Call.reports_column (filled_callExpr.mp hfilled) h
  | _ => cases h

theorem Item.reports_columnRef {item : Item} {c : ColumnRef} (hfilled : Filled item)
    (h : item.columnRef = .ok c) : c.Reports := by
  cases item with
  | expr e => exact Expr.reports_columnRef (filled_item.mp hfilled) h
  | wildcard table options =>
      obtain rfl := Except.ok.inj h
      exact ColumnRef.reports_identifier _
  | aliased e asName => cases h

theorem OrderKey.reports_item {key : OrderKey} {item : OrderItem} (hfilled : Filled key)
    (h : key.item = .ok item) : item.column.Reports := by
  obtain ⟨c, hc, rfl⟩ := map_eq_ok_iff.mp h
  exact Expr.reports_columnRef (filled_orderKey.mp hfilled) hc

theorem Grouping.reports_columns {grouping : Grouping} {cs : List ColumnRef}
    (hfilled : Filled grouping) (h : grouping.columns = .ok cs) : ∀ c ∈ cs, c.Reports := by
  unfold Grouping.columns at h
  split at h
  · exact forall_of_mapM_eq_ok h fun e he _ =>
      Expr.reports_columnRef (filled_list.mp (filled_keys.mp hfilled) e he)
  · cases h

theorem Expr.columnText_ne {e : Expr} {text : String} (hfilled : Filled e)
    (h : e.columnText = .ok text) : text ≠ "" := by
  induction e with
  | column path =>
      obtain rfl := Except.ok.inj h
      exact (filled_column.mp hfilled).pathSql_ne
  | nested inner ih => exact ih (filled_nested.mp hfilled) h
  | _ => cases h

theorem Expr.check_predicate {e : Expr} {p : Predicate} (hfilled : Filled e)
    (h : e.predicate = .ok p) : p.check = .ok () := by
  have htest {t : Test} (hcolumn : t.column ≠ "") : (Predicate.test t).check = .ok () :=
    requires_eq_ok_iff.mpr (by simp [hcolumn])
  induction e generalizing p with
  | nested inner ih => exact ih (filled_nested.mp hfilled) h
  | binary left op right ihLeft ihRight =>
      obtain ⟨hleft, hright⟩ := filled_binary.mp hfilled
      cases op with
      | and =>
          obtain ⟨l, hl, h⟩ := bind_eq_ok_iff.mp h
          obtain ⟨r, hr, h⟩ := bind_eq_ok_iff.mp h
          obtain rfl := Except.ok.inj h
          exact Check.both_iff.mpr ⟨ihLeft hleft hl, ihRight hright hr⟩
      | or =>
          obtain ⟨l, hl, h⟩ := bind_eq_ok_iff.mp h
          obtain ⟨r, hr, h⟩ := bind_eq_ok_iff.mp h
          obtain rfl := Except.ok.inj h
          exact Check.both_iff.mpr ⟨ihLeft hleft hl, ihRight hright hr⟩
      | compare op =>
          obtain ⟨text, htext, h⟩ := bind_eq_ok_iff.mp h
          obtain ⟨literal, -, h⟩ := bind_eq_ok_iff.mp h
          obtain rfl := Except.ok.inj h
          exact htest (left.columnText_ne hleft htext)
      | other sql => cases h
  | like subject pattern =>
      obtain ⟨text, htext, h⟩ := bind_eq_ok_iff.mp h
      obtain ⟨literal, -, h⟩ := bind_eq_ok_iff.mp h
      obtain rfl := Except.ok.inj h
      exact htest (subject.columnText_ne (filled_like.mp hfilled).1 htext)
  | _ => cases h

/-! Trees of filled queries -/

theorem Join.reports_combine {join : Join} {left right tree : Source} (hleft : left.Reports)
    (hright : right.Reports) (h : join.combine left right = .ok tree) : tree.Reports := by
  have hboth := Source.reports_both hleft hright
  unfold Join.combine at h
  split at h
  · cases h
  · split at h
    · split at h
      · obtain rfl := Except.ok.inj h
        exact hboth
      · cases h
    all_goals
      obtain rfl := Except.ok.inj h
      exact hboth

mutual
theorem Factor.reports_source : (f : Factor) → Filled f → {tree : Source} → f.source = .ok tree →
    tree.Reports
  | .table name partitions none withOrdinality asName hints, hfilled, tree, h => by
      obtain rfl := Except.ok.inj h
      exact Source.check_table_iff.mpr (filled_table.mp hfilled).pathSql_ne
  | .derived false query asName, hfilled, tree, h => by
      rw [Factor.source] at h
      obtain ⟨q, hq, h⟩ := bind_eq_ok_iff.mp h
      obtain rfl := Except.ok.inj h
      exact Source.reports_derived (Query.reports_select query (filled_derived.mp hfilled) hq) _
  | .nested inner none, hfilled, tree, h => by
      rw [Factor.source] at h
      obtain ⟨source, hsource, h⟩ := bind_eq_ok_iff.mp h
      obtain rfl := Except.ok.inj h
      have hinner : source.Reports :=
        Joined.reports_source inner (filled_nestedFactor.mp hfilled) hsource
      exact hinner
  | .table name partitions (some arguments) withOrdinality asName hints, hfilled, tree, h => by
      cases h
  | .derived true query asName, hfilled, tree, h => by cases h
  | .nested inner (some asName), hfilled, tree, h => by cases h
  | .other before asName after, hfilled, tree, h => by cases h

theorem Joined.reports_source : (j : Joined) → Filled j → {tree : Source} → j.source = .ok tree →
    tree.Reports
  | ⟨first, joins⟩, hfilled, tree, h => by
      obtain ⟨hfirst, hjoins⟩ := filled_joined.mp hfilled
      rw [Joined.source] at h
      obtain ⟨base, hbase, h⟩ := bind_eq_ok_iff.mp h
      exact Join.reports_sourceFrom (Factor.reports_source first hfirst hbase) joins hjoins h

theorem Join.reports_sourceFrom {left : Source} (hleft : left.Reports) :
    (joins : List Join) → Filled joins → {tree : Source} → Join.sourceFrom left joins = .ok tree →
      tree.Reports
  | [], hfilled, tree, h => by
      obtain rfl := Except.ok.inj h
      exact hleft
  | join :: rest, hfilled, tree, h => by
      obtain ⟨hjoin, hrest⟩ := filled_cons.mp hfilled
      rw [Join.sourceFrom] at h
      obtain ⟨next, hnext, h⟩ := bind_eq_ok_iff.mp h
      exact Join.reports_sourceFrom (Join.reports_source hleft join hjoin hnext) rest hrest h

theorem Join.reports_source {left : Source} (hleft : left.Reports) :
    (join : Join) → Filled join → {tree : Source} → join.source left = .ok tree → tree.Reports
  | ⟨isGlobal, words, right, condition⟩, hfilled, tree, h => by
      rw [Join.source] at h
      obtain ⟨source, hsource, h⟩ := bind_eq_ok_iff.mp h
      have hright := Factor.reports_source right (filled_join.mp hfilled) hsource
      exact Join.reports_combine hleft hright h

theorem Joined.reports_sources : (sources : List Joined) → Filled sources →
    {trees : List Source} → Joined.sources sources = .ok trees → ∀ tree ∈ trees, tree.Reports
  | [], hfilled, trees, h => by
      obtain rfl := Except.ok.inj h
      exact nofun
  | joined :: rest, hfilled, trees, h => by
      obtain ⟨hjoined, hrest⟩ := filled_cons.mp hfilled
      obtain ⟨tree, more, htree, hmore, rfl⟩ := Joined.sources_cons_eq_ok h
      exact List.forall_mem_cons.mpr
        ⟨Joined.reports_source joined hjoined htree, Joined.reports_sources rest hrest hmore⟩

theorem Selection.reports_select : (s : Selection) → Filled s → {tree : Select} →
    s.select = .ok tree → tree.Reports
  | ⟨opening, quantifier, top, items, into, sources, views, filter, prefilter, grouping,
      clusterings, having, endings⟩, hfilled, tree, h => by
      obtain ⟨hitems, hsources, hfilter, hgrouping⟩ := filled_selection.mp hfilled
      obtain ⟨trees, htrees, hsource, hpredicate, ⟨hgroupBy, horderBy⟩, hcolumns⟩ :=
        Selection.select_eq_ok h
      have hreports := Joined.reports_sources sources hsources htrees
      refine ⟨forall_of_mapM_eq_ok hcolumns fun item hitem _ =>
        Item.reports_columnRef (filled_list.mp hitems item hitem), ?_, ?_,
        Grouping.reports_columns hgrouping hgroupBy, by simp [horderBy]⟩
      · obtain rfl | ⟨hmany, hlist⟩ := hsource
        · exact hreports tree.source List.mem_cons_self
        · rw [hlist]
          exact Source.reports_list (List.ne_nil_of_length_pos (by omega)) hreports
      · cases filter with
        | none =>
            rw [← Except.ok.inj hpredicate]
            exact nofun
        | some e =>
            rw [Option.mapM_some] at hpredicate
            obtain ⟨p, hp, heq⟩ := map_eq_ok_iff.mp hpredicate
            rintro p' hp'
            obtain rfl := Option.some.inj (heq.trans hp')
            exact Expr.check_predicate (filled_some.mp hfilter) hp

theorem Body.reports_select : (b : Body) → Filled b → {tree : Select} → b.select = .ok tree →
    tree.Reports
  | .selection s, hfilled, tree, h => Selection.reports_select s (filled_body.mp hfilled) h
  | .other sql, hfilled, tree, h => by cases h

/-- The tree of a filled query has no faults but empty projections and bad identifiers. -/
theorem Query.reports_select : (q : Query) → Filled q → {tree : Select} → q.select = .ok tree →
    tree.Reports
  | ⟨withClause, body, orderBy, interpolation, limit, settings, fetch, endings⟩, hfilled, tree,
      h => by
      obtain ⟨hbody, hkeys⟩ := filled_query.mp hfilled
      obtain ⟨read, hread, horderBy, heq⟩ := Query.select_eq_ok h
      have hreports := Body.reports_select body hbody hread
      rw [heq]
      exact { hreports with
        orderBy := forall_of_mapM_eq_ok horderBy fun key hkey _ =>
          OrderKey.reports_item (filled_list.mp hkeys key hkey) }
end

/-! Answers -/

/-- The answer to a query that has a tree depends on the faults of the tree. -/
theorem Dialect.parse_of_select {d : Dialect} {text : String} {q : Query} {tree : Select}
    (hwritten : d.written? text = some q) (hselect : q.select = .ok tree) :
    d.parse text =
      (firstFault tree.faults).mapError .malformedTree >>= fun _ => pure (some tree) := by
  have hreports := Query.reports_select q (filled_of_written? hwritten) hselect
  rw [parse_written hwritten, Query.answer, hselect, ← hreports.check_eq]
  rfl

theorem Dialect.parse_of_select_iff {d : Dialect} {text : String} {q : Query} {tree : Select}
    {fault : Malformation} (hwritten : d.written? text = some q) (hselect : q.select = .ok tree) :
    d.parse text = .error (.malformedTree fault) ↔ tree.faults.head? = some fault := by
  rw [parse_of_select hwritten hselect]
  cases tree.faults with
  | nil => exact ⟨nofun, nofun⟩
  | cons first faults => simp [firstFault, mapError_error, bind, Except.bind]

end Sql

end SelectTree
