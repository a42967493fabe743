import SelectTree.Proofs.AddedColumns
import SelectTree.Proofs.Filters
import SelectTree.Proofs.RemovedColumns
import SelectTree.Proofs.Runs

namespace SelectTree

/-! A ledger of filters and sort keys, kept beside a session. Whatever becomes of the `WHERE` tree,
its tests are the filters of the ledger, in the order in which they were set. -/

/-! Ledgers -/

/-- What a filter is found by: its column, and whether it is a pattern. -/
def Test.key : Test → String × Bool
  | .compare column _ _ => (column, false)
  | .like column _ => (column, true)

namespace Edit

def FilterOperator.key (column : String) : FilterOperator → String × Bool
  | .like => (column, true)
  | .compare _ => (column, false)

structure SortKey where
  column : String
  ascending : Option Bool
  deriving DecidableEq, Repr

namespace SortKey

/-- What a sort key is found by. -/
def name (key : SortKey) : String :=
  projectedName key.column

def item (key : SortKey) : OrderItem :=
  ⟨.identifier key.column, key.ascending⟩

end SortKey

structure Ledger where
  filters : List Test
  sortKeys : List SortKey
  deriving DecidableEq, Repr

namespace Ledger

def empty : Ledger := ⟨[], []⟩

/-- A filter goes to the end, in place of the one with its key. -/
def setFilter (l : Ledger) (key : String × Bool) (requested : List Test) : Ledger :=
  { l with filters := l.filters.filter (·.key ≠ key) ++ requested }

def removeOrder (l : Ledger) (name : String) : Ledger :=
  { l with sortKeys := l.sortKeys.filter (·.name ≠ name) }

/-- A sort key goes to the end, in place of the one with its name. -/
def orderBy (l : Ledger) (key : SortKey) : Ledger :=
  { l with sortKeys := (l.removeOrder key.name).sortKeys ++ [key] }

/-- Drops whatever is known by the name of a column. -/
def removeColumn (l : Ledger) (name : String) : Ledger :=
  { filters := l.filters.filter (projectedName ·.column ≠ name)
    sortKeys := l.sortKeys.filter (·.name ≠ name) }

/-- The ledger after a gesture that succeeds on a query. -/
def note (l : Ledger) (schema : Schema) (options : Options) (q : Select) : Gesture → Ledger
  | .setFilter column operator value =>
      match FilterOperator.ofText operator with
      | .ok op => l.setFilter (op.key column) (requestedTests schema options q column op value)
      | .error _ => l
  | .orderBy column ascending => l.orderBy ⟨column, ascending⟩
  | .removeOrder column => l.removeOrder (projectedName column)
  | .removeColumn column =>
      if projectedName column ∈ resolve schema q then l.removeColumn (projectedName column) else l
  | .clearFilters => { l with filters := [] }
  | .clearOrder => { l with sortKeys := [] }
  | .load _ | .addColumn _ | .clear => l

/-- The ledger after a gesture. One that fails changes nothing, and without a query there are no
filters and no sort keys. -/
def after (l : Ledger) (s : Session) (g : Gesture) : Ledger :=
  match s.edited g with
  | .error _ => l
  | .ok none => .empty
  | .ok (some _) =>
      match s.query with
      | some q => l.note s.schema s.options q g
      | none => l

/-- The ledger that is kept beside a session through some gestures. -/
def along (l : Ledger) (s : Session) : List Gesture → Ledger
  | [] => l
  | g :: rest => (l.after s g).along (s.perform g) rest

end Ledger

/-! Ledgers that match a query -/

/-- The tests of a query are all required, and they are the filters of a ledger; the sort keys are
those of the ledger. No two share a key, and no item is a call. -/
structure Matches (q : Select) (l : Ledger) : Prop where
  tests : q.tests = l.filters
  required : ∀ p ∈ q.filter, p.IsConjunction
  order : q.orderBy = l.sortKeys.map SortKey.item
  filterKeys : (l.filters.map Test.key).Nodup
  sortNames : (l.sortKeys.map SortKey.name).Nodup
  named : ∀ key ∈ l.sortKeys, key.item.column.resolvedName = some key.name
  uncalled : ∀ item ∈ q.items, item.isCall = false

variable {schema : Schema} {options : Options} {q edited : Select} {l : Ledger}
  {table column text operator value : String} {op : FilterOperator}

theorem isReplaced_iff {t : Test} :
    Select.isReplaced column op t = true ↔ t.key = op.key column := by
  rw [Select.isReplaced, Bool.and_eq_true, decide_eq_true_eq]
  cases op <;> cases t <;>
    simp [FilterOperator.targets, Test.key, Test.column, FilterOperator.key]

theorem key_test {literal : Literal} : (op.test column literal).key = op.key column := by
  cases op <;> rfl

/-! Keys -/

section Keys

variable {α κ : Type} [DecidableEq κ] {key : α → κ} {xs : List α}

theorem length_filter_key_le_one (h : (xs.map key).Nodup) (k : κ) :
    (xs.filter (key · = k)).length ≤ 1 := by
  have hcount := List.nodup_iff_count.mp h k
  rw [List.count, List.countP_map, List.countP_eq_length_filter] at hcount
  exact hcount

omit [DecidableEq κ] in
theorem nodup_map_filter (h : (xs.map key).Nodup) (keep : α → Bool) :
    ((xs.filter keep).map key).Nodup :=
  h.sublist (List.filter_sublist.map key)

/-- What takes the place of everything with its key is the only one with it. -/
theorem nodup_map_replaced (h : (xs.map key).Nodup) (k : κ) (new : List α) (hnew : new.length ≤ 1)
    (hkey : ∀ x ∈ new, key x = k) : ((xs.filter (key · ≠ k) ++ new).map key).Nodup := by
  rw [List.map_append, List.nodup_append]
  refine ⟨nodup_map_filter h _, ?_, ?_⟩
  · rcases Nat.le_one_iff_eq_zero_or_eq_one.mp hnew with hzero | hone
    · rw [List.length_eq_zero_iff.mp hzero]
      exact List.nodup_nil
    · obtain ⟨x, rfl⟩ := List.length_eq_one_iff.mp hone
      simp
  · intro a ha b hb
    obtain ⟨x, hx, rfl⟩ := List.mem_map.mp ha
    obtain ⟨y, hy, rfl⟩ := List.mem_map.mp hb
    rw [hkey y hy]
    simpa using (List.mem_filter.mp hx).2

end Keys

theorem keepsApart_of_matches (h : Matches q l) : KeepsApart q column op := by
  intro p hp
  apply Predicate.keepsApart_of_count_le_one
  have hkeys := length_filter_key_le_one h.filterKeys (op.key column)
  rw [← h.tests, Select.tests_eq, hp] at hkeys
  have hsame : ∀ t, Select.isReplaced column op t = decide (t.key = op.key column) := by
    intro t
    rw [Bool.eq_iff_iff, isReplaced_iff, decide_eq_true_eq]
  rwa [funext hsame]

/-! What keeps a query and its ledger together -/

theorem uncalled_rebuilt {items : List ColumnRef} (h : ∀ item ∈ items, item.isCall = false)
    (columns : List String) : ∀ item ∈ rebuildItems items columns, item.isCall = false := by
  rw [rebuildItems_eq_map, List.forall_mem_map]
  intro x _
  rcases rebuildItem_cases items x with ⟨heq, -⟩ | ⟨hmem, -, -⟩
  · rw [heq]
    rfl
  · exact h _ hmem

theorem matches_startQuery (table column : String) : Matches (startQuery table column) .empty where
  tests := rfl
  required := fun _ hp => by cases hp
  order := rfl
  filterKeys := List.nodup_nil
  sortNames := List.nodup_nil
  named := fun _ hkey => by cases hkey
  uncalled := by simp [startQuery, Select.new, ColumnRef.isCall]

theorem uncalled_extendQuery (h : extendQuery schema options q table column = .ok edited)
    (huncalled : ∀ item ∈ q.items, item.isCall = false) :
    ∀ item ∈ edited.items, item.isCall = false := by
  obtain ⟨-, rfl⟩ := extendQuery_eq_ok h
  rw [joining_items]
  split
  · apply uncalled_rebuilt
    exact List.forall_mem_append.mpr ⟨huncalled, by simp [newItem, ColumnRef.isCall]⟩
  · exact huncalled

theorem Matches.extendQuery (h : Matches q l)
    (hedit : extendQuery schema options q table column = .ok edited) : Matches edited l := by
  obtain ⟨hfilter, -, horder⟩ := frame_extendQuery hedit
  refine ⟨?_, ?_, horder ▸ h.order, h.filterKeys, h.sortNames, h.named,
    uncalled_extendQuery hedit h.uncalled⟩
  · rw [Select.tests_eq, hfilter]
    exact h.tests
  · rw [hfilter]
    exact h.required

/-- Sort keys of a name are found by what they resolve to. -/
theorem filter_order (named : ∀ key ∈ l.sortKeys, key.item.column.resolvedName = some key.name)
    (name : String) :
    (l.sortKeys.map SortKey.item).filter (·.column.resolvedName ≠ some name) =
      (l.sortKeys.filter (·.name ≠ name)).map SortKey.item := by
  rw [List.filter_map]
  congr 1
  apply List.filter_congr
  intro key hkey
  simp [named key hkey]

theorem uncalled_unprojectColumn (h : unprojectColumn schema options q text = .ok edited)
    (huncalled : ∀ item ∈ q.items, item.isCall = false) :
    ∀ item ∈ edited.items, item.isCall = false := by
  obtain ⟨pruned, -, rfl⟩ := unprojectColumn_eq_ok h
  exact uncalled_rebuilt huncalled _

theorem Matches.unprojectColumn (h : Matches q l)
    (hedit : unprojectColumn schema options q text = .ok edited) :
    Matches edited (l.removeColumn (projectedName text)) := by
  obtain ⟨htests, -, horder⟩ := frame_unprojectColumn hedit
  refine ⟨?_, ?_, ?_, nodup_map_filter h.filterKeys _, nodup_map_filter h.sortNames _, ?_,
    uncalled_unprojectColumn hedit h.uncalled⟩
  · rw [htests, h.tests]
    rfl
  · rw [eq_of_unprojectColumn hedit]
    intro p hp
    obtain ⟨given, hgiven, hpruned⟩ := Option.bind_eq_some_iff.mp hp
    exact (h.required given hgiven).of_mem_prune hpruned
  · rw [horder, h.order, filter_order h.named]
    rfl
  · intro key hkey
    exact h.named key (List.mem_filter.mp hkey).1

theorem required_setFilter (hedit : setFilter schema options q column operator value = .ok edited)
    (hrequired : ∀ p ∈ q.filter, p.IsConjunction) : ∀ p ∈ edited.filter, p.IsConjunction := by
  obtain ⟨-, op, -, hcases⟩ := setFilter_eq_ok hedit
  have hcleared : ∀ p ∈ (cleared q column op).filter, p.IsConjunction := by
    intro p hp
    obtain ⟨given, hgiven, hremoved⟩ := Option.bind_eq_some_iff.mp hp
    exact (hrequired given hgiven).of_mem_remove hremoved
  rcases hcases with ⟨-, rfl⟩ | ⟨-, literal, -, rfl⟩
  · exact hcleared
  · intro p hp
    obtain rfl := Option.some.inj hp
    exact Predicate.isConjunction_requiring hcleared _

theorem length_requestedTests_le_one :
    (requestedTests schema options q column op value).length ≤ 1 := by
  unfold requestedTests
  split
  · simp
  · split <;> simp

theorem key_requestedTests :
    ∀ t ∈ requestedTests schema options q column op value, t.key = op.key column := by
  unfold requestedTests
  intro t ht
  split at ht
  · cases ht
  · split at ht
    · rw [List.mem_singleton.mp ht, key_test]
    · cases ht

theorem Matches.setFilter (h : Matches q l) (hop : FilterOperator.ofText operator = .ok op)
    (hedit : Edit.setFilter schema options q column operator value = .ok edited) :
    Matches edited
      (l.setFilter (op.key column) (requestedTests schema options q column op value)) := by
  have hframe := frame_setFilter hedit
  refine ⟨?_, required_setFilter hedit h.required, ?_, ?_, h.sortNames, h.named, ?_⟩
  · have hsame : ∀ t, (!Select.isReplaced column op t) = decide (t.key ≠ op.key column) := by
      intro t
      rw [Bool.eq_iff_iff, Bool.not_eq_true', Bool.eq_false_iff, Ne, isReplaced_iff,
        decide_eq_true_eq]
    rw [tests_setFilter hedit hop, tests_cleared_of_keepsApart (keepsApart_of_matches h),
      funext hsame, h.tests]
    rfl
  · rw [hframe]
    exact h.order
  · exact nodup_map_replaced h.filterKeys _ _ length_requestedTests_le_one key_requestedTests
  · rw [hframe]
    exact h.uncalled

/-! Sort keys -/

theorem Projectable.isColumnName {items : List ColumnRef} {x : String} (h : Projectable items x)
    (huncalled : ∀ item ∈ items, item.isCall = false) : IsColumnName x := by
  cases h with
  | name hname => exact hname
  | call hitem hcall =>
      rw [huncalled _ hitem] at hcall
      cases hcall

theorem isColumnName_of_isAvailable (plain : schema.HasPlainColumns)
    (huncalled : ∀ item ∈ q.items, item.isCall = false) (h : isAvailable schema q text = true) :
    IsColumnName (projectedName text) := by
  rw [isAvailable, Bool.or_eq_true, List.contains_iff_mem, List.any_eq_true] at h
  rcases h with hresolved | ⟨table, -, hcolumn⟩
  · exact (projectable_of_mem_resolve plain hresolved).isColumnName huncalled
  · exact isColumnName_of_mem_columnNames plain (mem_columnNames_iff.mpr hcolumn)

/-- A text that stands for a column name resolves to it. -/
theorem resolvedName_identifier (h : IsColumnName (projectedName text)) :
    (ColumnRef.identifier text).resolvedName = some (projectedName text) := by
  have hself : projectedName text = text →
      (ColumnRef.identifier text).resolvedName = some (projectedName text) := by
    intro heq
    rw [heq] at h ⊢
    rw [ColumnRef.resolvedName, ColumnRef.columnName, ColumnRef.target_identifier, h.ofText_eq]
  by_cases hparen : '(' ∈ text.toList
  · exact hself (by simp [projectedName, hparen])
  · cases htarget : Target.ofText text with
    | wildcard => exact hself (by simp [projectedName, hparen, htarget])
    | tableWildcard table => exact hself (by simp [projectedName, hparen, htarget])
    | column table name =>
        rw [ColumnRef.resolvedName, ColumnRef.columnName, ColumnRef.target_identifier, htarget]
        simp [projectedName, hparen, htarget]

theorem order_without (h : Matches q l) (name : String) :
    q.orderBy.filter (!isKeyOf name ·.column) =
      (l.removeOrder name).sortKeys.map SortKey.item := by
  have hsame : ∀ key : OrderItem,
      (!isKeyOf name key.column) = decide (key.column.resolvedName ≠ some name) := by
    intro key
    simp [isKeyOf]
  rw [funext hsame, h.order, filter_order h.named]
  rfl

theorem Matches.removeOrder (h : Matches q l) (hedit : Edit.removeOrder q text = .ok edited) :
    Matches edited (l.removeOrder (projectedName text)) := by
  obtain ⟨-, rfl⟩ := removeOrder_eq_ok hedit
  exact ⟨h.tests, h.required, order_without h _, h.filterKeys, nodup_map_filter h.sortNames _,
    fun key hkey => h.named key (List.mem_filter.mp hkey).1, h.uncalled⟩

theorem Matches.orderBy (plain : schema.HasPlainColumns) (h : Matches q l)
    {ascending : Option Bool} (hedit : Edit.orderBy schema q text ascending = .ok edited) :
    Matches edited (l.orderBy ⟨text, ascending⟩) := by
  obtain ⟨-, havailable, rfl⟩ := orderBy_eq_ok hedit
  have hname := isColumnName_of_isAvailable plain h.uncalled havailable
  refine ⟨h.tests, h.required, ?_, h.filterKeys, ?_, ?_, h.uncalled⟩
  · rw [order_without h, Ledger.orderBy, List.map_append]
    rfl
  · exact nodup_map_replaced h.sortNames (projectedName text) [⟨text, ascending⟩]
      (by simp) (by simp [SortKey.name])
  · intro key hkey
    rcases List.mem_append.mp hkey with hkept | hnew
    · exact h.named key (List.mem_filter.mp hkept).1
    · obtain rfl := List.mem_singleton.mp hnew
      exact resolvedName_identifier hname

/-! Sessions -/

namespace Ledger

variable {s : Session} {g : Gesture}

/-- A ledger is empty without a query, and matches the query otherwise. -/
structure KeepsUp (l : Ledger) (s : Session) : Prop where
  idle : s.query = none → l = .empty
  current : ∀ q ∈ s.query, Matches q l

theorem keepsUp_of_query {query : Option Select} (h : s.query = query)
    (hidle : query = none → l = .empty) (hcurrent : ∀ q ∈ query, Matches q l) : l.KeepsUp s :=
  ⟨fun hquery => hidle (h.symm.trans hquery), fun q hq => hcurrent q (h.symm.trans hq)⟩

theorem after_of_error {e : Error} (h : s.edited g = .error e) : l.after s g = l := by
  rw [after, h]

theorem after_of_none (h : s.edited g = .ok none) : l.after s g = .empty := by
  rw [after, h]

theorem after_of_some (h : s.edited g = .ok (some edited)) (hquery : s.query = some q) :
    l.after s g = l.note s.schema s.options q g := by
  rw [after, h, hquery]

theorem after_of_idle (h : s.edited g = .ok (some edited)) (hquery : s.query = none) :
    l.after s g = l := by
  rw [after, h, hquery]

/-- What a gesture makes of a query matches what it makes of the ledger. -/
theorem matches_note (plain : s.schema.HasPlainColumns) (hload : ∀ text, g ≠ .load text)
    (hmatches : Matches q l) (hquery : s.query = some q) {query : Option Select}
    (h : s.Edits g query) (hedited : query = some edited) :
    Matches edited (l.note s.schema s.options q g) := by
  have hsame : ∀ {other : Select}, s.query = some other → other = q :=
    fun hother => Option.some.inj (hother.symm.trans hquery)
  cases h with
  | load => exact absurd rfl (hload _)
  | start _ hnone =>
      rw [hquery] at hnone
      cases hnone
  | extend _ hother _ hedit =>
      obtain rfl := hsame hother
      cases hedited
      exact hmatches.extendQuery hedit
  | @removeColumn text other _ hother hedit =>
      obtain rfl := hsame hother
      subst hedited
      obtain ⟨⟨⟩, valid, -⟩ := bind_eq_ok_iff.mp hedit
      by_cases hmem : projectedName text ∈ resolve s.schema other
      · have hunproject := hmatches.unprojectColumn (removeColumn_eq_some valid hmem hedit)
        rw [projectedName_projectedName] at hunproject
        rwa [note, if_pos hmem]
      · rw [removeColumn_of_not_mem valid hmem] at hedit
        cases hedit
        rwa [note, if_neg hmem]
  | setFilter hother hedit =>
      obtain rfl := hsame hother
      cases hedited
      obtain ⟨-, op, hop, -⟩ := setFilter_eq_ok hedit
      rw [note, hop]
      exact hmatches.setFilter hop hedit
  | orderBy hother hedit =>
      obtain rfl := hsame hother
      cases hedited
      exact hmatches.orderBy plain hedit
  | removeOrder hother hedit =>
      obtain rfl := hsame hother
      cases hedited
      exact hmatches.removeOrder hedit
  | clearFilters =>
      rw [hquery] at hedited
      cases hedited
      exact ⟨rfl, fun _ hp => (by cases hp), hmatches.order, List.nodup_nil, hmatches.sortNames,
        hmatches.named, hmatches.uncalled⟩
  | clearOrder =>
      rw [hquery] at hedited
      cases hedited
      exact ⟨hmatches.tests, hmatches.required, rfl, hmatches.filterKeys, List.nodup_nil,
        fun _ hkey => (by cases hkey), hmatches.uncalled⟩
  | clear => cases hedited

/-- Only an added column brings a query where there is none. -/
theorem matches_of_idle (hload : ∀ text, g ≠ .load text) (hquery : s.query = none)
    {query : Option Select} (h : s.Edits g query) (hedited : query = some edited) :
    Matches edited .empty := by
  have hnone : ∀ {other : Select}, s.query ≠ some other := by
    intro other hother
    rw [hquery] at hother
    cases hother
  cases h with
  | load => exact absurd rfl (hload _)
  | start =>
      cases hedited
      exact matches_startQuery _ _
  | extend _ hother => exact absurd hother hnone
  | removeColumn hother => exact absurd hother hnone
  | setFilter hother => exact absurd hother hnone
  | orderBy hother => exact absurd hother hnone
  | removeOrder hother => exact absurd hother hnone
  | clearFilters =>
      rw [hquery] at hedited
      cases hedited
  | clearOrder =>
      rw [hquery] at hedited
      cases hedited
  | clear => cases hedited

theorem KeepsUp.after (plain : s.schema.HasPlainColumns) (h : l.KeepsUp s)
    (hload : ∀ text, g ≠ .load text) : (l.after s g).KeepsUp (s.perform g) := by
  cases hedited : s.edited g with
  | error e =>
      rw [after_of_error hedited]
      exact keepsUp_of_query (Session.query_perform_of_error hedited) h.idle h.current
  | ok query =>
      have hedits := Session.edits_of_edited hedited
      cases query with
      | none =>
          rw [after_of_none hedited]
          exact keepsUp_of_query (Session.query_perform_of_ok hedited) (fun _ => rfl)
            fun _ hq => by cases hq
      | some edited =>
          refine keepsUp_of_query (Session.query_perform_of_ok hedited) (fun hnone => by cases hnone) ?_
          rintro _ ⟨⟩
          cases hquery : s.query with
          | none =>
              rw [after_of_idle hedited hquery, h.idle hquery]
              exact matches_of_idle hload hquery hedits rfl
          | some q =>
              rw [after_of_some hedited hquery]
              exact matches_note plain hload (h.current q hquery) hquery hedits rfl

theorem KeepsUp.along (plain : s.schema.HasPlainColumns) {gestures : List Gesture}
    (hloads : ∀ g ∈ gestures, ∀ text, g ≠ .load text) (h : l.KeepsUp s) :
    (l.along s gestures).KeepsUp (s.run gestures) := by
  induction gestures generalizing s l with
  | nil => exact h
  | cons g rest ih =>
      obtain ⟨hload, hrest⟩ := List.forall_mem_cons.mp hloads
      exact ih plain hrest (h.after plain hload)

end Ledger

/-- The ledger that is kept beside a session from its start. -/
def ledgerOf (schema : Schema) (options : Options) (gestures : List Gesture) : Ledger :=
  Ledger.empty.along (.start schema options) gestures

theorem keepsUp_start (schema : Schema) (options : Options) :
    Ledger.empty.KeepsUp (.start schema options) :=
  ⟨fun _ => rfl, fun _ hq => by cases hq⟩

/-- Whatever gestures led to a query, but for loading one: its tests from left to right are the
filters of the ledger, a row passes if it passes all of these, and the sort keys are those of the
ledger. -/
theorem run_keeps_ledger (plain : schema.HasPlainColumns) (options : Options)
    {gestures : List Gesture} (hloads : ∀ g ∈ gestures, ∀ text, g ≠ .load text) :
    ∀ q ∈ ((Session.start schema options).run gestures).query,
      q.tests = (ledgerOf schema options gestures).filters ∧
      (∀ row, (q.filter.map (·.holds row)).getD true =
        (ledgerOf schema options gestures).filters.all row) ∧
      q.orderBy = (ledgerOf schema options gestures).sortKeys.map SortKey.item ∧
      ((ledgerOf schema options gestures).filters.map Test.key).Nodup ∧
      ((ledgerOf schema options gestures).sortKeys.map SortKey.name).Nodup := by
  intro q hq
  have hmatches := ((keepsUp_start schema options).along plain hloads).current q hq
  refine ⟨hmatches.tests, ?_, hmatches.order, hmatches.filterKeys, hmatches.sortNames⟩
  intro row
  have hfilters : (Ledger.empty.along (.start schema options) gestures).filters = q.tests :=
    hmatches.tests.symm
  rw [ledgerOf, hfilters, Select.tests_eq]
  cases hfilter : q.filter with
  | none => rfl
  | some p => exact (hmatches.required p hfilter).holds_eq row

/-- A filter is set anew, with another one in between. -/
def nameGestures : List Gesture :=
  [.addColumn "carriers.name", .setFilter "name" "like" "A", .setFilter "name" "=" "B",
    .setFilter "name" "like" "C"]

theorem run_keeps_ledger_carrier_name :
    ∃ q ∈ ((Session.start .flights .default).run nameGestures).query,
      q.tests = [.compare "name" .eq (.string "B"), .like "name" (.string "C%")] ∧
        q.orderBy = [] := by
  obtain ⟨q, hq⟩ : ∃ q, ((Session.start .flights .default).run nameGestures).query = some q :=
    Option.isSome_iff_exists.mp (by decide +kernel)
  obtain ⟨htests, -, horder, -⟩ := run_keeps_ledger (by decide) .default
    (by simp [nameGestures]) q hq
  have hledger : ledgerOf .flights .default nameGestures =
      ⟨[.compare "name" .eq (.string "B"), .like "name" (.string "C%")], []⟩ := by
    decide +kernel
  rw [hledger] at htests horder
  exact ⟨q, hq, htests, horder⟩

end Edit

end SelectTree
