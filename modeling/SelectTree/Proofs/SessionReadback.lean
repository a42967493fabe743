import SelectTree.Proofs.ConjunctionReading
import SelectTree.Proofs.PlainIdentifiers

namespace SelectTree

open Sql Sql.Grammar

/-! Sessions that load no text, whose names are plain identifiers: whatever becomes of the query, its
text is read as the same query. -/

variable {d : Dialect} {text : String}

namespace Edit

variable {schema : Schema} {options : Options} {q edited : Select}
  {table column operator value : String} {op : FilterOperator} {literal : Literal}

/-! Typed values -/

theorem isTyped_of_numeral? (h : numeral? value = some literal) : literal.IsTyped := by
  unfold numeral? at h
  dsimp only at h
  split at h
  · rename_i decimal hread
    by_cases hfits : decimal.fitsDouble = true
    · rw [if_pos hfits] at h
      obtain rfl := Option.some.inj h
      exact .number (by rwa [String.toList_ofList])
    · rw [if_neg hfits] at h
      cases h
  · cases h

theorem isTyped_of_boolean? (h : boolean? value = some literal) : literal.IsTyped := by
  unfold boolean? at h
  split at h
  · cases h
    exact .boolean true
  · cases h
    exact .boolean false
  · cases h

theorem isTyped_of_typedLiteral? {type : Option DataType}
    (h : typedLiteral? type value = some literal) : literal.IsTyped := by
  unfold typedLiteral? at h
  split at h
  · split at h
    · exact isTyped_of_numeral? h
    · split at h
      · cases h
        exact .string value
      · exact isTyped_of_boolean? h
  · obtain rfl := Option.some.inj h
    cases hnumeral : numeral? value with
    | none => exact .string value
    | some literal => exact isTyped_of_numeral? hnumeral

theorem isTyped_of_filterLiteral
    (h : filterLiteral schema options q column op value = .ok literal) : literal.IsTyped := by
  unfold filterLiteral at h
  split at h
  · cases h
    exact .string _
  · split at h
    · rename_i typed htyped
      cases h
      exact isTyped_of_typedLiteral? htyped
    · cases h

@[simp] theorem FilterOperator.value_test (operator : FilterOperator) (column : String)
    (value : Literal) : (operator.test column value).value = value := by
  cases operator <;> rfl

/-! Typed queries -/

/-- A query whose tests and sort keys are typed in, in plain words, and that groups nothing. -/
structure IsTypedQuery (d : Dialect) (q : Select) : Prop where
  tests : ∀ t ∈ q.tests, t.IsTyped d
  sorted : ∀ key ∈ q.orderBy, key.IsPlain d queryDepth
  ungrouped : q.groupBy = []

namespace IsTypedQuery

theorem startQuery (table column : String) : IsTypedQuery d (Edit.startQuery table column) where
  tests := fun _ ht => by cases ht
  sorted := fun _ hkey => by cases hkey
  ungrouped := rfl

theorem of_subset (h : IsTypedQuery d q) (htests : ∀ t ∈ edited.tests, t ∈ q.tests)
    (hgroup : ∀ key ∈ edited.groupBy, key ∈ q.groupBy)
    (horder : ∀ key ∈ edited.orderBy, key ∈ q.orderBy) : IsTypedQuery d edited where
  tests := fun t ht => h.tests t (htests t ht)
  sorted := fun key hkey => h.sorted key (horder key hkey)
  ungrouped := by
    apply List.eq_nil_iff_forall_not_mem.mpr
    intro key hkey
    have hmem := hgroup key hkey
    rw [h.ungrouped] at hmem
    cases hmem

theorem extendQuery (h : IsTypedQuery d q)
    (hedit : Edit.extendQuery schema options q table column = .ok edited) :
    IsTypedQuery d edited := by
  obtain ⟨hfilter, hgroup, horder⟩ := frame_extendQuery hedit
  apply h.of_subset
  · intro t ht
    rwa [Select.tests, hfilter] at ht
  · rw [hgroup]
    exact fun _ => id
  · rw [horder]
    exact fun _ => id

theorem removeColumn (h : IsTypedQuery d q)
    (hedit : Edit.removeColumn schema options q text = .ok (some edited)) :
    IsTypedQuery d edited := by
  obtain ⟨⟨⟩, valid, -⟩ := bind_eq_ok_iff.mp hedit
  by_cases hmem : projectedName text ∈ resolve schema q
  · obtain ⟨htests, hgroup, horder⟩ := frame_unprojectColumn (removeColumn_eq_some valid hmem hedit)
    apply h.of_subset
    · rw [htests]
      exact fun t ht => (List.mem_filter.mp ht).1
    · rw [hgroup]
      exact fun key hkey => (List.mem_filter.mp hkey).1
    · rw [horder]
      exact fun key hkey => (List.mem_filter.mp hkey).1
  · rw [removeColumn_of_not_mem valid hmem] at hedit
    cases hedit
    exact h

theorem setFilter (h : IsTypedQuery d q) (hcolumn : isPlainReference d column = true)
    (hedit : Edit.setFilter schema options q column operator value = .ok edited) :
    IsTypedQuery d edited := by
  obtain ⟨-, op, hop, -⟩ := setFilter_eq_ok hedit
  have htests := tests_setFilter hedit hop
  rw [frame_setFilter hedit] at htests ⊢
  refine ⟨?_, h.sorted, h.ungrouped⟩
  rw [htests, List.forall_mem_append]
  refine ⟨fun t ht => h.tests t (tests_cleared_sublist.mem ht), ?_⟩
  intro t ht
  unfold requestedTests at ht
  split at ht
  · cases ht
  · split at ht
    · rename_i literal hliteral
      obtain rfl := List.mem_singleton.mp ht
      refine ⟨?_, ?_⟩
      · rw [FilterOperator.column_test]
        exact isPlainColumn_of_isPlainReference hcolumn (by decide)
      · rw [FilterOperator.value_test]
        exact isTyped_of_filterLiteral hliteral
    · cases ht

theorem removeOrder (h : IsTypedQuery d q) (hedit : Edit.removeOrder q text = .ok edited) :
    IsTypedQuery d edited := by
  obtain ⟨-, rfl⟩ := removeOrder_eq_ok hedit
  exact ⟨h.tests, fun key hkey => h.sorted key (List.mem_filter.mp hkey).1, h.ungrouped⟩

theorem orderBy (h : IsTypedQuery d q) (htext : isPlainReference d text = true)
    {ascending : Option Bool} (hedit : Edit.orderBy schema q text ascending = .ok edited) :
    IsTypedQuery d edited := by
  obtain ⟨-, -, rfl⟩ := orderBy_eq_ok hedit
  refine ⟨h.tests, ?_, h.ungrouped⟩
  intro key hkey
  rcases List.mem_append.mp hkey with hkept | hnew
  · exact h.sorted key (List.mem_filter.mp hkept).1
  · obtain rfl := List.mem_singleton.mp hnew
    exact isPlainColumn_of_isPlainReference htext (by decide)

end IsTypedQuery

/-! Sessions -/

/-- Holds of gestures that load no text, and that filter and sort by columns in plain words. -/
def Gesture.isPlain (d : Dialect) : Gesture → Bool
  | .load _ => false
  | .setFilter column _ _ => isPlainReference d column
  | .orderBy text _ => isPlainReference d text
  | _ => true

namespace Session

variable {s : Session} {g : Gesture} {gestures : List Gesture}

theorem isNamed_of_isPlain (h : g.isPlain d = true) : isNamed g = true := by
  cases g with
  | load => cases h
  | setFilter column operator value =>
      apply decide_eq_true
      rintro rfl
      have hempty : isPlainReference d "" = true := h
      have hfull := hasFullSegments_of_isPlainReference hempty
      revert hfull
      decide
  | orderBy text ascending => exact hasFullSegments_of_isPlainReference h
  | _ => rfl

def IsTyped (d : Dialect) (s : Session) : Prop :=
  ∀ q ∈ s.query, IsTypedQuery d q

theorem isTyped_of_edits (hplain : g.isPlain d = true) (typed : s.IsTyped d)
    {query : Option Select} (h : s.Edits g query) : ∀ q ∈ query, IsTypedQuery d q := by
  cases h with
  | load => cases hplain
  | start =>
      rintro _ ⟨⟩
      exact .startQuery _ _
  | extend hname hquery hcolumn hedit =>
      rintro _ ⟨⟩
      exact (typed _ hquery).extendQuery hedit
  | removeColumn hquery hedit =>
      rintro _ rfl
      exact (typed _ hquery).removeColumn hedit
  | setFilter hquery hedit =>
      rintro _ ⟨⟩
      exact (typed _ hquery).setFilter hplain hedit
  | orderBy hquery hedit =>
      rintro _ ⟨⟩
      exact (typed _ hquery).orderBy hplain hedit
  | removeOrder hquery hedit =>
      rintro _ ⟨⟩
      exact (typed _ hquery).removeOrder hedit
  | clearFilters =>
      intro edited hedited
      obtain ⟨q, hquery, rfl⟩ := Option.map_eq_some_iff.mp hedited
      exact (typed q hquery).of_subset (fun _ ht => by cases ht) (fun _ => id) fun _ => id
  | clearOrder =>
      intro edited hedited
      obtain ⟨q, hquery, rfl⟩ := Option.map_eq_some_iff.mp hedited
      exact (typed q hquery).of_subset (fun _ => id) (fun _ => id) fun _ hkey => by cases hkey
  | clear => exact fun _ hq => by cases hq

theorem IsTyped.perform (hplain : g.isPlain d = true) (typed : s.IsTyped d) :
    (s.perform g).IsTyped d :=
  perform_keeps (P := fun query => ∀ q ∈ query, IsTypedQuery d q) typed
    fun _ h => isTyped_of_edits hplain typed h

theorem isTyped_run (hplain : ∀ g ∈ gestures, g.isPlain d = true) :
    ((start schema options).run gestures).IsTyped d := by
  refine run_induction (fun _ hq => by cases hq) ?_ (List.prefix_refl gestures)
  intro before g hprefix typed
  have hmem : g ∈ gestures := hprefix.mem (by simp)
  exact typed.perform (hplain g hmem)

end Session

/-! Texts -/

theorem IsTypedQuery.exists_isFilterRead (typed : IsTypedQuery d q)
    (hwords : d.hasNumericWords = false) (hescapes : d.escapesWithBackslash = false)
    (required : ∀ p ∈ q.filter, p.IsConjunction) :
    ∃ filter, IsFilterRead d queryDepth q.filter filter ∧
      Predicate.testsOf filter = q.tests.map Test.reread := by
  have htyped := typed.tests
  rw [Select.tests_eq] at htyped ⊢
  cases hfilter : q.filter with
  | none => exact ⟨none, isFilterRead_none, rfl⟩
  | some p =>
      rw [hfilter] at htyped
      obtain ⟨ts, e, read, hread, htree, htests⟩ :=
        (required p hfilter).exists_isRead hwords hescapes htyped (by decide : 3 < queryDepth)
      exact ⟨some read, isFilterRead_some hread htree, htests⟩

/-- The text of a typed query is read as the query, but for the shape of its condition and for plus
signs before numbers. -/
theorem exists_parse_typed (hwords : d.hasNumericWords = false)
    (hescapes : d.escapesWithBackslash = false) (identifiers : schema.HasPlainIdentifiers d)
    (grown : IsGrown schema q) (listed : IsListedQuery schema q) (typed : IsTypedQuery d q)
    (required : ∀ p ∈ q.filter, p.IsConjunction) :
    ∃ filter, d.parse q.sql = .ok (some { q with filter }) ∧
      Predicate.testsOf filter = q.tests.map Test.reread := by
  have hchain := grown.joins.chain
  obtain ⟨ts, us, j, hjoined, hlower⟩ := hchain.exists_joined fun name hname =>
    identifiers.isTableText (grown.listed name hname)
  obtain ⟨filter, hfilter, htests⟩ := typed.exists_isFilterRead hwords hescapes required
  have hitems : ∀ item ∈ q.items, IsPlainItem d queryDepth item := fun item hitem =>
    identifiers.isPlainItem (listed.listed item hitem) (by decide)
  have hgroup : IsGroupingRead d queryDepth q.groupBy := by
    rw [typed.ungrouped]
    exact isGroupingRead_nil
  obtain ⟨ts, query, hread⟩ := Select.exists_readAs (exists_items listed.ne_nil hitems)
    ⟨_, _, _, Source.isReadList_of_isJoined hjoined hlower⟩ hfilter hgroup
    (isOrderRead_plain typed.sorted)
  have hself : Select.mk q.items q.source q.filter q.groupBy q.orderBy = q := by cases q; rfl
  rw [hself, hchain.reread_eq] at hread
  refine ⟨filter, hread.parse_sql (validate_of_tests grown.valid ?_), htests⟩
  rw [htests, List.forall_mem_map]
  intro t ht
  rw [t.column_reread]
  exact column_ne_of_validate grown.valid t ht

namespace Session

variable {gestures : List Gesture}

/-- Filters with a quote, a percent sign and a plus sign in their values. -/
def signedGestures : List Gesture :=
  [.addColumn "flights.id", .addColumn "carriers.name", .setFilter "name" "<>" "O'Hare",
    .setFilter "carriers.name" "like" "50%", .setFilter "id" ">=" "++5e1",
    .orderBy "flights.id" (some false)]

end Session

end Edit

end SelectTree
