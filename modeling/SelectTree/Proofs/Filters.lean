import SelectTree.Edit.Gesture
import SelectTree.Proofs.Names
import SelectTree.Proofs.Predicates
import SelectTree.Proofs.WellFormed

namespace SelectTree.Edit

/-! Filters that are set: which tests they replace, and when setting one again changes nothing.
Sort keys that are set likewise. -/

variable {schema : Schema} {options : Options} {q edited : Select}
  {column operator value text : String} {op : FilterOperator} {literal : Literal}

theorem Test.check_iff {t : Test} : t.check = .ok () ↔ t.column ≠ "" := by
  rw [Test.check, requires_eq_ok_iff]
  simp

theorem filter_check_iff :
    (∀ p, q.filter = some p → p.check = .ok ()) ↔ ∀ t ∈ q.tests, t.column ≠ "" := by
  unfold Select.tests
  cases q.filter with
  | none => simp
  | some p => simp [Predicate.check_iff, Test.check_iff]

/-- Only the tests of a query change. -/
theorem validate_of_tests (valid : q.validate = .ok ()) {filter : Option Predicate}
    (h : ∀ t ∈ Predicate.testsOf filter, t.column ≠ "") :
    Select.validate { q with filter } = .ok () := by
  rw [Select.validate_iff, Select.check_iff] at valid ⊢
  obtain ⟨hne, hitems, hsource, -, hkeys⟩ := valid
  exact ⟨hne, hitems, hsource, filter_check_iff.mpr h, hkeys⟩

theorem column_ne_of_validate (valid : q.validate = .ok ()) : ∀ t ∈ q.tests, t.column ≠ "" :=
  filter_check_iff.mp (Select.check_iff.mp (Select.validate_iff.mp valid)).2.2.2.1

/-! Cleared filters -/

/-- A query without the tests that a filter replaces, as far as they are dropped. -/
def cleared (q : Select) (column : String) (op : FilterOperator) : Select :=
  { q with filter := q.filter.bind (·.remove (Select.isReplaced column op)) }

theorem tests_cleared_sublist : (cleared q column op).tests.Sublist q.tests := by
  unfold Select.tests cleared
  cases q.filter with
  | none => exact List.Sublist.refl _
  | some p => exact Predicate.testsOf_remove_sublist _ p

theorem filter_tests_cleared :
    (cleared q column op).tests.filter (!Select.isReplaced column op ·) =
      q.tests.filter (!Select.isReplaced column op ·) := by
  unfold Select.tests cleared
  cases q.filter with
  | none => rfl
  | some p => exact Predicate.filter_testsOf_remove _ p

theorem validate_cleared (valid : q.validate = .ok ()) :
    (cleared q column op).validate = .ok () :=
  validate_of_tests valid fun t ht =>
    column_ne_of_validate valid t (tests_cleared_sublist.subset ht)

theorem removeTest_eq (valid : q.validate = .ok ()) :
    q.removeTest column op = .ok (cleared q column op) := by
  rw [Select.removeTest, valid]
  rfl

/-- No pair of the `WHERE` tree holds a test that a filter replaces beside others of them. -/
def KeepsApart (q : Select) (column : String) (op : FilterOperator) : Prop :=
  ∀ p ∈ q.filter, p.KeepsApart (Select.isReplaced column op)

theorem cleared_clears_iff :
    (∀ t ∈ (cleared q column op).tests, Select.isReplaced column op t = false) ↔
      KeepsApart q column op := by
  rw [Select.tests_eq]
  unfold KeepsApart cleared
  cases q.filter with
  | none => simp
  | some p => simpa using Predicate.remove_clears_iff (p := p)

theorem tests_cleared_of_keepsApart (apart : KeepsApart q column op) :
    (cleared q column op).tests = q.tests.filter (!Select.isReplaced column op ·) := by
  rw [← filter_tests_cleared, eq_comm, List.filter_eq_self]
  intro t ht
  simp [cleared_clears_iff.mpr apart t ht]

/-- Where no test is replaced, nothing is cleared. -/
theorem cleared_eq_self (h : ∀ t ∈ q.tests, Select.isReplaced column op t = false) :
    cleared q column op = q := by
  obtain ⟨items, source, filter, groupBy, orderBy⟩ := q
  cases filter with
  | none => rfl
  | some p => simp [cleared, Predicate.remove_eq_self h]

/-! Filters that are set -/

/-- A query with a filter in place of the ones that it replaces. -/
def filtering (q : Select) (column : String) (op : FilterOperator) (literal : Literal) : Select :=
  { q with filter := some (.requiring (cleared q column op).filter (op.test column literal)) }

theorem isReplaced_test : Select.isReplaced column op (op.test column literal) = true := by
  simp [Select.isReplaced]

theorem tests_filtering :
    (filtering q column op literal).tests =
      (cleared q column op).tests ++ [op.test column literal] :=
  Predicate.tests_requiring _ _

theorem filtering_injective {other : Literal}
    (h : filtering q column op literal = filtering q column op other) : literal = other := by
  have htests := congrArg Select.tests h
  rw [tests_filtering, tests_filtering, List.append_cancel_left_eq, List.singleton_inj] at htests
  cases op with
  | like => exact (Test.like.inj htests).2
  | compare op => exact (Test.compare.inj htests).2.2

/-- The filter that is set replaces itself. -/
theorem cleared_filtering (apart : KeepsApart q column op) :
    cleared (filtering q column op literal) column op = cleared q column op := by
  have hrest := Predicate.remove_requiring (cleared_clears_iff.mpr apart)
    (isReplaced_test : Select.isReplaced column op (op.test column literal) = true)
  rw [cleared, filtering, Option.bind_some, hrest]
  rfl

theorem filtering_filtering (apart : KeepsApart q column op) :
    filtering (filtering q column op literal) column op literal =
      filtering q column op literal := by
  rw [filtering, cleared_filtering apart]
  rfl

theorem appendTest_eq (valid : q.validate = .ok ()) (t : Test) :
    q.appendTest t = .ok { q with filter := some (.requiring q.filter t) } := by
  rw [Select.appendTest, valid]
  cases q.filter <;> rfl

theorem setFilter_eq (valid : q.validate = .ok ())
    (hop : FilterOperator.ofText operator = .ok op) :
    setFilter schema options q column operator value =
      if Text.isBlankText value then .ok (cleared q column op)
      else (filterLiteral schema options q column op (Text.trim value)).map
        (filtering q column op) := by
  simp only [setFilter, valid, hop, removeTest_eq valid, Text.isEmpty_trim, bind, Except.bind]
  split
  · rfl
  · cases filterLiteral schema options q column op (Text.trim value) with
    | error e => rfl
    | ok literal => exact appendTest_eq (validate_cleared valid) _

theorem setFilter_eq_ok (h : setFilter schema options q column operator value = .ok edited) :
    q.validate = .ok () ∧ ∃ op, FilterOperator.ofText operator = .ok op ∧
      (Text.isBlankText value = true ∧ edited = cleared q column op ∨
        Text.isBlankText value = false ∧
          ∃ literal, filterLiteral schema options q column op (Text.trim value) = .ok literal ∧
            edited = filtering q column op literal) := by
  obtain ⟨⟨⟩, valid, hrest⟩ := bind_eq_ok_iff.mp h
  obtain ⟨op, hop, -⟩ := bind_eq_ok_iff.mp hrest
  refine ⟨valid, op, hop, ?_⟩
  rw [setFilter_eq valid hop] at h
  cases hblank : Text.isBlankText value with
  | true =>
      rw [hblank, if_pos rfl] at h
      exact .inl ⟨rfl, (Except.ok.inj h).symm⟩
  | false =>
      rw [hblank, if_neg Bool.false_ne_true] at h
      obtain ⟨literal, hliteral, rfl⟩ := map_eq_ok_iff.mp h
      exact .inr ⟨rfl, literal, hliteral, rfl⟩

theorem frame_setFilter (h : setFilter schema options q column operator value = .ok edited) :
    edited = { q with filter := edited.filter } := by
  obtain ⟨-, op, -, ⟨-, rfl⟩ | ⟨-, literal, -, rfl⟩⟩ := setFilter_eq_ok h
  · rfl
  · rfl

/-- The test that a typed value asks for, if it asks for one. -/
def requestedTests (schema : Schema) (options : Options) (q : Select) (column : String)
    (op : FilterOperator) (value : String) : List Test :=
  if Text.isBlankText value then []
  else
    match filterLiteral schema options q column op (Text.trim value) with
    | .ok literal => [op.test column literal]
    | .error _ => []

theorem tests_setFilter (h : setFilter schema options q column operator value = .ok edited)
    (hop : FilterOperator.ofText operator = .ok op) :
    edited.tests =
      (cleared q column op).tests ++ requestedTests schema options q column op value := by
  obtain ⟨-, op', hop', hcases⟩ := setFilter_eq_ok h
  obtain rfl : op = op' := Except.ok.inj (hop.symm.trans hop')
  unfold requestedTests
  rcases hcases with ⟨hblank, rfl⟩ | ⟨hblank, literal, hliteral, rfl⟩
  · simp [hblank]
  · simp [hblank, hliteral, tests_filtering]

/-- The type of a column is looked up in the tables, which a filter leaves as they are. -/
theorem filterLiteral_filtering :
    filterLiteral schema options (filtering q column op literal) column op value =
      filterLiteral schema options q column op value := rfl

theorem validate_filtering (valid : q.validate = .ok ()) (hname : column ≠ "") :
    (filtering q column op literal).validate = .ok () := by
  apply validate_of_tests valid
  rw [Predicate.testsOf_some, Predicate.tests_requiring, List.forall_mem_append]
  refine ⟨column_ne_of_validate (validate_cleared valid), ?_⟩
  intro t ht
  rwa [List.mem_singleton.mp ht, FilterOperator.column_test]

/-- A set filter is the only one of its kind on its column exactly if no test that it replaces
stood beside another one, and then setting it again changes nothing. All other tests stay in their
order, and so does the rest of the query. -/
theorem setFilter_replaces (hname : column ≠ "")
    (h : setFilter schema options q column operator value = .ok edited) :
    ∃ op, FilterOperator.ofText operator = .ok op ∧
      ((edited.tests.filter (Select.isReplaced column op)).length =
          (if Text.isBlankText value then 0 else 1) ↔ KeepsApart q column op) ∧
      (KeepsApart q column op →
        setFilter schema options edited column operator value = .ok edited) ∧
      edited.tests.filter (!Select.isReplaced column op ·) =
        q.tests.filter (!Select.isReplaced column op ·) ∧
      edited = { q with filter := edited.filter } := by
  have hframe := frame_setFilter h
  obtain ⟨valid, op, hop, hcases⟩ := setFilter_eq_ok h
  refine ⟨op, hop, ?_⟩
  rcases hcases with ⟨hblank, rfl⟩ | ⟨hblank, literal, hliteral, rfl⟩
  · refine ⟨?_, ?_, filter_tests_cleared, hframe⟩
    · simp [hblank, ← cleared_clears_iff]
    · intro apart
      rw [setFilter_eq (validate_cleared valid) hop, hblank, if_pos rfl,
        cleared_eq_self (cleared_clears_iff.mpr apart)]
  · refine ⟨?_, ?_, ?_, hframe⟩
    · rw [tests_filtering, List.filter_append, List.length_append]
      simp [hblank, ← cleared_clears_iff, isReplaced_test]
    · intro apart
      rw [setFilter_eq (validate_filtering valid hname) hop, hblank, if_neg Bool.false_ne_true,
        filterLiteral_filtering, hliteral]
      exact congrArg Except.ok (filtering_filtering apart)
    · rw [tests_filtering, List.filter_append, filter_tests_cleared]
      simp [isReplaced_test]

/-- The names of all carriers. -/
def carrierNames : Select :=
  .new [.identifier "name"] (.bare "carriers")

/-- The carriers in a range of names. -/
def carriersBetween : Select :=
  { items := [.identifier "*"]
    source := .bare "carriers"
    filter := some (.and (.test (.compare "name" .ge (.string "A")))
      (.test (.compare "name" .lt (.string "C"))))
    groupBy := []
    orderBy := [] }

theorem setFilter_replaces_no_pattern :
    ∃ edited, setFilter .flights .default carriersBetween "name" " Like " "B" = .ok edited ∧
      (edited.tests.filter (Select.isReplaced "name" .like)).length = 1 ∧
      setFilter .flights .default edited "name" " Like " "B" = .ok edited := by
  have happart : KeepsApart carriersBetween "name" .like := by
    rintro p ⟨⟩
    exact Predicate.keepsApart_of_count_le_one (by decide)
  refine ⟨_, rfl, ?_⟩
  obtain ⟨op, hop, hone, hagain, -⟩ := @setFilter_replaces .flights .default carriersBetween _
    "name" " Like " "B" (by decide) rfl
  obtain rfl : .like = op := Except.ok.inj hop
  exact ⟨hone.mpr happart, hagain happart⟩

/-- A range is two comparisons in one pair, of which only the first one goes. -/
theorem setFilter_keeps_upper_bound :
    ∃ edited, setFilter .flights .default carriersBetween "name" "=" "B" = .ok edited ∧
      edited.tests.filter (Select.isReplaced "name" (.compare .eq)) =
        [.compare "name" .lt (.string "C"), .compare "name" .eq (.string "B")] :=
  ⟨_, rfl, by decide⟩

/-! Sort keys -/

theorem removeOrder_eq_ok (h : removeOrder q text = .ok edited) :
    q.validate = .ok () ∧
      edited = { q with orderBy := q.orderBy.filter (!isKeyOf (projectedName text) ·.column) } := by
  obtain ⟨⟨⟩, valid, heq⟩ := bind_eq_ok_iff.mp h
  cases heq
  exact ⟨valid, rfl⟩

theorem orderBy_eq_ok {ascending : Option Bool} (h : orderBy schema q text ascending = .ok edited) :
    q.validate = .ok () ∧ isAvailable schema q text = true ∧
      edited = { q with
        orderBy := q.orderBy.filter (!isKeyOf (projectedName text) ·.column) ++
          [⟨.identifier text, ascending⟩] } := by
  obtain ⟨ordered, hordered, h⟩ := bind_eq_ok_iff.mp h
  obtain ⟨valid, rfl⟩ := removeOrder_eq_ok hordered
  split at h
  · rename_i havailable
    cases h
    exact ⟨valid, havailable, rfl⟩
  · cases h

end SelectTree.Edit
