import SelectTree.Proofs.Filters

namespace SelectTree

/-! Tests that are dropped from a `WHERE` tree. A pair that loses a test becomes its other side,
whichever way the test is dropped, unless that side holds a test to be dropped as well. -/

namespace Predicate

section Dropped

variable {target : Test → Bool} {join : Predicate → Predicate → Predicate}
  {left right p : Predicate}

/-! Two ways to drop tests -/

theorem prune_of_isTarget (h : p.isTarget target = true) : p.prune (!target ·) = none := by
  obtain ⟨t, rfl, ht⟩ := exists_of_isTarget h
  simp [prune, ht]

theorem prune_of_no_target (h : ∀ t ∈ p.tests, target t = false) : p.prune (!target ·) = some p :=
  prune_eq_self fun t ht => by simp [h t ht]

theorem rejoin_prune_eq (apart : StandsApart target left right)
    (ihLeft : left.isTarget target = false → left.prune (!target ·) = some (left.collapse target))
    (ihRight : right.isTarget target = false →
      right.prune (!target ·) = some (right.collapse target)) :
    rejoin join (left.prune (!target ·)) (right.prune (!target ·)) =
      some (collapsePair target join left right) := by
  unfold collapsePair
  by_cases hleft : left.isTarget target = true
  · rw [if_pos hleft, prune_of_isTarget hleft, prune_of_no_target (apart.1 hleft)]
    rfl
  · rw [if_neg hleft]
    by_cases hright : right.isTarget target = true
    · rw [if_pos hright, prune_of_isTarget hright, prune_of_no_target (apart.2 hright)]
      rfl
    · rw [if_neg hright, ihLeft (Bool.eq_false_iff.mpr hleft),
        ihRight (Bool.eq_false_iff.mpr hright)]
      rfl

theorem prune_eq_collapse (apart : p.KeepsApart target) (h : p.isTarget target = false) :
    p.prune (!target ·) = some (p.collapse target) := by
  induction p with
  | test t =>
      rw [isTarget_test] at h
      simp [prune, collapse, h]
  | and left right ihLeft ihRight =>
      obtain ⟨⟨hleft, hright⟩, hpair⟩ := apart
      rw [prune, collapse_and]
      exact rejoin_prune_eq hpair (ihLeft hleft) (ihRight hright)
  | or left right ihLeft ihRight =>
      obtain ⟨⟨hleft, hright⟩, hpair⟩ := apart
      rw [prune, collapse_or]
      exact rejoin_prune_eq hpair (ihLeft hleft) (ihRight hright)

/-- The two ways agree exactly if no pair holds a target beside other targets. -/
theorem remove_eq_prune_iff : p.remove target = p.prune (!target ·) ↔ p.KeepsApart target := by
  constructor
  · intro heq
    rw [← remove_clears_iff, heq, testsOf_prune]
    intro t ht
    simpa using (List.mem_filter.mp ht).2
  · intro apart
    rw [remove_eq]
    split
    · rename_i hp
      exact (prune_of_isTarget hp).symm
    · rename_i hp
      exact (prune_eq_collapse apart (Bool.eq_false_iff.mpr hp)).symm

/-! How many tests are dropped -/

theorem length_collapsePair_lt
    (hjoin : ∀ left right, (join left right).tests = left.tests ++ right.tests)
    (ihLeft : left.isTarget target = false → (∃ t ∈ left.tests, target t = true) →
      (left.collapse target).tests.length < left.tests.length)
    (ihRight : right.isTarget target = false → (∃ t ∈ right.tests, target t = true) →
      (right.collapse target).tests.length < right.tests.length)
    (h : ∃ t ∈ left.tests ++ right.tests, target t = true) :
    (collapsePair target join left right).tests.length < (left.tests ++ right.tests).length := by
  have hleftPos := List.length_pos_iff.mpr left.tests_ne_nil
  have hrightPos := List.length_pos_iff.mpr right.tests_ne_nil
  unfold collapsePair
  by_cases hleft : left.isTarget target = true
  · rw [if_pos hleft, List.length_append]
    omega
  · rw [if_neg hleft]
    by_cases hright : right.isTarget target = true
    · rw [if_pos hright, List.length_append]
      omega
    · rw [if_neg hright, hjoin, List.length_append, List.length_append]
      have hleftLe := (tests_collapse_sublist target left).length_le
      have hrightLe := (tests_collapse_sublist target right).length_le
      obtain ⟨t, hmem, ht⟩ := h
      rcases List.mem_append.mp hmem with hmem | hmem
      · have hlt := ihLeft (Bool.eq_false_iff.mpr hleft) ⟨t, hmem, ht⟩
        omega
      · have hlt := ihRight (Bool.eq_false_iff.mpr hright) ⟨t, hmem, ht⟩
        omega

theorem length_collapse_lt (hp : p.isTarget target = false) (h : ∃ t ∈ p.tests, target t = true) :
    (p.collapse target).tests.length < p.tests.length := by
  induction p with
  | test t =>
      obtain ⟨other, hmem, hother⟩ := h
      rw [List.mem_singleton.mp hmem] at hother
      rw [isTarget_test, hother] at hp
      cases hp
  | and left right ihLeft ihRight =>
      rw [collapse_and]
      exact length_collapsePair_lt tests_and ihLeft ihRight h
  | or left right ihLeft ihRight =>
      rw [collapse_or]
      exact length_collapsePair_lt tests_or ihLeft ihRight h

/-- Where there are targets, some go. -/
theorem length_testsOf_remove_lt (h : ∃ t ∈ p.tests, target t = true) :
    (testsOf (p.remove target)).length < p.tests.length := by
  rw [remove_eq]
  split
  · exact List.length_pos_iff.mpr p.tests_ne_nil
  · rename_i hp
    exact length_collapse_lt (Bool.eq_false_iff.mpr hp) h

end Dropped

end Predicate

namespace Edit

variable {q : Select} {column : String} {op other : FilterOperator} {literal : Literal}

theorem length_tests_cleared_lt (h : ∃ t ∈ q.tests, Select.isReplaced column op t = true) :
    (cleared q column op).tests.length < q.tests.length := by
  unfold Select.tests cleared at *
  cases hfilter : q.filter with
  | none => simp [hfilter] at h
  | some p =>
      rw [hfilter] at h
      exact Predicate.length_testsOf_remove_lt h

theorem cleared_eq_pruneTests (apart : KeepsApart q column op) :
    cleared q column op = q.pruneTests (!Select.isReplaced column op ·) := by
  unfold cleared Select.pruneTests
  cases hfilter : q.filter with
  | none => rfl
  | some p =>
      rw [Option.bind_some, Option.bind_some, Predicate.remove_eq_prune_iff.mpr (apart p hfilter)]

theorem keepsApart_of_count (h : (q.tests.filter (Select.isReplaced column op)).length ≤ 1) :
    KeepsApart q column op := by
  intro p hp
  apply Predicate.keepsApart_of_count_le_one
  rwa [Select.tests_eq, hp] at h

/-- Removing a filter drops nothing but tests that it replaces, and at least one of them where
there are any; a single one is dropped as pruning drops it. A test that is appended comes after
all others. Both can be done to every valid query. -/
theorem testEdits_keep_tests (valid : q.validate = .ok ()) (column : String) (op : FilterOperator) :
    (∃ shorter, q.removeTest column op = .ok shorter ∧
      shorter.tests.Sublist q.tests ∧
      shorter.tests.filter (!Select.isReplaced column op ·) =
        q.tests.filter (!Select.isReplaced column op ·) ∧
      ((∃ t ∈ q.tests, Select.isReplaced column op t = true) →
        shorter.tests.length < q.tests.length) ∧
      ((q.tests.filter (Select.isReplaced column op)).length ≤ 1 →
        shorter = q.pruneTests (!Select.isReplaced column op ·))) ∧
    ∀ literal, ∃ longer, q.appendTest (op.test column literal) = .ok longer ∧
      longer.tests = q.tests ++ [op.test column literal] := by
  constructor
  · exact ⟨cleared q column op, removeTest_eq valid, tests_cleared_sublist, filter_tests_cleared,
      length_tests_cleared_lt, fun hcount => cleared_eq_pruneTests (keepsApart_of_count hcount)⟩
  · intro literal
    exact ⟨_, appendTest_eq valid _, Predicate.tests_requiring _ _⟩

/-- Both bounds of a range are replaced by one comparison, and at least one goes. -/
theorem testEdits_keep_tests_range :
    ∃ shorter, carriersBetween.removeTest "name" (.compare .eq) = .ok shorter ∧
      shorter.tests.Sublist carriersBetween.tests ∧
      shorter.tests.length < carriersBetween.tests.length :=
  have h := (testEdits_keep_tests (q := carriersBetween) rfl "name" (.compare .eq)).1
  have ⟨shorter, heq, hsublist, _, hshorter, _⟩ := h
  ⟨shorter, heq, hsublist, hshorter ⟨.compare "name" .ge (.string "A"), by decide, by decide⟩⟩

/-! A test that is appended and removed again -/

/-- Which tests a filter replaces depends on its kind, not on its comparison. -/
theorem isReplaced_congr (hkind : other = .like ↔ op = .like) :
    Select.isReplaced column other = Select.isReplaced column op := by
  funext t
  cases op <;> cases other <;> cases t <;> simp_all [Select.isReplaced, FilterOperator.targets]

/-- The removal of a filter undoes the appending of one of its kind where it replaces no other
test. -/
theorem removeTest_appendTest (valid : q.validate = .ok ()) (hname : column ≠ "")
    (hfree : ∀ t ∈ q.tests, Select.isReplaced column op t = false)
    (hkind : other = .like ↔ op = .like) (literal : Literal) :
    (q.appendTest (op.test column literal) >>= (·.removeTest column other)) = .ok q := by
  have hcleared : cleared q column op = q := cleared_eq_self hfree
  have happend : q.appendTest (op.test column literal) = .ok (filtering q column op literal) := by
    rw [appendTest_eq valid, filtering, hcleared]
  have apart : KeepsApart q column op := cleared_clears_iff.mp (by rwa [hcleared])
  calc (q.appendTest (op.test column literal) >>= (·.removeTest column other))
      = (filtering q column op literal).removeTest column other := by rw [happend]; rfl
    _ = .ok (cleared (filtering q column op literal) column other) :=
        removeTest_eq (validate_filtering valid hname)
    _ = .ok (cleared (filtering q column op literal) column op) := by
        rw [cleared, isReplaced_congr hkind, cleared]
    _ = .ok q := by rw [cleared_filtering apart, hcleared]

theorem removeTest_appendTest_range :
    (carriersBetween.appendTest (.compare "carrier_id" .eq (.number "7")) >>=
      (·.removeTest "carrier_id" (.compare .lt))) = .ok carriersBetween :=
  @removeTest_appendTest carriersBetween "carrier_id" (.compare .eq) (.compare .lt) rfl (by decide)
    (by decide) (by decide) (.number "7")

end Edit

end SelectTree
