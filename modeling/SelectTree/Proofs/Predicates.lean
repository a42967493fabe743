import SelectTree.Edit.Predicates

namespace SelectTree

/-! What the edits of `WHERE` trees do to the tests at their leaves. -/

/-- The tests of a query from left to right. -/
def Select.tests (q : Select) : List Test :=
  (q.filter.map Predicate.tests).getD []

namespace Predicate

/-- The tests of a tree that may be gone. -/
def testsOf (p : Option Predicate) : List Test :=
  (p.map tests).getD []

@[simp] theorem testsOf_none : testsOf none = [] := rfl

@[simp] theorem testsOf_some (p : Predicate) : testsOf (some p) = p.tests := rfl

theorem testsOf_rejoin {join : Predicate → Predicate → Predicate}
    (hjoin : ∀ left right, (join left right).tests = left.tests ++ right.tests)
    (left right : Option Predicate) :
    testsOf (rejoin join left right) = testsOf left ++ testsOf right := by
  cases left with
  | none => cases right <;> rfl
  | some left =>
      cases right with
      | none => simp [rejoin]
      | some right => exact hjoin left right

theorem testsOf_prune (keep : Test → Bool) (p : Predicate) :
    testsOf (p.prune keep) = p.tests.filter keep := by
  induction p with
  | test t =>
      by_cases h : keep t = true
      · simp [prune, h]
      · simp [prune, h]
  | and left right ihLeft ihRight =>
      rw [prune, testsOf_rejoin tests_and, ihLeft, ihRight, tests_and, List.filter_append]
  | or left right ihLeft ihRight =>
      rw [prune, testsOf_rejoin tests_or, ihLeft, ihRight, tests_or, List.filter_append]

theorem prune_eq_self {keep : Test → Bool} {p : Predicate} (h : ∀ t ∈ p.tests, keep t = true) :
    p.prune keep = some p := by
  induction p with
  | test t => rw [prune, if_pos (h t (List.mem_singleton_self t))]
  | and left right ihLeft ihRight =>
      have hsides := List.forall_mem_append.mp h
      rw [prune, ihLeft hsides.1, ihRight hsides.2, rejoin]
  | or left right ihLeft ihRight =>
      have hsides := List.forall_mem_append.mp h
      rw [prune, ihLeft hsides.1, ihRight hsides.2, rejoin]

/-! Attached tests -/

@[simp] theorem tests_attach (p : Predicate) (t : Test) : (p.attach t).tests = p.tests ++ [t] := by
  unfold attach
  split <;> simp

/-- The tree after one more test is required of it, whether or not there was one. -/
def requiring : Option Predicate → Test → Predicate
  | none, t => .test t
  | some root, t => root.attach t

theorem tests_requiring (p : Option Predicate) (t : Test) :
    (requiring p t).tests = testsOf p ++ [t] := by
  cases p with
  | none => rfl
  | some root => exact tests_attach root t

/-! Collapsed pairs -/

section Collapse

variable {target : Test → Bool} {join : Predicate → Predicate → Predicate} {left right p : Predicate}

@[simp] theorem isTarget_test (t : Test) : (test t).isTarget target = target t := rfl

@[simp] theorem isTarget_and : (and left right).isTarget target = false := rfl

@[simp] theorem isTarget_or : (or left right).isTarget target = false := rfl

theorem exists_of_isTarget (h : p.isTarget target = true) : ∃ t, p = .test t ∧ target t = true := by
  cases p with
  | test t => exact ⟨t, rfl, h⟩
  | and left right => cases h
  | or left right => cases h

theorem isTarget_eq_false (h : ∀ t ∈ p.tests, target t = false) : p.isTarget target = false := by
  cases p with
  | test t => exact h t (by simp)
  | and left right => rfl
  | or left right => rfl

/-- What becomes of a pair, whichever way it joins its sides. -/
def collapsePair (target : Test → Bool) (join : Predicate → Predicate → Predicate)
    (left right : Predicate) : Predicate :=
  if left.isTarget target then right
  else if right.isTarget target then left
  else join (left.collapse target) (right.collapse target)

theorem collapse_and (target : Test → Bool) (left right : Predicate) :
    (and left right).collapse target = collapsePair target and left right := by
  rw [collapse, collapsePair]

theorem collapse_or (target : Test → Bool) (left right : Predicate) :
    (or left right).collapse target = collapsePair target or left right := by
  rw [collapse, collapsePair]

theorem remove_eq (target : Test → Bool) (p : Predicate) :
    p.remove target = if p.isTarget target then none else some (p.collapse target) := by
  cases p with
  | test t => rfl
  | and left right => rfl
  | or left right => rfl

theorem tests_collapsePair_sublist
    (hjoin : ∀ left right, (join left right).tests = left.tests ++ right.tests)
    (ihLeft : (left.collapse target).tests.Sublist left.tests)
    (ihRight : (right.collapse target).tests.Sublist right.tests) :
    (collapsePair target join left right).tests.Sublist (left.tests ++ right.tests) := by
  unfold collapsePair
  split
  · exact List.sublist_append_right left.tests right.tests
  · split
    · exact List.sublist_append_left left.tests right.tests
    · rw [hjoin]
      exact ihLeft.append ihRight

theorem tests_collapse_sublist (target : Test → Bool) (p : Predicate) :
    (p.collapse target).tests.Sublist p.tests := by
  induction p with
  | test t => exact List.Sublist.refl _
  | and left right ihLeft ihRight =>
      rw [collapse_and]
      exact tests_collapsePair_sublist tests_and ihLeft ihRight
  | or left right ihLeft ihRight =>
      rw [collapse_or]
      exact tests_collapsePair_sublist tests_or ihLeft ihRight

/-- Whatever is dropped is a target. -/
theorem filter_tests_collapsePair
    (hjoin : ∀ left right, (join left right).tests = left.tests ++ right.tests)
    (ihLeft : (left.collapse target).tests.filter (!target ·) = left.tests.filter (!target ·))
    (ihRight : (right.collapse target).tests.filter (!target ·) = right.tests.filter (!target ·)) :
    (collapsePair target join left right).tests.filter (!target ·) =
      (left.tests ++ right.tests).filter (!target ·) := by
  unfold collapsePair
  rw [List.filter_append]
  split
  · rename_i hleft
    obtain ⟨t, rfl, ht⟩ := exists_of_isTarget hleft
    simp [ht]
  · split
    · rename_i hright
      obtain ⟨t, rfl, ht⟩ := exists_of_isTarget hright
      simp [ht]
    · rw [hjoin, List.filter_append, ihLeft, ihRight]

theorem filter_tests_collapse (target : Test → Bool) (p : Predicate) :
    (p.collapse target).tests.filter (!target ·) = p.tests.filter (!target ·) := by
  induction p with
  | test t => rfl
  | and left right ihLeft ihRight =>
      rw [collapse_and]
      exact filter_tests_collapsePair tests_and ihLeft ihRight
  | or left right ihLeft ihRight =>
      rw [collapse_or]
      exact filter_tests_collapsePair tests_or ihLeft ihRight

theorem testsOf_remove_sublist (target : Test → Bool) (p : Predicate) :
    (testsOf (p.remove target)).Sublist p.tests := by
  rw [remove_eq]
  split
  · exact List.nil_sublist _
  · exact tests_collapse_sublist target p

theorem filter_testsOf_remove (target : Test → Bool) (p : Predicate) :
    (testsOf (p.remove target)).filter (!target ·) = p.tests.filter (!target ·) := by
  rw [remove_eq]
  split
  · rename_i hp
    obtain ⟨t, rfl, ht⟩ := exists_of_isTarget hp
    simp [ht]
  · exact filter_tests_collapse target p

/-! Targets that are all dropped -/

/-- A side that is a target has no target on the other side. -/
def StandsApart (target : Test → Bool) (left right : Predicate) : Prop :=
  (left.isTarget target = true → ∀ t ∈ right.tests, target t = false) ∧
    (right.isTarget target = true → ∀ t ∈ left.tests, target t = false)

/-- No pair of the tree holds a target beside other targets. -/
def KeepsApart (target : Test → Bool) : Predicate → Prop
  | .test _ => True
  | .and left right =>
      (left.KeepsApart target ∧ right.KeepsApart target) ∧ StandsApart target left right
  | .or left right =>
      (left.KeepsApart target ∧ right.KeepsApart target) ∧ StandsApart target left right

theorem standsApart_of_count_le_one
    (h : ((left.tests ++ right.tests).filter target).length ≤ 1) :
    StandsApart target left right := by
  rw [List.filter_append, List.length_append] at h
  constructor
  · intro hleft
    obtain ⟨t, rfl, ht⟩ := exists_of_isTarget hleft
    have hnone : right.tests.filter target = [] := by
      simpa [ht, Nat.add_comm 1] using h
    simpa using hnone
  · intro hright
    obtain ⟨t, rfl, ht⟩ := exists_of_isTarget hright
    have hnone : left.tests.filter target = [] := by simpa [ht] using h
    simpa using hnone

theorem keepsApart_of_count_le_one (h : (p.tests.filter target).length ≤ 1) :
    p.KeepsApart target := by
  have hsides : ∀ {left right : Predicate},
      ((left.tests ++ right.tests).filter target).length ≤ 1 →
        (left.tests.filter target).length ≤ 1 ∧ (right.tests.filter target).length ≤ 1 := by
    intro left right h
    rw [List.filter_append, List.length_append] at h
    omega
  induction p with
  | test t => trivial
  | and left right ihLeft ihRight =>
      exact ⟨⟨ihLeft (hsides h).1, ihRight (hsides h).2⟩, standsApart_of_count_le_one h⟩
  | or left right ihLeft ihRight =>
      exact ⟨⟨ihLeft (hsides h).1, ihRight (hsides h).2⟩, standsApart_of_count_le_one h⟩

theorem keepsApart_of_forall (h : ∀ t ∈ p.tests, target t = false) : p.KeepsApart target := by
  apply keepsApart_of_count_le_one
  have hnone : p.tests.filter target = [] := by simpa using h
  simp [hnone]

theorem collapsePair_clears_iff
    (hjoin : ∀ left right, (join left right).tests = left.tests ++ right.tests)
    (ihLeft : left.isTarget target = false →
      ((∀ t ∈ (left.collapse target).tests, target t = false) ↔ left.KeepsApart target))
    (ihRight : right.isTarget target = false →
      ((∀ t ∈ (right.collapse target).tests, target t = false) ↔ right.KeepsApart target)) :
    (∀ t ∈ (collapsePair target join left right).tests, target t = false) ↔
      (left.KeepsApart target ∧ right.KeepsApart target) ∧ StandsApart target left right := by
  unfold collapsePair
  by_cases hleft : left.isTarget target = true
  · rw [if_pos hleft]
    constructor
    · intro hright
      obtain ⟨t, rfl, -⟩ := exists_of_isTarget hleft
      refine ⟨⟨trivial, keepsApart_of_forall hright⟩, fun _ => hright, ?_⟩
      intro htarget
      rw [isTarget_eq_false hright] at htarget
      cases htarget
    · exact fun hapart => hapart.2.1 hleft
  · rw [if_neg hleft]
    by_cases hright : right.isTarget target = true
    · rw [if_pos hright]
      constructor
      · intro hall
        obtain ⟨t, rfl, -⟩ := exists_of_isTarget hright
        exact ⟨⟨keepsApart_of_forall hall, trivial⟩, fun htarget => absurd htarget hleft,
          fun _ => hall⟩
      · exact fun hapart => hapart.2.2 hright
    · rw [if_neg hright, hjoin, List.forall_mem_append, ihLeft (Bool.eq_false_iff.mpr hleft),
        ihRight (Bool.eq_false_iff.mpr hright)]
      exact ⟨fun hsides => ⟨hsides, fun htarget => absurd htarget hleft,
        fun htarget => absurd htarget hright⟩, And.left⟩

theorem collapse_clears_iff (h : p.isTarget target = false) :
    (∀ t ∈ (p.collapse target).tests, target t = false) ↔ p.KeepsApart target := by
  induction p with
  | test t =>
      rw [isTarget_test] at h
      simpa [collapse, KeepsApart] using h
  | and left right ihLeft ihRight =>
      rw [collapse_and]
      exact collapsePair_clears_iff tests_and ihLeft ihRight
  | or left right ihLeft ihRight =>
      rw [collapse_or]
      exact collapsePair_clears_iff tests_or ihLeft ihRight

/-- All targets are gone exactly if each of them was the only one in its pair. -/
theorem remove_clears_iff :
    (∀ t ∈ testsOf (p.remove target), target t = false) ↔ p.KeepsApart target := by
  rw [remove_eq]
  split
  · rename_i hp
    obtain ⟨t, rfl, -⟩ := exists_of_isTarget hp
    simp [KeepsApart]
  · rename_i hp
    exact collapse_clears_iff (Bool.eq_false_iff.mpr hp)

/-! Trees without targets -/

theorem collapse_eq_self (h : ∀ t ∈ p.tests, target t = false) : p.collapse target = p := by
  have hpair : ∀ {join : Predicate → Predicate → Predicate} {left right : Predicate},
      (∀ t ∈ left.tests ++ right.tests, target t = false) →
        left.collapse target = left → right.collapse target = right →
          collapsePair target join left right = join left right := by
    intro join left right h hleft hright
    rw [List.forall_mem_append] at h
    rw [collapsePair, isTarget_eq_false h.1, isTarget_eq_false h.2, hleft, hright]
    rfl
  induction p with
  | test t => rfl
  | and left right ihLeft ihRight =>
      have hsides := List.forall_mem_append.mp h
      rw [collapse_and, hpair h (ihLeft hsides.1) (ihRight hsides.2)]
  | or left right ihLeft ihRight =>
      have hsides := List.forall_mem_append.mp h
      rw [collapse_or, hpair h (ihLeft hsides.1) (ihRight hsides.2)]

theorem remove_eq_self (h : ∀ t ∈ p.tests, target t = false) : p.remove target = some p := by
  rw [remove_eq, isTarget_eq_false h, collapse_eq_self h]
  rfl

/-- Removing the one target that was attached gives the tree back. -/
theorem remove_attach (h : ∀ t ∈ p.tests, target t = false) {t : Test} (ht : target t = true) :
    (p.attach t).remove target = some p := by
  have hlast : ∀ q : Predicate, q.isTarget target = false →
      (and q (test t)).collapse target = q := by
    intro q hq
    rw [collapse_and, collapsePair, hq, isTarget_test, ht]
    rfl
  have hinside : ∀ {join : Predicate → Predicate → Predicate} {left : Predicate} {s : Test},
      (∀ u ∈ left.tests ++ [s], target u = false) →
        collapsePair target join left (and (test s) (test t)) = join left (test s) := by
    intro join left s h
    rw [List.forall_mem_append] at h
    rw [collapsePair, isTarget_eq_false h.1, isTarget_and, collapse_eq_self h.1,
      hlast (test s) (h.2 s (by simp))]
    rfl
  rw [remove_eq]
  unfold attach
  split
  · rw [isTarget_and, collapse_and, hinside h]
    rfl
  · rw [isTarget_or, collapse_or, hinside h]
    rfl
  · rw [isTarget_and, hlast p (isTarget_eq_false h)]
    rfl

theorem remove_requiring {p : Option Predicate} (h : ∀ t ∈ testsOf p, target t = false) {t : Test}
    (ht : target t = true) : (requiring p t).remove target = p := by
  cases p with
  | none => simp [requiring, remove, ht]
  | some root => exact remove_attach h ht

end Collapse

/-! Trees without `OR` -/

/-- Holds of a tree whose tests are all required. -/
def IsConjunction : Predicate → Prop
  | .test _ => True
  | .and left right => left.IsConjunction ∧ right.IsConjunction
  | .or _ _ => False

section Conjunction

variable {p : Predicate}

theorem IsConjunction.holds_eq (h : p.IsConjunction) (row : Test → Bool) :
    p.holds row = p.tests.all row := by
  induction p with
  | test t => simp
  | and left right ihLeft ihRight => simp [ihLeft h.1, ihRight h.2]
  | or left right => exact h.elim

theorem IsConjunction.attach (h : p.IsConjunction) (t : Test) : (p.attach t).IsConjunction := by
  unfold Predicate.attach
  split
  · exact ⟨h.1, trivial, trivial⟩
  · exact h.elim
  · exact ⟨h, trivial⟩

theorem IsConjunction.collapse (h : p.IsConjunction) (target : Test → Bool) :
    (p.collapse target).IsConjunction := by
  induction p with
  | test t => trivial
  | and left right ihLeft ihRight =>
      rw [collapse_and, collapsePair]
      split
      · exact h.2
      · split
        · exact h.1
        · exact ⟨ihLeft h.1, ihRight h.2⟩
  | or left right => exact h.elim

theorem IsConjunction.of_mem_remove (h : p.IsConjunction) {target : Test → Bool} {rest : Predicate}
    (hrest : rest ∈ p.remove target) : rest.IsConjunction := by
  rw [remove_eq] at hrest
  split at hrest
  · cases hrest
  · cases hrest
    exact h.collapse target

theorem IsConjunction.of_mem_prune (h : p.IsConjunction) {keep : Test → Bool} {rest : Predicate}
    (hrest : rest ∈ p.prune keep) : rest.IsConjunction := by
  induction p generalizing rest with
  | test t =>
      rw [prune] at hrest
      split at hrest
      · cases hrest
        trivial
      · cases hrest
  | and left right ihLeft ihRight =>
      rw [prune] at hrest
      cases hleft : left.prune keep with
      | none =>
          cases hright : right.prune keep with
          | none =>
              rw [hleft, hright] at hrest
              cases hrest
          | some other =>
              rw [hleft, hright] at hrest
              cases hrest
              exact ihRight h.2 hright
      | some first =>
          cases hright : right.prune keep with
          | none =>
              rw [hleft, hright] at hrest
              cases hrest
              exact ihLeft h.1 hleft
          | some other =>
              rw [hleft, hright] at hrest
              cases hrest
              exact ⟨ihLeft h.1 hleft, ihRight h.2 hright⟩
  | or left right => exact h.elim

theorem isConjunction_requiring {filter : Option Predicate} (h : ∀ p ∈ filter, p.IsConjunction)
    (t : Test) : (requiring filter t).IsConjunction := by
  cases filter with
  | none => trivial
  | some root => exact (h root rfl).attach t

end Conjunction

end Predicate

theorem Select.tests_eq (q : Select) : q.tests = Predicate.testsOf q.filter := rfl

theorem Select.tests_pruneTests (q : Select) (keep : Test → Bool) :
    (q.pruneTests keep).tests = q.tests.filter keep := by
  unfold tests pruneTests
  cases q.filter with
  | none => rfl
  | some p => exact Predicate.testsOf_prune keep p

end SelectTree
