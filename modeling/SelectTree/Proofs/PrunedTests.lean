import SelectTree.Proofs.Predicates

namespace SelectTree

/-! `WHERE` trees that are pruned to some of their tests. The tests that stay keep their order, one
pruning after another is one for both, and what is left is true where the whole tree is, once
every part without a test that stays says nothing. -/

/-- A tree in which truth values may stand in the place of subtrees. -/
inductive Outline
  | constant (value : Bool)
  | test (t : Test)
  | and (left right : Outline)
  | or (left right : Outline)
  deriving DecidableEq, Repr

def Outline.holds (row : Test → Bool) : Outline → Bool
  | .constant value => value
  | .test t => row t
  | .and left right => left.holds row && right.holds row
  | .or left right => left.holds row || right.holds row

namespace Predicate

/-- The tree with a truth value for every largest part that has no test to keep. Under a connective
that is its neutral element, and for the whole tree the given one. -/
def outline (keep : Test → Bool) : (neutral : Bool) → Predicate → Outline
  | neutral, .test t => if keep t then .test t else .constant neutral
  | neutral, .and left right =>
      if (and left right).tests.any keep then .and (left.outline keep true) (right.outline keep true)
      else .constant neutral
  | neutral, .or left right =>
      if (or left right).tests.any keep then .or (left.outline keep false) (right.outline keep false)
      else .constant neutral

variable {keep other : Test → Bool} {p : Predicate}

/-! What is left -/

theorem testsOf_eq_nil_iff {p : Option Predicate} : testsOf p = [] ↔ p = none := by
  cases p with
  | none => simp
  | some p => simp [p.tests_ne_nil]

theorem prune_eq_none_iff : p.prune keep = none ↔ ∀ t ∈ p.tests, keep t = false := by
  rw [← testsOf_eq_nil_iff, testsOf_prune, List.filter_eq_nil_iff]
  simp only [Bool.not_eq_true]

theorem prune_ne_none (h : p.tests.any keep = true) : p.prune keep ≠ none := by
  obtain ⟨t, hmem, ht⟩ := List.any_eq_true.mp h
  intro hnone
  rw [prune_eq_none_iff.mp hnone t hmem] at ht
  cases ht

theorem prune_eq_none (h : ¬ p.tests.any keep = true) : p.prune keep = none := by
  rw [prune_eq_none_iff]
  intro t hmem
  cases ht : keep t with
  | false => rfl
  | true => exact absurd (List.any_eq_true.mpr ⟨t, hmem, ht⟩) h

/-! Two prunings -/

section Rejoin

variable {join : Predicate → Predicate → Predicate} {left right : Option Predicate}

@[simp] theorem rejoin_none_left (join : Predicate → Predicate → Predicate)
    (right : Option Predicate) : rejoin join none right = right := by
  cases right with
  | none => rfl
  | some right => rfl

@[simp] theorem rejoin_none_right (join : Predicate → Predicate → Predicate)
    (left : Option Predicate) : rejoin join left none = left := by
  cases left with
  | none => rfl
  | some left => rfl

theorem rejoin_bind_prune
    (hjoin : ∀ left right, (join left right).prune other =
      rejoin join (left.prune other) (right.prune other)) :
    (rejoin join left right).bind (prune other) =
      rejoin join (left.bind (prune other)) (right.bind (prune other)) := by
  cases left with
  | none => simp
  | some left =>
      cases right with
      | none => simp
      | some right => exact hjoin left right

end Rejoin

/-- A part that vanishes at once is one that vanishes in one of two steps. -/
theorem prune_bind_prune (keep other : Test → Bool) (p : Predicate) :
    (p.prune keep).bind (prune other) = p.prune (fun t => keep t && other t) := by
  induction p with
  | test t =>
      cases hkeep : keep t with
      | true => simp [prune, hkeep]
      | false => simp [prune, hkeep]
  | and left right ihLeft ihRight =>
      rw [prune, rejoin_bind_prune fun _ _ => rfl, ihLeft, ihRight]
      rfl
  | or left right ihLeft ihRight =>
      rw [prune, rejoin_bind_prune fun _ _ => rfl, ihLeft, ihRight]
      rfl

/-! Truth -/

/-- The truth of a tree on a row, or the given value for a tree that is gone. -/
def holdsOr (row : Test → Bool) (absent : Bool) (p : Option Predicate) : Bool :=
  (p.map (·.holds row)).getD absent

@[simp] theorem holdsOr_none (row : Test → Bool) (absent : Bool) :
    holdsOr row absent none = absent := rfl

@[simp] theorem holdsOr_some (row : Test → Bool) (absent : Bool) (p : Predicate) :
    holdsOr row absent (some p) = p.holds row := rfl

/-- A side that is gone counts as the neutral element of the connective. -/
theorem holdsOr_rejoin {join : Predicate → Predicate → Predicate} {connective : Bool → Bool → Bool}
    {row : Test → Bool} {neutral absent : Bool} {left right : Option Predicate}
    (hjoin : ∀ left right, (join left right).holds row =
      connective (left.holds row) (right.holds row))
    (hleft : ∀ value, connective neutral value = value)
    (hright : ∀ value, connective value neutral = value) (h : rejoin join left right ≠ none) :
    holdsOr row absent (rejoin join left right) =
      connective (holdsOr row neutral left) (holdsOr row neutral right) := by
  cases left with
  | none =>
      cases right with
      | none => exact absurd rfl h
      | some right => simp [hleft]
  | some left =>
      cases right with
      | none => simp [hright]
      | some right => exact hjoin left right

theorem holdsOr_prune (keep : Test → Bool) (row : Test → Bool) (absent : Bool) (p : Predicate) :
    holdsOr row absent (p.prune keep) = (p.outline keep absent).holds row := by
  -- The value of a part that is gone is the one that its parent does not notice.
  induction p generalizing absent with
  | test t =>
      cases hkeep : keep t with
      | true => simp [prune, outline, hkeep, Outline.holds]
      | false => simp [prune, outline, hkeep, Outline.holds]
  | and left right ihLeft ihRight =>
      rw [outline]
      split
      · rename_i hsome
        have hne := prune_ne_none hsome
        rw [prune] at hne ⊢
        rw [holdsOr_rejoin (holds_and row) Bool.true_and Bool.and_true hne, ihLeft, ihRight]
        rfl
      · rename_i hnone
        rw [prune_eq_none hnone]
        rfl
  | or left right ihLeft ihRight =>
      rw [outline]
      split
      · rename_i hsome
        have hne := prune_ne_none hsome
        rw [prune] at hne ⊢
        rw [holdsOr_rejoin (holds_or row) Bool.false_or Bool.or_false hne, ihLeft, ihRight]
        rfl
      · rename_i hnone
        rw [prune_eq_none hnone]
        rfl

/-- Pruning keeps the accepted tests in order, and nothing where there are none. Two prunings are
one for both, in either order. On every row, what is left is true where the tree is true with the
neutral element of its parent for each largest part that is rejected. -/
theorem prune_keeps_tests_and_truth (p : Predicate) (keep other : Test → Bool) :
    testsOf (p.prune keep) = p.tests.filter keep ∧
    (p.prune keep = none ↔ ∀ t ∈ p.tests, keep t = false) ∧
    (p.prune keep).bind (prune other) = p.prune (fun t => keep t && other t) ∧
    (p.prune keep).bind (prune other) = (p.prune other).bind (prune keep) ∧
    ∀ row absent, holdsOr row absent (p.prune keep) = (p.outline keep absent).holds row := by
  refine ⟨testsOf_prune keep p, prune_eq_none_iff, prune_bind_prune keep other p, ?_, ?_⟩
  · calc (p.prune keep).bind (prune other)
        = p.prune (fun t => keep t && other t) := prune_bind_prune keep other p
      _ = p.prune (fun t => other t && keep t) := by simp only [Bool.and_comm]
      _ = (p.prune other).bind (prune keep) := (prune_bind_prune other keep p).symm
  · intro row absent
    exact holdsOr_prune keep row absent p

/-- A part of an `AND` is left out as if it were true, and the same part of an `OR` as if it were
false. -/
example (a b c : Test) (ha : a ≠ c) (hb : b ≠ c) :
    (and (test c) (or (test c) (and (test a) (test b)))).outline (· ≠ c) true =
      .and (.constant true) (.or (.constant false) (.and (.test a) (.test b))) := by
  simp [outline, ha, hb]

end Predicate

end SelectTree
