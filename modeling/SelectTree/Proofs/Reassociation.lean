import SelectTree.Proofs.WellFormed

namespace SelectTree

/-! Trees in which chains of one connective associate to the left, as they are read from a text. -/

namespace Predicate

/-- A conjunction with a whole chain on its right. -/
def andChain (left : Predicate) : Predicate → Predicate
  | .and first last => .and (left.andChain first) last
  | p => .and left p

def orChain (left : Predicate) : Predicate → Predicate
  | .or first last => .or (left.orChain first) last
  | p => .or left p

def reassociated : Predicate → Predicate
  | .test t => .test t
  | .and left right => left.reassociated.andChain right.reassociated
  | .or left right => left.reassociated.orChain right.reassociated

theorem andChain_of_not_and (left : Predicate) {p : Predicate}
    (h : ∀ first last, p ≠ .and first last) : left.andChain p = .and left p := by
  cases p with
  | and first last => exact absurd rfl (h first last)
  | _ => rfl

theorem orChain_of_not_or (left : Predicate) {p : Predicate}
    (h : ∀ first last, p ≠ .or first last) : left.orChain p = .or left p := by
  cases p with
  | or first last => exact absurd rfl (h first last)
  | _ => rfl

theorem andChain_ne_or (left right first last : Predicate) : left.andChain right ≠ .or first last := by
  cases right <;> exact nofun

theorem orChain_ne_and (left right first last : Predicate) : left.orChain right ≠ .and first last := by
  cases right <;> exact nofun

theorem andChain_andChain (left middle right : Predicate) :
    (left.andChain middle).andChain right = left.andChain (middle.andChain right) := by
  induction right with
  | and first last ih _ => simp only [andChain, ih]
  | _ => rfl

theorem orChain_orChain (left middle right : Predicate) :
    (left.orChain middle).orChain right = left.orChain (middle.orChain right) := by
  induction right with
  | or first last ih _ => simp only [orChain, ih]
  | _ => rfl

@[simp] theorem tests_andChain (left right : Predicate) :
    (left.andChain right).tests = left.tests ++ right.tests := by
  induction right with
  | and first last ih _ => simp [andChain, ih]
  | _ => rfl

@[simp] theorem tests_orChain (left right : Predicate) :
    (left.orChain right).tests = left.tests ++ right.tests := by
  induction right with
  | or first last ih _ => simp [orChain, ih]
  | _ => rfl

@[simp] theorem holds_andChain (row : Test → Bool) (left right : Predicate) :
    (left.andChain right).holds row = (left.holds row && right.holds row) := by
  induction right with
  | and first last ih _ => simp [andChain, ih, Bool.and_assoc]
  | _ => rfl

@[simp] theorem holds_orChain (row : Test → Bool) (left right : Predicate) :
    (left.orChain right).holds row = (left.holds row || right.holds row) := by
  induction right with
  | or first last ih _ => simp [orChain, ih, Bool.or_assoc]
  | _ => rfl

/-- The same tests in the same order. -/
theorem tests_reassociated (p : Predicate) : p.reassociated.tests = p.tests := by
  induction p with
  | test t => rfl
  | and left right ihLeft ihRight => simp [reassociated, ihLeft, ihRight]
  | or left right ihLeft ihRight => simp [reassociated, ihLeft, ihRight]

/-- The same truth on every row. -/
theorem holds_reassociated (row : Test → Bool) (p : Predicate) :
    p.reassociated.holds row = p.holds row := by
  induction p with
  | test t => rfl
  | and left right ihLeft ihRight => simp [reassociated, ihLeft, ihRight]
  | or left right ihLeft ihRight => simp [reassociated, ihLeft, ihRight]

end Predicate

end SelectTree
