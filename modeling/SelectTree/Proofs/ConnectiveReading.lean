import SelectTree.Proofs.ConjunctionReading

namespace SelectTree

open Sql Sql.Grammar

/-! Conditions are read from their tests, in every way of reading that goes through parentheses and
connectives. -/

namespace Sql.Grammar

/-- A way of reading texts as expressions: a text, its tokens and the expression, where more than
`m` layers are left and all operators bind more tightly than `strength`. -/
abbrev Reading : Type :=
  (m strength : Nat) → String → List Token → Expr → Prop

/-- What parentheses and connectives do to a way of reading. -/
structure Reading.KeepsConnectives (d : Dialect) (R : Reading) : Prop where
  mono : ∀ {m strength text ts e}, R m strength text ts e →
    ∀ {k weaker}, m ≤ k → weaker ≤ strength → R k weaker text ts e
  parenthesized : ∀ {m text ts e}, R m 0 text ts e → ∀ strength,
    R (m + 1) strength (Text.parenthesized text) (.symbol .lparen :: ts ++ [.symbol .rparen])
      (.nested e)
  and : ∀ {m text text' ts us left right},
    R (m + 1) (Binding.and.strength d - 1) text ts left →
    R m (Binding.and.strength d) text' us right →
    R (m + 1) (Binding.and.strength d - 1) (text ++ " AND " ++ text')
      (ts ++ Keyword.AND.token :: us) (.binary left .and right)
  or : ∀ {m text text' ts us left right},
    R (m + 1) (Binding.or.strength d - 1) text ts left →
    R m (Binding.or.strength d) text' us right →
    R (m + 1) (Binding.or.strength d - 1) (text ++ " OR " ++ text')
      (ts ++ Keyword.OR.token :: us) (.binary left .or right)

end Sql.Grammar

variable {d : Dialect} {R : Reading} {m depth : Nat}

/-- The text of a test is read as the test, within `depth` layers. -/
def Test.IsReadBy (d : Dialect) (R : Reading) (depth : Nat) (t : Test) : Prop :=
  ∃ m ts e, m < depth ∧ R m (Binding.and.strength d) t.sql ts e ∧ e.predicate = .ok (.test t)

theorem Test.IsReadBy.mono {t : Test} (h : t.IsReadBy d R depth) {depth' : Nat}
    (hdepth : depth ≤ depth') : t.IsReadBy d R depth' := by
  obtain ⟨m, ts, e, hm, hread, htree⟩ := h
  exact ⟨m, ts, e, Nat.lt_of_lt_of_le hm hdepth, hread, htree⟩

theorem Test.IsReadBy.exists_reading (hR : R.KeepsConnectives d) {t : Test}
    (h : t.IsReadBy d R (m + 1)) :
    ∃ ts e, R m (Binding.and.strength d) t.sql ts e ∧ e.predicate = .ok (.test t) := by
  obtain ⟨k, ts, e, hk, hread, htree⟩ := h
  exact ⟨ts, e, hR.mono hread (Nat.le_of_lt_succ hk) (Nat.le_refl _), htree⟩

namespace Predicate

/-- All tests of a condition are read where they stand. -/
def IsReadBy (d : Dialect) (R : Reading) : (depth : Nat) → Predicate → Prop
  | depth, .test t => t.IsReadBy d R depth
  | depth, .and left right =>
      left.IsReadBy d R (depth - left.parentheses) ∧
        right.IsReadBy d R (depth - 1 - right.parentheses)
  | depth, .or left right => left.IsReadBy d R depth ∧ right.IsReadBy d R (depth - 1)

namespace IsReadBy

variable {p : Predicate}

theorem pos (h : p.IsReadBy d R depth) : 0 < depth := by
  induction p generalizing depth with
  | test t =>
      obtain ⟨m, -, -, hm, -⟩ := h
      exact Nat.zero_lt_of_lt hm
  | and left right ih _ =>
      have hleft := ih h.1
      omega
  | or left right ih _ => exact ih h.1

theorem mono (h : p.IsReadBy d R depth) {depth' : Nat} (hdepth : depth ≤ depth') :
    p.IsReadBy d R depth' := by
  induction p generalizing depth depth' with
  | test t => exact Test.IsReadBy.mono h hdepth
  | and left right ihLeft ihRight => exact ⟨ihLeft h.1 (by omega), ihRight h.2 (by omega)⟩
  | or left right ihLeft ihRight => exact ⟨ihLeft h.1 hdepth, ihRight h.2 (by omega)⟩

end IsReadBy

/-! Their texts -/

/-- The text of a side of a conjunction. -/
def conjunct (p : Predicate) : String :=
  if p.isOr then Text.parenthesized p.sql else p.sql

theorem conjunct_and (left right : Predicate) :
    (and left right).conjunct = left.conjunct ++ " AND " ++ right.conjunct :=
  rfl

/-- Every operator of the text of a predicate binds more tightly. -/
def strength (d : Dialect) : Predicate → Nat
  | .test _ => Binding.and.strength d
  | .and _ _ => Binding.and.strength d - 1
  | .or _ _ => Binding.or.strength d - 1

theorem strength_or_le : Binding.or.strength d ≤ Binding.and.strength d - 1 := by
  cases d <;> decide

theorem strength_or_sub_le (p : Predicate) : Binding.or.strength d - 1 ≤ p.strength d := by
  have hle := strength_or_le (d := d)
  cases p <;> simp only [strength] <;> omega

/-- The text of a predicate is read alone and at the end of a chain. -/
structure IsOperand (d : Dialect) (R : Reading) (p : Predicate) : Prop where
  alone : ∀ {m}, p.IsReadBy d R (m + 1) →
    ∃ ts e, R m (p.strength d) p.sql ts e ∧ e.predicate = .ok p.reassociated
  afterAnd : ∀ {m text ts left leftTree}, p.IsReadBy d R (m + 1 - p.parentheses) →
    R (m + 1) (Binding.and.strength d - 1) text ts left → left.predicate = .ok leftTree →
    ∃ us e, R (m + 1) (Binding.and.strength d - 1) (text ++ " AND " ++ p.conjunct) us e ∧
      e.predicate = .ok (leftTree.andChain p.reassociated)
  afterOr : ∀ {m text ts left leftTree}, p.IsReadBy d R (m + 1) →
    R (m + 1) (Binding.or.strength d - 1) text ts left → left.predicate = .ok leftTree →
    ∃ us e, R (m + 1) (Binding.or.strength d - 1) (text ++ " OR " ++ p.sql) us e ∧
      e.predicate = .ok (leftTree.orChain p.reassociated)

variable (hR : R.KeepsConnectives d)
include hR

theorem isOperand_test (t : Test) : IsOperand d R (.test t) where
  alone := Test.IsReadBy.exists_reading hR
  afterAnd := by
    intro m text ts left leftTree hread hleft hleftTree
    obtain ⟨us, e, hright, he⟩ := Test.IsReadBy.exists_reading hR hread
    refine ⟨_, _, hR.and hleft hright, ?_⟩
    simp only [Expr.predicate, hleftTree, he]
    rfl
  afterOr := by
    intro m text ts left leftTree hread hleft hleftTree
    obtain ⟨us, e, hright, he⟩ := Test.IsReadBy.exists_reading hR hread
    have hweaker := hR.mono hright (Nat.le_refl _)
      (Nat.le_trans strength_or_le (Nat.sub_le (Binding.and.strength d) 1))
    refine ⟨_, _, hR.or hleft hweaker, ?_⟩
    simp only [Expr.predicate, hleftTree, he]
    rfl

/-- A side of a conjunction, in the parentheses that it needs. -/
theorem IsOperand.exists_conjunct {p : Predicate} (h : IsOperand d R p)
    (hread : p.IsReadBy d R (m + 1 - p.parentheses)) :
    ∃ ts e, R m (Binding.and.strength d - 1) p.conjunct ts e ∧
      e.predicate = .ok p.reassociated := by
  cases p with
  | test t =>
      obtain ⟨ts, e, hoperand, he⟩ := h.alone hread
      exact ⟨ts, e, hR.mono hoperand (Nat.le_refl _) (Nat.sub_le _ 1), he⟩
  | and left right => exact h.alone hread
  | or left right =>
      obtain ⟨k, rfl⟩ : ∃ k, m = k + 1 := ⟨m - 1, by have := hread.pos; simp at this; omega⟩
      obtain ⟨ts, e, hoperand, he⟩ := h.alone (m := k) hread
      exact ⟨_, _, hR.parenthesized (hR.mono hoperand (Nat.le_refl k) (Nat.zero_le _)) _, he⟩

theorem isOperand_and {left right : Predicate} (hleft : IsOperand d R left)
    (hright : IsOperand d R right) : IsOperand d R (.and left right) := by
  have halone : ∀ {m}, (and left right).IsReadBy d R (m + 1) →
      ∃ ts e, R m (Binding.and.strength d - 1) (and left right).sql ts e ∧
        e.predicate = .ok (and left right).reassociated := by
    intro m hread
    obtain ⟨k, rfl⟩ : ∃ k, m = k + 1 := ⟨m - 1, by have := hread.2.pos; omega⟩
    obtain ⟨ts, e, hoperand, he⟩ := hleft.exists_conjunct hR hread.1
    exact hright.afterAnd hread.2 hoperand he
  refine ⟨halone, ?_, ?_⟩
  · intro m text ts first firstTree hread hfirst hfirstTree
    have hread : (and left right).IsReadBy d R (m + 1) := hread
    obtain ⟨us, e, hoperand, he⟩ := hleft.afterAnd hread.1 hfirst hfirstTree
    obtain ⟨us', e', hoperand', he'⟩ := hright.afterAnd (hread.2.mono (by omega)) hoperand he
    refine ⟨us', e', ?_, ?_⟩
    · simpa only [conjunct_and, String.append_assoc] using hoperand'
    · rw [he', andChain_andChain]
      rfl
  · intro m text ts first firstTree hread hfirst hfirstTree
    obtain ⟨us, e, hoperand, he⟩ := halone hread
    refine ⟨_, _, hR.or hfirst (hR.mono hoperand (Nat.le_refl _) strength_or_le), ?_⟩
    rw [reassociated, orChain_of_not_or _ (andChain_ne_or _ _)]
    simp only [Expr.predicate, hfirstTree, he]
    rfl

theorem isOperand_or {left right : Predicate} (hleft : IsOperand d R left)
    (hright : IsOperand d R right) : IsOperand d R (.or left right) := by
  have halone : ∀ {m}, (or left right).IsReadBy d R (m + 1) →
      ∃ ts e, R m (Binding.or.strength d - 1) (or left right).sql ts e ∧
        e.predicate = .ok (or left right).reassociated := by
    intro m hread
    obtain ⟨k, rfl⟩ : ∃ k, m = k + 1 := ⟨m - 1, by have := hread.2.pos; omega⟩
    obtain ⟨ts, e, hoperand, he⟩ := hleft.alone hread.1
    exact hright.afterOr hread.2 (hR.mono hoperand (Nat.le_refl _) left.strength_or_sub_le) he
  refine ⟨halone, ?_, ?_⟩
  · intro m text ts first firstTree hread hfirst hfirstTree
    obtain ⟨k, rfl⟩ : ∃ k, m = k + 1 := ⟨m - 1, by have := hread.pos; simp at this; omega⟩
    obtain ⟨us, e, hoperand, he⟩ := halone (m := k) hread
    have hnested := hR.parenthesized (hR.mono hoperand (Nat.le_refl k) (Nat.zero_le _))
      (Binding.and.strength d)
    refine ⟨_, _, hR.and hfirst hnested, ?_⟩
    rw [reassociated, andChain_of_not_and _ (orChain_ne_and _ _)]
    simp only [Expr.predicate, hfirstTree, he]
    rfl
  · intro m text ts first firstTree hread hfirst hfirstTree
    obtain ⟨us, e, hoperand, he⟩ := hleft.afterOr hread.1 hfirst hfirstTree
    obtain ⟨us', e', hoperand', he'⟩ :=
      hright.afterOr (hread.2.mono (Nat.sub_le _ _)) hoperand he
    refine ⟨us', e', ?_, ?_⟩
    · simpa only [sql, String.append_assoc] using hoperand'
    · rw [he', orChain_orChain]
      rfl

/-- A condition is read as the same tests, joined from the left. -/
theorem isOperand (p : Predicate) : IsOperand d R p := by
  induction p with
  | test t => exact isOperand_test hR t
  | and left right ihLeft ihRight => exact isOperand_and hR ihLeft ihRight
  | or left right ihLeft ihRight => exact isOperand_or hR ihLeft ihRight

end Predicate

end SelectTree
