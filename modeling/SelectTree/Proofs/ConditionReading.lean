import SelectTree.Proofs.ConnectiveReading

namespace SelectTree

open Sql Sql.Grammar

/-! Predicates whose tests are read as they are, however the tests are joined. -/

variable {d : Dialect} {m depth : Nat} {text text' : String} {ts us : List Token}
  {e left right : Expr}

namespace Sql.Grammar.IsOperand

theorem parenthesized (h : IsOperand d m 0 text ts e) (strength : Nat) :
    IsOperand d (m + 1) strength (Text.parenthesized text)
      (.symbol .lparen :: ts ++ [.symbol .rparen]) (.nested e) := by
  refine ⟨h.spells.parenthesized, ⟨_, _, rfl, .lparen⟩, ?_⟩
  intro k hk
  obtain ⟨k, rfl⟩ : ∃ j, k = j + 1 := ⟨k - 1, by omega⟩
  have hread := h.isRead.reads (k + 1) hk
  have hquery : ∀ t ∈ ts.head?, t.keyword ≠ some .SELECT ∧ t.keyword ≠ some .WITH := by
    obtain ⟨t, us, rfl, ht⟩ := h.starts
    simpa using ⟨ht.keyword_ne _ (by decide), ht.keyword_ne _ (by decide)⟩
  apply Unfolds.of_primary
  intro rest hrest
  have hnested := primary_nested (d := d) (n := nestedAt d (k + 1)) h.isRead.solid hquery
    (fun rest hrest => hread rest (hrest.mono (by decide))) hrest
  simpa using hnested

/-- Two operands with an operator between them, which is weaker than those inside. -/
theorem joined (link : Link) {words : String} (hwords : words = " " ++ link.sql ++ " ")
    (hleft : IsOperand d (m + 1) (link.binding.strength d - 1) text ts left)
    (hright : IsOperand d m (link.binding.strength d) text' us right) :
    IsOperand d (m + 1) (link.binding.strength d - 1) (text ++ words ++ text')
      (ts ++ link.token :: us) (link.join left right) := by
  have hoperand := hleft.link (Nat.sub_one_lt_of_lt link.strength_pos) hright
  rw [hwords]
  simp only [String.append_assoc] at hoperand ⊢
  exact hoperand

theorem and (hleft : IsOperand d (m + 1) (Binding.and.strength d - 1) text ts left)
    (hright : IsOperand d m (Binding.and.strength d) text' us right) :
    IsOperand d (m + 1) (Binding.and.strength d - 1) (text ++ " AND " ++ text')
      (ts ++ Keyword.AND.token :: us) (.binary left .and right) :=
  joined .and rfl hleft hright

theorem or (hleft : IsOperand d (m + 1) (Binding.or.strength d - 1) text ts left)
    (hright : IsOperand d m (Binding.or.strength d) text' us right) :
    IsOperand d (m + 1) (Binding.or.strength d - 1) (text ++ " OR " ++ text')
      (ts ++ Keyword.OR.token :: us) (.binary left .or right) :=
  joined .or rfl hleft hright

end Sql.Grammar.IsOperand

theorem Sql.Grammar.keepsConnectives_isOperand (d : Dialect) :
    Reading.KeepsConnectives d (IsOperand d) where
  mono := IsOperand.mono
  parenthesized := IsOperand.parenthesized
  and := IsOperand.and
  or := IsOperand.or

/-! Readable predicates -/

/-- The text of a test is read as the test, within `depth` layers. -/
def Test.IsReadable (d : Dialect) (depth : Nat) (t : Test) : Prop :=
  ∃ m ts e, m < depth ∧ IsOperand d m (Binding.and.strength d) t.sql ts e ∧
    e.predicate = .ok (.test t)

theorem Test.IsReadable.mono {t : Test} (h : t.IsReadable d depth) {depth' : Nat}
    (hdepth : depth ≤ depth') : t.IsReadable d depth' :=
  Test.IsReadBy.mono (R := IsOperand d) h hdepth

theorem Test.IsReadable.exists_operand {t : Test} (h : t.IsReadable d (m + 1)) :
    ∃ ts e, IsOperand d m (Binding.and.strength d) t.sql ts e ∧ e.predicate = .ok (.test t) :=
  Test.IsReadBy.exists_reading (keepsConnectives_isOperand d) h

theorem Test.IsPlain.isReadable {t : Test} (h : t.IsPlain d depth) : t.IsReadable d depth := by
  obtain ⟨ts, e, hphrase, htree⟩ := h.phrase
  obtain ⟨m, rfl⟩ : ∃ m, depth = m + 1 := ⟨depth - 1, by have := h.1; omega⟩
  exact ⟨m, ts, e, Nat.lt_succ_self m, hphrase.isOperand, htree⟩

namespace Predicate

/-- All tests of a predicate are read as they are where they stand: every operator on the left of
a test, and all parentheses around it, take a layer. -/
def IsReadable (d : Dialect) : (depth : Nat) → Predicate → Prop
  | depth, .test t => t.IsReadable d depth
  | depth, .and left right =>
      left.IsReadable d (depth - left.parentheses) ∧
        right.IsReadable d (depth - 1 - right.parentheses)
  | depth, .or left right => left.IsReadable d depth ∧ right.IsReadable d (depth - 1)

theorem IsPlain.isReadable {p : Predicate} (h : p.IsPlain d depth) : p.IsReadable d depth := by
  induction p generalizing depth with
  | test t => exact Test.IsPlain.isReadable h
  | and left right ihLeft ihRight => exact ⟨ihLeft h.1, ihRight h.2⟩
  | or left right ihLeft ihRight => exact ⟨ihLeft h.1, ihRight h.2⟩

namespace IsReadable

variable {p : Predicate}

theorem iff_isReadBy : p.IsReadable d depth ↔ p.IsReadBy d (Grammar.IsOperand d) depth := by
  induction p generalizing depth with
  | test t => exact Iff.rfl
  | and left right ihLeft ihRight => exact and_congr ihLeft ihRight
  | or left right ihLeft ihRight => exact and_congr ihLeft ihRight

theorem mono (h : p.IsReadable d depth) {depth' : Nat} (hdepth : depth ≤ depth') :
    p.IsReadable d depth' :=
  iff_isReadBy.mpr ((iff_isReadBy.mp h).mono hdepth)

theorem pos (h : p.IsReadable d depth) : 0 < depth :=
  (iff_isReadBy.mp h).pos

/-- The text of a readable predicate is read as the same tests, joined from the left. -/
theorem exists_operand (h : p.IsReadable d (m + 1)) :
    ∃ ts e, Grammar.IsOperand d m (p.strength d) p.sql ts e ∧ e.predicate = .ok p.reassociated :=
  (p.isOperand (keepsConnectives_isOperand d)).alone (iff_isReadBy.mp h)

/-- The text of a side of a conjunction. -/
theorem exists_conjunct (h : p.IsReadable d (m + 1 - p.parentheses)) :
    ∃ ts e, Grammar.IsOperand d m (Binding.and.strength d - 1) p.conjunct ts e ∧
      e.predicate = .ok p.reassociated :=
  (p.isOperand (keepsConnectives_isOperand d)).exists_conjunct (keepsConnectives_isOperand d)
    (iff_isReadBy.mp h)

theorem exists_isRead (h : p.IsReadable d depth) :
    ∃ ts e, IsRead d depth Nested.expr exprEnds p.sql ts e ∧ e.predicate = .ok p.reassociated := by
  obtain ⟨m, rfl⟩ : ∃ m, depth = m + 1 := ⟨depth - 1, by have := h.pos; omega⟩
  obtain ⟨ts, e, hoperand, he⟩ := h.exists_operand
  exact ⟨ts, e, (hoperand.mono (Nat.le_refl _) (Nat.zero_le _)).isRead, he⟩

end IsReadable

end Predicate

end SelectTree
