import SelectTree.Proofs.QuotedValues

namespace SelectTree

open Sql Sql.Grammar

/-! Conditions around one of their tests, whose constant may be read as anything. -/

variable {d : Dialect} {depth room : Nat} {p : Predicate} {t : Test}

theorem Sql.AtGap.append {cs rest : List Char} (h : AtGap cs) (hrest : AtGap rest) :
    AtGap (cs ++ rest) := by
  cases cs with
  | nil => exact hrest
  | cons c cs => exact h

/-- A text is read as the expression without the test `t`, or it breaks off before the constant of a
first such test. -/
def Sql.Grammar.IsReadUpTo (d : Dialect) (t : Test) : Reading := fun m strength text ts e =>
  ∃ tree, e.predicate = .ok tree ∧
    (IsOperand d m strength text ts e ∧ t ∉ tree.tests ∨
      ∃ front us tests back, IsLead d m strength front us tests t ∧ tests ++ [t] <+: tree.tests ∧
        text = front ++ " " ++ (t.value.sql ++ back) ∧ AtGap back.toList)

namespace Sql.Grammar.IsReadUpTo

variable {m strength : Nat} {text text' : String} {ts us : List Token} {e left right : Expr}

theorem mono (h : IsReadUpTo d t m strength text ts e) {k weaker : Nat} (hk : m ≤ k)
    (hweaker : weaker ≤ strength) : IsReadUpTo d t k weaker text ts e := by
  obtain ⟨tree, htree, ⟨hoperand, hmem⟩ | ⟨front, us, tests, back, hlead, hrest⟩⟩ := h
  · exact ⟨tree, htree, .inl ⟨hoperand.mono hk hweaker, hmem⟩⟩
  · exact ⟨tree, htree, .inr ⟨front, us, tests, back, hlead.mono hk hweaker, hrest⟩⟩

theorem parenthesized (h : IsReadUpTo d t m 0 text ts e) (strength : Nat) :
    IsReadUpTo d t (m + 1) strength (Text.parenthesized text)
      (.symbol .lparen :: ts ++ [.symbol .rparen]) (.nested e) := by
  obtain ⟨tree, htree, ⟨hoperand, hmem⟩ | ⟨front, us, tests, back, hlead, hprefix, rfl, hgap⟩⟩ := h
  · exact ⟨tree, htree, .inl ⟨hoperand.parenthesized strength, hmem⟩⟩
  · refine ⟨tree, htree, .inr ⟨_, _, tests, back ++ ")", hlead.parenthesized strength, hprefix, ?_, ?_⟩⟩
    · simp only [Text.parenthesized, String.append_assoc]
    · rw [String.toList_append]
      exact hgap.append (atGap_cons (by decide) [])

/-- The side of a connective that breaks off first decides. -/
theorem joined {link : Link} (hlink : link = .and ∨ link = .or) {words : String}
    (hwords : words = " " ++ link.sql ++ " ")
    (hleft : IsReadUpTo d t (m + 1) (link.binding.strength d - 1) text ts left)
    (hright : IsReadUpTo d t m (link.binding.strength d) text' us right) :
    IsReadUpTo d t (m + 1) (link.binding.strength d - 1) (text ++ words ++ text')
      (ts ++ link.token :: us) (link.join left right) := by
  obtain ⟨leftTree, hleftTree, hleft⟩ := hleft
  obtain ⟨rightTree, hrightTree, hright⟩ := hright
  obtain ⟨tree, htree, htests⟩ : ∃ tree, (link.join left right).predicate = .ok tree ∧
      tree.tests = leftTree.tests ++ rightTree.tests := by
    rcases hlink with rfl | rfl
    · exact ⟨.and leftTree rightTree, by simp [Link.join, Expr.predicate, hleftTree, hrightTree]; rfl,
        Predicate.tests_and ..⟩
    · exact ⟨.or leftTree rightTree, by simp [Link.join, Expr.predicate, hleftTree, hrightTree]; rfl,
        Predicate.tests_or ..⟩
  refine ⟨tree, htree, ?_⟩
  rw [htests]
  rcases hleft with ⟨hleft, hmem⟩ | ⟨front, vs, tests, back, hlead, hprefix, rfl, hgap⟩
  · rcases hright with ⟨hright, hmem'⟩ | ⟨front, vs, tests, back, hlead, hprefix, rfl, hgap⟩
    · exact .inl ⟨.joined link hwords hleft hright, by simp [hmem, hmem']⟩
    · refine .inr ⟨_, _, _, back, .joined hlink hwords hleft hleftTree hlead, ?_, ?_, hgap⟩
      · rw [List.append_assoc]
        exact (List.prefix_append_right_inj _).mpr hprefix
      · simp only [String.append_assoc]
  · refine .inr ⟨front, vs, tests, back ++ (words ++ text'), hlead,
      hprefix.trans (List.prefix_append _ _), by simp only [String.append_assoc], ?_⟩
    have hblank : AtGap (words ++ text').toList := by
      rw [hwords]
      simpa using atGap_cons (by decide) _
    rw [String.toList_append]
    exact hgap.append hblank

end Sql.Grammar.IsReadUpTo

theorem Sql.Grammar.keepsConnectives_isReadUpTo (d : Dialect) (t : Test) :
    Reading.KeepsConnectives d (IsReadUpTo d t) where
  mono := IsReadUpTo.mono
  parenthesized := IsReadUpTo.parenthesized
  and := IsReadUpTo.joined (.inl rfl) rfl
  or := IsReadUpTo.joined (.inr rfl) rfl

namespace Predicate

/-- All tests of a condition but one are read where they stand, and that one has room there. -/
def IsReadableAround (d : Dialect) (t : Test) (room : Nat) : (depth : Nat) → Predicate → Prop
  | depth, .test u => (u = t → room ≤ depth) ∧ (u ≠ t → u.IsReadable d depth)
  | depth, .and left right =>
      left.IsReadableAround d t room (depth - left.parentheses) ∧
        right.IsReadableAround d t room (depth - 1 - right.parentheses)
  | depth, .or left right =>
      left.IsReadableAround d t room depth ∧ right.IsReadableAround d t room (depth - 1)

namespace IsReadableAround

/-- What reads the tests reads the condition. -/
theorem isReadBy {R : Reading} (h : p.IsReadableAround d t room depth)
    (ht : ∀ {depth}, room ≤ depth → t.IsReadBy d R depth)
    (hother : ∀ {depth u}, u ≠ t → u.IsReadable d depth → u.IsReadBy d R depth) :
    p.IsReadBy d R depth := by
  induction p generalizing depth with
  | test u =>
      by_cases heq : u = t
      · obtain rfl := heq
        exact ht (h.1 rfl)
      · exact hother heq (h.2 heq)
  | and left right ihLeft ihRight => exact ⟨ihLeft h.1, ihRight h.2⟩
  | or left right ihLeft ihRight => exact ⟨ihLeft h.1, ihRight h.2⟩

theorem isReadable (h : p.IsReadableAround d t room depth) (ht : t.IsReadable d room) :
    p.IsReadable d depth :=
  IsReadable.iff_isReadBy.mpr (h.isReadBy ht.mono fun _ hread => hread)

/-- The text of a condition breaks off before the constant of a test of it. -/
theorem exists_lead {m k : Nat} {e : Expr} (h : p.IsReadableAround d t room (m + 1))
    (hroom : k < room) (hcolumn : IsPlainColumn d (k + 1) t.column)
    (hvalue : e.literal = .ok t.value) (hmem : t ∈ p.tests) :
    ∃ front ts tests back, IsLead d m 0 front ts tests t ∧ tests ++ [t] <+: p.tests ∧
      p.sql = front ++ " " ++ (t.value.sql ++ back) ∧ AtGap back.toList := by
  have ht : ∀ {depth}, room ≤ depth → t.IsReadBy d (IsReadUpTo d t) depth := by
    intro depth hdepth
    obtain ⟨text, ts, hlead, hsql⟩ := Test.exists_lead hcolumn
    obtain ⟨-, names, hpath, -⟩ := hcolumn.phrase 0
    have htree := Test.predicate_join hpath hvalue
    rw [t.withValue_value] at htree
    refine ⟨k, ts, _, Nat.lt_of_lt_of_le hroom hdepth,
      ⟨_, htree, .inr ⟨text, ts, [], "", hlead, List.prefix_refl _, ?_, ?_⟩⟩, htree⟩
    · rw [hsql, String.append_empty]
    · exact atGap_nil
  have hother : ∀ {depth u}, u ≠ t → u.IsReadable d depth →
      u.IsReadBy d (IsReadUpTo d t) depth := by
    rintro depth u hne ⟨m, ts, e, hm, hoperand, htree⟩
    exact ⟨m, ts, e, hm, ⟨_, htree, .inl ⟨hoperand, by simpa using hne.symm⟩⟩, htree⟩
  obtain ⟨ts, e, ⟨tree, htree, hread⟩, hwhole⟩ :=
    (p.isOperand (keepsConnectives_isReadUpTo d t)).alone (h.isReadBy ht hother)
  obtain rfl := Except.ok.inj (htree.symm.trans hwhole)
  rw [tests_reassociated] at hread
  obtain ⟨front, us, tests, back, hlead, hrest⟩ := hread.resolve_left fun hread => hread.2 hmem
  exact ⟨front, us, tests, back, hlead.mono (Nat.le_refl m) (Nat.zero_le _), hrest⟩

end IsReadableAround

end Predicate

end SelectTree
