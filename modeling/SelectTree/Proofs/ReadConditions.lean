import SelectTree.Proofs.ConditionReading

namespace SelectTree

open Sql Sql.Grammar Sql.Parser

/-! Conditions that are read from the text they print. Their tests may be any that are read as
themselves. Parentheses stand only around alternatives inside a conjunction, so chains of one
connective are read from the left, whatever their tree was. -/

variable {d : Dialect} {m strength : Nat} {text text' : String} {ts us : List Token}
  {e left right : Expr}

namespace Sql.Grammar

/-- The tokens after a test inside a condition. -/
def testEnds : List Token :=
  [Keyword.AND.token, Keyword.OR.token, .symbol .rparen]

/-- Keywords that do not begin an operand of a connective: those of a query, and those of many
values. -/
def barredKeywords : List Keyword :=
  .SELECT :: .WITH :: manyKeywords

/-- Where a test ends, the tokens are read as the expression: an operand begins them, and the
operators after it lead on to the whole. -/
structure IsTerm (d : Dialect) (m strength : Nat) (text : String) (ts : List Token) (e : Expr) :
    Prop where
  spells : Spells d text ts
  starts : ∃ t us, ts = t :: us ∧ isSpace t = false ∧ ∀ k ∈ barredKeywords, t.keyword ≠ some k
  reads : ∀ k rest, m ≤ k → HeadIn testEnds rest →
    (nextBinding d .plain rest).strength d ≤ strength + 1 →
    ∃ first left, primary d (nestedAt d k) (ts ++ rest) = .ok (first, left) ∧
      ∀ s ≤ strength, Reaches (infixLoop d (nestedAt d k) s) first left e rest

theorem IsOperand.isTerm (h : IsOperand d m strength text ts e) : IsTerm d m strength text ts e where
  spells := h.spells
  starts := by
    obtain ⟨t, us, hts, ht⟩ := h.starts
    refine ⟨t, us, hts, ht.isSpace, ?_⟩
    intro k hk
    apply ht.keyword_ne
    revert k
    decide
  reads := by
    intro k rest hk hrest hbinding
    obtain ⟨first, tail, hprimary, hreaches⟩ := h.unfolds k hk
    have hends : HeadIn operandEnds rest := hrest.mono (by decide)
    exact ⟨first, _, hprimary rest hends, fun s hs => hreaches hs hends hbinding⟩

theorem infixStep_connective {link : Link} (hlink : link = .and ∨ link = .or) (n : Nested)
    (left : Expr) {t : Token} {us rest : List Token} (ht : ∀ k ∈ manyKeywords, t.keyword ≠ some k)
    (hright : n.operand (link.binding.strength d) (t :: us) = .ok (right, rest)) :
    infixStep d n (link.binding.strength d) left (link.token :: t :: us) =
      .ok (link.join left right, rest) := by
  rcases hlink with rfl | rfl
  · exact (infixStep_and _ _ _).trans (rightSide_binary rfl ht hright)
  · exact (infixStep_or _ _ _).trans (rightSide_binary rfl ht hright)

namespace IsTerm

theorem mono (h : IsTerm d m strength text ts e) {k weaker : Nat} (hk : m ≤ k)
    (hweaker : weaker ≤ strength) : IsTerm d k weaker text ts e where
  spells := h.spells
  starts := h.starts
  reads := by
    intro j rest hj hrest hbinding
    obtain ⟨first, left, hprimary, hreaches⟩ :=
      h.reads j rest (Nat.le_trans hk hj) hrest (by omega)
    exact ⟨first, left, hprimary, fun s hs => hreaches s (Nat.le_trans hs hweaker)⟩

theorem operand_eq (h : IsTerm d m strength text ts e) {k s : Nat} (hk : m ≤ k)
    (hs : s ≤ strength) {rest : List Token} (hrest : HeadIn testEnds rest)
    (hbinding : (nextBinding d .plain rest).strength d ≤ s) :
    (nestedAt d (k + 1)).operand s (ts ++ rest) = .ok (e, rest) := by
  obtain ⟨first, left, hprimary, hreaches⟩ := h.reads k rest hk hrest (by omega)
  rw [nestedAt_operand, Grammar.operand_eq, run_bind, hprimary]
  have hstop : Runs (infixLoop d (nestedAt d k) s) e rest e rest :=
    infixLoop_stop s e (by rwa [nestedAt_context])
  exact ((hreaches s hs).runs hstop).iterate

theorem expr_eq (h : IsTerm d m 0 text ts e) {k : Nat} (hk : m ≤ k) {rest : List Token}
    (hrest : HeadIn [.symbol .rparen] rest) :
    (nestedAt d (k + 1)).expr (ts ++ rest) = .ok (e, rest) := by
  apply h.operand_eq hk (Nat.le_refl 0) (hrest.mono (by decide))
  exact Nat.le_of_eq (by rw [nextBinding_exprEnds (hrest.mono (by decide)), strength_none])

theorem parenthesized (h : IsTerm d m 0 text ts e) (strength : Nat) :
    IsTerm d (m + 1) strength (Text.parenthesized text)
      (.symbol .lparen :: ts ++ [.symbol .rparen]) (.nested e) where
  spells := h.spells.parenthesized
  starts := ⟨_, _, rfl, rfl, fun _ _ => nofun⟩
  reads := by
    intro k rest hk hrest _
    obtain ⟨k, rfl⟩ : ∃ j, k = j + 1 := ⟨k - 1, by omega⟩
    obtain ⟨t, us, rfl, hspace, hkeyword⟩ := h.starts
    have hquery : ∀ t' ∈ (t :: us).head?, t'.keyword ≠ some .SELECT ∧ t'.keyword ≠ some .WITH := by
      simpa using ⟨hkeyword _ (by decide), hkeyword _ (by decide)⟩
    have hnested := primary_nested (d := d) (n := nestedAt d (k + 1))
      ⟨List.cons_ne_nil t us, noSpace_cons hspace us⟩ hquery
      (fun rest hrest => h.expr_eq (Nat.le_of_succ_le_succ hk) hrest) (hrest.mono (by decide))
    exact ⟨.nested e, rest, by simpa using hnested, fun _ _ => .here⟩

/-- The loop that has read the left side reads on with the connective and the right side. -/
theorem connected {link : Link} (hlink : link = .and ∨ link = .or) {words : String}
    (hwords : words = " " ++ link.sql ++ " ")
    (hleft : IsTerm d (m + 1) (link.binding.strength d - 1) text ts left)
    (hright : IsTerm d m (link.binding.strength d) text' us right) :
    IsTerm d (m + 1) (link.binding.strength d - 1) (text ++ words ++ text')
      (ts ++ link.token :: us) (link.join left right) where
  spells := by
    have hspells := hleft.spells.space (link.spells.space hright.spells)
    rw [hwords]
    simp only [String.append_assoc] at hspells ⊢
    exact hspells
  starts := by
    obtain ⟨t, us, rfl, ht⟩ := hleft.starts
    exact ⟨t, _, rfl, ht⟩
  reads := by
    intro k rest hk hrest hbinding
    obtain ⟨k, rfl⟩ : ∃ j, k = j + 1 := ⟨k - 1, by omega⟩
    have hpos := link.strength_pos (d := d)
    have hnext : nextBinding d .plain (link.token :: (us ++ rest)) = link.binding :=
      link.nextBinding_token _ _
    have hends : HeadIn testEnds (link.token :: (us ++ rest)) := by
      rcases hlink with rfl | rfl <;> exact headIn_cons (by decide) _
    obtain ⟨first, left', hprimary, hreaches⟩ := hleft.reads (k + 1) _ hk hends (by rw [hnext]; omega)
    have hoperand := hright.operand_eq (s := link.binding.strength d) (Nat.le_of_succ_le_succ hk)
      (Nat.le_refl _) hrest (by omega)
    refine ⟨first, left', by simpa using hprimary, ?_⟩
    intro s hs
    have hloop : infixLoop d (nestedAt d (k + 1)) s left (link.token :: (us ++ rest)) =
        .ok (.inl (link.join left right), rest) := by
      obtain ⟨t, us, rfl, -, hkeyword⟩ := hright.starts
      rw [List.cons_append] at hoperand
      have hmany : ∀ k ∈ manyKeywords, t.keyword ≠ some k := fun k hk =>
        hkeyword k (List.mem_cons_of_mem _ (List.mem_cons_of_mem _ hk))
      have hstep := infixStep_connective hlink (nestedAt d (k + 1)) left hmany hoperand
      rw [link.infixLoop_eq (by omega), run_bind, List.cons_append, hstep]
      rfl
    have hshorter : rest.length < (link.token :: (us ++ rest)).length := by
      rw [List.length_cons, List.length_append]
      omega
    exact (hreaches s hs).trans (.more hloop hshorter .here)

end IsTerm

theorem keepsConnectives_isTerm (d : Dialect) : Reading.KeepsConnectives d (IsTerm d) where
  mono := IsTerm.mono
  parenthesized := IsTerm.parenthesized
  and := (·.connected (.inl rfl) rfl ·)
  or := (·.connected (.inr rfl) rfl ·)

end Sql.Grammar

/-- The condition that a text holds, read within `depth` layers. -/
def readCondition (d : Dialect) (depth : Nat) (text : String) : Option Predicate := do
  let lexemes ← (lex d text.toList).toOption
  let (e, rest) ← ((nestedAt d depth).expr (lexemes.map Lexeme.token)).toOption
  if rest.isEmpty then e.predicate.toOption else none

theorem readCondition_of_isTerm (h : IsTerm d m 0 text ts e) {read : Predicate}
    (hread : e.predicate = .ok read) {depth : Nat} (hdepth : m < depth) :
    readCondition d depth text = some read := by
  obtain ⟨k, rfl⟩ : ∃ k, depth = k + 1 := ⟨depth - 1, by omega⟩
  obtain ⟨lexemes, hlex, htokens⟩ := h.spells.lex
  have hexpr := h.expr_eq (Nat.le_of_lt_succ hdepth) (headIn_nil _)
  rw [List.append_nil] at hexpr
  simp [readCondition, hlex, htokens, hexpr, hread, Except.toOption]

theorem Test.IsReadable.isReadBy {t : Test} {depth : Nat} (h : t.IsReadable d depth) :
    t.IsReadBy d (IsTerm d) depth := by
  obtain ⟨m, ts, e, hm, hoperand, htree⟩ := h
  exact ⟨m, ts, e, hm, hoperand.isTerm, htree⟩

namespace Predicate

variable {p : Predicate} {depth : Nat}

/-- The layers that the connectives and the parentheses of a condition take. -/
def layers : Predicate → Nat
  | .test _ => 0
  | .and left right =>
      max (left.layers + left.parentheses) (right.layers + right.parentheses + 1)
  | .or left right => max left.layers (right.layers + 1)

theorem isReadBy_of_tests {R : Reading} (h : ∀ t ∈ p.tests, t.IsReadBy d R depth) :
    p.IsReadBy d R (depth + p.layers) := by
  induction p with
  | test t => exact h t (List.mem_singleton.mpr rfl)
  | and left right ihLeft ihRight =>
      obtain ⟨hleft, hright⟩ := List.forall_mem_append.mp h
      simp only [layers]
      exact ⟨(ihLeft hleft).mono (by omega), (ihRight hright).mono (by omega)⟩
  | or left right ihLeft ihRight =>
      obtain ⟨hleft, hright⟩ := List.forall_mem_append.mp h
      simp only [layers]
      exact ⟨(ihLeft hleft).mono (by omega), (ihRight hright).mono (by omega)⟩

/-! Chains -/

def isAnd : Predicate → Bool
  | .and _ _ => true
  | _ => false

/-- No conjunction stands on the right of a conjunction, and no alternatives on the right of
alternatives. -/
def isLeftNested : Predicate → Bool
  | .test _ => true
  | .and left right => left.isLeftNested && right.isLeftNested && !right.isAnd
  | .or left right => left.isLeftNested && right.isLeftNested && !right.isOr

theorem reassociated_of_isLeftNested (h : p.isLeftNested = true) : p.reassociated = p := by
  induction p with
  | test t => rfl
  | and left right ihLeft ihRight =>
      simp only [isLeftNested, Bool.and_eq_true, Bool.not_eq_true'] at h
      obtain ⟨⟨hleft, hright⟩, hand⟩ := h
      rw [reassociated, ihLeft hleft, ihRight hright]
      apply andChain_of_not_and
      rintro first last rfl
      cases hand
  | or left right ihLeft ihRight =>
      simp only [isLeftNested, Bool.and_eq_true, Bool.not_eq_true'] at h
      obtain ⟨⟨hleft, hright⟩, hor⟩ := h
      rw [reassociated, ihLeft hleft, ihRight hright]
      apply orChain_of_not_or
      rintro first last rfl
      cases hor

theorem eq_of_andChain_eq {left right first last : Predicate}
    (h : left.andChain right = .and first last) (htests : right.tests = last.tests) :
    left = first ∧ right = last ∧ right.isAnd = false := by
  cases right with
  | and first' last' =>
      obtain ⟨-, rfl⟩ := Predicate.and.inj h
      exact absurd (List.append_left_eq_self.mp htests) first'.tests_ne_nil
  | test t =>
      obtain ⟨rfl, rfl⟩ := Predicate.and.inj h
      exact ⟨rfl, rfl, rfl⟩
  | or first' last' =>
      obtain ⟨rfl, rfl⟩ := Predicate.and.inj h
      exact ⟨rfl, rfl, rfl⟩

theorem eq_of_orChain_eq {left right first last : Predicate}
    (h : left.orChain right = .or first last) (htests : right.tests = last.tests) :
    left = first ∧ right = last ∧ right.isOr = false := by
  cases right with
  | or first' last' =>
      obtain ⟨-, rfl⟩ := Predicate.or.inj h
      exact absurd (List.append_left_eq_self.mp htests) first'.tests_ne_nil
  | test t =>
      obtain ⟨rfl, rfl⟩ := Predicate.or.inj h
      exact ⟨rfl, rfl, rfl⟩
  | and first' last' =>
      obtain ⟨rfl, rfl⟩ := Predicate.or.inj h
      exact ⟨rfl, rfl, rfl⟩

theorem isLeftNested_of_reassociated (h : p.reassociated = p) : p.isLeftNested = true := by
  induction p with
  | test t => rfl
  | and left right ihLeft ihRight =>
      -- A chain on the right would leave only its last part there.
      obtain ⟨hleft, hright, hand⟩ := eq_of_andChain_eq h (tests_reassociated right)
      rw [hright] at hand
      simp [isLeftNested, ihLeft hleft, ihRight hright, hand]
  | or left right ihLeft ihRight =>
      obtain ⟨hleft, hright, hor⟩ := eq_of_orChain_eq h (tests_reassociated right)
      rw [hright] at hor
      simp [isLeftNested, ihLeft hleft, ihRight hright, hor]

theorem reassociated_eq_self_iff : p.reassociated = p ↔ p.isLeftNested = true :=
  ⟨isLeftNested_of_reassociated, reassociated_of_isLeftNested⟩

/-- Chains that lean to the right, with alternatives inside a conjunction. -/
def leaning : Predicate :=
  .and (.test (.compare "id" .eq (.number "1")))
    (.and
      (.or (.test (.like "name" (.string "A%")))
        (.or (.test (.compare "id" .eq (.number "2"))) (.test (.like "name" (.string "B%")))))
      (.test (.compare "name" .ne (.string ""))))

end Predicate

end SelectTree
