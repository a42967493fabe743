import SelectTree.Proofs.TableTokens

namespace SelectTree

open Sql Sql.Grammar Sql.Parser

/-! What operands are read as, by the operand that comes first in them. -/

variable {d : Dialect} {n : Nested}

namespace Sql.Grammar

theorem Expr.tests_binary {left right : Expr} {op : Operator} {tree : Predicate}
    (hop : op = .and ∨ op = .or) (h : (Expr.binary left op right).predicate = .ok tree) :
    ∃ leftTree rightTree, left.predicate = .ok leftTree ∧ right.predicate = .ok rightTree ∧
      tree.tests = leftTree.tests ++ rightTree.tests := by
  rcases hop with rfl | rfl <;>
  · obtain ⟨leftTree, hleft, h⟩ := bind_eq_ok_iff.mp h
    obtain ⟨rightTree, hright, h⟩ := bind_eq_ok_iff.mp h
    obtain rfl := Except.ok.inj h
    exact ⟨leftTree, rightTree, hleft, hright, rfl⟩

/-- Infix operators stand after an expression. Only a few of them keep it as their left side; the
others have a text only. -/
inductive GoesOn (first : Expr) : Expr → Prop
  | stop : GoesOn first first
  | binary {left : Expr} (h : GoesOn first left) (op : Operator) (right : Expr) :
      GoesOn first (.binary left op right)
  | like {left : Expr} (h : GoesOn first left) (pattern : Expr) : GoesOn first (.like left pattern)
  | other (sql : String) : GoesOn first (.other sql)

namespace GoesOn

variable {first e : Expr}

theorem literal (h : GoesOn first e) {value : Literal} (hvalue : e.literal = .ok value) :
    e = first := by
  cases h with
  | stop => rfl
  | binary | like | other => cases hvalue

theorem columnText (h : GoesOn first e) {text : String} (htext : e.columnText = .ok text) :
    e = first := by
  cases h with
  | stop => rfl
  | binary | like | other => cases htext

/-- What no column is comes before all that is read after it. -/
theorem predicate (h : GoesOn first e) (hfirst : ∀ text, first.columnText ≠ .ok text)
    {tree : Predicate} (htree : e.predicate = .ok tree) :
    ∃ read, first.predicate = .ok read ∧ read.tests <+: tree.tests := by
  have hleft : ∀ {left text}, GoesOn first left → left.columnText ≠ .ok text := by
    intro left text hleft htext
    obtain rfl := hleft.columnText htext
    exact hfirst text htext
  induction h generalizing tree with
  | stop => exact ⟨tree, htree, List.prefix_refl _⟩
  | @binary left h op right ih =>
      cases op with
      | and =>
          obtain ⟨leftTree, rightTree, hleftTree, -, htests⟩ := Expr.tests_binary (.inl rfl) htree
          obtain ⟨read, hread, hprefix⟩ := ih hleftTree
          exact ⟨read, hread, htests ▸ hprefix.trans (List.prefix_append _ _)⟩
      | or =>
          obtain ⟨leftTree, rightTree, hleftTree, -, htests⟩ := Expr.tests_binary (.inr rfl) htree
          obtain ⟨read, hread, hprefix⟩ := ih hleftTree
          exact ⟨read, hread, htests ▸ hprefix.trans (List.prefix_append _ _)⟩
      | compare op =>
          obtain ⟨text, htext, -⟩ := bind_eq_ok_iff.mp htree
          exact absurd htext (hleft h)
      | other sql => cases htree
  | @like left h pattern ih =>
      obtain ⟨text, htext, -⟩ := bind_eq_ok_iff.mp htree
      exact absurd htext (hleft h)
  | other sql => cases htree

end GoesOn

/-! Infix operators -/

variable {first left : Expr}

theorem yields_rightSide (h : GoesOn first left) (strength : Nat) (operator : Parser Operator) :
    Yields (rightSide n strength left operator) (GoesOn first) := by
  refine yields_bind fun start => yields_bind fun op => yields_bind fun many => ?_
  cases many with
  | none => exact yields_bind fun right => yields_pure (h.binary op right)
  | some k =>
      refine yields_bind fun values => yields_ite (yields_pure (.other _)) ?_
      intro ts e rest hread
      cases hread

theorem yields_isTest : Yields (isTest n left) (GoesOn first) :=
  yields_bind fun _ => yields_bind fun _ => yields_pure (.other _)

theorem yields_inTest (negated : Bool) : Yields (inTest d n left negated) (GoesOn first) := by
  have hclosed : ∀ sql : String, Yields (do expect .rparen; return .other sql) (GoesOn first) :=
    fun sql => yields_bind fun _ => yields_pure (.other sql)
  refine yields_bind fun nested => yields_ite (yields_bind fun _ => yields_pure (.other _)) ?_
  refine yields_bind fun _ => yields_bind fun query => ?_
  cases query with
  | some query => exact yields_bind fun _ => hclosed _
  | none =>
      refine yields_bind fun _ => yields_ite ?_ ?_
      · exact yields_bind fun _ => hclosed _
      · exact yields_bind fun _ => hclosed _

theorem yields_likeTest (h : GoesOn first left) (negated : Bool) :
    Yields (likeTest d n left negated) (GoesOn first) := by
  refine yields_bind fun any => yields_bind fun pattern => yields_bind fun escape => ?_
  exact yields_ite (yields_pure (.other _)) (yields_pure (h.like pattern))

theorem yields_wordTest (h : GoesOn first left) : Yields (wordTest d n left) (GoesOn first) := by
  have hother : ∀ {α : Type} (p : Parser α) (sql : α → String),
      Yields (do return .other (sql (← p))) (GoesOn first) :=
    fun p sql => yields_bind fun a => yields_pure (.other (sql a))
  refine yields_bind fun negated => yields_bind fun regexp => yields_bind fun rlike =>
    yields_bind fun null => yields_ite ?_ (yields_ite (yields_pure (.other _)) ?_)
  · exact hother _ _
  · refine yields_bind fun isIn => yields_ite (yields_inTest negated) ?_
    refine yields_bind fun isBetween => yields_ite ?_ ?_
    · exact yields_bind fun low => yields_bind fun _ => hother _ _
    · refine yields_bind fun isLike => yields_ite (yields_likeTest h negated) ?_
      refine yields_bind fun isCaseless => yields_ite ?_ ?_
      · exact yields_bind fun any => yields_bind fun pattern => hother _ _
      · refine yields_bind fun isSimilar => yields_ite ?_ (yields_fail _)
        exact yields_bind fun pattern => hother _ _

theorem yields_keywordStep (h : GoesOn first left) (strength : Nat) (k : Keyword)
    (cause : Cause) : Yields (keywordStep d n strength left k (fail cause)) (GoesOn first) := by
  have hside := fun operator => yields_rightSide (n := n) h strength operator
  have htext : ∀ sql, Yields (do expectKeyword k; return .other sql) (GoesOn first) :=
    fun sql => yields_bind fun _ => yields_pure (.other sql)
  have hword := yields_wordTest (d := d) (n := n) h
  unfold keywordStep
  cases looseOperator? d k with
  | some op => exact yields_bind fun _ => yields_bind fun right => yields_pure (h.binary _ right)
  | none =>
      dsimp only
      split <;> first
        | exact hword
        | exact hside _
        | exact yields_fail cause
        | skip
      · exact yields_ite (hside _) (yields_fail cause)
      · exact yields_bind fun _ => yields_isTest
      · exact yields_bind fun _ => yields_bind fun _ => yields_pure (.other _)
      · exact yields_ite (htext _) (yields_fail cause)
      · refine yields_bind fun _ => yields_bind fun isOf => yields_ite ?_ (yields_fail _)
        exact yields_bind fun _ => yields_pure (.other _)

theorem yields_infixStep (h : GoesOn first left) (strength : Nat) :
    Yields (infixStep d n strength left) (GoesOn first) := by
  refine yields_bind fun t => ?_
  split
  · refine yields_ite ?_ (yields_ite ?_ ?_)
    · exact yields_bind fun _ => yields_bind fun _ => yields_pure (.other _)
    · exact yields_bind fun _ => yields_pure (.other _)
    · split
      · exact yields_rightSide h strength _
      · exact yields_fail _
  · exact yields_rightSide h strength _
  · split
    · exact yields_keywordStep h strength _ _
    · exact yields_fail _
  · exact yields_fail _

theorem yields_infixLoop (h : GoesOn first left) (strength : Nat) :
    Yields (infixLoop d n strength left) (Sum.elim (GoesOn first) (GoesOn first)) := by
  refine yields_bind fun ts => yields_ite (yields_pure h) ?_
  exact (yields_infixStep h _).bind fun next hnext => yields_pure hnext

theorem goesOn_of_iterateFrom (hleft : GoesOn first left) {fuel strength : Nat} {e : Expr}
    {ts rest : List Token}
    (h : iterateFrom (infixLoop d n strength) fuel left ts = .ok (e, rest)) : GoesOn first e :=
  (yields_iterateFrom (fun _ hnext => yields_infixLoop hnext strength) fuel hleft).of_ok h

/-! Links -/

/-- Nothing stands there, or an operand begins. -/
def BeginsOperand (d : Dialect) (us : List Token) : Prop :=
  ∀ t ∈ us.head?, StartsOperand d t

namespace BeginsOperand

variable {us : List Token}

theorem nil : BeginsOperand d [] :=
  nofun

theorem cons {t : Token} (ht : StartsOperand d t) (us : List Token) : BeginsOperand d (t :: us) := by
  rintro _ ⟨⟩
  exact ht

theorem noSpace (h : BeginsOperand d us) : NoSpace us :=
  fun t ht => (h t ht).isSpace

theorem acceptOneOf_many (h : BeginsOperand d us) :
    acceptOneOf [.ANY, .ALL, .SOME] us = .ok (none, us) := by
  cases us with
  | nil => rfl
  | cons t us => exact Grammar.acceptOneOf_many (h t rfl).keyword_ne_many us

theorem acceptKeyword_any (h : BeginsOperand d us) : acceptKeyword .ANY us = .ok (false, us) := by
  cases us with
  | nil => rfl
  | cons t us => exact Grammar.acceptKeyword_any (h t rfl) us

end BeginsOperand

theorem rightSide_eq_ok {strength : Nat} {operator : Parser Operator} {op : Operator} {e : Expr}
    {ts us rest : List Token} (hoperator : operator ts = .ok (op, us)) (hus : BeginsOperand d us)
    (h : rightSide n strength left operator ts = .ok (e, rest)) :
    ∃ right left', n.operand strength us = .ok (right, left') ∧ e = .binary left op right := by
  replace h := run_bind_of_ok (rfl : Parser.rest ts = .ok (ts, ts)) h
  replace h := run_bind_of_ok hoperator h
  replace h := run_bind_of_ok hus.acceptOneOf_many h
  obtain ⟨right, left', hright, h⟩ := run_bind_eq_ok_iff.mp h
  obtain ⟨rfl, -⟩ := run_pure_eq_ok h
  exact ⟨right, left', hright, rfl⟩

/-- What is read with the operator of a test or between tests, or a text only. -/
theorem Link.infixStep_eq_ok (link : Link) {e : Expr} {us rest : List Token}
    (hus : BeginsOperand d us)
    (h : infixStep d n (link.binding.strength d) left (link.token :: us) = .ok (e, rest)) :
    (∃ right left', n.operand (link.binding.strength d) us = .ok (right, left') ∧
      e = link.join left right) ∨ ∃ sql, e = .other sql := by
  cases link with
  | and =>
      rw [Link.token, infixStep_and] at h
      exact .inl (rightSide_eq_ok rfl hus h)
  | or =>
      rw [Link.token, infixStep_or] at h
      exact .inl (rightSide_eq_ok rfl hus h)
  | compare op =>
      have hexpect := expect_symbol (s := comparisonSymbol op) hus.noSpace
      rw [Link.token, infixStep_compare] at h
      exact .inl (rightSide_eq_ok (by simp [hexpect]) hus h)
  | like =>
      rw [Link.token, infixStep_like] at h
      replace h := run_bind_of_ok hus.acceptKeyword_any h
      obtain ⟨pattern, left', hpattern, h⟩ := run_bind_eq_ok_iff.mp h
      obtain ⟨escape, left'', -, h⟩ := run_bind_eq_ok_iff.mp h
      cases escape with
      | none =>
          obtain ⟨rfl, -⟩ := run_pure_eq_ok h
          exact .inl ⟨pattern, left', hpattern, rfl⟩
      | some escape =>
          obtain ⟨rfl, -⟩ := run_pure_eq_ok h
          exact .inr ⟨_, rfl⟩

/-- An operand with an operator after it goes on with the two sides of the operator, or is a text
only. -/
theorem IsOperand.eq_of_operand_link {link : Link} {m k s : Nat} {text : String} {e : Expr}
    {ts us rest : List Token}
    (hleft : IsOperand d m (link.binding.strength d - 1) text ts left) (hk : m ≤ k)
    (hs : s < link.binding.strength d) (hus : BeginsOperand d us)
    (h : (nestedAt d (k + 1)).operand s (ts ++ link.token :: us) = .ok (e, rest)) :
    (∃ right left', (nestedAt d k).operand (link.binding.strength d) us = .ok (right, left') ∧
      GoesOn (link.join left right) e) ∨ ∃ sql, GoesOn (.other sql) e := by
  have hends : HeadIn operandEnds (link.token :: us) :=
    headIn_cons (List.mem_append_left _ link.token_mem) _
  have hnext : nextBinding d .plain (link.token :: us) = link.binding :=
    link.nextBinding_token _ _
  obtain ⟨opening, tail, hprimary, hreaches⟩ := hleft.unfolds k hk
  rw [nestedAt_operand, Grammar.operand_eq] at h
  replace h := run_bind_of_ok (hprimary _ hends) h
  obtain ⟨fuel, h⟩ := (hreaches (s := s) (by omega) hends (by rw [hnext]; omega)).iterateFrom h
  cases fuel with
  | zero => cases h
  | succ fuel =>
      obtain ⟨step, left', hstep, h⟩ := run_bind_eq_ok_iff.mp h
      rw [link.infixLoop_eq hs] at hstep
      obtain ⟨next, left'', hinfix, hstep⟩ := run_bind_eq_ok_iff.mp hstep
      obtain ⟨rfl, rfl⟩ := run_pure_eq_ok hstep
      have hgoes := goesOn_of_iterateFrom .stop h
      rcases link.infixStep_eq_ok hus hinfix with ⟨right, after, hright, rfl⟩ | ⟨sql, rfl⟩
      · exact .inl ⟨right, after, hright, hgoes⟩
      · exact .inr ⟨sql, hgoes⟩

/-! Texts -/

theorem accessed_cases {root : Expr} (hroot : ∀ path, root ≠ .column path) (chain : List Access) :
    accessed root chain = root ∨ ∃ sql, accessed root chain = .other sql := by
  unfold accessed
  dsimp only
  split
  · exact .inl rfl
  · exact absurd rfl (hroot _)
  · exact .inr ⟨_, rfl⟩

/-- Fields and elements of what is no column are texts only. -/
theorem yields_accesses {root : Expr} (h : GoesOn first root) (hroot : ∀ path, root ≠ .column path) :
    Yields (accesses d n root) (GoesOn first) := by
  have hend : ∀ chain, GoesOn first (accessed root chain) := by
    intro chain
    rcases accessed_cases hroot chain with heq | ⟨sql, heq⟩
    · rwa [heq]
    · rw [heq]
      exact .other sql
  rw [accesses_eq]
  refine yields_iterate (I := fun _ => True) (fun chain _ => ?_) trivial
  refine yields_bind fun ts => ?_
  split
  · refine yields_ite ?_ (yields_pure (hend _))
    refine yields_bind fun _ => yields_bind fun _ => ?_
    split
    · exact yields_pure (.other _)
    · exact yields_fail _
  · exact yields_bind fun _ => yields_bind fun _ => yields_pure trivial
  · exact yields_bind fun _ => yields_bind fun _ => yields_pure trivial
  · exact yields_bind fun _ => yields_bind fun _ => yields_pure trivial
  · exact yields_pure (hend _)

/-- An operand that begins with no word is what begins there, as far as it is any constant. -/
theorem exists_root_of_operand {α : Type} {p : Parser α} {f : α → Expr} {k s : Nat} {t : Token}
    {us rest : List Token} {e : Expr} (ht : t.isWord = false)
    (hafter : ∀ inner, prefixAfter d (nestedAt d k) inner (t :: us) =
      (p >>= fun a => collated (nestedAt d k) (f a)) (t :: us))
    (hroot : ∀ a left, p (t :: us) = .ok (a, left) → ∀ path, f a ≠ .column path)
    (h : (nestedAt d (k + 1)).operand s (t :: us) = .ok (e, rest)) :
    ∃ a left, p (t :: us) = .ok (a, left) ∧ GoesOn (f a) e := by
  rw [nestedAt_operand, operand_eq] at h
  obtain ⟨opening, left, hopening, h⟩ := run_bind_eq_ok_iff.mp h
  obtain ⟨root, left', hread, hopening⟩ := run_bind_eq_ok_iff.mp hopening
  rw [prefixExpr_of_attempt _ fun p => fails_typedValue_of_not_word ht p _, hafter] at hread
  obtain ⟨a, left'', ha, hread⟩ := run_bind_eq_ok_iff.mp hread
  refine ⟨a, left'', ha, ?_⟩
  have hcollated : Yields (collated (nestedAt d k) (f a)) fun root =>
      GoesOn (f a) root ∧ ∀ path, root ≠ .column path :=
    yields_bind fun _ => yields_ite (yields_bind fun _ => yields_pure ⟨.other _, nofun⟩)
      (yields_pure ⟨.stop, hroot a left'' ha⟩)
  obtain ⟨hgoes, hne⟩ := hcollated.of_ok hread
  exact goesOn_of_iterateFrom ((yields_accesses hgoes hne).of_ok hopening) h

theorem value_string_eq (text : String) (us : List Token) :
    value d (.string text :: us) = (do return Value.string (← joinedText d text)) us := by
  simp [value, peek, next, after]

/-- An operand that begins with a text is the text, as far as it is any constant. -/
theorem operand_string_eq_ok {k s : Nat} {text : String} {us rest : List Token} {e : Expr}
    (h : (nestedAt d k).operand s (.string text :: us) = .ok (e, rest)) :
    ∃ joined left, joinedText d text us = .ok (joined, left) ∧
      GoesOn (.value (.string joined)) e := by
  cases k with
  | zero => cases h
  | succ k =>
      obtain ⟨v, left, hvalue, hgoes⟩ := exists_root_of_operand (f := Expr.value) rfl
        (fun inner => prefixAfter_string inner text us) (fun _ _ _ => nofun) h
      rw [value_string_eq] at hvalue
      obtain ⟨joined, after, hjoined, hvalue⟩ := run_bind_eq_ok_iff.mp hvalue
      obtain ⟨rfl, rfl⟩ := run_pure_eq_ok hvalue
      exact ⟨joined, after, hjoined, hgoes⟩

theorem exists_first_of_commaSeparated {α : Type} {p : Parser α} {as : List α}
    {ts rest : List Token} (h : commaSeparated p ts = .ok (as, rest)) :
    ∃ first left, p ts = .ok (first, left) ∧ as.head? = some first := by
  obtain ⟨first, left, hfirst, h⟩ := run_bind_eq_ok_iff.mp h
  refine ⟨first, left, hfirst, ?_⟩
  refine Yields.of_ok (P := fun as : List α => as.head? = some first) ?_ h
  refine yields_iterate (I := fun read : List α => read.getLast? = some first) ?_ rfl
  intro read hread
  refine yields_bind fun goesOn => yields_ite (yields_bind fun a => ?_) ?_
  · refine yields_pure ?_
    rw [Sum.elim_inl, List.getLast?_cons, hread]
    rfl
  · refine yields_pure ?_
    rwa [Sum.elim_inr, List.head?_reverse]

theorem parenthesizedExpr_eq_ok {us rest : List Token} {e : Expr} (hus : NoSpace us)
    (hquery : beginsQuery us = .ok (false, us))
    (h : parenthesizedExpr n (.symbol .lparen :: us) = .ok (e, rest)) :
    (∃ inner left, n.expr us = .ok (inner, left) ∧ e = .nested inner) ∨ ∃ sql, e = .other sql := by
  replace h := run_bind_of_ok (expect_symbol hus) h
  obtain ⟨root, left, hroot, h⟩ := run_bind_eq_ok_iff.mp h
  obtain ⟨-, left', -, h⟩ := run_bind_eq_ok_iff.mp h
  obtain ⟨rfl, -⟩ := run_pure_eq_ok h
  replace hroot := run_bind_of_ok hquery hroot
  rw [if_neg Bool.false_ne_true] at hroot
  obtain ⟨es, left'', hes, hroot⟩ := run_bind_eq_ok_iff.mp hroot
  obtain ⟨first, after, hfirst, hhead⟩ := exists_first_of_commaSeparated hes
  split at hroot
  · rename_i inner
    obtain ⟨rfl, -⟩ := run_pure_eq_ok hroot
    obtain rfl := Option.some.inj hhead
    exact .inl ⟨inner, after, hfirst, rfl⟩
  · obtain ⟨rfl, -⟩ := run_pure_eq_ok hroot
    exact .inr ⟨_, rfl⟩

/-- Of an operand that begins with a parenthesis, what begins behind it is kept, or the operand is a
text only. -/
theorem operand_lparen_eq_ok {k s : Nat} {us rest : List Token} {e : Expr}
    (hus : ∃ t ts, us = t :: ts ∧ StartsOperand d t)
    (h : (nestedAt d (k + 1)).operand s (.symbol .lparen :: us) = .ok (e, rest)) :
    (∃ inner left, (nestedAt d k).expr us = .ok (inner, left) ∧ GoesOn (.nested inner) e) ∨
      ∃ sql, GoesOn (.other sql) e := by
  obtain ⟨t, ts, rfl, ht⟩ := hus
  have hquery : beginsQuery (t :: ts) = .ok (false, t :: ts) := by
    have hselect := ht.keyword_ne .SELECT (by decide)
    have hwith := ht.keyword_ne .WITH (by decide)
    simp [beginsQuery, peekAny, hselect, hwith]
  have hroot := fun root left (hread : parenthesizedExpr (nestedAt d k)
    (.symbol .lparen :: t :: ts) = .ok (root, left)) =>
      parenthesizedExpr_eq_ok (noSpace_cons ht.isSpace ts) hquery hread
  have hcolumn : ∀ root left, parenthesizedExpr (nestedAt d k) (.symbol .lparen :: t :: ts) =
      .ok (root, left) → ∀ path, root ≠ .column path := by
    intro root left hread path heq
    subst heq
    rcases hroot _ left hread with ⟨inner, -, -, heq⟩ | ⟨sql, heq⟩ <;> cases heq
  obtain ⟨root, left, hread, hgoes⟩ :=
    exists_root_of_operand (f := id) rfl (fun _ => rfl) hcolumn h
  rcases hroot root left hread with ⟨inner, left', hinner, rfl⟩ | ⟨sql, rfl⟩
  · exact .inl ⟨inner, left', hinner, hgoes⟩
  · exact .inr ⟨sql, hgoes⟩

end Sql.Grammar

end SelectTree
