import SelectTree.Proofs.LeadingOperands

namespace SelectTree

open Sql Sql.Grammar Sql.Parser

/-! Conditions whose last test goes on with any constant, which may have swallowed what stands
behind it. The tests before it are read as they are. -/

variable {d : Dialect}

/-- What is read is no column, and the tests of it begin with these and with the last one, whose
constant the operand in `us` is. -/
def LeadsTo (d : Dialect) (tests : List Test) (last : Test) (us : List Token) (e : Expr) : Prop :=
  (∀ text, e.columnText ≠ .ok text) ∧
    ∀ tree, e.predicate = .ok tree → ∃ k right left value,
      (nestedAt d k).operand (last.link.binding.strength d) us = .ok (right, left) ∧
      right.literal = .ok value ∧ tests ++ [last.withValue value] <+: tree.tests

/-- A condition breaks off before the constant of its last test. Whatever operand begins there, the
tests that are read begin with these and with the last one, of this operand. -/
structure IsLead (d : Dialect) (m strength : Nat) (text : String) (ts : List Token)
    (tests : List Test) (last : Test) : Prop where
  spells : Spells d text ts
  starts : ∃ t us, ts = t :: us ∧ StartsOperand d t
  leads : ∀ {k s us e rest}, m ≤ k → s ≤ strength → BeginsOperand d us →
    (nestedAt d (k + 1)).operand s (ts ++ us) = .ok (e, rest) → LeadsTo d tests last us e

variable {m strength : Nat} {text text' : String} {ts us : List Token} {tests : List Test}
  {last : Test}

theorem IsLead.mono (h : IsLead d m strength text ts tests last) {k weaker : Nat} (hk : m ≤ k)
    (hweaker : weaker ≤ strength) : IsLead d k weaker text ts tests last where
  spells := h.spells
  starts := h.starts
  leads := fun hdepth hs => h.leads (Nat.le_trans hk hdepth) (Nat.le_trans hs hweaker)

theorem Test.eq_of_predicate_join {t : Test} {names : List Name} {e : Expr} {read : Predicate}
    (hcolumn : t.column = Name.pathSql names)
    (h : (t.link.join (.column names) e).predicate = .ok read) :
    ∃ value, e.literal = .ok value ∧ read = .test (t.withValue value) := by
  cases hvalue : e.literal with
  | ok value =>
      rw [Test.predicate_join hcolumn hvalue] at h
      exact ⟨value, rfl, (Except.ok.inj h).symm⟩
  | error cause =>
      cases t with
      | compare column op value =>
          simp [link, Link.join, Expr.predicate, Expr.columnText, hvalue, bind, Except.bind] at h
      | like column pattern =>
          simp [link, Link.join, Expr.predicate, Expr.columnText, hvalue, bind, Except.bind] at h

theorem Test.columnText_join (t : Test) (left right : Expr) (text : String) :
    (t.link.join left right).columnText ≠ .ok text := by
  cases t <;> exact nofun

/-- What is kept as a text only is no condition. -/
theorem Sql.Grammar.GoesOn.leadsTo_other {sql : String} {e : Expr} (h : GoesOn (.other sql) e) :
    LeadsTo d tests last us e := by
  refine ⟨fun text htext => ?_, fun tree htree => ?_⟩
  · obtain rfl := h.columnText htext
    cases htext
  · obtain ⟨read, hread, -⟩ := h.predicate (fun _ => nofun) htree
    cases hread

/-- The last test alone, up to its operator. -/
theorem isLead_test {names : List Name}
    (hleft : IsOperand d m (last.link.binding.strength d - 1) text ts (.column names))
    (hcolumn : last.column = Name.pathSql names) :
    IsLead d m (Binding.and.strength d) (text ++ " " ++ last.link.sql) (ts ++ [last.link.token]) []
      last where
  spells := hleft.spells.space last.link.spells
  starts := by
    obtain ⟨t, us, rfl, ht⟩ := hleft.starts
    exact ⟨t, _, rfl, ht⟩
  leads := by
    intro k s us e rest hk hs hus h
    rw [List.append_assoc, List.singleton_append] at h
    have hstronger := Nat.lt_of_le_of_lt hs last.strength_link
    rcases hleft.eq_of_operand_link hk hstronger hus h with
      ⟨right, left', hright, hgoes⟩ | ⟨sql, hgoes⟩
    · refine ⟨fun text htext => ?_, fun tree htree => ?_⟩
      · obtain rfl := hgoes.columnText htext
        exact last.columnText_join _ _ _ htext
      · obtain ⟨read, hread, hprefix⟩ := hgoes.predicate (last.columnText_join _ _) htree
        obtain ⟨value, hliteral, rfl⟩ := Test.eq_of_predicate_join hcolumn hread
        exact ⟨k, right, left', value, hright, hliteral, hprefix⟩
    · exact hgoes.leadsTo_other

/-- A parenthesis stands before a condition that breaks off. -/
theorem IsLead.parenthesized (h : IsLead d m 0 text ts tests last) (strength : Nat) :
    IsLead d (m + 1) strength ("(" ++ text) (.symbol .lparen :: ts) tests last where
  spells := by
    intro previous rest hcalm hgap
    obtain ⟨token, htoken, hcuts⟩ := h.spells (some (.symbol .lparen)) rest ⟨nofun, nofun⟩ hgap
    have hchars : ("(" ++ text).toList ++ rest = '(' :: (text.toList ++ rest) := by simp
    rw [hchars]
    exact ⟨token, htoken, cuts_symbol (by decide) rfl hcuts⟩
  starts := ⟨_, _, rfl, .lparen⟩
  leads := by
    intro k s us e rest hk hs hus hread
    obtain ⟨k, rfl⟩ : ∃ j, k = j + 1 := ⟨k - 1, by omega⟩
    have hopens : ∃ t more, ts ++ us = t :: more ∧ StartsOperand d t := by
      obtain ⟨t, more, rfl, ht⟩ := h.starts
      exact ⟨t, _, rfl, ht⟩
    rw [List.cons_append] at hread
    rcases operand_lparen_eq_ok hopens hread with ⟨inner, left, hinner, hgoes⟩ | ⟨sql, hgoes⟩
    · have hlead := h.leads (Nat.le_of_succ_le_succ hk) (Nat.zero_le 0) hus hinner
      refine ⟨fun text htext => ?_, fun tree htree => ?_⟩
      · obtain rfl := hgoes.columnText htext
        exact hlead.1 text htext
      · obtain ⟨read, hnested, hprefix⟩ := hgoes.predicate hlead.1 htree
        obtain ⟨j, right, left, value, hright, hvalue, hfirst⟩ := hlead.2 read hnested
        exact ⟨j, right, left, value, hright, hvalue, hfirst.trans hprefix⟩
    · exact hgoes.leadsTo_other

section Joined

variable {link : Link} {left : Expr} {leftTree : Predicate}

theorem Link.tests_join (hlink : link = .and ∨ link = .or) (hleft : left.predicate = .ok leftTree)
    {right : Expr} {read : Predicate} (h : (link.join left right).predicate = .ok read) :
    ∃ rightTree, right.predicate = .ok rightTree ∧ read.tests = leftTree.tests ++ rightTree.tests := by
  have hbinary : ∃ first rightTree, left.predicate = .ok first ∧ right.predicate = .ok rightTree ∧
      read.tests = first.tests ++ rightTree.tests := by
    rcases hlink with rfl | rfl
    · exact Expr.tests_binary (.inl rfl) h
    · exact Expr.tests_binary (.inr rfl) h
  obtain ⟨first, rightTree, hfirst, hright, htests⟩ := hbinary
  obtain rfl := Except.ok.inj (hleft.symm.trans hfirst)
  exact ⟨rightTree, hright, htests⟩

theorem Link.columnText_join (hlink : link = .and ∨ link = .or) (right : Expr) (text : String) :
    (link.join left right).columnText ≠ .ok text := by
  rcases hlink with rfl | rfl <;> exact nofun

/-- Tests stand before a condition that breaks off. -/
theorem IsLead.joined (hlink : link = .and ∨ link = .or) {words : String}
    (hwords : words = " " ++ link.sql ++ " ")
    (hleft : IsOperand d (m + 1) (link.binding.strength d - 1) text ts left)
    (hleftTree : left.predicate = .ok leftTree)
    (hright : IsLead d m (link.binding.strength d) text' us tests last) :
    IsLead d (m + 1) (link.binding.strength d - 1) (text ++ words ++ text')
      (ts ++ link.token :: us) (leftTree.tests ++ tests) last where
  spells := by
    have hspells := hleft.spells.space (link.spells.space hright.spells)
    rw [hwords]
    simp only [String.append_assoc] at hspells ⊢
    exact hspells
  starts := by
    obtain ⟨t, us, rfl, ht⟩ := hleft.starts
    exact ⟨t, _, rfl, ht⟩
  leads := by
    intro k s following e rest hk hs hfollowing h
    obtain ⟨k, rfl⟩ : ∃ j, k = j + 1 := ⟨k - 1, by omega⟩
    have hus : BeginsOperand d (us ++ following) := by
      obtain ⟨t, us', rfl, ht⟩ := hright.starts
      exact .cons ht _
    rw [List.append_assoc, List.cons_append] at h
    have hstronger := Nat.lt_of_le_of_lt hs (Nat.sub_one_lt_of_lt (link.strength_pos (d := d)))
    rcases hleft.eq_of_operand_link hk hstronger hus h with
      ⟨right, left', hread, hgoes⟩ | ⟨sql, hgoes⟩
    · have hcolumn : ∀ text, (link.join left right).columnText ≠ .ok text :=
        Link.columnText_join hlink right
      have hlead := hright.leads (Nat.le_of_succ_le_succ hk) (Nat.le_refl _) hfollowing hread
      refine ⟨fun text htext => ?_, fun tree htree => ?_⟩
      · obtain rfl := hgoes.columnText htext
        exact hcolumn _ htext
      · obtain ⟨read, hjoined, hprefix⟩ := hgoes.predicate hcolumn htree
        obtain ⟨rightTree, hrightTree, htests⟩ := Link.tests_join hlink hleftTree hjoined
        obtain ⟨j, constant, after, value, hconstant, hvalue, hfirst⟩ := hlead.2 rightTree hrightTree
        refine ⟨j, constant, after, value, hconstant, hvalue, List.IsPrefix.trans ?_ hprefix⟩
        rw [htests, List.append_assoc]
        exact (List.prefix_append_right_inj _).mpr hfirst
    · exact hgoes.leadsTo_other

theorem IsLead.and (hleft : IsOperand d (m + 1) (Binding.and.strength d - 1) text ts left)
    (hleftTree : left.predicate = .ok leftTree)
    (hright : IsLead d m (Binding.and.strength d) text' us tests last) :
    IsLead d (m + 1) (Binding.and.strength d - 1) (text ++ " AND " ++ text')
      (ts ++ Keyword.AND.token :: us) (leftTree.tests ++ tests) last :=
  .joined (.inl rfl) rfl hleft hleftTree hright

theorem IsLead.or (hleft : IsOperand d (m + 1) (Binding.or.strength d - 1) text ts left)
    (hleftTree : left.predicate = .ok leftTree)
    (hright : IsLead d m (Binding.or.strength d) text' us tests last) :
    IsLead d (m + 1) (Binding.or.strength d - 1) (text ++ " OR " ++ text')
      (ts ++ Keyword.OR.token :: us) (leftTree.tests ++ tests) last :=
  .joined (.inr rfl) rfl hleft hleftTree hright

end Joined

/-! Attached tests -/

namespace Predicate

variable {depth : Nat} {t : Test} {p : Predicate}

/-- A test joins the whole tree, or the last test of alternatives. -/
theorem sql_attach (h : ∀ left last, p ≠ .or left (.test last)) :
    (p.attach t).sql = p.conjunct ++ " AND " ++ t.sql := by
  unfold attach
  split
  · simp only [sql, conjunct, isOr, Bool.false_eq_true, if_false, String.append_assoc]
  · exact absurd rfl (h _ _)
  · rfl

theorem sql_attach_or (left : Predicate) (last : Test) :
    ((or left (test last)).attach t).sql =
      left.sql ++ " OR " ++ (last.sql ++ " AND " ++ t.sql) := rfl

/-- The condition of a query with one more test, up to the constant of the test. -/
theorem exists_lead_attach (h : p.IsReadable d m) (hdepth : 3 < m)
    (ht : IsLead d 2 (Binding.and.strength d) text ts [] t)
    (hsql : t.sql = text ++ " " ++ t.value.sql) :
    ∃ front us, IsLead d m 0 front us p.tests t ∧
      (p.attach t).sql = front ++ " " ++ t.value.sql := by
  obtain ⟨m, rfl⟩ := Nat.exists_eq_add_of_le' hdepth
  by_cases hshape : ∃ left last, p = .or left (.test last)
  · obtain ⟨left, last, rfl⟩ := hshape
    obtain ⟨leftTs, leftExpr, hleft, hleftTree⟩ := IsReadable.exists_operand h.1
    obtain ⟨lastTs, lastExpr, hlast, hlastTree⟩ := Test.IsReadable.exists_operand h.2
    have hconjunction := IsLead.and (hlast.mono (by omega) (Nat.sub_le _ 1)) hlastTree
      (ht.mono (Nat.le_add_left 2 m) (Nat.le_refl _))
    have hlead := IsLead.or (hleft.mono (Nat.le_succ _) left.strength_or_sub_le) hleftTree
      (hconjunction.mono (Nat.le_refl _) strength_or_le)
    have htests : left.reassociated.tests ++ ((test last).tests ++ []) =
        (or left (test last)).tests := by
      simp [tests_reassociated]
    rw [htests] at hlead
    refine ⟨_, _, hlead.mono (Nat.le_refl _) (Nat.zero_le _), ?_⟩
    rw [sql_attach_or, hsql]
    simp only [String.append_assoc]
  · have hother : ∀ left last, p ≠ .or left (.test last) :=
      fun left last heq => hshape ⟨left, last, heq⟩
    have hle := p.parentheses_le_one
    obtain ⟨leftTs, left, hleft, hleftTree⟩ :=
      IsReadable.exists_conjunct (m := m + 4) (h.mono (by omega))
    have hlead := IsLead.and hleft hleftTree (ht.mono (by omega) (Nat.le_refl _))
    rw [tests_reassociated, List.append_nil] at hlead
    refine ⟨_, _, hlead.mono (Nat.le_refl _) (Nat.zero_le _), ?_⟩
    rw [sql_attach hother, hsql]
    simp only [String.append_assoc]

/-- The same of a condition that may be gone. -/
theorem exists_lead_requiring {filter : Option Predicate} (h : ∀ p ∈ filter, p.IsReadable d m)
    (hdepth : 3 < m) (ht : IsLead d 2 (Binding.and.strength d) text ts [] t)
    (hsql : t.sql = text ++ " " ++ t.value.sql) :
    ∃ front us, IsLead d m 0 front us (testsOf filter) t ∧
      (requiring filter t).sql = front ++ " " ++ t.value.sql := by
  cases filter with
  | none => exact ⟨text, ts, ht.mono (by omega) (Nat.zero_le _), hsql⟩
  | some root => exact exists_lead_attach (h root rfl) hdepth ht hsql

end Predicate

/-! Selections -/

theorem selectionFrom_where_eq_ok {n : Nested} {is : List Item} {js : List Joined} {s : Selection}
    {rest : List Token}
    (h : selectionFrom d n is js (Keyword.WHERE.token :: us) = .ok (s, rest)) :
    ∃ e left, n.expr us = .ok (e, left) ∧ s.filter = some e := by
  have hwhere : HeadIn clauseStarts (Keyword.WHERE.token :: us) := headIn_cons (by decide) us
  have haccept : acceptKeyword .WHERE (Keyword.WHERE.token :: us) = .ok (true, us) := rfl
  replace h := run_bind_of_ok (views_of_headIn hwhere) h
  replace h := run_bind_of_ok (prefilter_of_headIn hwhere) h
  obtain ⟨filter, left, hfilter, h⟩ := run_bind_eq_ok_iff.mp h
  replace hfilter := run_bind_of_ok haccept hfilter
  rw [if_pos rfl] at hfilter
  obtain ⟨e, left', he, hfilter⟩ := run_bind_eq_ok_iff.mp hfilter
  obtain ⟨rfl, -⟩ := run_pure_eq_ok hfilter
  refine ⟨e, left', he, ?_⟩
  refine Yields.of_ok (P := fun s : Selection => s.filter = some e) ?_ h
  exact yields_bind fun _ => yields_bind fun _ => yields_bind fun _ => yields_bind fun _ =>
    yields_bind fun _ => yields_pure rfl

theorem Selection.filter_eq {s : Selection} {tree : Select} {e : Expr} (h : s.select = .ok tree)
    (hfilter : s.filter = some e) : ∃ p, e.predicate = .ok p ∧ tree.filter = some p := by
  obtain ⟨-, -, -, hread, -⟩ := Selection.select_eq_ok h
  rw [hfilter, Option.mapM_some] at hread
  obtain ⟨p, hp, heq⟩ := map_eq_ok_iff.mp hread
  exact ⟨p, hp, heq.symm⟩

/-! Texts -/

namespace Sql

variable {previous : Option Token} {fuel : Nat} {cs : List Char} {lexemes : List Lexeme}

theorem lexFrom_quote (hfuel : cs.length < fuel)
    (h : lexFrom d fuel previous ('\'' :: cs) = .ok lexemes) :
    ∃ fuel given left more, readQuoted '\'' (stringEscape d) cs = some (given, left) ∧
      left.length ≤ fuel ∧ lexFrom d fuel (some (.string (String.ofList given))) left = .ok more ∧
      lexemes.map Lexeme.token = .string (String.ofList given) :: more.map Lexeme.token := by
  obtain ⟨fuel, rfl⟩ := Nat.exists_eq_add_of_le' (Nat.zero_lt_of_lt hfuel)
  obtain ⟨read, left, token, more, hscan, hmore, htokens, hread⟩ := lexFrom_cons_inv h
  rw [scan_quote, scanString] at hscan
  split at hscan
  · rename_i given rest hquoted
    obtain ⟨rfl, rfl⟩ := Prod.mk.inj (Except.ok.inj hscan)
    obtain rfl := hread.resolve_right fun hskipped => Option.some_ne_none _ hskipped.1
    have hlength := length_readQuoted_lt hquoted
    exact ⟨fuel, given, rest, more, hquoted, by omega, hmore, htokens⟩
  · cases hscan

/-- A word of a clause is the first token of what is read from there on. -/
theorem headIn_of_keyword {k : Keyword} (hk : k ∈ Keyword.printed) (hcalm : IsCalm previous)
    {clause : List Char} (hclause : clause = ' ' :: (k.spelling.toList ++ ' ' :: cs))
    (hfuel : clause.length ≤ fuel) (h : lexFrom d fuel previous clause = .ok lexemes) :
    HeadIn [k.token] (lexemes.map Lexeme.token) := by
  subst hclause
  obtain ⟨last, -, hcuts⟩ := Keyword.spells hk none (' ' :: cs) isCalm_none
    (atGap_cons (by decide) _)
  obtain ⟨-, more, -, -, htokens⟩ := lexFrom_of_cuts (cuts_space hcalm hcuts) hfuel h
  rw [htokens]
  exact headIn_head _ _

theorem headIn_of_clauses {grouping order : Option String} (hcalm : IsCalm previous)
    (hclauses : cs = (clausePart " GROUP BY " grouping ++ clausePart " ORDER BY " order).toList)
    (hfuel : cs.length ≤ fuel) (h : lexFrom d fuel previous cs = .ok lexemes) :
    HeadIn operandEnds (lexemes.map Lexeme.token) := by
  cases grouping with
  | some keys =>
      have hgroup : cs = ' ' :: (Keyword.GROUP.spelling.toList ++
          ' ' :: ("BY " ++ keys ++ clausePart " ORDER BY " order).toList) := by
        rw [hclauses]
        simp [clausePart, Keyword.spelling]
      exact (headIn_of_keyword (by decide) hcalm hgroup hfuel h).mono (by decide)
  | none =>
      cases order with
      | some keys =>
          have horder : cs = ' ' :: (Keyword.ORDER.spelling.toList ++
              ' ' :: ("BY " ++ keys).toList) := by
            rw [hclauses]
            simp [clausePart, Keyword.spelling]
          exact (headIn_of_keyword (by decide) hcalm horder hfuel h).mono (by decide)
      | none =>
          subst hclauses
          have hnone : lexemes = [] := by
            cases fuel <;> exact (Except.ok.inj h).symm
          rw [hnone]
          exact headIn_nil _

end Sql

theorem Sql.Grammar.isPrefix_joinedText {given joined : String} {rest : List Token}
    (h : joinedText d given us = .ok (joined, rest)) : given.toList <+: joined.toList := by
  unfold joinedText at h
  split at h
  · refine Yields.of_ok (P := fun read : String => given.toList <+: read.toList) ?_ h
    refine yields_iterate (I := fun read : String => given.toList <+: read.toList) ?_
      (List.prefix_refl _)
    intro read hread
    refine yields_bind fun more => ?_
    cases more with
    | none => exact yields_pure hread
    | some more =>
        refine yields_pure (hread.trans ?_)
        rw [String.toList_append]
        exact List.prefix_append _ _
  · obtain ⟨rfl, -⟩ := run_pure_eq_ok h
    exact List.prefix_refl _

/-- The tests of a query whose condition breaks off are those of the condition, up to the operand
that stands there. -/
theorem Sql.Grammar.exists_value_of_text {its sts left : List Token} {is : List Item}
    {js : List Joined} {query : Query} {tree : Select}
    (hopens : ∃ t us, its = t :: us ∧ Opens t)
    (hitems : Reads (items d (nestedAt d queryDepth)) [Keyword.FROM.token] its is)
    (hsources : Reads (sources d (nestedAt d queryDepth)) clauseStarts sts js)
    (hlead : IsLead d (queryDepth - 1) 0 text ts tests last) (hus : BeginsOperand d us)
    (h : Grammar.text d (Keyword.SELECT.token :: (its ++ Keyword.FROM.token ::
      (sts ++ Keyword.WHERE.token :: (ts ++ us)))) = .ok ([.query query], left))
    (htree : query.select = .ok tree) :
    ∃ k right rest value,
      (nestedAt d k).operand (last.link.binding.strength d) us = .ok (right, rest) ∧
      right.literal = .ok value ∧ tests ++ [last.withValue value] <+: tree.tests := by
  obtain ⟨s, left, read, hselection, hread, heq⟩ := text_select_eq_ok h htree
  rw [selection_from hopens hitems] at hselection
  replace hselection := run_bind_of_ok (hsources _ (headIn_cons (by decide) _)) hselection
  obtain ⟨e, rest, he, hfilter⟩ := selectionFrom_where_eq_ok hselection
  obtain ⟨p, hp, hfilter⟩ := Selection.filter_eq hread hfilter
  have htests : tree.tests = p.tests := by
    rw [heq]
    simp [Select.tests, hfilter]
  rw [htests]
  exact (hlead.leads (Nat.le_refl _) (Nat.zero_le _) hus he).2 p hp

namespace Select

/-- The clauses behind the condition of a query. -/
def lastClauses (groupBy : List ColumnRef) (orderBy : List OrderItem) : List Char :=
  (clausePart " GROUP BY " (listClause (groupBy.map ColumnRef.sql)) ++
    clausePart " ORDER BY " (listClause (orderBy.map OrderItem.sql))).toList

variable {items : List ColumnRef} {source : Source} {p : Predicate} {groupBy : List ColumnRef}
  {orderBy : List OrderItem} {read : Select} {back value : String}

/-- A query with a condition that breaks off is read with the tests of the condition, up to the
operand that stands there. -/
theorem exists_value_of_parse (hitems : IsItemsRead d queryDepth items)
    (hsource : ∃ ts js trees, source.IsReadList d queryDepth ts js trees source)
    (hlead : IsLead d (queryDepth - 1) 0 text ts tests last)
    (hsql : p.sql = text ++ " " ++ back)
    (hparse : d.parse (Select.mk items source (some p) groupBy orderBy).sql = .ok (some read)) :
    ∃ fuel behind, (back.toList ++ lastClauses groupBy orderBy).length ≤ fuel ∧
      lexFrom d fuel none (back.toList ++ lastClauses groupBy orderBy) = .ok behind ∧
      (BeginsOperand d (behind.map Lexeme.token) → ∃ k right rest value,
        (nestedAt d k).operand (last.link.binding.strength d) (behind.map Lexeme.token) =
          .ok (right, rest) ∧
        right.literal = .ok value ∧ tests ++ [last.withValue value] <+: read.tests) := by
  obtain ⟨its, is, hits, -⟩ := hitems
  obtain ⟨sts, js, trees, hsts⟩ := hsource
  obtain ⟨query, hread, hquery⟩ := parse_eq_ok hparse
  obtain ⟨lexemes, rest, hlex, htext⟩ := readStatements_eq_ok hread
  -- The text up to the operand is cut into the tokens that it is printed from.
  have hfront := (((Keyword.spells (k := .SELECT) (by decide)).space hits.spells).space
    ((Keyword.spells (k := .FROM) (by decide)).space hsts.spells)).space
    ((Keyword.spells (k := .WHERE) (by decide)).space hlead.spells)
  have hchars : (Select.mk items source (some p) groupBy orderBy).sql.toList =
      (Keyword.SELECT.spelling ++ " " ++ Text.listed (items.map ColumnRef.sql) ++ " " ++
        (Keyword.FROM.spelling ++ " " ++ source.sql) ++ " " ++
        (Keyword.WHERE.spelling ++ " " ++ text)).toList ++
          ' ' :: (back.toList ++ lastClauses groupBy orderBy) := by
    rw [lastClauses, sql_eq, Option.map_some, hsql]
    simp [clausePart, Keyword.spelling]
  rw [hchars] at hlex
  obtain ⟨fuel, behind, hfuel, hbehind, hfrontTokens⟩ := lex_of_spells hfront hlex
  refine ⟨fuel, behind, hfuel, hbehind, fun hus => ?_⟩
  rw [hfrontTokens] at htext
  simp only [List.append_assoc, List.cons_append, List.nil_append] at htext
  exact exists_value_of_text hits.starts (hits.reads _ (Nat.le_refl _))
    (hsts.reads _ (Nat.le_refl _)) hlead hus htext hquery

/-- The text in quotes that ends the condition of a query may be read as another one, up to another
place. The query is read with its tests up to this one, which has the text that was read and maybe
others after it. -/
theorem exists_given_of_parse (hitems : IsItemsRead d queryDepth items)
    (hsource : ∃ ts js trees, source.IsReadList d queryDepth ts js trees source)
    (hlead : IsLead d (queryDepth - 1) 0 text ts tests last)
    (hsql : p.sql = text ++ " " ++ (Literal.string value).sql)
    (hparse : d.parse (Select.mk items source (some p) groupBy orderBy).sql = .ok (some read)) :
    ∃ rest given left joined, rest.head? ≠ some '\'' ∧
      readQuoted '\'' (stringEscape d) (doubleQuotes value.toList ++ '\'' :: rest) =
        some (given, left) ∧
      given <+: joined.toList ∧ (left = rest → joined.toList = given) ∧
      tests ++ [last.withValue (.string joined)] <+: read.tests := by
  obtain ⟨fuel, behind, hfuel, hbehind, hvalue⟩ := exists_value_of_parse hitems hsource hlead hsql hparse
  have hchars : (Literal.string value).sql.toList ++ lastClauses groupBy orderBy =
      '\'' :: (doubleQuotes value.toList ++ '\'' :: lastClauses groupBy orderBy) := by
    simp [Literal.sql]
  rw [hchars] at hfuel hbehind
  obtain ⟨fuel, given, left, more, hgiven, hleft, hmore, htokens⟩ := lexFrom_quote hfuel hbehind
  rw [htokens] at hvalue
  obtain ⟨k, right, after, constant, hright, hliteral, htests⟩ := hvalue (.cons (.string _) _)
  obtain ⟨joined, after, hjoined, hgoes⟩ := operand_string_eq_ok hright
  obtain rfl := hgoes.literal hliteral
  obtain rfl := Except.ok.inj hliteral
  refine ⟨lastClauses groupBy orderBy, given, left, joined, ?_, hgiven, ?_, ?_, htests⟩
  · unfold lastClauses
    cases listClause (groupBy.map ColumnRef.sql) <;>
      cases listClause (orderBy.map OrderItem.sql) <;> simp [clausePart]
  · simpa using isPrefix_joinedText hjoined
  · intro heq
    subst heq
    have hends := headIn_of_clauses (isCalm_string _) rfl hleft hmore
    rw [joinedText_of_headIn _ hends] at hjoined
    obtain ⟨rfl, -⟩ := run_pure_eq_ok hjoined
    exact String.toList_ofList

end Select

end SelectTree
