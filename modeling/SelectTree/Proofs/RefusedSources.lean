import Mathlib.Tactic.Choose
import SelectTree.Proofs.LoneParentheses
import SelectTree.Proofs.TableTokens

namespace SelectTree.Sql.Grammar

open Sql.Parser

/-! Sources that a dialect refuses: where anything is read from the tokens of one, no tree holds what
is read. A chain of joins has no tree if one of its factors has none, whatever stands behind it. -/

variable {d : Dialect} {n : Nested} {ts us vs rest : List Token}

/-! Chains without a tree -/

def TreelessChain (j : Joined) : Prop :=
  ∀ tree, j.source ≠ .ok tree

theorem treelessChain_of_first {j : Joined} (h : Treeless j.first) : TreelessChain j := by
  obtain ⟨first, joins⟩ := j
  intro tree htree
  obtain ⟨base, hbase, -⟩ := bind_eq_ok_iff.mp htree
  exact h base hbase

theorem sourceFrom_ne_ok {joins : List Join} {join : Join} (hmem : join ∈ joins)
    (h : Treeless join.right) (left tree : Source) : Join.sourceFrom left joins ≠ .ok tree := by
  induction joins generalizing left with
  | nil => cases hmem
  | cons next joins ih =>
      intro htree
      obtain ⟨joined, hjoined, htree⟩ := bind_eq_ok_iff.mp htree
      rcases List.mem_cons.mp hmem with rfl | hmem
      · obtain ⟨isGlobal, words, right, condition⟩ := join
        obtain ⟨rightTree, hright, -⟩ := bind_eq_ok_iff.mp hjoined
        exact h rightTree hright
      · exact ih hmem joined htree

theorem treelessChain_of_mem {j : Joined} {join : Join} (hmem : join ∈ j.joins)
    (h : Treeless join.right) : TreelessChain j := by
  obtain ⟨first, joins⟩ := j
  intro tree htree
  obtain ⟨base, -, htree⟩ := bind_eq_ok_iff.mp htree
  exact sourceFrom_ne_ok hmem h base tree htree

theorem TreelessChain.nested {j : Joined} (h : TreelessChain j) (asName : Option Alias) :
    Treeless (.nested j asName) := by
  intro tree htree
  cases asName with
  | some asName => cases htree
  | none =>
      obtain ⟨inner, hinner, -⟩ := bind_eq_ok_iff.mp htree
      exact h inner hinner

theorem TreelessChain.first {j : Joined} (h : TreelessChain j) (hjoins : j.joins = []) :
    Treeless j.first := by
  obtain ⟨first, joins⟩ := j
  obtain rfl : joins = [] := hjoins
  exact fun tree htree => h tree (Joined.source_single htree)

theorem Treeless.renamed {f : Factor} (h : Treeless f) (hnested : isNestedFactor f = false)
    (asName : Alias) : Treeless (renamed asName f) := by
  intro tree htree
  cases f with
  | table path partitions arguments ordinality given hints =>
      cases arguments with
      | some arguments => cases htree
      | none => exact h (.table (Name.pathSql path) (aliasText given)) rfl
  | derived lateral q given =>
      cases lateral with
      | true => cases htree
      | false =>
          obtain ⟨select, hselect, -⟩ := bind_eq_ok_iff.mp htree
          exact h (.derived select (aliasText given)) (bind_eq_ok_iff.mpr ⟨select, hselect, rfl⟩)
  | nested inner given => cases hnested
  | other before given after => cases htree

/-! Factors that are refused -/

/-- No factor with a tree is read from the tokens. -/
def RefusesFactor (d : Dialect) (n : Nested) (ts : List Token) : Prop :=
  ∀ fuel, ts.length < fuel → ∀ rest, HeadIn factorEnds rest → ∀ f left,
    factorAt d n fuel (ts ++ rest) = .ok (f, left) → Treeless f

def RefusesFactors (d : Dialect) (n : Nested) (length : Nat) (p : Parser Factor) : Prop :=
  ∀ ts, ts.length ≤ length → RefusesFactor d n ts → ∀ rest, HeadIn factorEnds rest →
    ∀ f left, p (ts ++ rest) = .ok (f, left) → Treeless f

theorem refusesFactors_factorAt {length fuel : Nat} (h : length < fuel) :
    RefusesFactors d n length (factorAt d n fuel) :=
  fun _ hlength hrefuses => hrefuses fuel (Nat.lt_of_le_of_lt hlength h)

theorem refusesFactors_factor (length : Nat) : RefusesFactors d n length (factor d n) := by
  intro ts _ hrefuses rest hrest
  exact hrefuses _ (by simp only [List.length_append]; omega) rest hrest

/-! Parentheses -/

/-- A query that begins with parentheses is a set operation, of which no tree can be made. -/
theorem query_lparen_ne {q : Query} (h : query d n (.symbol .lparen :: ts) = .ok (q, rest))
    (tree : Select) : q.select ≠ .ok tree := by
  intro htree
  obtain ⟨read, hread, -⟩ := Query.select_eq_ok htree
  rw [query_eq (t := .symbol .lparen) ts nofun fun _ _ => nofun] at h
  obtain ⟨b, left, hbody, h⟩ := run_bind_eq_ok_iff.mp h
  have hq : q.body = b := by
    refine Yields.of_ok (P := fun q : Query => q.body = b) ?_ h
    exact yields_bind fun _ => yields_bind fun _ => yields_bind fun _ => yields_bind fun _ =>
      yields_bind fun _ => yields_bind fun _ => yields_bind fun _ => yields_pure rfl
  have hother : ∃ sql, b = .other sql := by
    rcases body_eq_ok hbody with ⟨left, hhead⟩ | hother
    · have hselect : peekKeyword .SELECT (.symbol .lparen :: ts) =
          .ok (false, .symbol .lparen :: ts) := rfl
      have hfrom : peekKeyword .FROM (.symbol .lparen :: ts) =
          .ok (false, .symbol .lparen :: ts) := rfl
      have hopen : accept .lparen (.symbol .lparen :: ts) =
          .ok (true, after (.symbol .lparen) ts) := by
        simp [accept]
      replace hhead := run_bind_of_ok hselect hhead
      replace hhead := run_bind_of_ok hfrom hhead
      replace hhead := run_bind_of_ok hopen hhead
      obtain ⟨sql, _, -, hhead⟩ := run_bind_eq_ok_iff.mp hhead
      obtain ⟨_, _, -, hhead⟩ := run_bind_eq_ok_iff.mp hhead
      exact ⟨_, (run_pure_eq_ok hhead).1.symm⟩
    · exact hother
  obtain ⟨sql, rfl⟩ := hother
  rw [hq] at hread
  cases hread

/-- The tokens open parentheses, or they open no query. -/
def OpensNoTree (n : Nested) (ts : List Token) : Prop :=
  (∃ us, ts = .symbol .lparen :: us) ∨ ∀ rest, NoQuery n (ts ++ rest)

theorem treeless_derived {m : Nat} (hopens : OpensNoTree (nestedAt d m) ts) {f : Factor}
    {left : List Token} (h : derived d (nestedAt d m) false (ts ++ rest) = .ok (f, left)) :
    Treeless f := by
  rcases hopens with ⟨us, rfl⟩ | hquery
  · obtain ⟨q, left, hq, h⟩ := run_bind_eq_ok_iff.mp h
    obtain ⟨_, _, -, h⟩ := run_bind_eq_ok_iff.mp h
    obtain ⟨asName, _, -, h⟩ := run_bind_eq_ok_iff.mp h
    obtain ⟨rfl, -⟩ := run_pure_eq_ok h
    intro tree htree
    obtain ⟨select, hselect, -⟩ := bind_eq_ok_iff.mp htree
    cases m with
    | zero => cases hq
    | succ m =>
        rw [nestedAt_query] at hq
        exact query_lparen_ne hq select hselect
  · obtain ⟨failure, hfailure, -⟩ := fails_derived (d := d) (hquery rest)
    rw [h] at hfailure
    cases hfailure

theorem treeless_nestedFactor {p : Parser Joined} {f : Factor} {left : List Token}
    (hp : ∀ j left, p ts = .ok (j, left) → TreelessChain j)
    (h : nestedFactor d n p ts = .ok (f, left)) : Treeless f := by
  obtain ⟨inner, left, hinner, h⟩ := run_bind_eq_ok_iff.mp h
  have htreeless := hp inner left hinner
  split at h
  · obtain ⟨_, _, -, h⟩ := run_bind_eq_ok_iff.mp h
    obtain ⟨asName, _, -, h⟩ := run_bind_eq_ok_iff.mp h
    obtain ⟨rfl, -⟩ := run_pure_eq_ok h
    exact htreeless.nested asName
  · rename_i hlone
    simp only [Bool.or_eq_true, Bool.not_eq_true', not_or, Bool.not_eq_false, List.isEmpty_iff,
      Bool.not_eq_true] at hlone
    have hfirst := htreeless.first hlone.1
    split at h
    · obtain ⟨_, _, -, h⟩ := run_bind_eq_ok_iff.mp h
      obtain ⟨asName, _, -, h⟩ := run_bind_eq_ok_iff.mp h
      cases asName with
      | none =>
          obtain ⟨rfl, -⟩ := run_pure_eq_ok h
          exact hfirst
      | some outer =>
          cases hgiven : innerAlias inner.first with
          | none =>
              rw [hgiven] at h
              obtain ⟨rfl, -⟩ := run_pure_eq_ok h
              exact hfirst.renamed hlone.2 outer
          | some given =>
              rw [hgiven] at h
              cases h
    · cases h

/-- What stands in parentheses is read as a query first. -/
theorem refusesFactor_parenthesized {m : Nat} (hspace : Solid ts)
    (hopens : OpensNoTree (nestedAt d m) ts)
    (hjoins : ∀ fuel, ts.length < fuel → ∀ rest, HeadIn factorEnds rest → ∀ f left,
      attempt (derived d (nestedAt d m) false) (ts ++ .symbol .rparen :: rest) =
        .ok (none, ts ++ .symbol .rparen :: rest) →
      nestedFactor d (nestedAt d m) (joinedWith d (nestedAt d m) (factorAt d (nestedAt d m) fuel))
        (ts ++ .symbol .rparen :: rest) = .ok (f, left) → Treeless f) :
    RefusesFactor d (nestedAt d m) (.symbol .lparen :: (ts ++ [.symbol .rparen])) := by
  intro fuel hfuel rest hrest f left h
  obtain ⟨fuel, rfl⟩ : ∃ k, fuel = k + 1 := ⟨fuel - 1, by omega⟩
  have hlength : ts.length < fuel := by
    simp at hfuel
    omega
  simp only [List.cons_append, List.append_assoc, List.nil_append] at h
  rw [factorAt_lparen (hspace.noSpace_append _)] at h
  obtain ⟨read, left, hattempt, h⟩ := run_bind_eq_ok_iff.mp h
  rcases attempt_eq_ok hattempt with ⟨derived, rfl, hderived⟩ | ⟨rfl, rfl⟩
  · rcases (yields_pivoted _ derived).of_ok h with hpivot | rfl
    · exact hpivot
    · exact treeless_derived hopens hderived
  · exact hjoins fuel hlength rest hrest f _ hattempt h

/-- A derived table alone in parentheses is refused by dialects in which no table may stand there,
and taken for a query in the others where it has no name. -/
theorem refusesFactor_alone {depth m : Nat} {f : Factor} (hm : depth ≤ m) (hspace : Solid ts)
    (hopens : ∃ us, ts = .symbol .lparen :: us)
    (hread : ∀ m, depth ≤ m → ReadsFactor d (nestedAt d m) ts f) (hnested : isNestedFactor f = false)
    (hrefused : d.allowsParenthesizedTable = false ∨
      ∀ rest, ∃ q, (nestedAt d m).query (ts ++ .symbol .rparen :: rest) =
        .ok (q, .symbol .rparen :: rest)) :
    RefusesFactor d (nestedAt d m) (.symbol .lparen :: (ts ++ [.symbol .rparen])) := by
  apply refusesFactor_parenthesized hspace (.inl hopens)
  intro fuel hfuel rest hrest f' left hattempt h
  -- Without a name the derived table would have been read as a query before.
  rcases hrefused with hforbidden | hquery
  · have hjoined := (ReadsJoined.single hspace hread).reads hm
      (readsFactors_factorAt (by simpa using hfuel)) (.symbol .rparen :: rest)
      (headIn_cons (by decide) _)
    rw [List.append_nil] at hjoined
    replace h := run_bind_of_ok hjoined h
    simp only [List.isEmpty_nil, Bool.not_true, Bool.false_or, hnested, Bool.false_eq_true,
      if_false, hforbidden] at h
    cases h
  · obtain ⟨q, hq⟩ := hquery rest
    have hclose := expect_symbol (s := .rparen) (hrest.noSpace (by decide))
    have halias := tableAlias?_tokens (d := d) (n := nestedAt d m) none hrest
    simp only [aliasTokens, List.nil_append, aliasOf, Option.map_none] at halias
    have hderived : derived d (nestedAt d m) false (ts ++ .symbol .rparen :: rest) =
        .ok (.derived false q none, rest) := by
      simp [derived, hq, hclose, halias]
    rw [attempt_of_ok hderived] at hattempt
    cases hattempt

/-! Texts that are refused -/

/-- A text is cut into tokens of which no factor with a tree is read. -/
structure IsRefusedFactor (d : Dialect) (depth : Nat) (text : String) (ts : List Token) : Prop where
  spells : Spells d text ts
  solid : Solid ts
  opens : ∃ us, ts = .symbol .lparen :: us
  refuses : ∀ m, depth ≤ m → RefusesFactor d (nestedAt d m) ts

/-- A text is cut into tokens of which no chain with a tree is read, also where it goes on. -/
structure IsRefused (d : Dialect) (depth : Nat) (text : String) (ts : List Token) : Prop where
  spells : Spells d text ts
  solid : Solid ts
  opens : ∀ m, depth < m → OpensNoTree (nestedAt d m) ts
  refuses : ∀ m, depth ≤ m → ∀ p, ReadsFactors d (nestedAt d m) ts.length p →
    RefusesFactors d (nestedAt d m) ts.length p → ∀ rest, HeadIn joinEnds rest →
      ∀ j left, joinedWith d (nestedAt d m) p (ts ++ rest) = .ok (j, left) → TreelessChain j

variable {depth : Nat} {text text' : String} {j : Joined}

theorem IsRefusedFactor.chain (h : IsRefusedFactor d depth text ts) : IsRefused d depth text ts where
  spells := h.spells
  solid := h.solid
  opens := fun _ _ => .inl h.opens
  refuses := by
    intro m hm p _ hp rest hrest j left hjoined
    obtain ⟨left, hfirst⟩ := joinedWith_eq_ok hjoined
    exact treelessChain_of_first
      (hp ts (Nat.le_refl _) (h.refuses m hm) rest (hrest.mono (by decide)) _ _ hfirst)

theorem IsRefused.nested (h : IsRefused d depth text ts) :
    IsRefusedFactor d (depth + 1) (Text.parenthesized text)
      (.symbol .lparen :: (ts ++ [.symbol .rparen])) where
  spells := h.spells.parenthesized
  solid := ⟨List.cons_ne_nil _ _, noSpace_cons rfl _⟩
  opens := ⟨_, rfl⟩
  refuses := by
    intro m hm
    apply refusesFactor_parenthesized h.solid (h.opens m hm)
    intro fuel hfuel rest _ f left _ hnested
    refine treeless_nestedFactor (fun j left hjoined => ?_) hnested
    exact h.refuses m (Nat.le_of_succ_le hm) _ (readsFactors_factorAt hfuel)
      (refusesFactors_factorAt hfuel) _ (headIn_cons (by decide) _) j left hjoined

/-- A chain goes on without a tree once it has none. -/
theorem IsRefused.natural (h : IsRefused d depth text ts) (hright : Spells d text' vs) :
    IsRefused d depth (text ++ " NATURAL JOIN " ++ text')
      (ts ++ Keyword.NATURAL.token :: Keyword.JOIN.token :: vs) where
  spells := spells_natural h.spells hright
  solid := ⟨by simp [h.solid.1], h.solid.noSpace_append _⟩
  opens := by
    intro m hm
    rcases h.opens m hm with ⟨us, rfl⟩ | hquery
    · exact .inl ⟨_, rfl⟩
    · refine .inr fun rest => ?_
      rw [List.append_assoc]
      exact hquery _
  refuses := by
    intro m hm p hreads hrefuses rest _ j left hjoined
    rw [List.append_assoc] at hjoined
    refine h.refuses m hm p (fun ts f hlength => hreads ts f (by simp; omega))
      (fun ts hlength => hrefuses ts (by simp; omega)) _ ?_ j left hjoined
    exact headIn_cons (by decide) _

/-- The joins that were read stay in the chain. -/
theorem yields_joinStep (p : Parser Factor) (first : Factor) (fuel : Nat) {joins : List Join}
    {join : Join} (hmem : join ∈ joins) :
    Yields (iterateFrom (joinStep d n p first) fuel joins) (join ∈ ·.joins) := by
  refine yields_iterateFrom (I := (join ∈ ·)) ?_ fuel hmem
  intro joins hmem
  refine yields_bind fun next => ?_
  cases next with
  | none => exact yields_pure (List.mem_reverse.mpr hmem)
  | some next => exact yields_pure (List.mem_cons_of_mem _ hmem)

theorem treelessChain_of_loop {p : Parser Factor} {first : Factor} {fuel : Nat} {joins : List Join}
    {left : List Token} (hp : ∀ f left, p ts = .ok (f, left) → Treeless f)
    (h : iterateFrom (joinStep d n p first) fuel joins
      (Keyword.NATURAL.token :: Keyword.JOIN.token :: ts) = .ok (j, left)) : TreelessChain j := by
  cases fuel with
  | zero => cases h
  | succ fuel =>
      have hnatural : acceptKeyword .NATURAL (Keyword.NATURAL.token :: Keyword.JOIN.token :: ts) =
          .ok (true, Keyword.JOIN.token :: ts) := rfl
      have hwords : joinWords? true (Keyword.JOIN.token :: ts) = .ok (some (.kind .plain), ts) := rfl
      obtain ⟨next, left, hstep, h⟩ := run_bind_eq_ok_iff.mp h
      obtain ⟨read, left, hjoin, hstep⟩ := run_bind_eq_ok_iff.mp hstep
      rw [join?_eq (headIn_cons (by decide) _)] at hjoin
      replace hjoin := run_bind_of_ok hnatural hjoin
      replace hjoin := run_bind_of_ok hwords hjoin
      obtain ⟨right, left, hright, hjoin⟩ := run_bind_eq_ok_iff.mp hjoin
      obtain ⟨condition, left, -, hjoin⟩ := run_bind_eq_ok_iff.mp hjoin
      obtain ⟨rfl, -⟩ := run_pure_eq_ok hjoin
      obtain ⟨rfl, -⟩ := run_pure_eq_ok hstep
      have hmem := (yields_joinStep p first fuel (List.mem_cons_self ..)).of_ok h
      exact treelessChain_of_mem hmem (hp right _ hright)

theorem IsRefusedFactor.natural (hleft : IsChain d depth text ts us j)
    (hright : IsRefusedFactor d depth text' vs) :
    IsRefused d depth (text ++ " NATURAL JOIN " ++ text')
      (ts ++ (us ++ Keyword.NATURAL.token :: Keyword.JOIN.token :: vs)) where
  spells := by
    have hspells := spells_natural hleft.spells hright.spells
    rwa [List.append_assoc] at hspells
  solid := ⟨by simp [hleft.solid.1], hleft.solid.noSpace_append _⟩
  opens := by
    refine fun m hm => .inr fun rest => ?_
    rw [List.append_assoc]
    apply hleft.noQuery m hm
    left
    rw [List.append_assoc]
    exact hleft.headIn.append (headIn_cons (by decide) _)
  refuses := by
    intro m hm p hreads hrefuses rest hrest j' left hjoined
    have hnatural : HeadIn joinEnds (Keyword.NATURAL.token :: Keyword.JOIN.token :: (vs ++ rest)) :=
      headIn_cons (by decide) _
    have hjoins : HeadIn joinEnds
        (us ++ Keyword.NATURAL.token :: Keyword.JOIN.token :: (vs ++ rest)) :=
      (hleft.headIn.mono (by decide)).append hnatural
    have hfirst := hreads ts j.first (by simp) (hleft.first m hm) _ (hjoins.mono (by decide))
    have hreaches := hleft.joins m hm p (fun ts f hlength => hreads ts f (by simp; omega)) [] _
      hnatural
    simp only [List.append_assoc, List.cons_append] at hjoined
    rw [joinedWith_eq] at hjoined
    replace hjoined := run_bind_of_ok hfirst hjoined
    obtain ⟨fuel, hloop⟩ := hreaches.iterateFrom hjoined
    refine treelessChain_of_loop (fun f left hf => ?_) hloop
    exact hrefuses vs (by simp; omega) (hright.refuses m hm) rest (hrest.mono (by decide)) f left hf

/-! Lists -/

section Lists

variable {α : Type} {p : Parser α} {Bad : α → Prop} {follow : List Token}

/-- What was read stays in the list. -/
theorem yields_listStep (p : Parser α) (fuel : Nat) {read : List α} {a : α} (hmem : a ∈ read) :
    Yields (iterateFrom (listStep (fun _ => false) p) fuel read) fun as => a ∈ as := by
  refine yields_iterateFrom (I := fun as => a ∈ as) ?_ fuel hmem
  intro read hmem
  have hends : Yields (pure (.inr read.reverse) : Parser (List α ⊕ List α))
      (Sum.elim (fun as => a ∈ as) fun as => a ∈ as) :=
    yields_pure (List.mem_reverse.mpr hmem)
  refine yields_bind fun goesOn => yields_ite ?_ hends
  refine yields_bind fun _ => yields_ite hends ?_
  exact yields_bind fun next => yields_pure (List.mem_cons_of_mem _ hmem)

/-- Whatever is read from the tokens is bad. -/
def Spoils (p : Parser α) (Bad : α → Prop) (follow ts : List Token) : Prop :=
  ∀ rest, HeadIn follow rest → ∀ a left, p (ts ++ rest) = .ok (a, left) → Bad a

theorem headIn_pieces (pieces : List (List Token)) (hrest : HeadIn follow rest) :
    HeadIn (.symbol .comma :: follow) (pieces.flatMap (.symbol .comma :: ·) ++ rest) := by
  cases pieces with
  | nil => exact hrest.mono fun _ => List.mem_cons_of_mem _
  | cons next pieces => exact headIn_cons (by simp) _

theorem exists_bad_of_listStep {pieces : List (List Token)}
    (hpieces : ∀ ts ∈ pieces, Solid ts ∧ ((∃ a, Reads p (.symbol .comma :: follow) ts a) ∨
      Spoils p Bad (.symbol .comma :: follow) ts))
    (hbad : ∃ ts ∈ pieces, Spoils p Bad (.symbol .comma :: follow) ts) (hrest : HeadIn follow rest)
    {fuel : Nat} {read as : List α} {left : List Token}
    (h : iterateFrom (listStep (fun _ => false) p) fuel read
      (pieces.flatMap (.symbol .comma :: ·) ++ rest) = .ok (as, left)) : ∃ a ∈ as, Bad a := by
  induction pieces generalizing fuel read with
  | nil =>
      obtain ⟨ts, hmem, -⟩ := hbad
      cases hmem
  | cons ts pieces ih =>
      cases fuel with
      | zero => cases h
      | succ fuel =>
          obtain ⟨⟨hsolid, hts⟩, hothers⟩ := List.forall_mem_cons.mp hpieces
          have hmore := headIn_pieces pieces hrest
          have hcomma := accept_symbol (s := .comma) (hsolid.noSpace_append
            (pieces.flatMap (.symbol .comma :: ·) ++ rest))
          rw [List.flatMap_cons, List.cons_append, List.cons_append, List.append_assoc] at h
          obtain ⟨next, left', hstep, h⟩ := run_bind_eq_ok_iff.mp h
          replace hstep := run_bind_of_ok hcomma hstep
          replace hstep := run_bind_of_ok rfl hstep
          obtain ⟨a, left', ha, hstep⟩ := run_bind_eq_ok_iff.mp hstep
          obtain ⟨rfl, rfl⟩ := run_pure_eq_ok hstep
          by_cases hspoils : Spoils p Bad (.symbol .comma :: follow) ts
          -- A piece that spoils the list may be read as anything, also as more than the piece.
          · exact ⟨a, (yields_listStep p fuel (List.mem_cons_self ..)).of_ok h,
              hspoils _ hmore a left' ha⟩
          · obtain ⟨b, hread⟩ := hts.resolve_right hspoils
            obtain ⟨rfl, rfl⟩ := Prod.mk.inj (Except.ok.inj (ha.symm.trans (hread _ hmore)))
            obtain ⟨bad, hmem, hbad⟩ := hbad
            rcases List.mem_cons.mp hmem with rfl | hmem
            · exact absurd hbad hspoils
            · exact ih hothers ⟨bad, hmem, hbad⟩ h

/-- A list with a bad piece has something bad in it, if it is read at all. -/
theorem exists_bad_of_commaSeparated {pieces : List (List Token)}
    (hpieces : ∀ ts ∈ pieces, Solid ts ∧ ((∃ a, Reads p (.symbol .comma :: follow) ts a) ∨
      Spoils p Bad (.symbol .comma :: follow) ts))
    (hbad : ∃ ts ∈ pieces, Spoils p Bad (.symbol .comma :: follow) ts) (hrest : HeadIn follow rest)
    {as : List α} {left : List Token}
    (h : commaSeparated p (separated pieces ++ rest) = .ok (as, left)) : ∃ a ∈ as, Bad a := by
  obtain ⟨bad, hmem, hbad⟩ := hbad
  obtain ⟨ts, pieces, rfl⟩ := List.exists_cons_of_ne_nil (List.ne_nil_of_mem hmem)
  have hmore := headIn_pieces pieces hrest
  rw [commaSeparated_eq, commaSeparatedUntil_eq, separated_cons, List.append_assoc] at h
  obtain ⟨a, left', ha, h⟩ := run_bind_eq_ok_iff.mp h
  by_cases hspoils : Spoils p Bad (.symbol .comma :: follow) ts
  · exact ⟨a, (yields_listStep p _ (List.mem_cons_self ..)).of_ok h, hspoils _ hmore a left' ha⟩
  · obtain ⟨⟨-, hts⟩, hothers⟩ := List.forall_mem_cons.mp hpieces
    obtain ⟨b, hread⟩ := hts.resolve_right hspoils
    obtain ⟨rfl, rfl⟩ := Prod.mk.inj (Except.ok.inj (ha.symm.trans (hread _ hmore)))
    rcases List.mem_cons.mp hmem with rfl | hmem
    · exact absurd hbad hspoils
    · exact exists_bad_of_listStep hothers ⟨bad, hmem, hbad⟩ hrest h

end Lists

end SelectTree.Sql.Grammar

namespace SelectTree

open Sql Sql.Grammar Sql.Parser

variable {d : Dialect} {depth : Nat}

/-! Trees that are refused -/

theorem sources_ne_ok {js : List Joined} (h : ∃ j ∈ js, TreelessChain j) (trees : List Source) :
    Joined.sources js ≠ .ok trees := by
  induction js generalizing trees with
  | nil =>
      obtain ⟨j, hmem, -⟩ := h
      cases hmem
  | cons first js ih =>
      intro htrees
      obtain ⟨tree, more, htree, hmore, rfl⟩ := Joined.sources_cons_eq_ok htrees
      obtain ⟨j, hmem, hj⟩ := h
      rcases List.mem_cons.mp hmem with rfl | hmem
      · exact hj tree htree
      · exact ih ⟨j, hmem, hj⟩ more hmore

namespace Source

/-- Nothing with a tree is read from the text of a source, as a chain or on the right of a join. -/
structure IsRefusedRead (d : Dialect) (depth : Nat) (source : Source) : Prop where
  chain : ∃ ts, IsRefused d depth source.sql ts
  operand : source.isCombined = false → ∃ ts, IsRefusedFactor d depth source.sql ts

theorem IsRefusedRead.of_factor {source : Source}
    (h : ∃ ts, IsRefusedFactor d depth source.sql ts) : source.IsRefusedRead d depth := by
  obtain ⟨ts, hts⟩ := h
  exact ⟨⟨ts, hts.chain⟩, fun _ => ⟨ts, hts⟩⟩

theorem exists_isRefusedFactor_alone {query : Select} {asName : Option String}
    (hparts : (nested (derived query asName)).PartsRead d depth)
    (hshaped : query.isShaped = true)
    (hrefused : (derived query asName).isRefusedAlone d = true) :
    ∃ ts, IsRefusedFactor d depth (nested (derived query asName)).sql ts := by
  obtain ⟨houter, hinner, hquery, halias⟩ := hparts
  obtain ⟨depth, rfl⟩ : ∃ k, depth = k + 2 := ⟨depth - 2, by omega⟩
  obtain ⟨ts, f, hfactor, -⟩ :=
    exists_derivedFactor (Select.isSelfRead query hquery hshaped) halias
  have hspells := hfactor.spells.parenthesized
  rw [← sql_nested] at hspells
  refine ⟨_, hspells, ⟨List.cons_ne_nil _ _, noSpace_cons rfl _⟩, ⟨_, rfl⟩, ?_⟩
  intro m hm
  apply refusesFactor_alone (Nat.le_of_succ_le hm) hfactor.solid hfactor.opens hfactor.reads
    hfactor.notNested
  simp only [isRefusedAlone, Bool.or_eq_true, Bool.not_eq_true', Option.isNone_iff_eq_none]
    at hrefused
  exact hrefused.imp_right fun hname => hfactor.query hname m hm

theorem operand_eq_sql {source : Source} (h : source.isCombined = false) :
    source.operand = source.sql := by
  simp [operand, h]

theorem isRefusedRead_nested {inner : Source} (hparts : (nested inner).PartsRead d depth)
    (hshaped : inner.unwrapped.isShaped false = true)
    (hrefused : (nested inner).holdsRefused d = true)
    (h : inner.PartsRead d (depth - 1) → inner.holdsRefused d = true →
      inner.IsRefusedRead d (depth - 1)) : (nested inner).IsRefusedRead d depth := by
  apply IsRefusedRead.of_factor
  rw [holdsRefused, Bool.or_eq_true] at hrefused
  rcases hrefused with halone | hinner
  · cases inner with
    | derived query asName => exact exists_isRefusedFactor_alone hparts hshaped halone
    | _ => cases halone
  · obtain ⟨hdepth, hparts⟩ := hparts
    obtain ⟨k, rfl⟩ := Nat.exists_eq_add_of_le' hdepth
    obtain ⟨ts, hts⟩ := (h hparts hinner).chain
    exact ⟨_, hts.nested⟩

section Joins

variable {left right : Source} (hlist : left.isList = false) (hcombined : right.isCombined = false)
include hlist hcombined

theorem isRefusedRead_left (hleft : left.IsRefusedRead d depth)
    (hright : ∃ vs, Spells d right.sql vs) : (naturalJoin left right).IsRefusedRead d depth := by
  obtain ⟨ts, hts⟩ := hleft.chain
  obtain ⟨vs, hvs⟩ := hright
  refine ⟨?_, nofun⟩
  rw [sql_naturalJoin hlist, operand_eq_sql hcombined]
  exact ⟨_, hts.natural hvs⟩

theorem isRefusedRead_right {tree : Source}
    (hleft : ∃ ts us j, left.IsReadAs d depth ts us j tree)
    (hright : right.IsRefusedRead d depth) : (naturalJoin left right).IsRefusedRead d depth := by
  obtain ⟨ts, us, j, hj⟩ := hleft
  obtain ⟨vs, hvs⟩ := hright.operand hcombined
  refine ⟨?_, nofun⟩
  rw [sql_naturalJoin hlist, operand_eq_sql hcombined]
  exact ⟨_, hvs.natural hj.chain⟩

end Joins

theorem isRefusedRead : (source : Source) → ∀ {depth}, source.PartsRead d depth →
    source.unwrapped.isShaped false = true → source.holdsRefused d = true →
      source.IsRefusedRead d depth
  | .table _ _, _, _, _, hrefused => absurd hrefused Bool.false_ne_true
  | .join _ _ _ _, _, _, _, hrefused => absurd hrefused Bool.false_ne_true
  | .derived _ _, _, _, _, hrefused => absurd hrefused Bool.false_ne_true
  | .list _, _, _, hshaped, _ => absurd hshaped Bool.false_ne_true
  | .nested inner, _, hparts, hshaped, hrefused =>
      have hshapedInner := (isShaped_of_enclosed hshaped).2
      isRefusedRead_nested hparts hshapedInner hrefused fun hparts hinner =>
        isRefusedRead inner hparts hshapedInner hinner
  | .naturalJoin left right, _, hparts, hshaped, hrefused => by
      obtain ⟨hleft, hright⟩ := hparts
      obtain ⟨⟨hlist, hshapedLeft⟩, hcombined, hshapedRight⟩ :=
        isShaped_of_unwrapped_naturalJoin hshaped
      cases hholdsLeft : left.holdsRefused d with
      | true =>
          apply isRefusedRead_left hlist hcombined
            (isRefusedRead left hleft hshapedLeft hholdsLeft)
          cases hholdsRight : right.holdsRefused d with
          | true =>
              obtain ⟨vs, hvs⟩ := (isRefusedRead right hright hshapedRight hholdsRight).chain
              exact ⟨vs, hvs.spells⟩
          | false =>
              obtain ⟨ts, us, j, hj⟩ := (isUnwrapRead right hright hshapedRight hholdsRight).chain
              exact ⟨ts ++ us, hj.chain.spells⟩
      | false =>
          rw [holdsRefused, hholdsLeft, Bool.false_or] at hrefused
          exact isRefusedRead_right hlist hcombined
            (isUnwrapRead left hleft hshapedLeft hholdsLeft).chain
            (isRefusedRead right hright hshapedRight hrefused)

/-! Lists and queries -/

/-- One source of a list is read, or spoils the list. -/
theorem exists_piece {source : Source} (hparts : source.PartsRead d depth)
    (hshaped : source.unwrapped.isShaped false = true) :
    ∃ ts, Spells d source.sql ts ∧ Solid ts ∧ ∀ m, depth ≤ m →
      ((∃ j, Reads (joined d (nestedAt d m)) sourceEnds ts j) ∨
        Spoils (joined d (nestedAt d m)) TreelessChain sourceEnds ts) ∧
      (source.holdsRefused d = true →
        Spoils (joined d (nestedAt d m)) TreelessChain sourceEnds ts) := by
  cases hrefused : source.holdsRefused d with
  | false =>
      obtain ⟨ts, us, j, hj⟩ := (isUnwrapRead source hparts hshaped hrefused).chain
      have hlisted := hj.isListed
      exact ⟨_, hlisted.spells, hlisted.solid,
        fun m hm => ⟨.inl ⟨j, hlisted.reads m hm⟩, nofun⟩⟩
  | true =>
      obtain ⟨ts, hts⟩ := (isRefusedRead source hparts hshaped hrefused).chain
      refine ⟨ts, hts.spells, hts.solid, fun m hm => ?_⟩
      have hspoils : Spoils (joined d (nestedAt d m)) TreelessChain sourceEnds ts := by
        intro rest hrest j left h
        exact hts.refuses m hm _ (readsFactors_factor _) (refusesFactors_factor _) rest
          (headIn_joinEnds_of_sourceEnds hrest) j left h
      exact ⟨.inr hspoils, fun _ => hspoils⟩

/-- A list of sources that is refused, of one source perhaps. -/
theorem exists_refusedList {items : List Source} (hparts : ∀ item ∈ items, item.PartsRead d depth)
    (hshaped : ∀ item ∈ items, item.unwrapped.isShaped false = true)
    (hrefused : ∃ item ∈ items, item.holdsRefused d = true) :
    ∃ ts, Spells d (Text.listed (items.map sql)) ts ∧ ∀ m, depth ≤ m → ∀ rest,
      HeadIn clauseStarts rest → ∀ js left,
        sources d (nestedAt d m) (ts ++ rest) = .ok (js, left) → ∃ j ∈ js, TreelessChain j := by
  choose! tokens hspells hsolid hreads using fun item hmem =>
    exists_piece (hparts item hmem) (hshaped item hmem)
  refine ⟨separated (items.map tokens), ?_, ?_⟩
  · have hlisted := spells_listed (items.map fun item => (item.sql, tokens item)) (by
      intro piece hmem
      obtain ⟨item, hitem, rfl⟩ := List.mem_map.mp hmem
      exact hspells item hitem)
    simpa only [List.map_map, Function.comp_def] using hlisted
  · intro m hm rest hrest js left h
    obtain ⟨bad, hmem, hbad⟩ := hrefused
    refine exists_bad_of_commaSeparated ?_ ⟨tokens bad, List.mem_map_of_mem hmem,
      (hreads bad hmem m hm).2 hbad⟩ hrest h
    intro ts hts
    obtain ⟨item, hitem, rfl⟩ := List.mem_map.mp hts
    exact ⟨hsolid item hitem, (hreads item hitem m hm).1⟩

theorem exists_refusedSources {source : Source} (hparts : source.PartsRead d depth)
    (hshaped : source.unwrapped.isShaped true = true) (hrefused : source.holdsRefused d = true) :
    ∃ ts, Spells d source.sql ts ∧ ∀ m, depth ≤ m → ∀ rest, HeadIn clauseStarts rest →
      ∀ js left, sources d (nestedAt d m) (ts ++ rest) = .ok (js, left) →
        ∃ j ∈ js, TreelessChain j := by
  obtain ⟨items, hsql, hitems, hshapes, hholds⟩ : ∃ items : List Source,
      source.sql = Text.listed (items.map sql) ∧ (∀ item ∈ items, item.PartsRead d depth) ∧
        (∀ item ∈ items, item.unwrapped.isShaped false = true) ∧
          ∃ item ∈ items, item.holdsRefused d = true := by
    cases hlist : source.isList with
    | false =>
        rw [← isList_unwrapped] at hlist
        rw [isShaped_root true hlist] at hshaped
        exact ⟨[source], by simp [Text.listed], by simpa using hparts,
          by simpa using hshaped, by simpa using hrefused⟩
    | true =>
        cases source with
        | list items =>
            simp only [unwrapped, unwrappedList_eq_map, isShaped, Bool.and_eq_true] at hshaped
            refine ⟨items, by rw [sql, sqlList_eq_map], partsReadList_iff.mp hparts, ?_, ?_⟩
            · intro item hmem
              exact areShaped_iff.mp hshaped.2 _ (List.mem_map_of_mem hmem)
            · exact holdRefused_iff.mp hrefused
        | _ => cases hlist
  rw [hsql]
  exact exists_refusedList hitems hshapes hholds

end Source

/-- The text of a query with such parentheses is not read at all. -/
theorem Select.parse_ne_of_refused {q : Select} (hparts : q.PartsRead d queryDepth)
    (hshaped : q.source.unwrapped.isShaped true = true) (hrefused : q.source.holdsRefused d = true)
    (read : Select) : d.parse q.sql ≠ .ok (some read) := by
  intro h
  obtain ⟨items, source, filter, groupBy, orderBy⟩ := q
  obtain ⟨hsource, ⟨its, is, hits, -⟩, ⟨condition, hconditionText, hcondition, -⟩,
    ⟨keys, hkeysText, hkeys, -⟩, ⟨order, horderText, horder, -⟩⟩ := hparts
  obtain ⟨ts, hts, hsources⟩ := Source.exists_refusedSources hsource hshaped hrefused
  have hspells := Select.spells_tokens hits.spells hts hconditionText
    (fun c hc => (hcondition c hc).spells) hkeysText (fun c hc => (hkeys c hc).spells) horderText
    fun c hc => (horder c hc).spells
  obtain ⟨query, hstatements, hquery⟩ := parse_eq_ok h
  obtain ⟨lexemes, rest, hlex, htext⟩ := readStatements_eq_ok hstatements
  obtain ⟨lexemes', hlex', htokens⟩ := hspells.lex
  obtain rfl := Except.ok.inj (hlex.symm.trans hlex')
  rw [htokens, selectionTokens, List.cons_append, List.append_assoc] at htext
  obtain ⟨s, left, read', hselection, hread', -⟩ := text_select_eq_ok htext hquery
  obtain ⟨trees, htrees, -⟩ := Selection.select_eq_ok hread'
  rw [List.cons_append, selection_from hits.starts (hits.reads _ (Nat.le_refl _))] at hselection
  obtain ⟨js, left, hjs, hselection⟩ := run_bind_eq_ok_iff.mp hselection
  rw [(yields_selectionFrom is js).of_ok hselection] at htrees
  rw [List.append_assoc] at hjs
  refine sources_ne_ok (hsources queryDepth (Nat.le_refl _) _ ?_ js left hjs) trees htrees
  simp only [List.append_assoc]
  exact headIn_clauseTokens (by decide) _ (headIn_clauseTokens (by decide) _
    (List.append_nil (clauseTokens _ _) ▸ headIn_clauseTokens (by decide) _ (headIn_nil _)))

end SelectTree
