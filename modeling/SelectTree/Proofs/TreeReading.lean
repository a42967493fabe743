import SelectTree.Proofs.ChainReading
import SelectTree.Proofs.ConditionReading
import SelectTree.Proofs.PlainTrees

namespace SelectTree

open Sql Sql.Grammar Sql.Parser

/-! The texts of query trees in plain words, read back. -/

variable {d : Dialect} {depth : Nat}

/-! Lowering of chains -/

theorem Join.sourceFrom_concat (left : Source) (joins : List Join) (join : Join) :
    Join.sourceFrom left (joins ++ [join]) =
      (do
        let tree ← Join.sourceFrom left joins
        join.source tree) := by
  induction joins generalizing left with
  | nil => cases h : join.source left <;> simp [Join.sourceFrom, h, bind, Except.bind]
  | cons next joins ih =>
      cases h : next.source left with
      | error cause => simp [Join.sourceFrom, h, bind, Except.bind]
      | ok tree => simpa [Join.sourceFrom, h, bind, Except.bind] using ih tree

theorem Joined.source_concat {j : Joined} {left tree : Source} {join : Join}
    (hleft : j.source = .ok left) (hjoin : join.source left = .ok tree) :
    (Joined.mk j.first (j.joins ++ [join])).source = .ok tree := by
  obtain ⟨first, joins⟩ := j
  rw [Joined.source] at hleft ⊢
  obtain ⟨base, hbase, hjoins⟩ := bind_eq_ok_iff.mp hleft
  refine bind_eq_ok_iff.mpr ⟨base, hbase, ?_⟩
  rw [Join.sourceFrom_concat]
  exact bind_eq_ok_iff.mpr ⟨left, hjoins, hjoin⟩

theorem Joined.source_single {f : Factor} {tree : Source} (h : f.source = .ok tree) :
    (Joined.mk f []).source = .ok tree := by
  rw [Joined.source, h]
  rfl

theorem Joined.sources_eq_mapM (js : List Joined) : Joined.sources js = js.mapM Joined.source := by
  induction js with
  | nil => rfl
  | cons j js ih =>
      rw [Joined.sources, List.mapM_cons, ih]

/-! Conditions of joins -/

/-- The text of a constraint is read as the constraint. -/
def JoinConstraint.IsRead (d : Dialect) (depth : Nat) (constraint : JoinConstraint) : Prop :=
  ∃ us condition, IsCondition d depth constraint.sql us condition ∧
    ∀ kind right left tree, Factor.source right = .ok tree →
      (Join.mk false (.kind kind) right condition).source left =
        .ok (.join kind left tree constraint)

theorem JoinConstraint.IsPlain.isRead {constraint : JoinConstraint}
    (h : constraint.IsPlain d depth) : constraint.IsRead d depth := by
  cases constraint with
  | none =>
      refine ⟨[], .none, ⟨?_, headIn_nil _, fun m _ => joinCondition_none⟩, ?_⟩
      · intro before ts hbefore
        simpa [sql] using hbefore
      · intro kind right left tree hright
        rw [Join.source, hright]
        rfl
  | on condition =>
      obtain ⟨ts, e, hphrase, rfl⟩ := h
      have hread := hphrase.isRead
      refine ⟨Keyword.ON.token :: ts, .on e,
        ⟨?_, headIn_cons (by simp) ts, fun m hm => joinCondition_on (hread.reads m hm)⟩, ?_⟩
      · intro before us hbefore
        have hon : " ON " = " " ++ "ON" ++ " " := rfl
        have hspells := hbefore.space ((Keyword.spells (k := .ON) (by decide)).space hread.spells)
        rw [sql, hon]
        simp only [Keyword.spelling, String.append_assoc] at hspells ⊢
        exact hspells
      · intro kind right left tree hright
        rw [Join.source, hright]
        rfl
  | usingColumns columns =>
      obtain ⟨paths, hne, hpaths, rfl⟩ := h
      refine ⟨Keyword.USING.token :: columnTokens paths, .usingColumns (paths.map Name.pathSql),
        ⟨?_, headIn_cons (by simp) _, ?_⟩, ?_⟩
      · intro before ts hbefore
        have hlisted := spells_listed (d := d)
          (paths.map fun names => (Name.pathSql names, Name.pathTokens names)) (by
            intro piece hmem
            obtain ⟨names, hnames, rfl⟩ := List.mem_map.mp hmem
            exact Name.spells_path (hpaths names hnames).1 (hpaths names hnames).2)
        simp only [List.map_map, Function.comp_def] at hlisted
        have husing : " USING " = " " ++ "USING" ++ " " := rfl
        have hspells := hbefore.space
          ((Keyword.spells (k := .USING) (by decide)).space hlisted.parenthesized)
        rw [sql, husing]
        simp only [Keyword.spelling, String.append_assoc] at hspells ⊢
        exact hspells
      · intro m _
        exact joinCondition_using hne fun names hnames => (hpaths names hnames).1
      · intro kind right left tree hright
        rw [Join.source, hright]
        rfl

namespace Source

/-! What is read from the text of a source -/

/-- The text of a source is read as a chain of joins, and the chain as the tree. -/
structure IsReadAs (d : Dialect) (depth : Nat) (source : Source) (ts us : List Token) (j : Joined)
    (tree : Source) : Prop where
  chain : IsChain d depth source.sql ts us j
  source_eq : j.source = .ok tree
  nests : tree.nests = true → IsChain.Nests us j
  alone : source.isCombined = false → us = [] ∧ j.joins = []

abbrev IsReread (d : Dialect) (depth : Nat) (source : Source) (ts us : List Token) (j : Joined) :
    Prop :=
  source.IsReadAs d depth ts us j source.reread

/-- The text of a list of sources is read as chains, and the chains as the tree. -/
structure IsReadList (d : Dialect) (depth : Nat) (source : Source) (ts : List Token)
    (js : List Joined) (trees : List Source) (tree : Source) : Prop where
  spells : Spells d source.sql ts
  reads : ∀ m, depth ≤ m → Reads (sources d (nestedAt d m)) clauseStarts ts js
  ne : js ≠ []
  sources_eq : Joined.sources js = .ok trees
  tree_eq : tree = match trees with
    | [tree] => tree
    | trees => .list trees

abbrev IsRereadList (d : Dialect) (depth : Nat) (source : Source) (ts : List Token)
    (js : List Joined) (trees : List Source) : Prop :=
  source.IsReadList d depth ts js trees source.reread

theorem spells_aliased {text : String} {ts : List Token} {asName : Option String}
    (h : Spells d text ts) (halias : IsPlainAlias d asName) :
    Spells d (text ++ asSql asName) (ts ++ aliasTokens asName) := by
  cases asName with
  | none => simpa [asSql, aliasTokens] using h
  | some name =>
      have has : " AS " = " " ++ "AS" ++ " " := rfl
      have hspells := h.space ((Keyword.spells (k := .AS) (by decide)).space
        (spells_word (halias name rfl)))
      rw [asSql, has]
      simp only [Keyword.spelling, String.append_assoc] at hspells ⊢
      exact hspells

theorem IsReadAs.single {source tree : Source} {ts : List Token} {f : Factor}
    (hfactor : IsFactor d depth source.sql ts f) (hsource : f.source = .ok tree)
    (hquery : ∀ m, depth < m → ∀ rest, HeadIn joinStarts rest ∨ isNestedFactor f = true →
      NoQuery (nestedAt d m) (ts ++ rest))
    (hnests : tree.nests = true → isNestedFactor f = true) :
    IsReadAs d depth source ts [] ⟨f, []⟩ tree where
  chain := .single hfactor hquery
  source_eq := Joined.source_single hsource
  nests := fun h => .inr (hnests h)
  alone := fun _ => ⟨rfl, rfl⟩

theorem isFactor_table {first : Name} {more : List Name} {asName : Option String}
    (hfirst : isTableName d first = true) (hmore : ∀ name ∈ more, name.isWord d = true)
    (halias : IsPlainAlias d asName) :
    IsFactor d depth (table (Name.pathSql (first :: more)) asName).sql
      (Name.pathTokens (first :: more) ++ aliasTokens asName)
      (.table (first :: more) [] none false (aliasOf asName) []) := by
  have hwords : ∀ name ∈ first :: more, name.isWord d = true := by
    simp only [isTableName, Bool.and_eq_true] at hfirst
    exact List.forall_mem_cons.mpr ⟨hfirst.1, hmore⟩
  refine ⟨?_, ?_, fun m _ => readsFactor_table hfirst more asName⟩
  · exact spells_aliased (Name.spells_path (List.cons_ne_nil first more) hwords) halias
  · have hsolid := solid_pathTokens (List.cons_ne_nil first more)
    exact ⟨by simp [hsolid.1], hsolid.noSpace_append _⟩

theorem source_tableFactor (path : List Name) (asName : Option String) :
    (Factor.table path [] none false (aliasOf asName) []).source =
      .ok (table (Name.pathSql path) asName) := by
  rw [Factor.source, aliasText_aliasOf]

theorem exists_reread_table {name : String} {asName : Option String}
    (h : (table name asName).IsPlain d depth) :
    ∃ ts us j, IsReread d depth (table name asName) ts us j := by
  obtain ⟨⟨first, more, hfirst, hmore, rfl⟩, halias⟩ := h
  refine ⟨_, _, _, IsReadAs.single (isFactor_table hfirst hmore halias)
    (source_tableFactor _ asName) ?_ ?_⟩
  · intro m hm rest _
    cases more with
    | nil => exact noQuery_table hfirst (by omega) _
    | cons next more => exact noQuery_table hfirst (by omega) _
  · intro hnests
    cases hnests

theorem nests_of_isCombined {source : Source} (hlist : source.isList = false)
    (hcombined : source.isCombined = true) : source.nests = true := by
  cases source with
  | join | naturalJoin => rfl
  | list items => cases hlist
  | _ => cases hcombined

/-- The right side of a join, in the parentheses that it needs. -/
theorem IsReadAs.exists_operand {right tree : Source}
    (hnests : right.isCombined = true → tree.nests = true) (hdepth : right.parentheses ≤ depth)
    {ts us : List Token} {j : Joined} (h : IsReadAs d (depth - right.parentheses) right ts us j tree) :
    ∃ vs f, IsFactor d depth right.operand vs f ∧ f.source = .ok (right.grouped tree) := by
  cases hcombined : right.isCombined with
  | true =>
      simp only [parentheses, operand, grouped, hcombined, if_true] at h hdepth ⊢
      obtain ⟨k, rfl⟩ := Nat.exists_eq_add_of_le' hdepth
      refine ⟨_, _, h.chain.parenthesized (h.nests (hnests hcombined)), ?_⟩
      rw [Factor.source, h.source_eq]
      rfl
  | false =>
      obtain ⟨first, joins⟩ := j
      obtain ⟨rfl, hjoins⟩ := h.alone hcombined
      obtain rfl : joins = [] := hjoins
      simp only [parentheses, operand, grouped, hcombined, if_false, Bool.false_eq_true,
        Nat.sub_zero] at h ⊢
      refine ⟨ts, first, ⟨by simpa using h.chain.spells, h.chain.solid, h.chain.first⟩, ?_⟩
      have hsource := h.source_eq
      rw [Joined.source] at hsource
      obtain ⟨tree, htree, hjoins⟩ := bind_eq_ok_iff.mp hsource
      rw [htree, ← hjoins]
      rfl

section Joins

variable {left right : Source}

theorem sql_join (kind : JoinKind) (constraint : JoinConstraint) (hleft : left.isList = false) :
    (join kind left right constraint).sql =
      left.sql ++ " " ++ kind.sql ++ " " ++ right.operand ++ constraint.sql := by
  rw [sql, operand, hleft]
  rfl

theorem sql_naturalJoin (hleft : left.isList = false) :
    (naturalJoin left right).sql = left.sql ++ " NATURAL JOIN " ++ right.operand := by
  rw [sql, operand, hleft]
  rfl

theorem sql_nested (inner : Source) : (nested inner).sql = Text.parenthesized inner.sql := by
  rw [sql]

variable {leftTree rightTree : Source}

theorem exists_readAs_join {kind : JoinKind} {constraint : JoinConstraint}
    (hlist : left.isList = false) (hleft : ∃ ts us j, left.IsReadAs d depth ts us j leftTree)
    (hright : ∃ vs f, IsFactor d depth right.operand vs f ∧ f.source = .ok rightTree)
    (hconstraint : constraint.IsRead d depth) :
    ∃ ts us j, (join kind left right constraint).IsReadAs d depth ts us j
      (.join kind leftTree rightTree constraint) := by
  obtain ⟨ts, us, j, hj⟩ := hleft
  obtain ⟨vs, f, hfactor, hf⟩ := hright
  obtain ⟨ws, condition, hcondition, hlower⟩ := hconstraint
  have hchain := hj.chain.join kind hfactor hcondition
  rw [← sql_join kind constraint hlist] at hchain
  refine ⟨_, _, _, hchain, ?_, ?_, nofun⟩
  · exact Joined.source_concat hj.source_eq (hlower kind f leftTree _ hf)
  · have hne : kindTokens kind ≠ [] := by cases kind <;> exact nofun
    exact fun _ => .inl ⟨by simp [hne], by simp⟩

theorem exists_readAs_naturalJoin (hlist : left.isList = false)
    (hleft : ∃ ts us j, left.IsReadAs d depth ts us j leftTree)
    (hright : ∃ vs f, IsFactor d depth right.operand vs f ∧ f.source = .ok rightTree) :
    ∃ ts us j, (naturalJoin left right).IsReadAs d depth ts us j
      (.naturalJoin leftTree rightTree) := by
  obtain ⟨ts, us, j, hj⟩ := hleft
  obtain ⟨vs, f, hfactor, hf⟩ := hright
  have hchain := hj.chain.natural hfactor
  rw [← sql_naturalJoin hlist] at hchain
  refine ⟨_, _, _, hchain, Joined.source_concat hj.source_eq ?_, ?_, nofun⟩
  · rw [Join.source, hf]
    rfl
  · exact fun _ => .inl ⟨by simp, by simp⟩

end Joins

theorem exists_readAs_nested {inner tree : Source} (hnests : tree.nests = true)
    (h : ∃ ts us j, inner.IsReadAs d depth ts us j tree) :
    ∃ ts us j, (nested inner).IsReadAs d (depth + 1) ts us j (.nested tree) := by
  obtain ⟨ts, us, j, hj⟩ := h
  refine ⟨_, _, _, hj.chain.nested (hj.nests hnests), ?_, fun _ => .inr rfl, fun _ => ⟨rfl, rfl⟩⟩
  apply Joined.source_single
  rw [Factor.source, hj.source_eq]
  rfl

/-! Lists -/

/-- A text is cut into the tokens of a chain, whole. -/
structure IsListed (d : Dialect) (depth : Nat) (text : String) (ts : List Token) (j : Joined) :
    Prop where
  spells : Spells d text ts
  solid : Solid ts
  reads : ∀ m, depth ≤ m → Reads (joined d (nestedAt d m)) sourceEnds ts j

theorem isListed_of_isJoined {text : String} {ts us : List Token} {j : Joined}
    (h : IsJoined d depth text ts us j) : IsListed d depth text (ts ++ us) j :=
  ⟨h.spells, h.solid_append, fun _ hm => h.reads hm (readsFactors_factor _)⟩

theorem IsReadAs.isListed {source tree : Source} {ts us : List Token} {j : Joined}
    (h : IsReadAs d depth source ts us j tree) : IsListed d depth source.sql (ts ++ us) j :=
  isListed_of_isJoined h.chain.toIsJoined

theorem reads_sources (pieces : List (String × List Token × Joined)) (hne : pieces ≠ [])
    (h : ∀ piece ∈ pieces, IsListed d depth piece.1 piece.2.1 piece.2.2) {m : Nat} (hm : depth ≤ m) :
    Reads (sources d (nestedAt d m)) clauseStarts (separated (pieces.map fun piece => piece.2.1))
      (pieces.map fun piece => piece.2.2) := by
  have hlist := reads_commaSeparated (p := joined d (nestedAt d m)) clauseStarts
    (pieces.map fun piece => (piece.2.1, piece.2.2)) (by simpa using hne) (by decide)
    (by
      intro piece hmem
      obtain ⟨given, hgiven, rfl⟩ := List.mem_map.mp hmem
      exact (h given hgiven).reads m hm)
    (by
      intro piece hmem
      obtain ⟨given, hgiven, rfl⟩ := List.mem_map.mp hmem
      exact (h given hgiven).solid)
  simp only [List.map_map, Function.comp_def] at hlist
  exact hlist

theorem isReadList_of_isJoined {source tree : Source} {ts us : List Token} {j : Joined}
    (h : IsJoined d depth source.sql ts us j) (hsource : j.source = .ok tree) :
    IsReadList d depth source (ts ++ us) [j] [tree] tree where
  spells := h.spells
  reads := fun m hm => by
    have hread := reads_sources [(source.sql, ts ++ us, j)] (List.cons_ne_nil _ [])
      (by simpa using isListed_of_isJoined h) hm
    exact hread
  ne := List.cons_ne_nil j []
  sources_eq := by
    rw [Joined.sources, hsource]
    rfl
  tree_eq := rfl

theorem IsReadAs.isReadList {source tree : Source} {ts us : List Token} {j : Joined}
    (h : IsReadAs d depth source ts us j tree) :
    IsReadList d depth source (ts ++ us) [j] [tree] tree :=
  isReadList_of_isJoined h.chain.toIsJoined h.source_eq

theorem exists_readList_list {items : List Source} (htwo : 2 ≤ items.length)
    (tree : Source → Source) (h : ∀ item ∈ items, ∃ ts us j, IsReadAs d depth item ts us j (tree item)) :
    ∃ ts js, (list items).IsReadList d depth ts js (items.map tree) (.list (items.map tree)) := by
  obtain ⟨pieces, htexts, hpieces, hlowers⟩ := exists_pieces (IsListed d depth) Source.sql
    tree Joined.source items (by
      intro item hmem
      obtain ⟨ts, us, j, hj⟩ := h item hmem
      exact ⟨_, j, hj.isListed, hj.source_eq⟩)
  have hne : pieces ≠ [] := by
    rintro rfl
    have hnil := List.map_eq_nil_iff.mp htexts.symm
    simp [hnil] at htwo
  refine ⟨_, _, ⟨?_, fun m hm => reads_sources pieces hne hpieces hm, ?_, ?_, ?_⟩⟩
  · have hspells := spells_listed (d := d)
      (pieces.map fun piece => (piece.1, piece.2.1)) (by
        intro piece hmem
        obtain ⟨given, hgiven, rfl⟩ := List.mem_map.mp hmem
        exact (hpieces given hgiven).spells)
    simp only [List.map_map, Function.comp_def] at hspells
    rwa [sql, sqlList_eq_map, ← htexts]
  · simpa using hne
  · rw [Joined.sources_eq_mapM, hlowers]
  · obtain ⟨first, second, rest, rfl⟩ : ∃ first second rest, items = first :: second :: rest := by
      match items, htwo with
      | first :: second :: rest, _ => exact ⟨first, second, rest, rfl⟩
    rfl

end Source

/-! Derived tables and queries -/

namespace Select

/-- The text of a query is read as a query, and the query as the tree. -/
structure IsReadAs (d : Dialect) (depth : Nat) (q : Select) (ts : List Token) (query : Query)
    (tree : Select) : Prop where
  spells : Spells d q.sql ts
  starts : ∃ us, ts = Keyword.SELECT.token :: us
  reads : ∀ m, depth ≤ m → Reads (Grammar.query d (nestedAt d m)) [.symbol .rparen] ts query
  select_eq : query.select = .ok tree

abbrev IsReread (d : Dialect) (depth : Nat) (q : Select) (ts : List Token) (query : Query) : Prop :=
  q.IsReadAs d depth ts query q.reread

theorem IsReadAs.solid {q tree : Select} {ts : List Token} {query : Query}
    (h : q.IsReadAs d depth ts query tree) : Solid ts := by
  obtain ⟨us, rfl⟩ := h.starts
  exact ⟨List.cons_ne_nil _ us, noSpace_cons rfl us⟩

end Select

/-- The name that is given to a derived table is read as it is. -/
def IsAliasRead (d : Dialect) (asName : Option String) : Prop :=
  ∃ us given, (∀ {text ts}, Spells d text ts → Spells d (text ++ Source.asSql asName) (ts ++ us)) ∧
    HeadIn [Keyword.AS.token] us ∧
    (∀ m, Reads (tableAlias? d (nestedAt d m)) factorEnds us given) ∧ aliasText given = asName

theorem IsPlainAlias.isAliasRead {asName : Option String} (h : IsPlainAlias d asName) :
    IsAliasRead d asName :=
  ⟨aliasTokens asName, aliasOf asName, fun htext => Source.spells_aliased htext h,
    headIn_aliasTokens asName, fun _ _ hrest => tableAlias?_tokens asName hrest,
    aliasText_aliasOf asName⟩

/-- Where a table has a name, there are tokens of it. -/
theorem aliasTokens_ne_nil {asName : Option String} {us : List Token} {given : Option Alias}
    (hgiven : Reads (tableAlias? d (nestedAt d depth)) factorEnds us given)
    (htext : aliasText given = asName) (hname : asName ≠ none) : us ≠ [] := by
  rintro rfl
  have hread := hgiven [] (headIn_nil _)
  have hnone := tableAlias?_tokens (d := d) (n := nestedAt d depth) none (headIn_nil factorEnds)
  obtain ⟨rfl, -⟩ := Prod.mk.inj (Except.ok.inj (hread.symm.trans hnone))
  exact hname htext.symm

/-- A table without a name has no tokens for it. -/
theorem aliasTokens_eq_nil {us : List Token}
    (hspells : Spells d ("" ++ Source.asSql none) ([] ++ us)) : us = [] := by
  obtain ⟨lexemes, hlex, htokens⟩ := hspells.lex
  obtain rfl : lexemes = [] := (Except.ok.inj hlex).symm
  exact htokens.symm

/-- A text is read as a derived table. Nothing is read as a query of it where its name or a join
stands behind the parentheses; without a name, all of it is. -/
structure IsDerivedFactor (d : Dialect) (depth : Nat) (text : String) (asName : Option String)
    (ts : List Token) (f : Factor) : Prop extends IsFactor d depth text ts f where
  notNested : isNestedFactor f = false
  opens : ∃ us, ts = .symbol .lparen :: us
  noQuery : ∀ m, depth < m → ∀ rest, HeadIn joinStarts rest ∨ asName ≠ none →
    NoQuery (nestedAt d m) (ts ++ rest)
  query : asName = none → ∀ m, depth < m → ∀ rest, ∃ q,
    (nestedAt d m).query (ts ++ .symbol .rparen :: rest) = .ok (q, .symbol .rparen :: rest)

theorem Source.exists_derivedFactor {q tree : Select} {asName : Option String}
    (h : ∃ ts query, q.IsReadAs d depth ts query tree) (halias : IsAliasRead d asName) :
    ∃ ts f, IsDerivedFactor d (depth + 1) (derived q asName).sql asName ts f ∧
      f.source = .ok (.derived tree asName) := by
  obtain ⟨ts, query, hq⟩ := h
  obtain ⟨us, given, hspells, hus, hgiven, htext⟩ := halias
  refine ⟨.symbol .lparen :: (ts ++ .symbol .rparen :: us), .derived false query given,
    ⟨⟨?_, ⟨List.cons_ne_nil _ _, noSpace_cons rfl _⟩, ?_⟩, rfl, ⟨_, rfl⟩, ?_, ?_⟩, ?_⟩
  · simpa [sql] using hspells hq.spells.parenthesized
  · intro m hm
    obtain ⟨m, rfl⟩ : ∃ k, m = k + 1 := ⟨m - 1, by omega⟩
    have hread := hq.reads m (by omega)
    rw [← nestedAt_query] at hread
    exact readsFactor_derived hq.solid hread hus (hgiven _)
  · intro m hm rest hrest
    obtain ⟨m, rfl⟩ : ∃ k, m = k + 2 := ⟨m - 2, by omega⟩
    have hends : HeadIn (Keyword.AS.token :: joinStarts) (us ++ rest) := by
      rcases hrest with hjoin | hname
      · exact (hus.mono (by simp)).append (hjoin.mono fun _ => List.mem_cons_of_mem _)
      · obtain ⟨t, us, rfl⟩ :=
          List.exists_cons_of_ne_nil (aliasTokens_ne_nil (hgiven 0) htext hname)
        exact hus.mono (by simp)
    simp only [List.cons_append, List.append_assoc]
    exact noQuery_derived hq.solid (hq.reads m (by omega)) hends
  · rintro rfl m hm rest
    obtain ⟨m, rfl⟩ : ∃ k, m = k + 2 := ⟨m - 2, by omega⟩
    obtain rfl := aliasTokens_eq_nil (hspells spells_nil)
    have hread := hq.reads m (by omega)
    rw [← nestedAt_query] at hread
    rw [nestedAt_query, List.cons_append, List.append_assoc]
    exact query_lparen hq.solid hread (headIn_cons (by simp) rest)
  · rw [Factor.source, hq.select_eq, htext]
    rfl

theorem Source.exists_readAs_derived {q tree : Select} {asName : Option String}
    (h : ∃ ts query, q.IsReadAs d depth ts query tree) (halias : IsAliasRead d asName) :
    ∃ ts us j, (derived q asName).IsReadAs d (depth + 1) ts us j (.derived tree asName) := by
  obtain ⟨ts, f, hfactor, hsource⟩ := exists_derivedFactor h halias
  refine ⟨_, _, _, IsReadAs.single hfactor.toIsFactor hsource (fun m hm rest hrest => ?_) nofun⟩
  exact hfactor.noQuery m hm rest (.inl (hrest.resolve_right (by simp [hfactor.notNested])))

/-! Clauses of a query -/

theorem spells_clause {α : Type} (k : Keyword) (ks : List Keyword) {phrase before : String}
    {ts : List Token} {clause : Option (String × List Token × α)}
    (hphrase : phrase = " " ++ Text.joined " " ((k :: ks).map Keyword.spelling) ++ " ")
    (hprinted : ∀ word ∈ k :: ks, word ∈ Keyword.printed) (hbefore : Spells d before ts)
    (hclause : ∀ c ∈ clause, Spells d c.1 c.2.1) :
    Spells d (before ++ clausePart phrase (clause.map Prod.fst))
      (ts ++ clauseTokens (k :: ks) (clause.map Prod.snd)) := by
  cases clause with
  | none => simpa [clausePart, clauseTokens] using hbefore
  | some clause =>
      have hspells := hbefore.space ((spells_keywords k ks hprinted).space (hclause clause rfl))
      simp only [Option.map_some, clausePart, clauseTokens, hphrase]
      simp only [String.append_assoc] at hspells ⊢
      exact hspells

/-- A clause that lists something, where there is something to list. -/
def listClause (texts : List String) : Option String :=
  if texts.isEmpty then none else some (Text.listed texts)

/-- The condition of a query, where there is one, is read as the predicate. -/
def IsFilterRead (d : Dialect) (depth : Nat) (filter read : Option Predicate) : Prop :=
  ∃ clause : Option (String × List Token × Expr), clause.map Prod.fst = filter.map Predicate.sql ∧
    (∀ c ∈ clause, IsRead d depth Nested.expr exprEnds c.1 c.2.1 c.2.2) ∧
    ((clause.map Prod.snd).map Prod.snd).mapM Expr.predicate = .ok read

theorem isFilterRead_none : IsFilterRead d depth none none :=
  ⟨none, rfl, nofun, rfl⟩

theorem isFilterRead_some {p tree : Predicate} {ts : List Token} {e : Expr}
    (hread : IsRead d depth Nested.expr exprEnds p.sql ts e) (htree : e.predicate = .ok tree) :
    IsFilterRead d depth (some p) (some tree) := by
  refine ⟨some (p.sql, ts, e), rfl, ?_, ?_⟩
  · intro c hc
    obtain rfl := Option.some.inj hc
    exact hread
  · simp only [Option.map_some, Option.mapM_some, htree]
    rfl

theorem isFilterRead_readable {filter : Option Predicate} (h : ∀ p ∈ filter, p.IsReadable d depth) :
    IsFilterRead d depth filter (filter.map Predicate.reassociated) := by
  cases filter with
  | none => exact isFilterRead_none
  | some p =>
      obtain ⟨ts, e, hread, htree⟩ := (h p rfl).exists_isRead
      exact isFilterRead_some hread htree

/-- The items of a query are read as they are. -/
def IsItemsRead (d : Dialect) (depth : Nat) (items : List ColumnRef) : Prop :=
  ∃ ts is, IsRead d depth (Grammar.items d) [Keyword.FROM.token]
    (Text.listed (items.map ColumnRef.sql)) ts is ∧ is.mapM Item.columnRef = .ok items

/-- The grouping keys of a query, where there are any, are read as they are. -/
def IsGroupingRead (d : Dialect) (depth : Nat) (groupBy : List ColumnRef) : Prop :=
  ∃ clause : Option (String × List Token × List Expr),
    clause.map Prod.fst = listClause (groupBy.map ColumnRef.sql) ∧
    (∀ c ∈ clause, IsRead d depth (fun n => commaSeparated (groupingKey d n)) groupingEnds
      c.1 c.2.1 c.2.2) ∧
    (groupingOf (clause.map Prod.snd)).columns = .ok groupBy

theorem isGroupingRead_nil : IsGroupingRead d depth [] :=
  ⟨none, rfl, nofun, rfl⟩

theorem isGroupingRead_plain {groupBy : List ColumnRef} (h : ∀ c ∈ groupBy, c.IsPlain d depth) :
    IsGroupingRead d depth groupBy := by
  cases hgroup : groupBy with
  | nil => exact isGroupingRead_nil
  | cons key keys =>
      rw [← hgroup]
      obtain ⟨ts, es, hread, hlower⟩ := exists_groupingKeys (by simp [hgroup]) h
      refine ⟨some (Text.listed (groupBy.map ColumnRef.sql), ts, es), by simp [listClause, hgroup], ?_,
        hlower⟩
      intro c hc
      obtain rfl := Option.some.inj hc
      exact hread

/-- The sort keys of a query, where there are any, are read as they are. -/
def IsOrderRead (d : Dialect) (depth : Nat) (orderBy : List OrderItem) : Prop :=
  ∃ clause : Option (String × List Token × List OrderKey),
    clause.map Prod.fst = listClause (orderBy.map OrderItem.sql) ∧
    (∀ c ∈ clause, IsRead d depth (orderKeys d) [.symbol .rparen] c.1 c.2.1 c.2.2) ∧
    (((clause.map Prod.snd).map Prod.snd).getD []).mapM OrderKey.item = .ok orderBy

theorem isOrderRead_nil : IsOrderRead d depth [] :=
  ⟨none, rfl, nofun, rfl⟩

theorem isOrderRead_plain {orderBy : List OrderItem} (h : ∀ item ∈ orderBy, item.IsPlain d depth) :
    IsOrderRead d depth orderBy := by
  cases horder : orderBy with
  | nil => exact isOrderRead_nil
  | cons item items =>
      rw [← horder]
      obtain ⟨ts, keys, hread, hlower⟩ := exists_orderKeys (by simp [horder]) h
      refine ⟨some (Text.listed (orderBy.map OrderItem.sql), ts, keys), by simp [listClause, horder],
        ?_, hlower⟩
      intro c hc
      obtain rfl := Option.some.inj hc
      exact hread

namespace Select

theorem sql_eq (items : List ColumnRef) (source : Source) (filter : Option Predicate)
    (groupBy : List ColumnRef) (orderBy : List OrderItem) :
    (Select.mk items source filter groupBy orderBy).sql =
      "SELECT " ++ Text.listed (items.map ColumnRef.sql) ++ " FROM " ++ source.sql ++
        clausePart " WHERE " (filter.map Predicate.sql) ++
        clausePart " GROUP BY " (listClause (groupBy.map ColumnRef.sql)) ++
        clausePart " ORDER BY " (listClause (orderBy.map OrderItem.sql)) := by
  cases filter <;> cases groupBy <;> cases orderBy <;>
    simp [sql, clausePart, listClause, String.append_assoc]

theorem selectionOf_select {is : List Item} {js : List Joined}
    {condition : Option (List Token × Expr)} {keys : Option (List Token × List Expr)}
    {items : List ColumnRef} {trees : List Source} {filter : Option Predicate}
    {groupBy : List ColumnRef} (hne : js ≠ []) (hitems : is.mapM Item.columnRef = .ok items)
    (hsources : Joined.sources js = .ok trees)
    (hfilter : (condition.map Prod.snd).mapM Expr.predicate = .ok filter)
    (hgroup : (groupingOf keys).columns = .ok groupBy) :
    (selectionOf is js condition keys).select =
      .ok ⟨items, match trees with
        | [tree] => tree
        | trees => .list trees, filter, groupBy, []⟩ := by
  have hsome : js.isEmpty = false := by simpa using hne
  simp only [selectionOf, Selection.select, hsome, hitems, hsources, hfilter, hgroup]
  rcases trees with _ | ⟨first, _ | ⟨second, rest⟩⟩ <;> rfl

theorem queryOf_select {s : Selection} {order : Option (List Token × List OrderKey)} {tree : Select}
    {orderBy : List OrderItem} (hs : s.select = .ok tree)
    (horder : ((order.map Prod.snd).getD []).mapM OrderKey.item = .ok orderBy) :
    (queryOf s order).select = .ok { tree with orderBy } := by
  simp only [queryOf, Query.select, Body.select, hs, horder]
  rfl

/-- The tokens of a query are those of its clauses. -/
theorem spells_tokens {items : List ColumnRef} {source : Source} {filter : Option Predicate}
    {groupBy : List ColumnRef} {orderBy : List OrderItem} {its sts : List Token}
    {condition : Option (String × List Token × Expr)}
    {keys : Option (String × List Token × List Expr)}
    {order : Option (String × List Token × List OrderKey)}
    (hits : Spells d (Text.listed (items.map ColumnRef.sql)) its) (hsts : Spells d source.sql sts)
    (hconditionText : condition.map Prod.fst = filter.map Predicate.sql)
    (hcondition : ∀ c ∈ condition, Spells d c.1 c.2.1)
    (hkeysText : keys.map Prod.fst = listClause (groupBy.map ColumnRef.sql))
    (hkeys : ∀ c ∈ keys, Spells d c.1 c.2.1)
    (horderText : order.map Prod.fst = listClause (orderBy.map OrderItem.sql))
    (horder : ∀ c ∈ order, Spells d c.1 c.2.1) :
    Spells d (Select.mk items source filter groupBy orderBy).sql
      (selectionTokens its sts (condition.map Prod.snd) (keys.map Prod.snd) ++
        clauseTokens [.ORDER, .BY] (order.map Prod.snd)) := by
  have hselect : "SELECT " = "SELECT" ++ " " := rfl
  have hfrom : " FROM " = " " ++ "FROM" ++ " " := rfl
  have hbase := ((Keyword.spells (k := .SELECT) (by decide)).space hits).space
    ((Keyword.spells (k := .FROM) (by decide)).space hsts)
  have hwhere := spells_clause .WHERE [] (rfl : " WHERE " = _) (by decide) hbase hcondition
  have hgroupBy := spells_clause .GROUP [.BY] (rfl : " GROUP BY " = _) (by decide) hwhere hkeys
  have horderBy := spells_clause .ORDER [.BY] (rfl : " ORDER BY " = _) (by decide) hgroupBy horder
  rw [hconditionText, hkeysText, horderText] at horderBy
  rw [sql_eq, hselect, hfrom]
  simp only [Keyword.spelling, String.append_assoc, List.append_assoc, selectionTokens,
    List.cons_append, List.nil_append] at horderBy ⊢
  exact horderBy

/-- What the clauses of a query are read as. -/
theorem exists_readAs {items : List ColumnRef} {source tree : Source}
    {filter read : Option Predicate} {groupBy : List ColumnRef} {orderBy : List OrderItem}
    (hitems : IsItemsRead d depth items)
    (hsource : ∃ ts js trees, source.IsReadList d depth ts js trees tree)
    (hfilter : IsFilterRead d depth filter read) (hgroup : IsGroupingRead d depth groupBy)
    (horder : IsOrderRead d depth orderBy) :
    ∃ ts query, (Select.mk items source filter groupBy orderBy).IsReadAs d depth ts query
      ⟨items, tree, read, groupBy, orderBy⟩ := by
  obtain ⟨its, is, hits, hlowerItems⟩ := hitems
  obtain ⟨sts, js, trees, hsts⟩ := hsource
  obtain ⟨condition, hconditionText, hcondition, hlowerFilter⟩ := hfilter
  obtain ⟨keys, hkeysText, hkeys, hlowerKeys⟩ := hgroup
  obtain ⟨order, horderText, horders, hlowerOrder⟩ := horder
  refine ⟨selectionTokens its sts (condition.map Prod.snd) (keys.map Prod.snd) ++
      clauseTokens [.ORDER, .BY] (order.map Prod.snd),
    queryOf (selectionOf is js (condition.map Prod.snd) (keys.map Prod.snd)) (order.map Prod.snd),
    ⟨?_, ⟨_, rfl⟩, ?_, ?_⟩⟩
  · exact spells_tokens hits.spells hsts.spells hconditionText (fun c hc => (hcondition c hc).spells)
      hkeysText (fun c hc => (hkeys c hc).spells) horderText fun c hc => (horders c hc).spells
  · intro m hm
    apply query_tokens ⟨_, rfl⟩
    · apply selection_tokens hits.starts (hits.reads m hm) (hsts.reads m hm)
      · intro clause hclause
        obtain ⟨c, hc, rfl⟩ := Option.map_eq_some_iff.mp hclause
        exact (hcondition c hc).reads m hm
      · intro clause hclause
        obtain ⟨c, hc, rfl⟩ := Option.map_eq_some_iff.mp hclause
        exact (hkeys c hc).starts
      · intro clause hclause
        obtain ⟨c, hc, rfl⟩ := Option.map_eq_some_iff.mp hclause
        exact (hkeys c hc).reads m hm
    · intro clause hclause
      obtain ⟨c, hc, rfl⟩ := Option.map_eq_some_iff.mp hclause
      exact (horders c hc).reads m hm
  · rw [hsts.tree_eq]
    exact queryOf_select
      (selectionOf_select hsts.ne hlowerItems hsts.sources_eq hlowerFilter hlowerKeys) hlowerOrder

end Select

/-! All trees -/

/-- What is read from the text of a source in plain words, wherever it stands. -/
structure Source.Readable (d : Dialect) (source : Source) : Prop where
  chain : ∀ {depth}, source.IsPlain d depth → source.isList = false →
    ∃ ts us j, source.IsReread d depth ts us j
  sources : ∀ {depth}, source.IsPlain d depth →
    ∃ ts js trees, source.IsRereadList d depth ts js trees

namespace Source

theorem Readable.of_chain {source : Source}
    (h : ∀ {depth}, source.IsPlain d depth → ∃ ts us j, source.IsReread d depth ts us j) :
    source.Readable d where
  chain := fun hplain _ => h hplain
  sources := by
    intro depth hplain
    obtain ⟨ts, us, j, hj⟩ := h hplain
    exact ⟨_, _, _, hj.isReadList⟩

theorem Readable.operand {right : Source} (h : right.Readable d) (hlist : right.isList = false)
    (hdepth : right.parentheses ≤ depth) (hplain : right.IsPlain d (depth - right.parentheses)) :
    ∃ vs f, IsFactor d depth right.operand vs f ∧ f.source = .ok (right.grouped right.reread) := by
  obtain ⟨ts, us, j, hj⟩ := h.chain hplain hlist
  refine hj.exists_operand (fun hcombined => ?_) hdepth
  rw [nests_reread]
  exact nests_of_isCombined hlist hcombined

end Source

mutual
theorem Source.readable : (source : Source) → source.Readable d
  | .table _ _ => .of_chain Source.exists_reread_table
  | .join _ left right _ => .of_chain fun ⟨hleft, hright, hconstraint⟩ =>
      Source.exists_readAs_join hleft.1 ((Source.readable left).chain hleft.2 hleft.1)
        ((Source.readable right).operand hright.1 hright.2.1 hright.2.2) hconstraint.isRead
  | .naturalJoin left right => .of_chain fun ⟨hleft, hright⟩ =>
      Source.exists_readAs_naturalJoin hleft.1 ((Source.readable left).chain hleft.2 hleft.1)
        ((Source.readable right).operand hright.1 hright.2.1 hright.2.2)
  | .list items => by
      refine ⟨nofun, ?_⟩
      intro depth h
      obtain ⟨ts, js, hread⟩ := Source.exists_readList_list h.1 Source.reread fun item hmem => by
        obtain ⟨hlist, hplain⟩ := Source.isPlainList_iff.mp h.2 item hmem
        exact (Source.readable_of_mem items item hmem).chain hplain hlist
      rw [← Source.rereadList_eq_map] at hread
      exact ⟨ts, js, _, hread⟩
  | .nested inner => by
      apply Source.Readable.of_chain
      intro depth h
      obtain ⟨hdepth, hnests, hplain⟩ := h
      obtain ⟨depth, rfl⟩ := Nat.exists_eq_add_of_le' hdepth
      have hlist : inner.isList = false := by
        revert hnests
        cases inner <;> first | exact fun _ => rfl | nofun
      rw [← Source.nests_reread] at hnests
      exact Source.exists_readAs_nested hnests ((Source.readable inner).chain hplain hlist)
  | .derived query _ => by
      apply Source.Readable.of_chain
      intro depth h
      obtain ⟨hdepth, hplain, halias⟩ := h
      obtain ⟨depth, rfl⟩ := Nat.exists_eq_add_of_le' hdepth
      exact Source.exists_readAs_derived (Select.readable query hplain) halias.isAliasRead

theorem Source.readable_of_mem : (items : List Source) → ∀ item ∈ items, item.Readable d
  | [] => nofun
  | first :: rest => List.forall_mem_cons.mpr
      ⟨Source.readable first, Source.readable_of_mem rest⟩

/-- The text of a query in plain words is read as the query. -/
theorem Select.readable : (q : Select) → ∀ {depth}, q.IsPlain d depth →
    ∃ ts query, q.IsReread d depth ts query
  | ⟨_, source, _, _, _⟩, _, ⟨⟨hne, hitems⟩, hsource, hfilter, hgroup, horder⟩ =>
      Select.exists_readAs (exists_items hne hitems) ((Source.readable source).sources hsource)
        (isFilterRead_readable fun p hp => (hfilter p hp).isReadable) (isGroupingRead_plain hgroup)
        (isOrderRead_plain horder)
end

end SelectTree
