import SelectTree.Proofs.ReadChains

namespace SelectTree.Sql.Grammar

open Sql.Parser

/-! Chains of words. Whatever words stand between natural joins, nothing but the tables of these
names is read from them: a word that opens something else asks for a parenthesis, and there is
none. -/

variable {d : Dialect} {n : Nested} {name : String} {names : List String} {us rest : List Token}
  {f : Factor}

/-! Words that open a table -/

/-- The tokens of a further natural join, or none. -/
inductive AtNaturalJoin : List Token → Prop
  | done : AtNaturalJoin []
  | join (us : List Token) : AtNaturalJoin (Keyword.NATURAL.token :: Keyword.JOIN.token :: us)

namespace AtNaturalJoin

theorem headIn (h : AtNaturalJoin us) : HeadIn [Keyword.NATURAL.token] us := by
  cases h with
  | done => exact headIn_nil _
  | join us => exact headIn_head _ _

theorem accept_lparen (h : AtNaturalJoin us) : accept .lparen us = .ok (false, us) :=
  accept_of_headIn h.headIn .lparen (by decide)

theorem parenthesized_ne_ok (h : AtNaturalJoin us) {α : Type} {p : Parser α} {a : α} :
    parenthesized p us ≠ .ok (a, rest) := by
  intro hread
  obtain ⟨⟨⟩, left, hexpect, -⟩ := run_bind_eq_ok_iff.mp hread
  have hexpected := run_bind_of_ok h.accept_lparen hexpect
  cases hexpected

/-- The name of a function is read from the next word, and then there is no parenthesis. -/
theorem lateralFactor_ne_ok (h : AtNaturalJoin us) : lateralFactor d n us ≠ .ok (f, rest) := by
  intro hread
  have hread := run_bind_of_ok h.accept_lparen hread
  rw [if_neg Bool.false_ne_true] at hread
  cases h with
  | done => cases hread
  | join us =>
      have hpath : IsPath [Keyword.NATURAL.token] [⟨Keyword.NATURAL.spelling, none⟩] :=
        .mk rfl .done
      have hname := hpath.reads (Keyword.JOIN.token :: us) (headIn_cons (by decide) _)
      have htext : pathText (Keyword.NATURAL.token :: Keyword.JOIN.token :: us) =
          .ok (Name.pathSql [⟨Keyword.NATURAL.spelling, none⟩], Keyword.JOIN.token :: us) := by
        rw [List.singleton_append] at hname
        simp [pathText, hname]
      have hparen := run_bind_of_ok htext hread
      cases hparen

theorem functionFactor_ne_ok (h : AtNaturalJoin us) : functionFactor d n us ≠ .ok (f, rest) := by
  intro hread
  obtain ⟨e, left, he, -⟩ := run_bind_eq_ok_iff.mp hread
  exact h.parenthesized_ne_ok he

theorem unnestFactor_ne_ok (h : AtNaturalJoin us) : unnestFactor d n us ≠ .ok (f, rest) := by
  intro hread
  obtain ⟨items, left, hitems, -⟩ := run_bind_eq_ok_iff.mp hread
  exact h.parenthesized_ne_ok hitems

end AtNaturalJoin

/-- What is read is no choice that fails after its word. -/
theorem acceptKeyword_refused {k : Keyword} {p q : Parser Factor} {t : Token}
    (hp : ∀ f rest, p us ≠ .ok (f, rest))
    (h : (do if ← acceptKeyword k then p else q) (t :: us) = .ok (f, rest)) :
    t.keyword ≠ some k ∧ q (t :: us) = .ok (f, rest) := by
  by_cases hk : t.keyword = some k
  · have haccept : acceptKeyword k (t :: us) = .ok (true, us) := by simp [acceptKeyword, hk]
    exact absurd (run_bind_of_ok haccept h) (hp f rest)
  · have haccept : acceptKeyword k (t :: us) = .ok (false, t :: us) := by simp [acceptKeyword, hk]
    exact ⟨hk, run_bind_of_ok haccept h⟩

theorem whenever_refused {allowed : Bool} {k : Keyword} {p q : Parser Factor} {t : Token}
    (hp : ∀ f rest, p us ≠ .ok (f, rest))
    (h : (do if ← whenever allowed (acceptKeyword k) then p else q) (t :: us) = .ok (f, rest)) :
    (allowed = true → t.keyword ≠ some k) ∧ q (t :: us) = .ok (f, rest) := by
  cases allowed with
  | false => exact ⟨nofun, h⟩
  | true => exact (acceptKeyword_refused hp h).imp_left fun hk _ => hk

theorem opensTable_of_factorAt {fuel : Nat} (hus : AtNaturalJoin us)
    (h : factorAt d n fuel (.bare name :: us) = .ok (f, rest)) :
    opensTable d (.bare name) = true := by
  cases fuel with
  | zero => cases h
  | succ fuel =>
      obtain ⟨hlateral, h⟩ := acceptKeyword_refused (fun _ _ => hus.lateralFactor_ne_ok) h
      obtain ⟨hfunction, h⟩ := acceptKeyword_refused (fun _ _ => hus.functionFactor_ne_ok) h
      have hparen : accept .lparen (.bare name :: us) = .ok (false, .bare name :: us) := rfl
      have hvalues : whenever d.allowsValuesFactor beginsValues (.bare name :: us) =
          .ok (false, .bare name :: us) := by
        apply whenever_of_refused
        cases hus <;> rfl
      replace h := run_bind_of_ok hparen h
      rw [if_neg Bool.false_ne_true] at h
      replace h := run_bind_of_ok hvalues h
      rw [if_neg Bool.false_ne_true] at h
      obtain ⟨hunnest, -⟩ := whenever_refused (fun _ _ => hus.unnestFactor_ne_ok) h
      exact opensTable_of_ne hlateral hfunction hunnest

/-- A word that opens a table is read as the table of that name. -/
theorem readsFactor_bare (h : opensTable d (.bare name) = true) :
    ReadsFactor d n [.bare name] (.table [⟨name, none⟩] [] none false none []) := by
  have hpath : IsPath [.bare name] [⟨name, none⟩] := .mk rfl .done
  exact hpath.readsFactor (by simpa using h)

/-! Joins of words -/

/-- The tokens of a name after a natural join. -/
def joinTokens (name : String) : List Token :=
  [Keyword.NATURAL.token, Keyword.JOIN.token, .bare name]

theorem atNaturalJoin_flatMap (names : List String) : AtNaturalJoin (names.flatMap joinTokens) := by
  cases names with
  | nil => exact .done
  | cons name names => exact .join _

/-- Where a word is read before further joins, it is read as a table, and the joins are left. -/
theorem factor_bare_eq_ok (hus : AtNaturalJoin us)
    (h : factor d n (.bare name :: us) = .ok (f, rest)) :
    opensTable d (.bare name) = true ∧ rest = us := by
  have hopens := opensTable_of_factorAt hus h
  have hread := readsFactors_factor 1 [.bare name] _ (Nat.le_refl _)
    (readsFactor_bare (d := d) (n := n) hopens) us (hus.headIn.mono (by decide))
  rw [List.singleton_append, h] at hread
  exact ⟨hopens, (run_pure_eq_ok hread).2⟩

theorem joinStep_natural {p : Parser Factor} {first : Factor} {read : List Join} :
    joinStep d n p first read (Keyword.NATURAL.token :: Keyword.JOIN.token :: us) =
      (p >>= fun right => pure (.inl (⟨false, .kind .plain, right, .natural⟩ :: read))) us := by
  have hwords : joinWords? true (Keyword.JOIN.token :: us) = .ok (some (.kind .plain), us) := rfl
  have hnatural : acceptKeyword .NATURAL (Keyword.NATURAL.token :: Keyword.JOIN.token :: us) =
      .ok (true, Keyword.JOIN.token :: us) := rfl
  rw [joinStep, run_bind, join?_eq (headIn_cons (by decide) _)]
  cases hp : p us <;> simp [plainJoin?, hnatural, hwords, hp, joinCondition]

theorem opensTable_of_joins {first : Factor} {fuel : Nat} {read : List Join} {j : Joined}
    (h : iterateFrom (joinStep d n (factor d n) first) fuel read (names.flatMap joinTokens) =
      .ok (j, rest)) :
    ∀ name ∈ names, opensTable d (.bare name) = true := by
  induction names generalizing fuel read with
  | nil => nofun
  | cons name names ih =>
      cases fuel with
      | zero => cases h
      | succ fuel =>
          obtain ⟨outcome, left, hstep, h⟩ := run_bind_eq_ok_iff.mp h
          rw [List.flatMap_cons, joinTokens, List.cons_append, List.cons_append, joinStep_natural,
            List.singleton_append] at hstep
          obtain ⟨right, left', hright, hstep⟩ := run_bind_eq_ok_iff.mp hstep
          obtain ⟨rfl, rfl⟩ := run_pure_eq_ok hstep
          obtain ⟨hopens, rfl⟩ := factor_bare_eq_ok (atNaturalJoin_flatMap names) hright
          exact List.forall_mem_cons.mpr ⟨hopens, ih h⟩

/-- Each name of a chain that is read opens a table. -/
theorem opensTable_of_joined {j : Joined}
    (h : joined d n (.bare name :: names.flatMap joinTokens) = .ok (j, rest)) :
    ∀ other ∈ name :: names, opensTable d (.bare other) = true := by
  rw [joined, joinedWith_eq] at h
  obtain ⟨first, left, hfirst, h⟩ := run_bind_eq_ok_iff.mp h
  obtain ⟨hopens, rfl⟩ := factor_bare_eq_ok (atNaturalJoin_flatMap names) hfirst
  exact List.forall_mem_cons.mpr ⟨hopens, opensTable_of_joins h⟩

end SelectTree.Sql.Grammar

namespace SelectTree

open Sql Sql.Grammar Sql.Parser

/-! Texts of chains -/

variable {d : Dialect} {source : Source} {names : List String} {name : String}

/-- The tokens of a chain of words. -/
def chainTokens : List String → List Token
  | [] => []
  | name :: names => .bare name :: names.flatMap joinTokens

theorem chainTokens_concat (h : names ≠ []) (table : String) :
    chainTokens (names ++ [table]) = chainTokens names ++ joinTokens table := by
  obtain ⟨first, more, rfl⟩ := List.exists_cons_of_ne_nil h
  simp [chainTokens]

theorem Source.IsLeftChain.spellsFirst (h : source.IsLeftChain names)
    (words : ∀ name ∈ names, isWordText d name = true) :
    SpellsFirst d source.sql (chainTokens names) := by
  induction h with
  | single table =>
      have hspells := (spells_word (words table (List.mem_singleton_self table))).first
      simpa [bare, sql, asSql, chainTokens] using hspells
  | @join source names h table ih =>
      have hspells := ih fun name hmem => words name (List.mem_append_left _ hmem)
      have htable := (spells_word (words table (by simp))).first
      rw [sql_naturalJoin_bare h.isList_eq, chainTokens_concat h.ne_nil]
      exact spellsFirst_naturalJoin hspells htable

theorem opensTable_of_parseSelect {q : Select} (h : source.IsLeftChain names)
    (words : ∀ name ∈ names, isWordText d name = true)
    (hparse : d.parseSelect ("SELECT * FROM" ++ " " ++ source.sql) = .ok q) :
    ∀ name ∈ names, opensTable d (.bare name) = true := by
  obtain ⟨query, hread, hquery⟩ := parseSelect_eq_ok hparse
  obtain ⟨lexemes, rest, hlex, htext⟩ := readStatements_eq_ok hread
  obtain ⟨lexemes', hlex', htokens⟩ := (spells_allColumns.first.space (h.spellsFirst words)).lex
  obtain rfl := Except.ok.inj (hlex'.symm.trans hlex)
  rw [htokens] at htext
  obtain ⟨s, left, read, hselection, -⟩ := text_select_eq_ok htext hquery
  obtain ⟨left, hsources⟩ := selection_allColumns_eq_ok hselection
  obtain ⟨j, left, more, hjoined, -⟩ := commaSeparated_eq_ok hsources
  obtain ⟨first, names, rfl⟩ := List.exists_cons_of_ne_nil h.ne_nil
  exact opensTable_of_joined hjoined

theorem Source.exists_isTableFactor_of_opensTable (hword : isWordText d name = true)
    (hopens : opensTable d (.bare name) = true) : ∃ ts f, IsTableFactor d name ts f := by
  refine ⟨_, _, (spells_word hword).first, ⟨List.cons_ne_nil _ _, noSpace_cons rfl _⟩,
    fun m _ => readsFactor_bare hopens, ?_⟩
  simp [Factor.source, Name.pathSql, Name.sql, bare, aliasText]

/-- Whatever words are read as a chain, they are read as the chain of the tables so named. -/
theorem isLeftChain_of_readChain (h : Edit.readChain d names = .ok source)
    (words : ∀ name ∈ names, isWordText d name = true) : source.IsLeftChain names := by
  have hne : names ≠ [] := by
    rintro rfl
    cases h
  rw [Edit.readChain, if_neg (by simpa using hne)] at h
  obtain ⟨q, hparse, rfl⟩ := map_eq_ok_iff.mp h
  obtain ⟨chain, hchain⟩ := Source.exists_isLeftChain hne
  have hopens := opensTable_of_parseSelect hchain words (hchain.queryText_eq ▸ hparse)
  have hread := parseSelect_chain hchain (fun name hmem => by
      rintro rfl
      cases words "" hmem)
    fun name hmem => Source.exists_isTableFactor_of_opensTable (words name hmem) (hopens name hmem)
  obtain rfl := Except.ok.inj (hparse.symm.trans hread)
  exact hchain

end SelectTree
