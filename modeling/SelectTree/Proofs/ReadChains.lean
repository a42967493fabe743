import SelectTree.Proofs.NaturalChains
import SelectTree.Proofs.TableTokens

namespace SelectTree.Sql

/-! Texts behind a blank -/

variable {d : Dialect} {text front back : String} {ts us : List Token}

/-- The text is cut into the tokens where it stands first or behind a blank. -/
def SpellsFirst (d : Dialect) (text : String) (ts : List Token) : Prop :=
  ∀ rest, AtGap rest → ∃ last, IsCalm last ∧ Cuts d none (text.toList ++ rest) ts last rest

theorem Spells.first (h : Spells d text ts) : SpellsFirst d text ts :=
  fun rest hgap => h none rest isCalm_none hgap

theorem SpellsFirst.space (hfront : SpellsFirst d front ts) (hback : SpellsFirst d back us) :
    SpellsFirst d (front ++ " " ++ back) (ts ++ us) := by
  intro rest hgap
  obtain ⟨middle, hmiddle, hcuts⟩ :=
    hfront (' ' :: (back.toList ++ rest)) (atGap_cons (by decide) _)
  obtain ⟨last, hlast, hcuts'⟩ := hback rest hgap
  refine ⟨last, hlast, ?_⟩
  simpa using hcuts.append (cuts_space hmiddle hcuts')

theorem Spells.space_first (hfront : Spells d front ts)
    (hback : SpellsFirst d back us) : Spells d (front ++ " " ++ back) (ts ++ us) := by
  intro previous rest hcalm hgap
  obtain ⟨middle, hmiddle, hcuts⟩ :=
    hfront previous (' ' :: (back.toList ++ rest)) hcalm (atGap_cons (by decide) _)
  obtain ⟨last, hlast, hcuts'⟩ := hback rest hgap
  refine ⟨last, hlast, ?_⟩
  simpa using hcuts.append (cuts_space hmiddle hcuts')

theorem SpellsFirst.lex (h : SpellsFirst d text ts) :
    ∃ lexemes, lex d text.toList = .ok lexemes ∧ lexemes.map Lexeme.token = ts := by
  obtain ⟨last, -, hcuts⟩ := h [] atGap_nil
  rw [List.append_nil] at hcuts
  exact hcuts.lexFrom (Nat.le_refl _)

end SelectTree.Sql

namespace SelectTree

open Sql Sql.Grammar Sql.Parser

/-! Chains of natural joins that are read from the names of tables. Where each name is read as the
table that it names, the names are read as the chain. -/

variable {d : Dialect} {depth : Nat} {source : Source} {names : List String} {name : String}

/-! Names of tables -/

namespace Source

/-- A text is cut into one token, which is read as the table of that name. -/
def IsTableText (d : Dialect) (name : String) : Prop :=
  ∃ t f, IsFactor d queryDepth name [t] f ∧ f.source = .ok (.bare name)

/-- A text behind a blank is cut into the tokens of a factor, which is the table of that name. -/
structure IsTableFactor (d : Dialect) (name : String) (ts : List Token) (f : Factor) : Prop where
  spells : SpellsFirst d name ts
  solid : Solid ts
  reads : ∀ m, queryDepth ≤ m → ReadsFactor d (nestedAt d m) ts f
  source_eq : f.source = .ok (.bare name)

theorem IsTableText.exists_isTableFactor (h : IsTableText d name) :
    ∃ ts f, IsTableFactor d name ts f := by
  obtain ⟨t, f, hfactor, hsource⟩ := h
  exact ⟨[t], f, hfactor.spells.first, hfactor.solid, hfactor.reads, hsource⟩

/-- A name that is read as a table by itself is one behind any blank. -/
theorem exists_isTableFactor {q : Select} (h : d.parseSelect ("SELECT * FROM " ++ name) = .ok q)
    (hsource : q.source = .bare name) : ∃ ts f, IsTableFactor d name ts f := by
  obtain ⟨fuel, lexemes, parts, hlex, hpath, hname, hopens⟩ := exists_isPath h hsource
  refine ⟨_, _, ?_, hpath.solid, fun m _ => hpath.readsFactor hopens, ?_⟩
  · have htext := hpath.shown_eq
    rw [hname] at htext
    exact fun rest => cuts_of_lexFrom hlex isCalm_none hpath.isPathToken htext.symm
  · rw [Factor.source, hname]
    rfl

/-! Chains -/

theorem sql_naturalJoin_bare {left : Source} (hleft : left.isList = false) (table : String) :
    (naturalJoin left (bare table)).sql = left.sql ++ " NATURAL JOIN " ++ table := by
  rw [sql_naturalJoin hleft]
  simp [operand, isCombined, bare, sql, asSql]

/-- Behind a text that is cut into tokens, so is a table that is joined to it. -/
theorem spellsFirst_naturalJoin {text : String} {ts us : List Token}
    (htext : SpellsFirst d text ts) (hname : SpellsFirst d name us) :
    SpellsFirst d (text ++ " NATURAL JOIN " ++ name)
      (ts ++ Keyword.NATURAL.token :: Keyword.JOIN.token :: us) := by
  have hwords : Spells d "NATURAL JOIN" [Keyword.NATURAL.token, Keyword.JOIN.token] :=
    spells_keywords .NATURAL [.JOIN] (by decide)
  have hjoin : " NATURAL JOIN " = " " ++ "NATURAL JOIN" ++ " " := rfl
  have hall := htext.space (hwords.first.space hname)
  rw [hjoin]
  simp only [String.append_assoc, List.cons_append, List.nil_append] at hall ⊢
  exact hall

namespace IsLeftChain

theorem isList_eq (h : IsLeftChain source names) : source.isList = false := by
  cases h <;> rfl

theorem reread_eq (h : IsLeftChain source names) : source.reread = source := by
  induction h with
  | single table => rfl
  | join h table ih =>
      rw [reread, ih]
      rfl

/-- The text of a chain is read as the chain. -/
theorem exists_readsJoined (h : IsLeftChain source names)
    (hnames : ∀ name ∈ names, ∃ ts f, IsTableFactor d name ts f) :
    ∃ ts us j, SpellsFirst d source.sql (ts ++ us) ∧ ReadsJoined d queryDepth ts us j ∧
      j.source = .ok source := by
  induction h with
  | single table =>
      obtain ⟨ts, f, hfactor⟩ := hnames table (List.mem_singleton_self table)
      refine ⟨ts, [], ⟨f, []⟩, ?_, .single hfactor.solid hfactor.reads,
        Joined.source_single hfactor.source_eq⟩
      simpa [bare, sql, asSql] using hfactor.spells
  | @join source names h table ih =>
      obtain ⟨ts, us, j, hspells, hjoined, hsource⟩ := ih fun name hmem =>
        hnames name (List.mem_append_left _ hmem)
      obtain ⟨vs, f, hfactor⟩ := hnames table (by simp)
      refine ⟨ts, _, _, ?_, hjoined.natural hfactor.reads, Joined.source_concat hsource ?_⟩
      · rw [sql_naturalJoin_bare h.isList_eq, ← List.append_assoc]
        exact spellsFirst_naturalJoin hspells hfactor.spells
      · rw [Join.source, hfactor.source_eq]
        rfl

theorem exists_joined (h : IsLeftChain source names) (hnames : ∀ name ∈ names, IsTableText d name) :
    ∃ ts us j, IsJoined d queryDepth source.sql ts us j ∧ j.source = .ok source.reread := by
  induction h with
  | single table =>
      obtain ⟨t, f, hfactor, hf⟩ := hnames table (List.mem_singleton_self table)
      exact ⟨[t], [], ⟨f, []⟩, .single (by simpa [bare, sql, asSql] using hfactor),
        Joined.source_single hf⟩
  | @join source names h table ih =>
      obtain ⟨ts, us, j, hjoined, hsource⟩ := ih fun name hmem =>
        hnames name (List.mem_append_left _ hmem)
      obtain ⟨t, f, hfactor, hf⟩ := hnames table (by simp)
      rw [sql_naturalJoin_bare h.isList_eq]
      refine ⟨ts, _, _, hjoined.natural hfactor, Joined.source_concat hsource ?_⟩
      rw [Join.source, hf]
      rfl

theorem sql_eq (h : IsLeftChain source names) :
    source.sql = Text.joined " NATURAL JOIN " names := by
  induction h with
  | single table => simp [bare, sql, asSql]
  | @join source names h table ih =>
      rw [sql_naturalJoin_bare h.isList_eq, ih, Text.joined_append _ h.ne_nil (List.cons_ne_nil table [])]
      rfl

/-- What is parsed to read the chain is the text of the chain. -/
theorem queryText_eq (h : IsLeftChain source names) :
    "SELECT * FROM " ++ Text.joined " NATURAL JOIN " names =
      "SELECT * FROM" ++ " " ++ source.sql := by
  have hstart : "SELECT * FROM" ++ " " = "SELECT * FROM " := rfl
  rw [hstart, h.sql_eq]

theorem check_eq_ok (h : IsLeftChain source names) (hnames : ∀ name ∈ names, name ≠ "") :
    source.check = .ok () := by
  induction h with
  | single table => exact check_table_iff.mpr (hnames table (List.mem_singleton_self table))
  | join h table ih =>
      rw [check_naturalJoin_iff]
      exact ⟨ih fun name hmem => hnames name (List.mem_append_left _ hmem),
        check_table_iff.mpr (hnames table (by simp))⟩

/-- Any tables can be joined to a chain. -/
theorem exists_append (h : IsLeftChain source names) (tables : List String) :
    ∃ source, IsLeftChain source (names ++ tables) := by
  induction tables generalizing source names with
  | nil => exact ⟨source, by simpa using h⟩
  | cons table tables ih =>
      obtain ⟨longer, hlonger⟩ := ih (h.join table)
      exact ⟨longer, by simpa using hlonger⟩

end IsLeftChain

theorem exists_isLeftChain (hne : names ≠ []) : ∃ source, IsLeftChain source names := by
  obtain ⟨first, more, rfl⟩ := List.exists_cons_of_ne_nil hne
  exact (IsLeftChain.single first).exists_append more

end Source

/-! Texts -/

theorem validate_chain (h : source.IsLeftChain names) (hnames : ∀ name ∈ names, name ≠ "") :
    (Select.new [.identifier "*"] source).validate = .ok () := by
  refine Select.validate_iff.mpr (Select.check_iff.mpr
    ⟨List.cons_ne_nil _ [], ?_, h.check_eq_ok hnames, nofun, nofun, nofun⟩)
  intro item hmem
  obtain rfl := List.mem_singleton.mp hmem
  rfl

/-- Names that are read as tables one by one are read as the chain of these. -/
theorem parseSelect_chain (h : source.IsLeftChain names) (hnames : ∀ name ∈ names, name ≠ "")
    (htexts : ∀ name ∈ names, ∃ ts f, Source.IsTableFactor d name ts f) :
    d.parseSelect ("SELECT * FROM " ++ Text.joined " NATURAL JOIN " names) =
      .ok (.new [.identifier "*"] source) := by
  obtain ⟨ts, us, j, hspells, hjoined, hsource⟩ := h.exists_readsJoined htexts
  have hsources : Reads (sources d (nestedAt d queryDepth)) clauseStarts (ts ++ us) [j] :=
    reads_commaSeparated clauseStarts [(ts ++ us, j)] (List.cons_ne_nil _ []) (by decide)
      (List.forall_mem_singleton.mpr (hjoined.reads (Nat.le_refl _) (readsFactors_factor _)))
      (List.forall_mem_singleton.mpr hjoined.solid_append)
  have hquery : Reads (Grammar.query d (nestedAt d queryDepth)) [.symbol .rparen]
      (allColumns (ts ++ us)) (queryOf (selectionOf [.wildcard none []] [j] none none) none) := by
    have hselection : Reads (selection d (nestedAt d queryDepth)) groupingEnds
        (selectionTokens [.symbol .star] (ts ++ us) none none)
        (selectionOf [.wildcard none []] [j] none none) :=
      selection_tokens ⟨_, _, rfl, opens_star⟩ reads_star hsources nofun nofun nofun
    have hread : Reads (Grammar.query d (nestedAt d queryDepth)) [.symbol .rparen]
        (selectionTokens [.symbol .star] (ts ++ us) none none ++ clauseTokens [.ORDER, .BY] none)
        (queryOf (selectionOf [.wildcard none []] [j] none none) none) :=
      query_tokens ⟨_, rfl⟩ hselection nofun
    simpa [selectionTokens, clauseTokens, allColumns] using hread
  have hlowered : Joined.sources [j] = .ok [source] := by
    rw [Joined.sources, hsource]
    rfl
  have htree : (queryOf (selectionOf [.wildcard none []] [j] none none) none).select =
      .ok (.new [.identifier "*"] source) :=
    Select.queryOf_select (Select.selectionOf_select (List.cons_ne_nil j []) rfl hlowered rfl rfl) rfl
  have hread := readStatements_of_reads (spells_allColumns.first.space hspells).lex ⟨_, rfl⟩ hquery
  have hparse := parseStatements_of_query hread htree (validate_chain h hnames)
  have hblank : Text.isBlankText ("SELECT * FROM" ++ " " ++ source.sql) = false := by
    have hfront : "SELECT * FROM".toList.all Text.isBlank = false := by decide
    simp only [Text.isBlankText, String.toList_append, List.all_append, hfront, Bool.false_and]
  rw [h.queryText_eq, Dialect.parseSelect, Dialect.parse, hblank, if_neg Bool.false_ne_true, hparse]
  rfl

end SelectTree
