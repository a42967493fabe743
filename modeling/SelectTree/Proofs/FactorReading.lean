import SelectTree.Proofs.ItemReading

namespace SelectTree.Sql.Grammar

open Sql.Parser

/-! Tables, derived tables and joins, read from tokens. -/

variable {d : Dialect} {n : Nested}

/-- The tokens that begin a join of a kind. -/
def kindStarts : List Token :=
  [Keyword.JOIN.token, Keyword.INNER.token, Keyword.LEFT.token, Keyword.RIGHT.token,
    Keyword.FULL.token]

/-- The tokens that begin a join. -/
def joinStarts : List Token :=
  Keyword.NATURAL.token :: kindStarts

/-- The tokens after the sources of a query, and between them. -/
def sourceEnds : List Token :=
  [.symbol .comma, .symbol .rparen, Keyword.WHERE.token, Keyword.GROUP.token, Keyword.ORDER.token]

def joinEnds : List Token :=
  joinStarts ++ sourceEnds

/-- The tokens after a factor. -/
def factorEnds : List Token :=
  Keyword.ON.token :: Keyword.USING.token :: joinEnds

/-- The tokens after the name of a table. -/
def tableEnds : List Token :=
  Keyword.AS.token :: factorEnds

/-! Names of tables -/

/-- Keywords that are read as more than a name where a table may stand, in parentheses or out. -/
def sourceKeywords : List Keyword :=
  [.LATERAL, .TABLE, .UNNEST, .VALUES, .WITH, .SELECT, .FROM]

def changeWords : List String :=
  ["INSERT", "UPDATE", "DELETE", "MERGE"]

def opensSource (text : String) : Bool :=
  (match Keyword.ofText? text with
    | none => false
    | some k => sourceKeywords.contains k) || changeWords.contains (Keyword.capitals text)

/-- Whether a name is one word that is read as that name where a table may stand. -/
def isTableName (d : Dialect) (name : Name) : Bool :=
  name.isWord d && (name.quote.isSome || !opensSource name.text)

theorem keyword_of_isTableName {name : Name} (h : isTableName d name = true) {k : Keyword}
    (hk : k ∈ sourceKeywords) : (Token.word name.word).keyword ≠ some k := by
  obtain ⟨text, quote⟩ := name
  cases quote with
  | some quote => exact nofun
  | none =>
      intro hkeyword
      have hkeyword' : Keyword.ofText? text = some k := hkeyword
      simp [isTableName, opensSource, hkeyword', hk] at h

theorem capitals_of_isTableName {name : Name} (h : isTableName d name = true) {spelling : String}
    (hspelling : spelling ∈ changeWords) :
    (Token.word name.word).capitals? ≠ some spelling := by
  obtain ⟨text, quote⟩ := name
  cases quote with
  | some quote => exact nofun
  | none =>
      intro hcapitals
      obtain rfl := Option.some.inj hcapitals
      simp [isTableName, opensSource, hspelling] at h

/-! Names of factors -/

def aliasTokens : Option String → List Token
  | none => []
  | some text => [Keyword.AS.token, .bare text]

def aliasOf (asName : Option String) : Option Alias :=
  asName.map fun text => ⟨.bare text, []⟩

theorem aliasText_aliasOf (asName : Option String) : aliasText (aliasOf asName) = asName := by
  cases asName <;> rfl

theorem headIn_aliasTokens (asName : Option String) :
    HeadIn [Keyword.AS.token] (aliasTokens asName) := by
  cases asName with
  | none => exact headIn_nil _
  | some text => exact headIn_cons (by simp) _

theorem headIn_alias (asName : Option String) {rest : List Token} (h : HeadIn factorEnds rest) :
    HeadIn tableEnds (aliasTokens asName ++ rest) :=
  ((headIn_aliasTokens asName).mono (by decide)).append (h.mono fun _ => List.mem_cons_of_mem _)

theorem tableAlias?_tokens (asName : Option String) {rest : List Token}
    (h : HeadIn factorEnds rest) :
    tableAlias? d n (aliasTokens asName ++ rest) = .ok (aliasOf asName, rest) := by
  have has := acceptKeyword_of_headIn h .AS (by decide)
  have hnone := acceptToken_of_headIn h (nameIfAllowed? (namesTable d)) (by cases d <;> decide)
  have hparen := peekSymbol_of_headIn h .lparen (by decide)
  cases asName with
  | none => simp [tableAlias?, aliasTokens, aliasOf, givenName?, has, hnone]
  | some text =>
      have hgiven : givenName? (namesTable d) (Keyword.AS.token :: .bare text :: rest) =
          .ok (some (.bare text), rest) :=
        rfl
      simp [tableAlias?, aliasTokens, aliasOf, hgiven, aliasColumns, hparen]

/-! Tables -/

theorem pivoted_of_headIn {interval : Parser Expr} (f : Factor) {ts : List Token}
    (h : HeadIn factorEnds ts) : pivoted d n interval f ts = .ok (f, ts) := by
  apply Runs.iterate
  apply Runs.stop
  simp [acceptOneOf_of_headIn h [.PIVOT, .UNPIVOT] (by decide)]

theorem tableHints_of_headIn {ts : List Token} (h : HeadIn factorEnds ts) :
    tableHints n ts = .ok ([], ts) := by
  have hwith : ∀ t ∈ factorEnds, t.keyword ≠ some .WITH := by decide
  unfold tableHints
  simp only [run_bind, Parser.rest]
  split
  · rename_i t us
    rw [if_neg (hwith t (h t rfl))]
    rfl
  · rfl

theorem indexHints_of_headIn {ts : List Token} (h : HeadIn factorEnds ts) :
    indexHints d ts = .ok ([], ts) := by
  cases hd : d.hasIndexHints with
  | false => simp [indexHints, hd]
  | true =>
      have hnone := acceptAnyOf_of_headIn h ["USE", "IGNORE", "FORCE"] (by decide +kernel)
      simp only [indexHints, hd, if_true, run_bind]
      rw [attempt_of_ok (many_of_none (by simp [hnone]))]
      rfl

theorem tableFactor_of_path {names : List Name} {ts rest : List Token} (asName : Option String)
    (hpath : path (ts ++ (aliasTokens asName ++ rest)) = .ok (names, aliasTokens asName ++ rest))
    (h : HeadIn factorEnds rest) :
    tableFactor d n (ts ++ (aliasTokens asName ++ rest)) =
      .ok (.table names [] none false (aliasOf asName) [], rest) := by
  have htable := headIn_alias asName h
  have hpartition := optionally_of_refused (whenever_of_refused
    (acceptKeyword_of_headIn htable .PARTITION (by decide)) d.allowsPartitions)
    (parenthesized (commaSeparatedBefore .rparen name))
  have harguments := optionally_of_refused (accept_of_headIn htable .lparen (by decide))
    (tableArguments d n)
  have hordinality := acceptKeywords_of_headIn htable .WITH [.ORDINALITY] (by decide)
  have hsample : sample? d n rest = .ok (none, rest) := by
    simp [sample?, acceptAnyOf_of_headIn h ["TABLESAMPLE", "SAMPLE"] (by decide +kernel)]
  have hpattern := whenever_of_refused (acceptKeyword_of_headIn h .MATCH_RECOGNIZE (by decide))
    d.hasRowPatterns
  simp [tableFactor, hpath, hpartition, harguments, hordinality, tableAlias?_tokens asName h,
    indexHints_of_headIn h, tableHints_of_headIn h, hsample, pivoted_of_headIn _ h, hpattern]

theorem tableFactor_tokens {names : List Name} (hne : names ≠ []) (asName : Option String)
    {rest : List Token} (h : HeadIn factorEnds rest) :
    tableFactor d n (Name.pathTokens names ++ (aliasTokens asName ++ rest)) =
      .ok (.table names [] none false (aliasOf asName) [], rest) :=
  tableFactor_of_path asName (reads_path tableEnds (by decide) hne _ (headIn_alias asName h)) h

theorem documentTable?_of_no_paren {t : Token} {us : List Token}
    (h : ∀ rest, us ≠ .symbol .lparen :: rest) : documentTable? d n (t :: us) = .ok (none, t :: us) := by
  generalize hts : t :: us = ts
  unfold documentTable?
  simp only [run_bind, Parser.rest]
  split
  · exact absurd (List.cons.inj hts).2 (h _)
  · rfl

/-- A factor is read from the tokens, whatever number of parentheses more it may stand in. -/
def ReadsFactor (d : Dialect) (n : Nested) (ts : List Token) (f : Factor) : Prop :=
  ∀ fuel, ts.length < fuel → Reads (factorAt d n fuel) factorEnds ts f

/-- A token that opens a table and nothing else where a factor stands. -/
def opensTable (d : Dialect) (t : Token) : Bool :=
  t.keyword ≠ some .LATERAL && t.keyword ≠ some .TABLE &&
    !(d.allowsUnnest && t.keyword = some .UNNEST)

theorem opensTable_of_isTableName {name : Name} (h : isTableName d name = true) :
    opensTable d (.word name.word) = true := by
  have hkeyword : ∀ k ∈ sourceKeywords, (Token.word name.word).keyword ≠ some k :=
    fun k hk => keyword_of_isTableName h hk
  simp [opensTable, hkeyword .LATERAL (by decide), hkeyword .TABLE (by decide),
    hkeyword .UNNEST (by decide)]

theorem readsFactor_of_opensTable {t : Token} {us : List Token} {f : Factor}
    (ht : opensTable d t = true) (hparen : t ≠ .symbol .lparen)
    (hread : Reads (tableFactor d n) factorEnds (t :: us) f)
    (hus : ∀ rest, HeadIn factorEnds rest → (us ++ rest).head? ≠ some (.symbol .lparen)) :
    ReadsFactor d n (t :: us) f := by
  intro fuel hfuel rest hrest
  obtain ⟨fuel, rfl⟩ : ∃ k, fuel = k + 1 := ⟨fuel - 1, by omega⟩
  have htable := hread rest hrest
  have hno := hus rest hrest
  simp only [opensTable, Bool.and_eq_true, decide_eq_true_eq, Bool.not_eq_true',
    Bool.and_eq_false_iff, decide_eq_false_iff_not] at ht
  obtain ⟨⟨hlateral, hfunction⟩, hunnest⟩ := ht
  rw [List.cons_append] at htable ⊢
  generalize us ++ rest = us at hno htable ⊢
  have hhead := headIn_head t us
  have hlateral := acceptKeyword_of_headIn hhead .LATERAL (by simpa using hlateral)
  have hfunction := acceptKeyword_of_headIn hhead .TABLE (by simpa using hfunction)
  have hopen := accept_of_headIn hhead .lparen (by simpa using hparen.symm)
  have hno' : ∀ rest, us ≠ .symbol .lparen :: rest := by
    rintro rest rfl
    exact hno rfl
  have hvalues : beginsValues (t :: us) = .ok (false, t :: us) := by
    unfold beginsValues
    split
    · rename_i heq
      exact absurd (List.cons.inj heq).2 (hno' _)
    · rfl
  have hunnest : whenever d.allowsUnnest (acceptKeyword .UNNEST) (t :: us) =
      .ok (false, t :: us) := by
    rcases hunnest with hallowed | hkeyword
    · rw [hallowed]
      rfl
    · exact whenever_of_refused (acceptKeyword_of_headIn hhead .UNNEST (by simpa using hkeyword)) _
  simp [factorAt, hlateral, hfunction, hopen, whenever_of_refused hvalues, hunnest,
    documentTable?_of_no_paren hno', htable]

theorem readsFactor_table {first : Name} (hfirst : isTableName d first = true) (more : List Name)
    (asName : Option String) :
    ReadsFactor d n (Name.pathTokens (first :: more) ++ aliasTokens asName)
      (.table (first :: more) [] none false (aliasOf asName) []) := by
  have htable : Reads (tableFactor d n) factorEnds
      (Name.pathTokens (first :: more) ++ aliasTokens asName)
      (.table (first :: more) [] none false (aliasOf asName) []) := by
    intro rest hrest
    rw [List.append_assoc]
    exact tableFactor_tokens (List.cons_ne_nil first more) asName hrest
  obtain ⟨us, hus, hparen⟩ : ∃ us, Name.pathTokens (first :: more) ++ aliasTokens asName =
      .word first.word :: us ∧ ∀ rest, HeadIn factorEnds rest →
        HeadIn (.symbol .period :: tableEnds) (us ++ rest) := by
    cases more with
    | nil =>
        exact ⟨_, rfl, fun rest hrest =>
          (headIn_alias asName hrest).mono fun t => List.mem_cons_of_mem _⟩
    | cons next more => exact ⟨_, rfl, fun rest _ => headIn_cons (by simp) _⟩
  rw [hus] at htable ⊢
  apply readsFactor_of_opensTable (opensTable_of_isTableName hfirst) nofun htable
  intro rest hrest hhead
  exact absurd (hparen rest hrest _ hhead) (by decide)

/-! Parentheses -/

/-- What stands after an opening parenthesis is no query up to the closing one. -/
def NoQuery (n : Nested) (ts : List Token) : Prop :=
  Fails n.query ts ∨ ∃ q left, n.query ts = .ok (q, left) ∧ left.head? ≠ some (.symbol .rparen)

theorem fails_expect {s : Symbol} {ts : List Token} (h : ts.head? ≠ some (.symbol s)) :
    Fails (expect s) ts := by
  refine ⟨⟨.expected (.symbol s), ts⟩, ?_, nofun⟩
  cases ts with
  | nil => rfl
  | cons t ts =>
      have hne : t ≠ .symbol s := fun heq => h (by simp [heq])
      simp [expect, accept, hne, expected, fail]

theorem fails_derived {ts : List Token} (h : NoQuery n ts) : Fails (derived d n false) ts := by
  rcases h with h | ⟨q, left, hquery, hleft⟩
  · exact h.bind
  · exact Fails.of_bind hquery (fails_expect hleft).bind

/-- A factor after its opening parenthesis: a query, or else joins. -/
def factorInside (d : Dialect) (n : Nested) (fuel : Nat) : Parser Factor := do
  match ← attempt (derived d n false) with
  | some factor => pivoted d n (intervalExpr d n) factor
  | none => nestedFactor d n (joinedWith d n (factorAt d n fuel))

theorem factorAt_lparen {fuel : Nat} {ts : List Token} (h : NoSpace ts) :
    factorAt d n (fuel + 1) (.symbol .lparen :: ts) = factorInside d n fuel ts := by
  have hlateral : acceptKeyword .LATERAL (.symbol .lparen :: ts) =
      .ok (false, .symbol .lparen :: ts) := rfl
  have hfunction : acceptKeyword .TABLE (.symbol .lparen :: ts) =
      .ok (false, .symbol .lparen :: ts) := rfl
  simp only [factorAt, run_bind, hlateral, hfunction, accept_symbol h, Bool.false_eq_true, if_false,
    if_true]
  rfl

theorem readsFactor_derived {ts us : List Token} {q : Query} {asName : Option Alias}
    (hspace : Solid ts) (hread : Reads n.query [.symbol .rparen] ts q)
    (hus : HeadIn [Keyword.AS.token] us) (halias : Reads (tableAlias? d n) factorEnds us asName) :
    ReadsFactor d n (.symbol .lparen :: (ts ++ .symbol .rparen :: us)) (.derived false q asName) := by
  intro fuel hfuel rest hrest
  obtain ⟨fuel, rfl⟩ : ∃ k, fuel = k + 1 := ⟨fuel - 1, by omega⟩
  have hquery := hread (.symbol .rparen :: (us ++ rest)) (headIn_cons (by simp) _)
  have hends : HeadIn tableEnds (us ++ rest) :=
    (hus.mono (by decide)).append (hrest.mono fun _ => List.mem_cons_of_mem _)
  have hclose := expect_symbol (s := .rparen) (hends.noSpace (by decide))
  have hderived : derived d n false (ts ++ .symbol .rparen :: (us ++ rest)) =
      .ok (.derived false q asName, rest) := by
    simp [derived, hquery, hclose, halias rest hrest]
  have hnoSpace := hspace.noSpace_append (.symbol .rparen :: (us ++ rest))
  simp only [List.cons_append, List.append_assoc]
  rw [factorAt_lparen hnoSpace, factorInside, run_bind, attempt_of_ok hderived]
  exact pivoted_of_headIn _ hrest

/-- Where no query stands in parentheses, joins do. -/
theorem factorAt_of_noQuery {fuel : Nat} {ts : List Token} (hspace : NoSpace ts)
    (hquery : NoQuery n ts) : factorAt d n (fuel + 1) (.symbol .lparen :: ts) =
      nestedFactor d n (joinedWith d n (factorAt d n fuel)) ts := by
  rw [factorAt_lparen hspace, factorInside, run_bind, attempt_of_fails (fails_derived hquery)]

section Parentheses

variable {ts : List Token} (hspace : Solid ts) (hquery : ∀ rest, NoQuery n (ts ++ rest))
include hspace hquery

theorem readsFactor_nested {j : Joined}
    (hread : ∀ fuel, ts.length < fuel →
      Reads (joinedWith d n (factorAt d n fuel)) sourceEnds ts j)
    (hnested : j.joins ≠ [] ∨ isNestedFactor j.first = true) :
    ReadsFactor d n (.symbol .lparen :: (ts ++ [.symbol .rparen])) (.nested j none) := by
  intro fuel hfuel rest hrest
  obtain ⟨fuel, rfl⟩ : ∃ k, fuel = k + 1 := ⟨fuel - 1, by omega⟩
  have hjoined := hread fuel (by simp at hfuel; omega) (.symbol .rparen :: rest)
    (headIn_cons (by decide) _)
  have hclose := expect_symbol (s := .rparen) (hrest.noSpace (by decide))
  have halias := tableAlias?_tokens (d := d) (n := n) none hrest
  have hnested' : (!j.joins.isEmpty || isNestedFactor j.first) = true := by
    simpa using hnested
  simp only [List.cons_append, List.append_assoc]
  rw [factorAt_of_noQuery (hspace.noSpace_append _) (hquery _)]
  simp only [aliasTokens, List.nil_append, aliasOf, Option.map_none] at halias
  simp only [nestedFactor, run_bind, hjoined, hnested', if_true, List.nil_append, hclose, halias,
    run_pure]

/-- A factor alone in parentheses, where a dialect allows it. -/
theorem readsFactor_parenthesized {f : Factor} (hallowed : d.allowsParenthesizedTable = true)
    (hread : ∀ fuel, ts.length < fuel →
      Reads (joinedWith d n (factorAt d n fuel)) sourceEnds ts ⟨f, []⟩)
    (hnested : isNestedFactor f = false) :
    ReadsFactor d n (.symbol .lparen :: (ts ++ [.symbol .rparen])) f := by
  intro fuel hfuel rest hrest
  obtain ⟨fuel, rfl⟩ : ∃ k, fuel = k + 1 := ⟨fuel - 1, by omega⟩
  have hjoined := hread fuel (by simp at hfuel; omega) (.symbol .rparen :: rest)
    (headIn_cons (by decide) _)
  have hclose := expect_symbol (s := .rparen) (hrest.noSpace (by decide))
  have halias := tableAlias?_tokens (d := d) (n := n) none hrest
  simp only [List.cons_append, List.append_assoc]
  rw [factorAt_of_noQuery (hspace.noSpace_append _) (hquery _)]
  simp only [aliasTokens, List.nil_append, aliasOf, Option.map_none] at halias
  simp only [nestedFactor, run_bind, hjoined, List.isEmpty_nil, Bool.not_true, Bool.false_or,
    hnested, Bool.false_eq_true, if_false, hallowed, if_true, List.nil_append, hclose, halias,
    run_pure]

end Parentheses

end SelectTree.Sql.Grammar
