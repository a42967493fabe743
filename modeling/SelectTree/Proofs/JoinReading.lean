import SelectTree.Proofs.FactorReading

namespace SelectTree.Sql.Grammar

open Sql.Parser

/-! Joins and their conditions, read from tokens. -/

variable {d : Dialect} {n : Nested}

/-! Words of joins -/

def kindKeywords : JoinKind → List Keyword
  | .plain => [.JOIN]
  | .inner => [.INNER, .JOIN]
  | .left => [.LEFT, .JOIN]
  | .leftOuter => [.LEFT, .OUTER, .JOIN]
  | .right => [.RIGHT, .JOIN]
  | .rightOuter => [.RIGHT, .OUTER, .JOIN]
  | .fullOuter => [.FULL, .OUTER, .JOIN]

def kindTokens (kind : JoinKind) : List Token :=
  (kindKeywords kind).map Keyword.token

theorem kind_sql_eq (kind : JoinKind) :
    kind.sql = Text.joined " " ((kindKeywords kind).map Keyword.spelling) := by
  cases kind <;> rfl

theorem spells_keywords (first : Keyword) (more : List Keyword)
    (h : ∀ k ∈ first :: more, k ∈ Keyword.printed) :
    Spells d (Text.joined " " ((first :: more).map Keyword.spelling))
      ((first :: more).map Keyword.token) := by
  induction more generalizing first with
  | nil => exact Keyword.spells (h first (by simp))
  | cons next more ih =>
      have htail := ih next fun k hk => h k (List.mem_cons_of_mem first hk)
      exact (Keyword.spells (h first (by simp))).space htail

theorem spells_kind (kind : JoinKind) : Spells d kind.sql (kindTokens kind) := by
  rw [kind_sql_eq]
  cases kind <;> exact spells_keywords _ _ (by decide)

theorem headIn_kindTokens (kind : JoinKind) (rest : List Token) :
    HeadIn kindStarts (kindTokens kind ++ rest) := by
  cases kind <;> exact headIn_cons (by decide) _

theorem joinWords?_kindTokens (kind : JoinKind) (rest : List Token) :
    joinWords? false (kindTokens kind ++ rest) = .ok (some (.kind kind), rest) := by
  cases kind <;> rfl

section Join

variable {factor : Parser Factor} {right : Factor} {ts : List Token}

/-- A join of the kinds that a tree can hold. -/
def plainJoin? (n : Nested) (factor : Parser Factor) : Parser (Option Join) := do
  let natural ← acceptKeyword .NATURAL
  match ← joinWords? natural with
  | none => return none
  | some words =>
      let right ← factor
      return some ⟨false, words, right, ← joinCondition n natural⟩

theorem join?_eq {rest : List Token} (h : HeadIn joinEnds rest) :
    join? d n factor rest = plainJoin? n factor rest := by
  have hglobal := acceptKeyword_of_headIn h .GLOBAL (by decide)
  have hcross := acceptKeyword_of_headIn h .CROSS (by decide)
  have houter := acceptKeyword_of_headIn h .OUTER (by decide)
  have hasOf := acceptKeyword_of_headIn h .ASOF (by decide)
  simp only [join?, run_bind, hglobal, hcross, houter, hasOf, Bool.false_eq_true, if_false]
  rfl

theorem headIn_joinEnds_of_sourceEnds {rest : List Token} (h : HeadIn sourceEnds rest) :
    HeadIn joinEnds rest :=
  h.mono fun _ => List.mem_append_right joinStarts

theorem join?_of_headIn {rest : List Token} (h : HeadIn sourceEnds rest) :
    join? d n factor rest = .ok (none, rest) := by
  have hnatural := acceptKeyword_of_headIn h .NATURAL (by decide)
  have hwords := acceptOneOf_of_headIn h
    [.JOIN, .INNER, .LEFT, .RIGHT, .ANTI, .SEMI, .FULL, .STRAIGHT_JOIN] (by decide)
  have houter := peekKeyword_of_headIn h .OUTER (by decide)
  rw [join?_eq (headIn_joinEnds_of_sourceEnds h)]
  simp [plainJoin?, hnatural, joinWords?, hwords, houter]

theorem join?_natural (hread : Reads factor joinEnds ts right) :
    Reads (join? d n factor) joinEnds (Keyword.NATURAL.token :: Keyword.JOIN.token :: ts)
      (some ⟨false, .kind .plain, right, .natural⟩) := by
  intro rest hrest
  have hwords : joinWords? true (Keyword.JOIN.token :: (ts ++ rest)) =
      .ok (some (.kind .plain), ts ++ rest) :=
    rfl
  have hnatural : acceptKeyword .NATURAL
      (Keyword.NATURAL.token :: Keyword.JOIN.token :: (ts ++ rest)) =
        .ok (true, Keyword.JOIN.token :: (ts ++ rest)) :=
    rfl
  rw [List.cons_append, List.cons_append, join?_eq (headIn_cons (by decide) _)]
  simp [plainJoin?, hnatural, hwords, hread rest hrest, joinCondition]

theorem join?_kind (kind : JoinKind) {us : List Token} {condition : Condition}
    (hread : Reads factor factorEnds ts right)
    (hus : ∀ rest, HeadIn joinEnds rest → HeadIn factorEnds (us ++ rest))
    (hcondition : Reads (joinCondition n false) joinEnds us condition) :
    Reads (join? d n factor) joinEnds (kindTokens kind ++ (ts ++ us))
      (some ⟨false, .kind kind, right, condition⟩) := by
  intro rest hrest
  have hkind := headIn_kindTokens kind (ts ++ (us ++ rest))
  have hnatural := acceptKeyword_of_headIn hkind .NATURAL (by decide)
  simp only [List.append_assoc]
  rw [join?_eq (hkind.mono (by decide))]
  simp [plainJoin?, hnatural, joinWords?_kindTokens, hread _ (hus rest hrest), hcondition rest hrest]

end Join

/-! Conditions of joins -/

theorem joinCondition_none : Reads (joinCondition n false) joinEnds [] .none := by
  intro rest hrest
  have hon := acceptKeyword_of_headIn hrest .ON (by decide)
  have husing := acceptKeyword_of_headIn hrest .USING (by decide)
  simp [joinCondition, hon, husing]

theorem joinCondition_on {ts : List Token} {e : Expr} (h : Reads n.expr exprEnds ts e) :
    Reads (joinCondition n false) joinEnds (Keyword.ON.token :: ts) (.on e) := by
  intro rest hrest
  have hon : acceptKeyword .ON (Keyword.ON.token :: (ts ++ rest)) = .ok (true, ts ++ rest) :=
    rfl
  simp [joinCondition, hon, h rest (hrest.mono (by decide))]

theorem reads_pathText {names : List Name} (hne : names ≠ []) {follow : List Token}
    (hperiod : .symbol .period ∉ follow) :
    Reads pathText follow (Name.pathTokens names) (Name.pathSql names) := by
  intro rest hrest
  simp [pathText, reads_path follow hperiod hne rest hrest]

theorem solid_pathTokens {names : List Name} (hne : names ≠ []) : Solid (Name.pathTokens names) := by
  obtain ⟨first, more, rfl⟩ := List.exists_cons_of_ne_nil hne
  cases more with
  | nil => exact ⟨List.cons_ne_nil _ _, noSpace_cons rfl _⟩
  | cons next more => exact ⟨List.cons_ne_nil _ _, noSpace_cons rfl _⟩

def columnTokens (columns : List (List Name)) : List Token :=
  .symbol .lparen :: separated (columns.map Name.pathTokens) ++ [.symbol .rparen]

theorem joinCondition_using {columns : List (List Name)} (hne : columns ≠ [])
    (hcolumns : ∀ names ∈ columns, names ≠ []) :
    Reads (joinCondition n false) joinEnds (Keyword.USING.token :: columnTokens columns)
      (.usingColumns (columns.map Name.pathSql)) := by
  intro rest hrest
  have hlist := reads_commaSeparated (p := pathText) [.symbol .rparen]
    (columns.map fun names => (Name.pathTokens names, Name.pathSql names))
    (by simpa using hne) (by decide)
    (by
      intro piece hmem
      obtain ⟨names, hnames, rfl⟩ := List.mem_map.mp hmem
      exact reads_pathText (hcolumns names hnames) (by decide))
    (by
      intro piece hmem
      obtain ⟨names, hnames, rfl⟩ := List.mem_map.mp hmem
      exact solid_pathTokens (hcolumns names hnames))
    (.symbol .rparen :: rest) (headIn_cons (by simp) rest)
  simp only [List.map_map, Function.comp_def] at hlist
  obtain ⟨first, more, rfl⟩ := List.exists_cons_of_ne_nil hne
  have hspace : NoSpace (separated ((first :: more).map Name.pathTokens) ++
      .symbol .rparen :: rest) := by
    rw [List.map_cons, separated_cons, List.append_assoc]
    exact (solid_pathTokens (hcolumns first (by simp))).noSpace_append _
  have hopen := expect_symbol (s := .lparen) hspace
  have hclose := expect_symbol (s := .rparen) (hrest.noSpace (by decide))
  have hon : acceptKeyword .ON (Keyword.USING.token :: (columnTokens (first :: more) ++ rest)) =
      .ok (false, Keyword.USING.token :: (columnTokens (first :: more) ++ rest)) :=
    rfl
  have husing : acceptKeyword .USING
      (Keyword.USING.token :: (columnTokens (first :: more) ++ rest)) =
        .ok (true, columnTokens (first :: more) ++ rest) :=
    rfl
  have hpeek : peekSymbol .lparen (columnTokens (first :: more) ++ rest) =
      .ok (true, columnTokens (first :: more) ++ rest) :=
    rfl
  have htokens : columnTokens (first :: more) ++ rest =
      .symbol .lparen :: (separated ((first :: more).map Name.pathTokens) ++
        .symbol .rparen :: rest) := by
    simp [columnTokens]
  simp only [joinCondition, Bool.false_eq_true, if_false, List.cons_append, run_bind, hon, husing,
    if_true, columnList, hpeek, parenthesized]
  rw [htokens, hopen]
  simp only [hlist, hclose, run_pure]

end SelectTree.Sql.Grammar
