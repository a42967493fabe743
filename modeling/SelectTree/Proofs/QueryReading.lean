import SelectTree.Proofs.JoinReading

namespace SelectTree.Sql.Grammar

open Sql.Parser

/-! Queries, read clause by clause from tokens. -/

variable {d : Dialect} {n : Nested} {follow rest : List Token}

/-- The tokens after the sources of a query. -/
def clauseStarts : List Token :=
  [.symbol .rparen, Keyword.WHERE.token, Keyword.GROUP.token, Keyword.ORDER.token]

/-- The tokens after the condition of a query. -/
def groupingStarts : List Token :=
  [.symbol .rparen, Keyword.GROUP.token, Keyword.ORDER.token]

/-! Clauses that may be left out -/

/-- The tokens of a clause after its keywords, if there is one. -/
def clauseTokens (ks : List Keyword) (clause : Option (List Token × α)) : List Token :=
  match clause with
  | none => []
  | some (ts, _) => ks.map Keyword.token ++ ts

theorem headIn_clauseTokens {k : Keyword} {ks : List Keyword} {follow : List Token}
    (hk : k.token ∈ follow) (clause : Option (List Token × α)) {rest : List Token}
    (hrest : HeadIn follow rest) : HeadIn follow (clauseTokens (k :: ks) clause ++ rest) := by
  cases clause with
  | none => exact hrest
  | some clause => exact headIn_cons hk _

theorem filter_tokens {filter : Option (List Token × Expr)} {rest : List Token}
    (hfilter : ∀ clause ∈ filter, Reads n.expr exprEnds clause.1 clause.2)
    (hrest : HeadIn groupingStarts rest) :
    optionally (acceptKeyword .WHERE) n.expr (clauseTokens [.WHERE] filter ++ rest) =
      .ok (filter.map Prod.snd, rest) := by
  cases filter with
  | none => exact optionally_of_refused (acceptKeyword_of_headIn hrest .WHERE (by decide)) n.expr
  | some clause =>
      have hread := hfilter clause rfl rest (hrest.mono (by decide))
      have hwhere : acceptKeyword .WHERE (Keyword.WHERE.token :: (clause.1 ++ rest)) =
          .ok (true, clause.1 ++ rest) :=
        rfl
      simp [clauseTokens, optionally, hwhere, hread]

def groupingOf : Option (List Token × List Expr) → Grouping
  | none => .none
  | some (_, keys) => .keys keys []

theorem grouping_tokens {keys : Option (List Token × List Expr)} {rest : List Token}
    (hopens : ∀ clause ∈ keys, ∃ t us, clause.1 = t :: us ∧ Opens t)
    (hkeys : ∀ clause ∈ keys,
      Reads (commaSeparated (groupingKey d n)) groupingEnds clause.1 clause.2)
    (hrest : HeadIn groupingEnds rest) :
    grouping d n (clauseTokens [.GROUP, .BY] keys ++ rest) = .ok (groupingOf keys, rest) := by
  cases keys with
  | none => exact grouping_of_headIn hrest
  | some clause =>
      obtain ⟨ts, es⟩ := clause
      obtain ⟨t, us, hts, ht⟩ := hopens (ts, es) rfl
      obtain rfl : ts = t :: us := hts
      have hread := hkeys (t :: us, es) rfl rest hrest
      have hall := acceptKeyword_of_headIn (headIn_head t (us ++ rest)) .ALL (by
        intro x hx
        obtain rfl := List.mem_singleton.mp hx
        exact ht.keyword_ne .ALL (by decide))
      have hgroup : acceptKeywords [.GROUP, .BY]
          (Keyword.GROUP.token :: Keyword.BY.token :: t :: (us ++ rest)) =
            .ok (true, t :: (us ++ rest)) :=
        rfl
      have hmodifiers := groupingModifiers_of_headIn (d := d) (n := n) hrest
      simp only [List.cons_append] at hread
      simp [clauseTokens, grouping, hgroup, hall, hread, hmodifiers, groupingOf]

theorem orderClause_tokens {keys : Option (List Token × List OrderKey)} {rest : List Token}
    (hkeys : ∀ clause ∈ keys, Reads (orderKeys d n) [.symbol .rparen] clause.1 clause.2)
    (hrest : HeadIn [.symbol .rparen] rest) :
    orderClause d n (clauseTokens [.ORDER, .BY] keys ++ rest) =
      .ok (((keys.map Prod.snd).getD [], ""), rest) := by
  cases keys with
  | none =>
      have horder := acceptKeywords_of_headIn hrest .ORDER [.BY] (by decide)
      simp [clauseTokens, orderClause, horder]
  | some clause =>
      have hread := hkeys clause rfl rest hrest
      have horder : acceptKeywords [.ORDER, .BY]
          (Keyword.ORDER.token :: Keyword.BY.token :: (clause.1 ++ rest)) =
            .ok (true, clause.1 ++ rest) :=
        rfl
      have hnone := acceptWord_of_headIn hrest "INTERPOLATE" (by decide +kernel)
      cases hd : d.hasFilling <;>
        simp [clauseTokens, orderClause, horder, hread, hd, interpolation, hnone]

/-! Clauses that no query tree has -/

theorem distinction?_of_opens {t : Token} (ht : Opens t) (us : List Token) :
    distinction? n (t :: us) = .ok (none, t :: us) := by
  simp [distinction?, Parser.rest, acceptKeyword, ht.keyword_ne .ALL (by decide),
    ht.keyword_ne .DISTINCT (by decide)]

theorem top?_of_opens {t : Token} (ht : Opens t) (us : List Token) :
    top? n (t :: us) = .ok (none, t :: us) := by
  simp [top?, acceptKeyword, ht.keyword_ne .TOP (by decide)]

theorem into?_from (ts : List Token) :
    into? (Keyword.FROM.token :: ts) = .ok (none, Keyword.FROM.token :: ts) :=
  rfl

theorem views_of_headIn (h : HeadIn clauseStarts rest) : views n rest = .ok ([], rest) := by
  apply many_of_none
  exact optionally_of_refused (acceptKeywords_of_headIn h .LATERAL [.VIEW] (by decide)) _

theorem prefilter_of_headIn (h : HeadIn clauseStarts rest) :
    optionally (whenever d.hasPrewhere (acceptKeyword .PREWHERE)) n.expr rest =
      .ok (none, rest) :=
  optionally_of_refused
    (whenever_of_refused (acceptKeyword_of_headIn h .PREWHERE (by decide)) d.hasPrewhere) n.expr

theorem clusterings_of_headIn (h : HeadIn groupingEnds rest) :
    clusterings d n rest = .ok ([], rest) := by
  have hcluster := acceptKeywords_of_headIn h .CLUSTER [.BY] (by decide)
  have hdistribute := acceptKeywords_of_headIn h .DISTRIBUTE [.BY] (by decide)
  have hsort := acceptKeywords_of_headIn h .SORT [.BY] (by decide)
  simp [clusterings, optionally_of_refused hcluster, optionally_of_refused hdistribute,
    optionally_of_refused hsort]

theorem windowClauses_of_headIn (h : HeadIn groupingEnds rest) :
    windowClauses d n rest = .ok ([], rest) := by
  have hwindow := acceptKeyword_of_headIn h .WINDOW (by decide)
  have hqualify := acceptKeyword_of_headIn h .QUALIFY (by decide)
  simp [windowClauses, windows?, qualification?, optionally_of_refused hwindow,
    optionally_of_refused hqualify]

theorem hierarchy?_of_headIn (h : HeadIn groupingEnds rest) :
    hierarchy? d n rest = .ok (none, rest) := by
  have hopens := peekAny_of_headIn h
    (fun t => t.keyword = some .START || t.keyword = some .CONNECT) (by decide)
  simp only [hierarchy?, run_bind, hopens, Bool.and_false, Bool.not_false, if_true]
  rfl

/-! Selections -/

section Selection

variable {its sts : List Token} {is : List Item} {ss : List Joined}
  {filter : Option (List Token × Expr)} {keys : Option (List Token × List Expr)}

/-- The tokens from `SELECT` to the grouping keys. -/
def selectionTokens (its sts : List Token) (filter : Option (List Token × Expr))
    (keys : Option (List Token × List Expr)) : List Token :=
  Keyword.SELECT.token :: (its ++ Keyword.FROM.token ::
    (sts ++ (clauseTokens [.WHERE] filter ++ clauseTokens [.GROUP, .BY] keys)))

def selectionOf (is : List Item) (ss : List Joined) (filter : Option (List Token × Expr))
    (keys : Option (List Token × List Expr)) : Selection :=
  ⟨.select, none, none, is, none, ss, [], filter.map Prod.snd, none, groupingOf keys, [], none, []⟩

/-- What is read of a selection after its sources. -/
def selectionFrom (d : Dialect) (n : Nested) (is : List Item) (ss : List Joined) :
    Parser Selection := do
  let views ← views n
  let prefilter ← optionally (whenever d.hasPrewhere (acceptKeyword .PREWHERE)) n.expr
  let filter ← optionally (acceptKeyword .WHERE) n.expr
  let grouping ← grouping d n
  let clusterings ← clusterings d n
  let having ← optionally (acceptKeyword .HAVING) n.expr
  let windows ← windowClauses d n
  let endings := windows ++ (← hierarchy? d n).toList
  return ⟨.select, none, none, is, none, ss, views, filter, prefilter, grouping, clusterings,
    having, endings⟩

theorem selection_from (hits : ∃ t us, its = t :: us ∧ Opens t)
    (hitems : Reads (items d n) [Keyword.FROM.token] its is) (ts : List Token) :
    selection d n (Keyword.SELECT.token :: (its ++ Keyword.FROM.token :: ts)) =
      (do selectionFrom d n is (← sources d n)) ts := by
  obtain ⟨t, us, rfl, ht⟩ := hits
  have hfirst : whenever d.allowsFromFirst (acceptKeyword .FROM)
      (Keyword.SELECT.token :: t :: (us ++ Keyword.FROM.token :: ts)) =
        .ok (false, Keyword.SELECT.token :: t :: (us ++ Keyword.FROM.token :: ts)) :=
    whenever_of_refused rfl _
  have hselect : expectKeyword .SELECT
      (Keyword.SELECT.token :: t :: (us ++ Keyword.FROM.token :: ts)) =
        .ok ((), t :: (us ++ Keyword.FROM.token :: ts)) :=
    rfl
  have hfrom : acceptKeyword .FROM (Keyword.FROM.token :: ts) = .ok (true, ts) := rfl
  have hread := hitems (Keyword.FROM.token :: ts) (headIn_cons (by simp) _)
  simp only [List.cons_append] at hread ⊢
  simp only [selection, selectionAfter, selectionFrom, run_bind, hfirst, hselect,
    distinction?_of_opens ht, top?_of_opens ht, hread, into?_from, optionally, hfrom,
    Bool.false_eq_true, if_false, if_true]
  cases sources d n ts with
  | error failure => rfl
  | ok read => rfl

theorem selection_tokens (hits : ∃ t us, its = t :: us ∧ Opens t)
    (hitems : Reads (items d n) [Keyword.FROM.token] its is)
    (hsources : Reads (sources d n) clauseStarts sts ss)
    (hfilter : ∀ clause ∈ filter, Reads n.expr exprEnds clause.1 clause.2)
    (hopens : ∀ clause ∈ keys, ∃ t us, clause.1 = t :: us ∧ Opens t)
    (hkeys : ∀ clause ∈ keys,
      Reads (commaSeparated (groupingKey d n)) groupingEnds clause.1 clause.2) :
    Reads (selection d n) groupingEnds (selectionTokens its sts filter keys)
      (selectionOf is ss filter keys) := by
  intro rest hrest
  have hgroup : HeadIn groupingStarts (clauseTokens [.GROUP, .BY] keys ++ rest) :=
    headIn_clauseTokens (by decide) keys (hrest.mono (by decide))
  have hwhere : HeadIn clauseStarts
      (clauseTokens [.WHERE] filter ++ (clauseTokens [.GROUP, .BY] keys ++ rest)) :=
    headIn_clauseTokens (by decide) filter (hgroup.mono (by decide))
  have htokens : selectionTokens its sts filter keys ++ rest =
      Keyword.SELECT.token :: (its ++ Keyword.FROM.token ::
        (sts ++ (clauseTokens [.WHERE] filter ++ (clauseTokens [.GROUP, .BY] keys ++ rest)))) := by
    simp [selectionTokens]
  have hgrouping := grouping_tokens hopens hkeys hrest
  have hhaving := optionally_of_refused (acceptKeyword_of_headIn hrest .HAVING (by decide)) n.expr
  rw [htokens, selection_from hits hitems, run_bind, hsources _ hwhere]
  simp [selectionFrom, views_of_headIn hwhere, prefilter_of_headIn hwhere,
    filter_tokens hfilter hgroup, hgrouping, clusterings_of_headIn hrest, hhaving,
    windowClauses_of_headIn hrest, hierarchy?_of_headIn hrest, selectionOf]

end Selection

/-! Bodies -/

/-- The tokens after a body that stands in no set operation. -/
def bodyEnds : List Token :=
  Keyword.AS.token :: (joinStarts ++ groupingEnds)

theorem combined_of_headIn {operators : List Keyword} {operand : Parser Body} {b : Body}
    {ts rest : List Token} (hread : operand ts = .ok (b, rest)) (hrest : HeadIn bodyEnds rest)
    (hoperators : ∀ t ∈ bodyEnds, ∀ k ∈ operators, t.keyword ≠ some k) :
    combined operators operand ts = .ok (b, rest) := by
  have hnone := acceptOneOf_of_headIn hrest operators hoperators
  simp only [combined, run_bind, hread]
  apply Runs.iterate
  apply Runs.stop
  simp [hnone]

theorem body_of_bodyHead {b : Body} {ts rest : List Token}
    (hread : bodyHead d n ts = .ok (b, rest)) (hrest : HeadIn bodyEnds rest) :
    body d n ts = .ok (b, rest) :=
  combined_of_headIn (combined_of_headIn hread hrest (by decide)) hrest (by decide)

theorem fails_body {ts : List Token} (h : Fails (bodyHead d n) ts) : Fails (body d n) ts :=
  h.bind.bind

/-! Clauses after the body -/

theorem limitClause_of_headIn (h : HeadIn bodyEnds rest) :
    limitClause d n rest = .ok (none, rest) := by
  have hoffset := optionally_of_refused (acceptKeyword_of_headIn h .OFFSET (by decide)) (offset n)
  have hlimit := acceptKeyword_of_headIn h .LIMIT (by decide)
  simp [limitClause, hoffset, hlimit]

theorem settings?_of_headIn (h : HeadIn bodyEnds rest) :
    settings? d n rest = .ok (none, rest) := by
  have hsettings := whenever_of_refused (acceptKeyword_of_headIn h .SETTINGS (by decide))
    d.hasSettings
  simp [settings?, hsettings]

theorem fetch?_of_headIn (h : HeadIn bodyEnds rest) : fetch? d rest = .ok (none, rest) := by
  simp [fetch?, acceptKeyword_of_headIn h .FETCH (by decide)]

theorem purposes_of_headIn (h : HeadIn bodyEnds rest) : purposes rest = .ok ([], rest) := by
  apply Runs.iterate
  apply Runs.stop
  simp [acceptKeyword_of_headIn h .FOR (by decide)]

theorem format?_of_headIn (h : HeadIn bodyEnds rest) : format? d rest = .ok (none, rest) := by
  have hformat := whenever_of_refused (acceptKeyword_of_headIn h .FORMAT (by decide))
    d.hasFormatClause
  simp [format?, hformat]

theorem pipes_of_headIn (h : HeadIn bodyEnds rest) : pipes d n rest = .ok ([], rest) := by
  apply many_of_none
  exact optionally_of_refused
    (whenever_of_refused (accept_of_headIn h .pipeArrow (by decide)) d.hasPipes) _

/-! Queries -/

def queryOf (s : Selection) (order : Option (List Token × List OrderKey)) : Query :=
  ⟨none, .selection s, (order.map Prod.snd).getD [], "", none, none, none, []⟩

/-- No clause and no change begins a query in plain words. -/
theorem query_eq {t : Token} (us : List Token) (hwith : t.keyword ≠ some .WITH)
    (hchange : ∀ spelling ∈ changeWords, t.capitals? ≠ some spelling) :
    query d n (t :: us) =
      (do
        let body ← body d n
        let (orderBy, interpolation) ← orderClause d n
        let limit ← limitClause d n
        let settings ← settings? d n
        let fetch ← fetch? d
        let purposes ← purposes
        let format ← format? d
        let pipes ← pipes d n
        return (⟨none, body, orderBy, interpolation, limit, settings, fetch,
          purposes ++ format.toList ++ pipes⟩ : Query)) (t :: us) := by
  have hhead := headIn_head t us
  have hclause := acceptKeyword_of_headIn hhead .WITH (by simpa using hwith)
  have hchanges := acceptAnyOf_of_headIn hhead ["INSERT", "UPDATE", "DELETE", "MERGE"]
    (by simpa [changeWords] using hchange)
  simp only [query, withClause?, run_bind, hclause, Bool.false_eq_true, if_false, run_pure, change?,
    hchanges]

theorem query_tokens {ts : List Token} {s : Selection}
    {order : Option (List Token × List OrderKey)} (hts : ∃ us, ts = Keyword.SELECT.token :: us)
    (hselection : Reads (selection d n) groupingEnds ts s)
    (horder : ∀ clause ∈ order, Reads (orderKeys d n) [.symbol .rparen] clause.1 clause.2) :
    Reads (query d n) [.symbol .rparen] (ts ++ clauseTokens [.ORDER, .BY] order)
      (queryOf s order) := by
  intro rest hrest
  obtain ⟨us, rfl⟩ := hts
  have htail : HeadIn groupingEnds (clauseTokens [.ORDER, .BY] order ++ rest) :=
    headIn_clauseTokens (by decide) order (hrest.mono (by decide))
  have hread := hselection _ htail
  have hhead : bodyHead d n (Keyword.SELECT.token :: us ++
      (clauseTokens [.ORDER, .BY] order ++ rest)) =
        .ok (.selection s, clauseTokens [.ORDER, .BY] order ++ rest) := by
    have hselect : peekKeyword .SELECT (Keyword.SELECT.token :: us ++
        (clauseTokens [.ORDER, .BY] order ++ rest)) = .ok (true, Keyword.SELECT.token :: us ++
          (clauseTokens [.ORDER, .BY] order ++ rest)) :=
      rfl
    have hfrom : peekKeyword .FROM (Keyword.SELECT.token :: us ++
        (clauseTokens [.ORDER, .BY] order ++ rest)) = .ok (false, Keyword.SELECT.token :: us ++
          (clauseTokens [.ORDER, .BY] order ++ rest)) :=
      rfl
    simp only [bodyHead, run_bind, hselect, hfrom, Bool.true_or, if_true, hread, run_pure]
  have hbody := body_of_bodyHead hhead (htail.mono (by decide))
  have hkeys := orderClause_tokens horder hrest
  have hends : HeadIn bodyEnds rest := hrest.mono (by decide)
  rw [List.append_assoc, List.cons_append, query_eq _ (by decide) (by decide +kernel)]
  simp only [List.cons_append] at hbody
  simp [hbody, hkeys, limitClause_of_headIn hends, settings?_of_headIn hends,
    fetch?_of_headIn hends, purposes_of_headIn hends, format?_of_headIn hends,
    pipes_of_headIn hends, queryOf]

/-! Parentheses that hold no query -/

theorem fails_query_table {first : Name} (hfirst : isTableName d first = true)
    (us : List Token) : Fails (query d n) (.word first.word :: us) := by
  have hkeyword : ∀ k ∈ sourceKeywords, (Token.word first.word).keyword ≠ some k :=
    fun k hk => keyword_of_isTableName hfirst hk
  have hhead := headIn_head (Token.word first.word) us
  have hselect := peekKeyword_of_headIn hhead .SELECT (by simpa using hkeyword .SELECT (by decide))
  have hfrom := peekKeyword_of_headIn hhead .FROM (by simpa using hkeyword .FROM (by decide))
  have hvalues := acceptKeyword_of_headIn hhead .VALUES
    (by simpa using hkeyword .VALUES (by decide))
  have htable := acceptKeyword_of_headIn hhead .TABLE (by simpa using hkeyword .TABLE (by decide))
  have hopen := accept_of_headIn hhead .lparen (by simp)
  have hbody : Fails (bodyHead d n) (.word first.word :: us) := by
    refine ⟨⟨.expected .queryBody, .word first.word :: us⟩, ?_, nofun⟩
    simp only [bodyHead, run_bind, hselect, hfrom, hopen, hvalues, htable, Bool.false_and,
      Bool.or_self, Bool.false_eq_true, if_false]
    rfl
  have hquery := query_eq (d := d) (n := n) us (hkeyword .WITH (by decide))
    fun spelling hspelling => capitals_of_isTableName hfirst hspelling
  obtain ⟨failure, hfailure, hcause⟩ := (fails_body hbody).bind
  exact ⟨failure, hquery.trans hfailure, hcause⟩

/-- In the body of a query, parentheses hold a query. -/
theorem bodyHead_lparen {ts : List Token} (h : NoSpace ts) :
    bodyHead d n (.symbol .lparen :: ts) =
      (do
        let query ← n.queryText
        expect .rparen
        return Body.other (Text.parenthesized query)) ts := by
  have hselect : peekKeyword .SELECT (.symbol .lparen :: ts) =
      .ok (false, .symbol .lparen :: ts) :=
    rfl
  have hfrom : peekKeyword .FROM (.symbol .lparen :: ts) = .ok (false, .symbol .lparen :: ts) :=
    rfl
  simp only [bodyHead, run_bind, hselect, hfrom, Bool.false_and, Bool.or_self, Bool.false_eq_true,
    if_false, accept_symbol h, if_true]

theorem fails_query_lparen {ts : List Token} (hspace : NoSpace ts) (h : NoQuery n ts) :
    Fails (query d n) (.symbol .lparen :: ts) := by
  have hbody : Fails (bodyHead d n) (.symbol .lparen :: ts) := by
    unfold Fails
    rw [bodyHead_lparen hspace]
    rcases h with h | ⟨q, left, hquery, hleft⟩
    · exact h.bind.bind
    · have htext : n.queryText ts = .ok (q.sql, left) := by
        simp [Nested.queryText, hquery]
      exact Fails.of_bind htext (fails_expect hleft).bind
  have hquery := query_eq (d := d) (n := n) (t := .symbol .lparen) ts nofun fun _ _ => nofun
  obtain ⟨failure, hfailure, hcause⟩ := (fails_body hbody).bind
  exact ⟨failure, hquery.trans hfailure, hcause⟩

theorem query_lparen {ts rest : List Token} {q : Query} (hspace : Solid ts)
    (hread : Reads n.query [.symbol .rparen] ts q)
    (hrest : HeadIn (.symbol .rparen :: Keyword.AS.token :: joinStarts) rest) :
    ∃ q', query d n (.symbol .lparen :: (ts ++ .symbol .rparen :: rest)) = .ok (q', rest) := by
  have hquery := hread (.symbol .rparen :: rest) (headIn_cons (by simp) rest)
  have hclose := expect_symbol (s := .rparen) (hrest.noSpace (by decide))
  have hbody : bodyHead d n (.symbol .lparen :: (ts ++ .symbol .rparen :: rest)) =
      .ok (.other (Text.parenthesized q.sql), rest) := by
    rw [bodyHead_lparen (hspace.noSpace_append _)]
    simp [Nested.queryText, hquery, hclose]
  have hends : HeadIn bodyEnds rest := hrest.mono (by decide)
  have horder := acceptKeywords_of_headIn hrest .ORDER [.BY] (by decide)
  rw [query_eq (t := .symbol .lparen) _ nofun fun _ _ => nofun]
  simp [body_of_bodyHead hbody hends, orderClause, horder, limitClause_of_headIn hends,
    settings?_of_headIn hends, fetch?_of_headIn hends, purposes_of_headIn hends,
    format?_of_headIn hends, pipes_of_headIn hends]

section NoQuery

variable {m : Nat}

theorem noQuery_table {first : Name} (hfirst : isTableName d first = true) (hm : 0 < m)
    (us : List Token) : NoQuery (nestedAt d m) (.word first.word :: us) := by
  obtain ⟨m, rfl⟩ := Nat.exists_eq_add_of_le' hm
  left
  rw [nestedAt_query]
  exact fails_query_table hfirst us

theorem noQuery_lparen {ts : List Token} (hspace : NoSpace ts) (h : NoQuery (nestedAt d m) ts) :
    NoQuery (nestedAt d (m + 1)) (.symbol .lparen :: ts) := by
  left
  rw [nestedAt_query]
  exact fails_query_lparen hspace h

/-- A query in parentheses is no query up to a parenthesis that closes more than it. -/
theorem noQuery_derived {ts rest : List Token} {q : Query} (hspace : Solid ts)
    (hread : Reads (query d (nestedAt d m)) [.symbol .rparen] ts q)
    (hrest : HeadIn (Keyword.AS.token :: joinStarts) rest) :
    NoQuery (nestedAt d (m + 2)) (.symbol .lparen :: (ts ++ .symbol .rparen :: rest)) := by
  rw [← nestedAt_query] at hread
  obtain ⟨q', hquery⟩ := query_lparen hspace hread (hrest.mono fun _ => List.mem_cons_of_mem _)
  refine .inr ⟨q', rest, by rw [nestedAt_query]; exact hquery, ?_⟩
  have hne : .symbol .rparen ∉ Keyword.AS.token :: joinStarts := by decide
  intro hhead
  exact hne (hrest _ hhead)

end NoQuery

end SelectTree.Sql.Grammar
