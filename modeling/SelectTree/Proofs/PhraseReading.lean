import SelectTree.Proofs.Phrases

namespace SelectTree.Sql.Grammar

open Sql.Parser

/-! A phrase is read as the expression it says. -/

variable {d : Dialect} {n : Nested}

/-! Constants -/

theorem fails_typedValue_of_not_word {t : Token} (h : t.isWord = false) (p : Parser Expr)
    (ts : List Token) : Fails (typedValue d n p) (t :: ts) := by
  have hopen : Fails (openType d n) (t :: ts) := by
    apply fails_openType
    intro inner
    refine ⟨⟨.expected .dataType, t :: ts⟩, ?_, nofun⟩
    cases t with
    | word w => cases h
    | _ => rfl
  unfold typedValue dataType closedType
  exact hopen.bind.bind

def prefixAfter (d : Dialect) (n : Nested) (inner : Parser Expr) : Parser Expr := do
  match ← peek with
  | some (.word w) =>
      skipToken
      wordExpr d n inner w
  | some (.symbol s) => symbolExpr d n (interval d n inner) s >>= collated n
  | some t =>
      if beginsValue t then
        let v ← value d
        collated n (.value v)
      else expected .expression
  | none => expected .expression

theorem prefixAt_succ (fuel : Nat) :
    prefixAt d n (fuel + 1) = (do
      match ← attempt (typedValue d n (prefixAt d n fuel)) with
      | some e => return e
      | none => prefixAfter d n (prefixAt d n fuel)) :=
  rfl

theorem prefixExpr_of_attempt {t : Token} (ts : List Token)
    (h : ∀ p, Fails (typedValue d n p) (t :: ts)) :
    prefixExpr d n (t :: ts) = prefixAfter d n (prefixAt d n (ts.length + 1)) (t :: ts) := by
  rw [prefixExpr, List.length_cons, prefixAt_succ, run_bind, attempt_of_fails (h _)]

theorem prefixAfter_symbol (inner : Parser Expr) (s : Symbol) (ts : List Token) :
    prefixAfter d n inner (.symbol s :: ts) =
      (symbolExpr d n (interval d n inner) s >>= collated n) (.symbol s :: ts) :=
  rfl

theorem prefixAfter_number (inner : Parser Expr) (text : String) (ts : List Token) :
    prefixAfter d n inner (.number text false :: ts) =
      (value d >>= fun v => collated n (.value v)) (.number text false :: ts) :=
  rfl

theorem prefixAfter_string (inner : Parser Expr) (text : String) (ts : List Token) :
    prefixAfter d n inner (.string text :: ts) =
      (value d >>= fun v => collated n (.value v)) (.string text :: ts) :=
  rfl

theorem primary_of_prefixExpr {e : Expr} {ts rest : List Token}
    (h : prefixExpr d n ts = .ok (e, rest)) (hrest : HeadIn operandEnds rest) :
    primary d n ts = .ok (e, rest) := by
  simp only [primary, run_bind, h, accesses_eq]
  exact (accessStep_stop e [] hrest).iterate

theorem headIn_nameEnds_of_operandEnds {ts : List Token} (h : HeadIn operandEnds ts) :
    HeadIn nameEnds ts :=
  h.mono (by decide)

theorem primary_number (text : String) :
    Reads (primary d n) operandEnds [.number text false] (.value (.number text false)) := by
  intro rest hrest
  apply primary_of_prefixExpr _ hrest
  rw [List.singleton_append, prefixExpr_of_attempt _ fun p => fails_typedValue_of_not_word rfl p _,
    prefixAfter_number]
  simp [value, peek, token, valueOfToken?, after,
    collated_of_headIn _ (headIn_nameEnds_of_operandEnds hrest)]

theorem joinedText_of_headIn (text : String) {rest : List Token} (hrest : HeadIn operandEnds rest) :
    joinedText d text rest = .ok (text, rest) := by
  cases hd : d.joinsAdjacentStrings with
  | false => simp [joinedText, hd]
  | true =>
      simp only [joinedText, hd, if_true]
      apply Runs.iterate
      apply Runs.stop
      simp [acceptToken_of_headIn hrest adjacentText? (by decide)]

theorem primary_string (text : String) :
    Reads (primary d n) operandEnds [.string text] (.value (.string text)) := by
  intro rest hrest
  apply primary_of_prefixExpr _ hrest
  rw [List.singleton_append, prefixExpr_of_attempt _ fun p => fails_typedValue_of_not_word rfl p _,
    prefixAfter_string]
  simp [value, peek, next, after, joinedText_of_headIn text hrest,
    collated_of_headIn _ (headIn_nameEnds_of_operandEnds hrest)]

theorem special?_constant {text : String} {v : Value} (h : (text, v) ∈ wordConstants)
    (p : Parser Expr) (following : Option Token) :
    special? d n p (.bare text) following = some (pure (.value v)) := by
  have hall : ∀ constant ∈ wordConstants, ((Word.bare constant.1).keyword, constant.2) ∈
      [(some Keyword.TRUE, Value.boolean true), (some .FALSE, .boolean false), (some .NULL, .null)] := by
    decide +kernel
  have hmem := hall _ h
  simp only [List.mem_cons, Prod.mk.injEq, List.not_mem_nil, or_false] at hmem
  unfold special?
  rcases hmem with ⟨hkeyword, rfl⟩ | ⟨hkeyword, rfl⟩ | ⟨hkeyword, rfl⟩ <;> rw [hkeyword]

theorem opensType_constant {text : String} {v : Value} (h : (text, v) ∈ wordConstants) :
    opensType d (Keyword.capitals text) = false := by
  have hall : ∀ constant ∈ wordConstants, opensType d (Keyword.capitals constant.1) = false := by
    cases d <;> decide +kernel
  exact hall (text, v) h

theorem primary_constant {text : String} {v : Value} (h : (text, v) ∈ wordConstants) :
    Reads (primary d n) operandEnds [.bare text] (.value v) := by
  intro rest hrest
  have hends := headIn_nameEnds_of_operandEnds hrest
  have hname : ReadsAsName (.bare text :: rest) :=
    readsAsName_column [.bare text] (List.cons_ne_nil _ _) hrest
  have hfails : ∀ p, Fails (typedValue d n p) (.bare text :: rest) := fun p =>
    fails_typedValue_word (.bare text) (fun _ => opensType_constant h) hends hname
  have hspecial := special?_constant (d := d) (n := n) h (prefixAt d n (rest.length + 1)) rest.head?
  have hword : wordExpr d n (prefixAt d n (rest.length + 1)) (.bare text) rest =
      .ok (.value v, rest) := by
    simp only [wordExpr, hspecial, run_pure, collated_of_headIn _ hends]
  apply primary_of_prefixExpr _ hrest
  rw [List.singleton_append, prefixExpr_of_attempt _ hfails]
  exact hword

/-! Signs and parentheses -/

theorem primary_signed (negative : Bool) {e : Expr} {ts rest : List Token} (hts : NoSpace ts)
    (hrest : HeadIn operandEnds rest) (h : n.tighter d .times ts = .ok (e, rest)) :
    primary d n (.symbol (signSymbol negative) :: ts) = .ok (.signed negative e, rest) := by
  apply primary_of_prefixExpr _ hrest
  rw [prefixExpr_of_attempt _ fun p => fails_typedValue_of_not_word rfl p _, prefixAfter_symbol]
  have hsign := expect_symbol (s := signSymbol negative) hts
  cases negative <;>
    simp [signSymbol] at hsign <;>
    simp [symbolExpr, signSymbol, prefixBinding?, hsign, h, prefixed,
      collated_of_headIn _ (headIn_nameEnds_of_operandEnds hrest)]

theorem primary_nested {e : Expr} {ts rest : List Token} (hts : Solid ts)
    (hquery : ∀ t ∈ ts.head?, t.keyword ≠ some .SELECT ∧ t.keyword ≠ some .WITH)
    (h : Reads n.expr [.symbol .rparen] ts e) (hrest : HeadIn operandEnds rest) :
    primary d n (.symbol .lparen :: (ts ++ .symbol .rparen :: rest)) = .ok (.nested e, rest) := by
  obtain ⟨hne, hspace⟩ := hts
  obtain ⟨first, more, rfl⟩ := List.exists_cons_of_ne_nil hne
  apply primary_of_prefixExpr _ hrest
  rw [prefixExpr_of_attempt _ fun p => fails_typedValue_of_not_word rfl p _, prefixAfter_symbol]
  have hopen : expect .lparen (.symbol .lparen :: (first :: more ++ .symbol .rparen :: rest)) =
      .ok ((), first :: more ++ .symbol .rparen :: rest) :=
    expect_symbol hspace
  have hclose := expect_symbol (s := .rparen) (hrest.noSpace (by decide))
  have hlist := commaSeparated_single (h (.symbol .rparen :: rest) (headIn_cons (by simp) _))
    (headIn_head _ _) (by decide)
  simp only [List.cons_append] at hopen hlist
  obtain ⟨hselect, hwith⟩ := hquery first rfl
  simp [symbolExpr, prefixBinding?, parenthesizedExpr, parenthesized, hopen, beginsQuery, peekAny,
    hselect, hwith, Nested.exprs, hlist, hclose,
    collated_of_headIn _ (headIn_nameEnds_of_operandEnds hrest)]

/-! Operators -/

theorem strength_none : Binding.none.strength d = 0 := by
  cases d <;> rfl

theorem nextBinding_exprEnds {context : Context} {ts : List Token} (h : HeadIn exprEnds ts) :
    nextBinding d context ts = .none := by
  cases ts with
  | nil => rfl
  | cons t ts =>
      have hall : ∀ t ∈ exprEnds, nextBinding d context (t :: ts) = .none := by
        simp only [exprEnds, List.forall_mem_cons]
        and_intros <;> first | rfl | nofun
      exact hall t (h t rfl)

theorem strength_linkTokens {t : Token} (ht : t ∈ linkTokens) (context : Context) (ts : List Token) :
    (nextBinding d context (t :: ts)).strength d ≤ Binding.times.strength d := by
  have hbindings : ∀ t ∈ linkTokens, nextBinding d context (t :: ts) ∈
      [Binding.equality, .and, .or, .like] := by
    simp only [linkTokens, List.forall_mem_cons]
    and_intros <;> first | exact List.mem_of_elem_eq_true rfl | nofun
  have hall : ∀ b ∈ [Binding.equality, .and, .or, .like],
      b.strength d ≤ Binding.times.strength d := by
    cases d <;> decide
  exact hall _ (hbindings t ht)

theorem strength_operandEnds {ts : List Token} (context : Context) (h : HeadIn operandEnds ts) :
    (nextBinding d context ts).strength d ≤ Binding.times.strength d := by
  cases ts with
  | nil =>
      rw [nextBinding_exprEnds (headIn_nil _), strength_none]
      exact Nat.zero_le _
  | cons t ts =>
      rcases List.mem_append.mp (h t rfl) with hlink | hend
      · exact strength_linkTokens hlink context ts
      · rw [nextBinding_exprEnds (headIn_cons hend ts), strength_none]
        exact Nat.zero_le _

/-- The words after an operator that compares with many values. -/
def manyKeywords : List Keyword :=
  [.ANY, .ALL, .SOME]

theorem StartsOperand.keyword_ne_many {t : Token} (ht : StartsOperand d t) :
    ∀ k ∈ manyKeywords, t.keyword ≠ some k := by
  intro k hk
  apply ht.keyword_ne
  revert k
  decide

theorem acceptOneOf_many {t : Token} (ht : ∀ k ∈ manyKeywords, t.keyword ≠ some k)
    (us : List Token) : acceptOneOf [.ANY, .ALL, .SOME] (t :: us) = .ok (none, t :: us) := by
  apply acceptOneOf_of_headIn (headIn_head t us)
  intro t' ht' k hk
  obtain rfl := List.mem_singleton.mp ht'
  exact ht k hk

theorem rightSide_binary {strength : Nat} {left right : Expr} {operator : Parser Operator}
    {op : Operator} {t : Token} {ts us rest : List Token}
    (hoperator : operator ts = .ok (op, t :: us)) (ht : ∀ k ∈ manyKeywords, t.keyword ≠ some k)
    (hright : n.operand strength (t :: us) = .ok (right, rest)) :
    rightSide n strength left operator ts = .ok (.binary left op right, rest) := by
  simp [rightSide, Parser.rest, hoperator, acceptOneOf_many ht, hright]

section Steps

variable (strength : Nat) (left : Expr) (ts : List Token)

theorem infixStep_and : infixStep d n strength left (Keyword.AND.token :: ts) =
    rightSide n strength left (keywordOperator .AND .and) (Keyword.AND.token :: ts) :=
  rfl

theorem infixStep_or : infixStep d n strength left (Keyword.OR.token :: ts) =
    rightSide n strength left (keywordOperator .OR .or) (Keyword.OR.token :: ts) :=
  rfl

theorem infixStep_compare (op : Comparison) :
    infixStep d n strength left (.symbol (comparisonSymbol op) :: ts) =
      rightSide n strength left (do expect (comparisonSymbol op); return .compare op)
        (.symbol (comparisonSymbol op) :: ts) := by
  cases op <;> rfl

theorem infixStep_like : infixStep d n strength left (Keyword.LIKE.token :: ts) =
    likeTest d n left false ts := by
  have htest : infixStep d n strength left (Keyword.LIKE.token :: ts) =
      wordTest d n left (Keyword.LIKE.token :: ts) := by
    cases ts <;> rfl
  rw [htest]
  unfold wordTest
  cases ts <;> cases decide (n.context ≠ .columnDefinition) <;> rfl

end Steps

theorem acceptKeyword_any {t : Token} (ht : StartsOperand d t) (us : List Token) :
    acceptKeyword .ANY (t :: us) = .ok (false, t :: us) := by
  apply acceptKeyword_of_headIn (headIn_head t us)
  intro t' ht'
  obtain rfl := List.mem_singleton.mp ht'
  exact ht.keyword_ne _ (by decide)

theorem Link.infixStep_eq (link : Link) (left : Expr) {right : Expr} {t : Token}
    {us rest : List Token} (ht : StartsOperand d t)
    (hright : n.operand (link.binding.strength d) (t :: us) = .ok (right, rest))
    (hrest : HeadIn operandEnds rest) :
    infixStep d n (link.binding.strength d) left (link.token :: t :: us) =
      .ok (link.join left right, rest) := by
  cases link with
  | and => exact (infixStep_and _ _ _).trans (rightSide_binary rfl ht.keyword_ne_many hright)
  | or => exact (infixStep_or _ _ _).trans (rightSide_binary rfl ht.keyword_ne_many hright)
  | compare op =>
      have hexpect := expect_symbol (s := comparisonSymbol op) (noSpace_cons ht.isSpace us)
      exact (infixStep_compare _ _ _ op).trans
        (rightSide_binary (by simp [hexpect]) ht.keyword_ne_many hright)
  | like =>
      have hescape : escape? d rest = .ok (none, rest) := by
        simp [escape?, optionally, acceptKeyword_of_headIn hrest .ESCAPE (by decide)]
      have hpattern : n.tighter d .like (t :: us) = .ok (right, rest) := hright
      refine (infixStep_like _ _ _).trans ?_
      simp [likeTest, acceptKeyword_any ht, hpattern, hescape, Link.join]

/-! Arguments -/

/-- Where what follows its first word is nothing that a phrase goes on with, no clause begins. -/
theorem acceptPhrase_of_tail (phrase : String) {first second : String} {more : List String}
    (hwords : Text.words phrase = first :: second :: more) {t : Token} {us : List Token}
    (h : nameOfToken? t = none ∨ HeadIn nameEnds us)
    (hsecond : ∀ t ∈ nameEnds, t.capitals? ≠ some second) :
    acceptPhrase phrase (t :: us) = .ok (false, t :: us) := by
  by_cases hfirst : t.capitals? = some first
  · have hus : HeadIn nameEnds us := by
      apply h.resolve_left
      cases t with
      | word w => exact nofun
      | _ => cases hfirst
    cases us with
    | nil => simp [acceptPhrase, hwords, stripWords?, hfirst]
    | cons u us => simp [acceptPhrase, hwords, stripWords?, hfirst, hsecond u (hus u rfl)]
  · simp [acceptPhrase, hwords, stripWords?, hfirst]

theorem documentClauses_of_tail {t : Token} {us : List Token}
    (h : nameOfToken? t = none ∨ HeadIn nameEnds us) (ht : t.keyword ≠ some .RETURNING) :
    documentClauses d n (t :: us) = .ok ([], t :: us) := by
  have habsent := acceptPhrase_of_tail "ABSENT ON NULL" rfl h (by decide +kernel)
  have hnull := acceptPhrase_of_tail "NULL ON NULL" rfl h (by decide +kernel)
  simp [documentClauses, acceptPhraseOf, habsent, hnull, optionally, acceptKeyword, ht]

theorem fails_argumentOperator {ts : List Token} (h : HeadIn nameEnds ts) :
    Fails (argumentOperator d) ts := by
  refine ⟨⟨.expected .argumentOperator, ts⟩, ?_, nofun⟩
  cases ts with
  | nil => rfl
  | cons t ts =>
      have hall : ∀ t ∈ nameEnds, argumentOperator d (t :: ts) =
          .error ⟨.expected .argumentOperator, t :: ts⟩ := by
        simp only [nameEnds, operandEnds, linkTokens, exprEnds, List.cons_append, List.nil_append,
          List.forall_mem_cons]
        and_intros <;> first | rfl | nofun
      exact hall t (h t rfl)

theorem fails_namedArgument (hd : d.hasComputedArgumentNames = false) {t : Token} {us : List Token}
    (h : nameOfToken? t = none ∨ HeadIn nameEnds us) : Fails (namedArgument d n) (t :: us) := by
  cases hname : nameOfToken? t with
  | none =>
      have hfails : Fails nameText (t :: us) :=
        ⟨⟨.expected .identifier, t :: us⟩, by simp [nameText, name, token, hname], nofun⟩
      simp only [namedArgument, hd]
      exact hfails.bind
  | some given =>
      have hus : HeadIn nameEnds us := h.resolve_left (by simp [hname])
      have hread : nameText (t :: us) = .ok (given.sql, us) := by
        simp [nameText, name, token, hname, after_eq_self (hus.noSpace (by decide))]
      simp only [namedArgument, hd]
      exact Fails.of_bind hread (fails_argumentOperator hus).bind

/-- What a phrase says is an argument without a name. -/
theorem argument_plain {e : Expr} {t : Token} {us rest : List Token}
    (htail : nameOfToken? t = none ∨ HeadIn nameEnds us)
    (hwildcard : wildcard? (t :: us) = .ok (none, t :: us))
    (hread : n.expr (t :: us) = .ok (e, rest)) (hrest : HeadIn operandEnds rest) :
    argument d n (t :: us) = .ok (.plain e.sql, rest) := by
  have hoperand : wildcardOrExpr n (t :: us) = .ok (.expr e, rest) := by
    simp [wildcardOrExpr, hwildcard, hread]
  have hbegins : beginsWildcard (t :: us) = .ok (false, t :: us) := by
    simp [beginsWildcard, hwildcard]
  cases hd : d.hasComputedArgumentNames with
  | false =>
      have hnamed := attempt_of_fails (fails_namedArgument (n := n) hd htail)
      simp [argument, hd, hbegins, hnamed, hoperand, Operand.sql]
  | true =>
      have hnamed : attempt (argumentOperand d n e.sql) rest = .ok (none, rest) :=
        attempt_of_fails (fails_argumentOperator (hrest.mono (by decide))).bind
      simp [argument, hd, hbegins, computedArgument, hread, hnamed]

theorem argumentClauses_eq (rest : List Token) :
    argumentClauses d n (.symbol .rparen :: rest) = .ok ([], .symbol .rparen :: rest) := by
  cases d <;> rfl

theorem arguments_of_list {t : Token} {us rest : List Token} {items : List Argument}
    (htail : nameOfToken? t = none ∨ HeadIn nameEnds us) (hparen : t ≠ .symbol .rparen)
    (hkeyword : ∀ k ∈ [Keyword.RETURNING, .ALL, .DISTINCT], t.keyword ≠ some k)
    (hitems : commaSeparated (argument d n) (t :: us) = .ok (items, .symbol .rparen :: rest))
    (hrest : NoSpace rest) : arguments d n (t :: us) = .ok (⟨none, items, []⟩, rest) := by
  have hearly := documentClauses_of_tail (d := d) (n := n) htail (hkeyword _ (by simp))
  have hopen : accept .rparen (t :: us) = .ok (false, t :: us) := by
    simp [accept, hparen]
  have hquantifier : quantifier? (t :: us) = .ok (none, t :: us) := by
    simp [quantifier?, Parser.rest, acceptKeyword, hkeyword]
  simp [arguments, hearly, hopen, hquantifier, hitems, argumentClauses_eq, expect_symbol hrest]

theorem arguments_nil {rest : List Token} (hrest : NoSpace rest) :
    arguments d n (.symbol .rparen :: rest) = .ok (⟨none, [], []⟩, rest) := by
  have hearly : documentClauses d n (.symbol .rparen :: rest) = .ok ([], .symbol .rparen :: rest) :=
    documentClauses_of_tail (.inl rfl) nofun
  simp [arguments, hearly, accept_symbol hrest]

theorem fails_expr_star (m : Nat) (ts : List Token) :
    Fails (nestedAt d (m + 1)).expr (.symbol .star :: ts) := by
  have hopening : Fails (prefixExpr d (nestedAt d m)) (.symbol .star :: ts) := by
    refine ⟨⟨.expected .expression, .symbol .star :: ts⟩, ?_, nofun⟩
    rw [prefixExpr_of_attempt _ fun p => fails_typedValue_of_not_word rfl p _]
    rfl
  rw [Nested.expr, nestedAt_operand]
  exact hopening.bind

theorem argument_star (k : Nat) (ts : List Token) :
    argument d (nestedAt d (k + 1)) (.symbol .star :: ts) = .ok (.plain "*", ts) := by
  have hnamed : attempt (namedArgument d (nestedAt d (k + 1))) (.symbol .star :: ts) =
      .ok (none, .symbol .star :: ts) := by
    apply attempt_of_fails
    cases hd : d.hasComputedArgumentNames with
    | false => exact fails_namedArgument hd (.inl rfl)
    | true =>
        simp only [namedArgument, hd]
        exact (fails_expr_star k ts).bind.bind
  have hbegins : beginsWildcard (.symbol .star :: ts) = .ok (true, .symbol .star :: ts) := rfl
  cases hd : d.hasComputedArgumentNames <;>
    simp [argument, hd, hbegins, hnamed, wildcardOrExpr, wildcard?, Operand.sql]

/-! Phrases -/

/-- One layer further out than `m`, an operand begins the tokens, and the operators after it read
on to the expression. -/
def Unfolds (d : Dialect) (m strength : Nat) (ts : List Token) (e : Expr) : Prop :=
  ∃ first tail,
    (∀ rest, HeadIn operandEnds rest →
      primary d (nestedAt d m) (ts ++ rest) = .ok (first, tail ++ rest)) ∧
    ∀ {s rest}, s ≤ strength → HeadIn operandEnds rest →
      (nextBinding d .plain rest).strength d ≤ strength + 1 →
      Reaches (infixLoop d (nestedAt d m) s) first (tail ++ rest) e rest

theorem Link.binding_ne_period (link : Link) : link.binding ≠ .period := by
  cases link <;> exact nofun

/-- The loop goes on with a link that binds more tightly. -/
theorem Link.infixLoop_eq (link : Link) {s m : Nat} (hs : s < link.binding.strength d) (e : Expr)
    (ts : List Token) :
    infixLoop d (nestedAt d m) s e (link.token :: ts) =
      (do return Sum.inl (← infixStep d (nestedAt d m) (link.binding.strength d) e))
        (link.token :: ts) := by
  have hnext : nextBinding d .plain (link.token :: ts) = link.binding := link.nextBinding_token _ _
  have hweaker : ¬ link.binding.strength d ≤ s := Nat.not_le.mpr hs
  simp [infixLoop, Parser.rest, hnext, hweaker, link.binding_ne_period]

namespace Unfolds

variable {m strength : Nat} {ts : List Token} {e : Expr}

theorem of_primary (h : Reads (primary d (nestedAt d m)) operandEnds ts e) :
    Unfolds d m strength ts e :=
  ⟨e, [], h, fun _ _ _ => .here⟩

theorem signed (negative : Bool) (text : String) :
    Unfolds d (m + 1) strength [.symbol (signSymbol negative), .number text false]
      (.signed negative (.value (.number text false))) := by
  apply of_primary
  intro rest hrest
  apply primary_signed negative (noSpace_cons (t := .number text false) rfl rest) hrest
  have hnumber := operand_of_primary
    (primary_number (d := d) (n := nestedAt d m) text rest hrest)
    (strength_operandEnds (nestedAt d m).context hrest)
  rwa [← nestedAt_operand] at hnumber

theorem mono (h : Unfolds d m strength ts e) {weaker : Nat} (hweaker : weaker ≤ strength) :
    Unfolds d m weaker ts e := by
  obtain ⟨first, tail, hprimary, hreaches⟩ := h
  refine ⟨first, tail, hprimary, ?_⟩
  intro s rest hs hrest hbinding
  exact hreaches (Nat.le_trans hs hweaker) hrest (by omega)

theorem operand_eq (h : Unfolds d m strength ts e) {s : Nat} (hs : s ≤ strength)
    {rest : List Token} (hrest : HeadIn operandEnds rest)
    (hbinding : (nextBinding d .plain rest).strength d ≤ s) :
    (nestedAt d (m + 1)).operand s (ts ++ rest) = .ok (e, rest) := by
  obtain ⟨first, tail, hprimary, hreaches⟩ := h
  rw [nestedAt_operand, Grammar.operand_eq, run_bind, hprimary rest hrest]
  have hstop : Runs (infixLoop d (nestedAt d m) s) e rest e rest :=
    infixLoop_stop s e (by rwa [nestedAt_context])
  exact ((hreaches hs hrest (by omega)).runs hstop).iterate

theorem link {link : Link} {us : List Token} {right : Expr}
    (hstrength : strength < link.binding.strength d)
    (hleft : Unfolds d m (link.binding.strength d - 1) ts e)
    (hright : ∀ {rest}, HeadIn operandEnds rest →
      (nextBinding d .plain rest).strength d ≤ link.binding.strength d →
      (nestedAt d m).operand (link.binding.strength d) (us ++ rest) = .ok (right, rest))
    (hus : ∃ t us', us = t :: us' ∧ StartsOperand d t) :
    Unfolds d m strength (ts ++ link.token :: us) (link.join e right) := by
  obtain ⟨first, tail, hprimary, hreaches⟩ := hleft
  have hends : ∀ rest, HeadIn operandEnds (link.token :: (us ++ rest)) := fun rest =>
    headIn_cons (List.mem_append_left _ link.token_mem) _
  refine ⟨first, tail ++ link.token :: us, ?_, ?_⟩
  · intro rest _
    simpa using hprimary _ (hends rest)
  · intro s rest hs hrest hbinding
    obtain ⟨t, us', rfl, ht⟩ := hus
    have hstep : infixStep d (nestedAt d m) (link.binding.strength d) e
        (link.token :: t :: (us' ++ rest)) = .ok (link.join e right, rest) :=
      link.infixStep_eq e ht (hright hrest (by omega)) hrest
    have hnext : nextBinding d .plain (link.token :: (t :: us' ++ rest)) = link.binding :=
      link.nextBinding_token _ _
    have hloop : infixLoop d (nestedAt d m) s e (link.token :: (t :: us' ++ rest)) =
        .ok (.inl (link.join e right), rest) := by
      rw [link.infixLoop_eq (by omega), List.cons_append, run_bind, hstep]
      rfl
    have hleft := hreaches (s := s) (by omega) (hends rest) (by rw [hnext]; omega)
    simpa using hleft.trans (.more hloop (by simp; omega) .here)

end Unfolds

namespace Phrase

variable {depth strength : Nat} {text : String} {ts : List Token} {e : Expr}

/-- A phrase that is read as an expression is an argument without a name. -/
theorem argument_eq (h : Phrase d depth strength text ts e) (hread : ∀ {rest},
      HeadIn exprEnds rest → (nestedAt d depth).expr (ts ++ rest) = .ok (e, rest)) :
    Reads (argument d (nestedAt d depth)) [.symbol .comma, .symbol .rparen] ts (.plain e.sql) := by
  intro rest hrest
  have hends : HeadIn operandEnds rest := hrest.mono (by decide)
  have hwildcard := h.wildcard?_eq hends
  have hexpr := hread (hrest.mono (by decide))
  obtain ⟨t, us, rfl, htail⟩ := h.tail_headIn hends
  exact argument_plain htail hwildcard hexpr hends

theorem expr_of_unfolds {m : Nat} (h : Unfolds d m 0 ts e) {rest : List Token}
    (hrest : HeadIn exprEnds rest) : (nestedAt d (m + 1)).expr (ts ++ rest) = .ok (e, rest) := by
  apply h.operand_eq (Nat.le_refl 0) (hrest.mono fun t => List.mem_append_right _)
  exact Nat.le_of_eq (by rw [nextBinding_exprEnds hrest, strength_none])

theorem arguments_eq {k : Nat} {pieces : List Piece}
    (hphrases : ∀ piece ∈ pieces, Phrase d k 0 piece.text piece.tokens piece.expr)
    (hreads : ∀ piece ∈ pieces, ∀ {rest}, HeadIn exprEnds rest →
      (nestedAt d k).expr (piece.tokens ++ rest) = .ok (piece.expr, rest))
    {rest : List Token} (hrest : NoSpace rest) :
    arguments d (nestedAt d k) (separated (pieces.map Piece.tokens) ++ .symbol .rparen :: rest) =
      .ok (⟨none, pieces.map fun piece => .plain piece.expr.sql, []⟩, rest) := by
  cases pieces with
  | nil => exact arguments_nil hrest
  | cons first more =>
      have hreads' : ∀ piece ∈ (first :: more).map fun piece : Piece =>
          (piece.tokens, Argument.plain piece.expr.sql),
          Reads (argument d (nestedAt d k)) [.symbol .comma, .symbol .rparen] piece.1 piece.2 := by
        intro piece hmem
        obtain ⟨given, hgiven, rfl⟩ := List.mem_map.mp hmem
        exact (hphrases given hgiven).argument_eq (hreads given hgiven)
      have hsolid : ∀ piece ∈ (first :: more).map fun piece : Piece =>
          (piece.tokens, Argument.plain piece.expr.sql), Solid piece.1 := by
        intro piece hmem
        obtain ⟨given, hgiven, rfl⟩ := List.mem_map.mp hmem
        exact (hphrases given hgiven).solid
      have hlist := reads_commaSeparated [.symbol .rparen] _ (List.cons_ne_nil _ _)
        (by decide) hreads' hsolid (.symbol .rparen :: rest) (headIn_cons (by simp) _)
      have hfirst := hphrases first (by simp)
      simp only [List.map_map, Function.comp_def, List.map_cons, separated_cons,
        List.append_assoc] at hlist ⊢
      have hends : HeadIn operandEnds ((more.map Piece.tokens).flatMap (.symbol .comma :: ·) ++
          .symbol .rparen :: rest) := by
        cases more with
        | nil => exact headIn_cons (by decide) _
        | cons next more => exact headIn_cons (by decide) _
      obtain ⟨t, us, htokens, htail⟩ := hfirst.tail_headIn hends
      obtain ⟨t', us', htokens', hstart⟩ := hfirst.starts
      obtain ⟨rfl, rfl⟩ := List.cons.inj (htokens.symm.trans htokens')
      rw [htokens] at hlist ⊢
      have hparen : t ≠ .symbol .rparen := by
        rintro rfl
        cases hstart
      have hkeyword : ∀ k ∈ [Keyword.RETURNING, .ALL, .DISTINCT], t.keyword ≠ some k := by
        intro k hk
        apply hstart.keyword_ne
        revert k
        decide
      exact arguments_of_list htail hparen hkeyword hlist hrest

theorem unfolds (h : Phrase d depth strength text ts e) :
    ∃ m, depth = m + 1 ∧ Unfolds d m strength ts e := by
  induction h with
  | @column m strength names hne hnames hdepth =>
      exact ⟨m, rfl, .of_primary (primary_column hne hnames hdepth)⟩
  | @call m k strength names pieces hne hnames hdepth hargs ih =>
      refine ⟨m, rfl, .of_primary ?_⟩
      intro rest hrest
      have hreads : ∀ piece ∈ pieces, ∀ {rest}, HeadIn exprEnds rest →
          (nestedAt d k).expr (piece.tokens ++ rest) = .ok (piece.expr, rest) := by
        intro piece hpiece rest hrest
        obtain ⟨k', rfl, hunfolds⟩ := ih piece hpiece
        exact expr_of_unfolds hunfolds hrest
      have hbody : Tame (separated (pieces.map Piece.tokens)) := by
        apply tame_separated
        intro ts hts
        obtain ⟨piece, hpiece, rfl⟩ := List.mem_map.mp hts
        exact (hargs piece hpiece).tame
      have hlist := arguments_eq hargs hreads (hrest.noSpace (by decide))
      simpa using primary_call hne hnames hbody hlist hrest hdepth
  | @callOfAll m k strength names hne hnames hdepth =>
      refine ⟨m, rfl, .of_primary ?_⟩
      intro rest hrest
      have hstar : commaSeparated (argument d (nestedAt d (k + 1)))
          (.symbol .star :: .symbol .rparen :: rest) =
          .ok ([.plain "*"], .symbol .rparen :: rest) := by
        have hreads : Reads (argument d (nestedAt d (k + 1))) [.symbol .comma, .symbol .rparen]
            [.symbol .star] (.plain "*") :=
          fun rest _ => argument_star k rest
        have hlist := reads_commaSeparated [.symbol .rparen]
          [([.symbol .star], Argument.plain "*")] (by simp) (by decide) (by simpa using hreads)
          (by simp [Solid, NoSpace, Parser.isSpace])
        exact hlist (.symbol .rparen :: rest) (headIn_cons (by simp) _)
      have hlist := arguments_of_list (d := d) (t := .symbol .star) (.inl rfl) (by decide) (by decide)
        hstar (hrest.noSpace (by decide))
      have hbody : Tame [.symbol .star] := by decide
      simpa using primary_call hne hnames hbody hlist hrest (by omega)
  | @number m strength text _ => exact ⟨m, rfl, .of_primary (primary_number text)⟩
  | @negative m strength text _ => exact ⟨m + 1, rfl, .signed true text⟩
  | @string m strength text _ => exact ⟨m, rfl, .of_primary (primary_string text)⟩
  | @constant m strength text v h => exact ⟨m, rfl, .of_primary (primary_constant h)⟩
  | @nested m strength text ts e inner ih =>
      refine ⟨m, rfl, .of_primary ?_⟩
      intro rest hrest
      obtain ⟨k, rfl, hinner⟩ := ih
      have hread : Reads (nestedAt d (k + 1)).expr [.symbol .rparen] ts e :=
        fun rest hrest => expr_of_unfolds hinner (hrest.mono (by decide))
      have hquery : ∀ t ∈ ts.head?, t.keyword ≠ some .SELECT ∧ t.keyword ≠ some .WITH := by
        obtain ⟨t, us, rfl, ht⟩ := inner.starts
        simpa using ⟨ht.keyword_ne _ (by decide), ht.keyword_ne _ (by decide)⟩
      simpa using primary_nested inner.solid hquery hread hrest
  | @link m strength link text text' ts us left right hstrength _ hright ihLeft ihRight =>
      obtain ⟨m', hm, hleft⟩ := ihLeft
      obtain rfl := Nat.succ.inj hm
      obtain ⟨k, rfl, hright'⟩ := ihRight
      exact ⟨k + 1, rfl, hleft.link hstrength (hright'.operand_eq (Nat.le_refl _)) hright.starts⟩

/-- A phrase is read as the expression it says. -/
theorem operand_eq (h : Phrase d depth strength text ts e) {s : Nat} (hs : s ≤ strength)
    {rest : List Token} (hrest : HeadIn operandEnds rest)
    (hbinding : (nextBinding d .plain rest).strength d ≤ s) :
    (nestedAt d depth).operand s (ts ++ rest) = .ok (e, rest) := by
  obtain ⟨m, rfl, hunfolds⟩ := h.unfolds
  exact hunfolds.operand_eq hs hrest hbinding

theorem reads_expr (h : Phrase d depth strength text ts e) :
    Reads (nestedAt d depth).expr exprEnds ts e := by
  intro rest hrest
  apply h.operand_eq (Nat.zero_le strength) (hrest.mono fun t => List.mem_append_right _)
  exact Nat.le_of_eq (by rw [nextBinding_exprEnds hrest, strength_none])

end Phrase

end SelectTree.Sql.Grammar
