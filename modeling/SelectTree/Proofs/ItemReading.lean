import SelectTree.Proofs.ColumnReading

namespace SelectTree.Sql.Grammar

open Sql.Parser

/-! The lists of a query: its items, its grouping keys and its sort keys. -/

variable {d : Dialect} {n : Nested}

/-! Items -/

/-- The tokens after an item. -/
def itemEnds : List Token :=
  [.symbol .comma, Keyword.FROM.token]

theorem wildcardStep_star (read : List Name) {rest : List Token} (hrest : NoSpace rest) :
    Runs wildcardStep read (.symbol .period :: .symbol .star :: rest) (some read.reverse) rest := by
  apply Runs.stop
  have hperiod := accept_symbol (s := .period) (noSpace_cons (t := .symbol .star) rfl rest)
  simp [wildcardStep, hperiod, accept_symbol hrest]

theorem runs_wildcardStep_star (read : List Name) (next : Name) (more : List Name)
    {rest : List Token} (hrest : NoSpace rest) :
    Runs wildcardStep read (.symbol .period :: (Name.pathTokens (next :: more) ++
      .symbol .period :: .symbol .star :: rest)) (some (read.reverse ++ next :: more)) rest := by
  induction more generalizing read next with
  | nil =>
      refine .more (wildcardStep_name read next _) (by simp [Name.pathTokens]) ?_
      simpa using wildcardStep_star (next :: read) hrest
  | cons third more ih =>
      refine .more (wildcardStep_name read next _) (by simp [Name.pathTokens]) ?_
      simpa using ih (next :: read) third

theorem wildcard?_tableWildcard {names : List Name} (hne : names ≠ []) {rest : List Token}
    (hrest : NoSpace rest) :
    wildcard? (Name.pathTokens names ++ .symbol .period :: .symbol .star :: rest) =
      .ok (some (some names), rest) := by
  obtain ⟨first, more, rfl⟩ := List.exists_cons_of_ne_nil hne
  cases more with
  | nil =>
      have hruns := (wildcardStep_star [first] hrest).iterate
      rw [← wildcardPath_eq] at hruns
      simp [wildcard?, Name.pathTokens, qualifier?, hruns]
  | cons next more =>
      have hruns := (runs_wildcardStep_star [first] next more hrest).iterate
      rw [← wildcardPath_eq] at hruns
      simp [wildcard?, Name.pathTokens, qualifier?, hruns]

theorem wildcardOptions_of_headIn {ts : List Token} (h : HeadIn itemEnds ts) :
    wildcardOptions d n ts = .ok ([], ts) := by
  have hpattern := acceptKeyword_of_headIn h .ILIKE (by decide)
  have hexcluded := acceptKeyword_of_headIn h .EXCLUDE (by decide)
  have hexcepted := acceptKeyword_of_headIn h .EXCEPT (by decide)
  have hreplaced := acceptKeyword_of_headIn h .REPLACE (by decide)
  have hrenamed := acceptKeyword_of_headIn h .RENAME (by decide)
  cases hd : d.hasWildcardOptions <;>
    simp [wildcardOptions, hd, optionally, hpattern, exclusion?, hexcluded, exception?, hexcepted,
      replacement?, hreplaced, renaming?, hrenamed]

theorem itemName?_of_headIn {ts : List Token} (h : HeadIn itemEnds ts) :
    itemName? ts = .ok (none, ts) := by
  have has := acceptKeyword_of_headIn h .AS (by decide)
  simp only [itemName?, givenName?, run_bind, has, Bool.false_eq_true, if_false]
  exact acceptToken_of_headIn h _ (by decide)

theorem item_expr {e : Expr} {ts rest : List Token} (hwildcard : wildcard? ts = .ok (none, ts))
    (hread : n.expr ts = .ok (e, rest)) (he : reservedItem? e = none) (hrest : HeadIn itemEnds rest) :
    item d n ts = .ok (.expr e, rest) := by
  simp [item, wildcardOrExpr, hwildcard, hread, he, itemName?_of_headIn hrest]

theorem item_wildcard {table : Option (List Name)} {ts rest : List Token}
    (hwildcard : wildcard? ts = .ok (some table, rest)) (hrest : HeadIn itemEnds rest) :
    item d n ts = .ok (.wildcard table [], rest) := by
  simp [item, wildcardOrExpr, hwildcard, wildcardOptions_of_headIn hrest]

theorem items_of_opens {t : Token} (ht : Opens t) (us : List Token) :
    items d n (t :: us) = projection d n (t :: us) := by
  have hfrom : peekKeyword .FROM (t :: us) = .ok (false, t :: us) := by
    simp [peekKeyword, ht.keyword_ne .FROM (by decide)]
  simp [items, hfrom]

/-! Grouping keys -/

/-- The tokens after the grouping keys of a query. -/
def groupingEnds : List Token :=
  [Keyword.ORDER.token, .symbol .rparen]

theorem groupingKey_word (w : Word) {us : List Token} (hw : Opens (.word w)) :
    groupingKey d n (.word w :: us) = n.expr (.word w :: us) := by
  have hhead := headIn_head (.word w) us
  have hkeyword : ∀ k ∈ openingKeywords, ∀ t ∈ [Token.word w], t.keyword ≠ some k := by
    intro k hk t ht
    obtain rfl := List.mem_singleton.mp ht
    exact hw.keyword_ne k hk
  have hsets := acceptKeywords_of_headIn hhead .GROUPING [.SETS] (hkeyword .GROUPING (by decide))
  have hcube := acceptKeyword_of_headIn hhead .CUBE (hkeyword .CUBE (by decide))
  have hrollup := acceptKeyword_of_headIn hhead .ROLLUP (hkeyword .ROLLUP (by decide))
  cases hd : d.hasGroupingSets <;> simp [groupingKey, hd, hsets, hcube, hrollup, Parser.rest]

theorem groupingModifiers_of_headIn {ts : List Token} (h : HeadIn groupingEnds ts) :
    groupingModifiers d n ts = .ok ([], ts) := by
  have hwith := whenever_of_refused (acceptKeyword_of_headIn h .WITH (by decide))
    d.hasGroupingModifiers
  have hsets := acceptKeywords_of_headIn h .GROUPING [.SETS] (by decide)
  simp [groupingModifiers, many_of_none (optionally_of_refused hwith _), hsets]

theorem grouping_of_headIn {ts : List Token} (h : HeadIn groupingEnds ts) :
    grouping d n ts = .ok (.none, ts) := by
  simp [grouping, acceptKeywords_of_headIn h .GROUP [.BY] (by decide)]

/-! Sort keys -/

/-- The tokens after a sort key. -/
def keyEnds : List Token :=
  [.symbol .comma, .symbol .rparen]

def directionTokens : Option Bool → List Token
  | none => []
  | some true => [Keyword.ASC.token]
  | some false => [Keyword.DESC.token]

theorem headIn_direction (ascending : Option Bool) :
    HeadIn exprEnds (directionTokens ascending) := by
  cases ascending with
  | none => exact headIn_nil exprEnds
  | some ascending => cases ascending <;> exact headIn_cons (by decide) []

theorem direction?_tokens (ascending : Option Bool) {rest : List Token} (h : HeadIn keyEnds rest) :
    direction? (directionTokens ascending ++ rest) = .ok (ascending, rest) := by
  have hnone := acceptOneOf_of_headIn h [.ASC, .DESC] (by decide)
  cases ascending with
  | none => simp [direction?, directionTokens, hnone]
  | some ascending => cases ascending <;> rfl

theorem orderKeyAfter_tokens (e : Expr) (ascending : Option Bool) {rest : List Token}
    (h : HeadIn keyEnds rest) :
    orderKeyAfter d n e (directionTokens ascending ++ rest) =
      .ok (⟨e, ascending, none, none⟩, rest) := by
  have hfirst := acceptKeywords_of_headIn h .NULLS [.FIRST] (by decide)
  have hlast := acceptKeywords_of_headIn h .NULLS [.LAST] (by decide)
  have hfill := whenever_of_refused (acceptPhrase_of_headIn h "WITH FILL" rfl (by decide +kernel))
    d.hasFilling
  simp [orderKeyAfter, direction?_tokens ascending h, hfirst, hlast, fill?, hfill]

end SelectTree.Sql.Grammar

namespace SelectTree

open Sql Sql.Grammar Sql.Parser

variable {d : Dialect} {depth : Nat}

/-! Columns in lists -/

/-- A column or a call in plain words, or a star. -/
def IsPlainItem (d : Dialect) (depth : Nat) (c : ColumnRef) : Prop :=
  c.IsPlain d depth ∨ c = .identifier "*" ∨
    ∃ names : List Name, names ≠ [] ∧ (∀ name ∈ names, isOperandName d name = true) ∧
      c = .identifier (Name.pathSql names ++ ".*")

theorem opens_pathTokens {names : List Name} (hne : names ≠ [])
    (hnames : ∀ name ∈ names, isOperandName d name = true) (rest : List Token) :
    ∃ t us, Name.pathTokens names ++ rest = t :: us ∧ Opens t := by
  obtain ⟨t, us, hts, ht⟩ := starts_path hne hnames
  exact ⟨t, us ++ rest, by rw [hts]; rfl, ht.opens⟩

theorem IsPlainItem.isRead {c : ColumnRef} (h : IsPlainItem d depth c) :
    ∃ ts i, IsRead d depth (item d) itemEnds c.sql ts i ∧ i.columnRef = .ok c := by
  rcases h with h | rfl | ⟨names, hne, hnames, rfl⟩
  · obtain ⟨ts, e, hphrase, hlower, hreserved, -⟩ := h.phrase
    refine ⟨ts, .expr e, ⟨hphrase.spells, hphrase.isRead.starts, ?_⟩, hlower⟩
    intro m hm rest hrest
    exact item_expr (hphrase.wildcard?_eq (hrest.mono (by decide)))
      (hphrase.isRead.reads m hm rest (hrest.mono (by decide))) hreserved hrest
  · refine ⟨[.symbol .star], .wildcard none [], ⟨spells_star, ⟨_, _, rfl, opens_star⟩, ?_⟩, rfl⟩
    intro m hm rest hrest
    exact item_wildcard rfl hrest
  · have hwords : ∀ name ∈ names, name.isWord d = true :=
      fun name hmem => isWord_of_isOperandName (hnames name hmem)
    refine ⟨_, .wildcard (some names) [],
      ⟨spells_wildcard hne hwords, opens_pathTokens hne hnames _, ?_⟩, rfl⟩
    intro m hm rest hrest
    have hwildcard := wildcard?_tableWildcard hne (hrest.noSpace (by decide))
    exact item_wildcard (by simpa using hwildcard) hrest

theorem exists_items {cs : List ColumnRef} (hne : cs ≠ []) (h : ∀ c ∈ cs, IsPlainItem d depth c) :
    ∃ ts is, IsRead d depth (items d) [Keyword.FROM.token]
      (Text.listed (cs.map ColumnRef.sql)) ts is ∧ is.mapM Item.columnRef = .ok cs := by
  cases hd : d.allowsTrailingComma with
  | false =>
      obtain ⟨ts, is, hread, hlower⟩ := IsRead.listed Item.columnRef hne (by decide)
        fun c hmem => (h c hmem).isRead
      refine ⟨ts, is, hread.congr ?_, hlower⟩
      intro n t us ht
      rw [items_of_opens ht, projection, hd]
      rfl
  | true =>
      obtain ⟨ts, is, hread, hlower⟩ := IsRead.listedUntil Item.columnRef
        (fun t us ht => ht.atListEnd_eq us) hne (by decide) fun c hmem => (h c hmem).isRead
      refine ⟨ts, is, hread.congr ?_, hlower⟩
      intro n t us ht
      rw [items_of_opens ht, projection, hd]
      rfl

theorem ColumnRef.IsPlain.isRead_groupingKey {c : ColumnRef} (h : c.IsPlain d depth) :
    ∃ ts e, IsRead d depth (groupingKey d) (.symbol .comma :: groupingEnds) c.sql ts e ∧
      e.columnRef = .ok c := by
  obtain ⟨ts, e, hphrase, hlower, -, w, us, rfl⟩ := h.phrase
  have hread := hphrase.isRead
  obtain ⟨t, us', hts, ht⟩ := hread.starts
  obtain ⟨rfl, rfl⟩ := List.cons.inj hts
  refine ⟨_, e, ⟨hread.spells, hread.starts, ?_⟩, hlower⟩
  intro m hm rest hrest
  rw [List.cons_append, groupingKey_word w ht]
  exact hread.reads m hm rest (hrest.mono (by decide))

theorem exists_groupingKeys {cs : List ColumnRef} (hne : cs ≠ [])
    (h : ∀ c ∈ cs, c.IsPlain d depth) :
    ∃ ts es, IsRead d depth (fun n => commaSeparated (groupingKey d n)) groupingEnds
      (Text.listed (cs.map ColumnRef.sql)) ts es ∧ es.mapM Expr.columnRef = .ok cs :=
  IsRead.listed Expr.columnRef hne (by decide) fun c hmem => (h c hmem).isRead_groupingKey

def OrderItem.IsPlain (d : Dialect) (depth : Nat) (item : OrderItem) : Prop :=
  item.column.IsPlain d depth

namespace OrderItem

theorem spells {item : OrderItem} {ts : List Token} (h : Spells d item.column.sql ts) :
    Spells d item.sql (ts ++ directionTokens item.ascending) := by
  obtain ⟨column, ascending⟩ := item
  cases ascending with
  | none => simpa [sql, directionTokens] using h
  | some ascending =>
      have hwords : ∀ k ∈ [Keyword.ASC, .DESC], Spells d (column.sql ++ (" " ++ k.spelling))
          (ts ++ [k.token]) := by
        intro k hk
        have hk' : k ∈ Keyword.printed := by
          revert k
          decide
        simpa only [String.append_assoc] using h.space (Keyword.spells hk')
      cases ascending with
      | true => exact hwords .ASC (by simp)
      | false => exact hwords .DESC (by simp)

theorem IsPlain.isRead {item : OrderItem} (h : item.IsPlain d depth) :
    ∃ ts key, IsRead d depth (orderKey d) keyEnds item.sql ts key ∧
      key.item = .ok item := by
  obtain ⟨ts, e, hphrase, hlower, -⟩ := h.phrase
  have hread := hphrase.isRead
  obtain ⟨t, us, rfl, ht⟩ := hread.starts
  refine ⟨_, ⟨e, item.ascending, none, none⟩, ⟨spells hread.spells, ⟨t, _, rfl, ht⟩, ?_⟩, ?_⟩
  · intro m hm rest hrest
    have hends : HeadIn exprEnds (directionTokens item.ascending ++ rest) :=
      (headIn_direction item.ascending).append (hrest.mono (by decide))
    have hexpr := hread.reads m hm _ hends
    simp only [List.append_assoc, orderKey, run_bind] at hexpr ⊢
    rw [hexpr]
    exact orderKeyAfter_tokens e item.ascending hrest
  · simp [OrderKey.item, hlower]
    rfl

end OrderItem

theorem exists_orderKeys {items : List OrderItem} (hne : items ≠ [])
    (h : ∀ item ∈ items, item.IsPlain d depth) :
    ∃ ts keys, IsRead d depth (orderKeys d) [.symbol .rparen]
      (Text.listed (items.map OrderItem.sql)) ts keys ∧ keys.mapM OrderKey.item = .ok items :=
  IsRead.listed OrderKey.item hne (by decide) fun item hmem => (h item hmem).isRead

end SelectTree
