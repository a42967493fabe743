import SelectTree.Proofs.PredicateReading

namespace SelectTree.Sql.Grammar

open Sql.Parser

/-! Lists of what is read from texts, and the columns in the lists of a query. -/

variable {d : Dialect}

/-! Pieces of a list -/

/-- Holds of a token that ends no list and opens no clause. -/
structure Opens (t : Token) : Prop where
  isSpace : isSpace t = false
  keyword_ne : ∀ k ∈ openingKeywords, t.keyword ≠ some k
  not_closing : t ∉ [.symbol .rparen, .symbol .semicolon, .symbol .rbracket, .symbol .rbrace]

theorem StartsOperand.opens {t : Token} (h : StartsOperand d t) : Opens t := by
  refine ⟨h.isSpace, h.keyword_ne, ?_⟩
  cases h <;> simp [Token.bare]

theorem opens_star : Opens (.symbol .star) := by
  refine ⟨rfl, ?_, by decide⟩
  intro k _
  exact nofun

theorem Opens.atListEnd_eq {t : Token} (h : Opens t) (ts : List Token) :
    atListEnd (t :: ts) = false := by
  have hreserved : ∀ k : Keyword, k.reservesItemName = true → k ∈ openingKeywords := by
    intro k
    cases k <;> decide
  have hclosing := h.not_closing
  unfold atListEnd
  split
  · rename_i heq
    cases heq
  · rename_i heq
    obtain rfl := (List.cons.inj heq).1
    simpa [and_assoc] using hclosing
  · rename_i heq
    obtain rfl := (List.cons.inj heq).1
    cases hkeyword : t.keyword with
    | none => rfl
    | some k =>
        have hmem : k ∉ openingKeywords := fun hmem => h.keyword_ne k hmem hkeyword
        simpa using fun hreserves => hmem (hreserved k hreserves)

/-- The pieces of a list, each with its tokens and what it is read as. -/
theorem exists_pieces {α β γ : Type} (IsPiece : String → List Token → α → Prop) (sql : β → String)
    (tree : β → γ) (lower : α → Lowered γ) (bs : List β)
    (h : ∀ b ∈ bs, ∃ ts a, IsPiece (sql b) ts a ∧ lower a = .ok (tree b)) :
    ∃ pieces : List (String × List Token × α), pieces.map Prod.fst = bs.map sql ∧
      (∀ piece ∈ pieces, IsPiece piece.1 piece.2.1 piece.2.2) ∧
      (pieces.map fun piece => piece.2.2).mapM lower = .ok (bs.map tree) := by
  induction bs with
  | nil => exact ⟨[], rfl, nofun, rfl⟩
  | cons b bs ih =>
      obtain ⟨ts, a, hpiece, hlower⟩ := h b (by simp)
      obtain ⟨pieces, htexts, hpieces, hlowers⟩ := ih fun b hmem => h b (List.mem_cons_of_mem _ hmem)
      refine ⟨(sql b, ts, a) :: pieces, by simp [htexts],
        List.forall_mem_cons.mpr ⟨hpiece, hpieces⟩, ?_⟩
      rw [List.map_cons, List.mapM_cons, hlower, hlowers]
      rfl

/-- A text is cut into tokens, from which the parser reads what the text says, within `depth` layers
or more. -/
structure IsRead (d : Dialect) (depth : Nat) (p : Nested → Parser α) (follow : List Token)
    (text : String) (ts : List Token) (a : α) : Prop where
  spells : Spells d text ts
  starts : ∃ t us, ts = t :: us ∧ Opens t
  reads : ∀ m, depth ≤ m → Reads (p (nestedAt d m)) follow ts a

namespace IsRead

variable {α β : Type} {p : Nested → Parser α} {follow : List Token} {depth : Nat}

theorem solid {text : String} {ts : List Token} {a : α} (h : IsRead d depth p follow text ts a) :
    Solid ts := by
  obtain ⟨t, us, rfl, ht⟩ := h.starts
  exact ⟨List.cons_ne_nil t us, noSpace_cons ht.isSpace us⟩

theorem congr {p' : Nested → Parser α} {text : String} {ts : List Token} {a : α}
    (h : IsRead d depth p follow text ts a)
    (hp : ∀ n t us, Opens t → p' n (t :: us) = p n (t :: us)) :
    IsRead d depth p' follow text ts a := by
  obtain ⟨t, us, rfl, ht⟩ := h.starts
  refine ⟨h.spells, ⟨t, us, rfl, ht⟩, ?_⟩
  intro m hm rest hrest
  exact (hp _ t (us ++ rest) ht).trans (h.reads m hm rest hrest)

theorem listedUntil {atEnd : List Token → Bool} {sql : β → String} (lower : α → Lowered β)
    {bs : List β} (hatEnd : ∀ t us, Opens t → atEnd (t :: us) = false) (hne : bs ≠ [])
    (hcomma : .symbol .comma ∉ follow)
    (h : ∀ b ∈ bs, ∃ ts a,
      IsRead d depth p (.symbol .comma :: follow) (sql b) ts a ∧ lower a = .ok b) :
    ∃ ts as, IsRead d depth (fun n => commaSeparatedUntil atEnd (p n)) follow
      (Text.listed (bs.map sql)) ts as ∧ as.mapM lower = .ok bs := by
  obtain ⟨pieces, htexts, hreads, hlowers⟩ := exists_pieces _ sql id lower bs h
  rw [List.map_id] at hlowers
  refine ⟨separated (pieces.map fun piece => piece.2.1), _, ⟨?_, ?_, ?_⟩, hlowers⟩
  · have hspells := spells_listed (d := d)
      (pieces.map fun piece => (piece.1, piece.2.1)) (by
        intro piece hmem
        obtain ⟨given, hgiven, rfl⟩ := List.mem_map.mp hmem
        exact (hreads given hgiven).spells)
    simp only [List.map_map, Function.comp_def] at hspells
    rwa [← htexts]
  · cases pieces with
    | nil => exact absurd (List.map_eq_nil_iff.mp htexts.symm) hne
    | cons piece pieces =>
        obtain ⟨t, us, hts, ht⟩ := (hreads piece (by simp)).starts
        rw [List.map_cons, separated_cons, hts]
        exact ⟨t, _, rfl, ht⟩
  · intro m hm
    have hpieces : pieces ≠ [] := by
      rintro rfl
      exact hne (List.map_eq_nil_iff.mp htexts.symm)
    have hlist := reads_commaSeparatedUntil (p := p (nestedAt d m)) atEnd follow
      (pieces.map fun piece => (piece.2.1, piece.2.2))
      (by simpa using hpieces) hcomma
      (by
        intro piece hmem
        obtain ⟨given, hgiven, rfl⟩ := List.mem_map.mp hmem
        exact (hreads given hgiven).reads m hm)
      (by
        intro piece hmem
        obtain ⟨given, hgiven, rfl⟩ := List.mem_map.mp hmem
        exact (hreads given hgiven).solid)
      (by
        intro piece hmem rest
        obtain ⟨given, hgiven, rfl⟩ := List.mem_map.mp hmem
        obtain ⟨t, us, hts, ht⟩ := (hreads given hgiven).starts
        rw [hts]
        exact hatEnd t _ ht)
    simpa only [List.map_map, Function.comp_def] using hlist

theorem listed {sql : β → String} (lower : α → Lowered β) {bs : List β} (hne : bs ≠ [])
    (hcomma : .symbol .comma ∉ follow)
    (h : ∀ b ∈ bs, ∃ ts a,
      IsRead d depth p (.symbol .comma :: follow) (sql b) ts a ∧ lower a = .ok b) :
    ∃ ts as, IsRead d depth (fun n => commaSeparated (p n)) follow (Text.listed (bs.map sql)) ts as ∧
      as.mapM lower = .ok bs := by
  simp only [commaSeparated_eq]
  exact listedUntil lower (fun _ _ _ => rfl) hne hcomma h

end IsRead

theorem Phrase.isRead {depth strength : Nat} {text : String} {ts : List Token} {e : Expr}
    (h : Phrase d depth strength text ts e) :
    IsRead d depth Nested.expr exprEnds text ts e := by
  refine ⟨h.spells, ?_, fun m hm => (h.mono hm (Nat.le_refl strength)).reads_expr⟩
  obtain ⟨t, us, hts, ht⟩ := h.starts
  exact ⟨t, us, hts, ht.opens⟩

end SelectTree.Sql.Grammar

namespace SelectTree

open Sql Sql.Grammar Sql.Parser

variable {d : Dialect} {depth : Nat}

/-! Columns and calls -/

/-- Arguments of a call that are read as the texts that they are. -/
def IsPlainArguments (d : Dialect) (depth : Nat) (args : List ColumnRef) : Prop :=
  (0 < depth ∧ args = [.identifier "*"]) ∨
    ∃ pieces : List Piece, args = (pieces.map fun piece => .identifier piece.text) ∧
      ∀ piece ∈ pieces, Phrase d depth 0 piece.text piece.tokens piece.expr ∧
        piece.expr.sql = piece.text

namespace ColumnRef

/-- A column or a call in plain words. Every part of a name is a layer. -/
def IsPlain (d : Dialect) (depth : Nat) : ColumnRef → Prop
  | .identifier text => IsPlainColumn d depth text
  | .call name args =>
      ∃ (names : List Name) (k : Nat), names ≠ [] ∧
        (∀ part ∈ names, isOperandName d part = true) ∧ names.length + k ≤ depth ∧
        name = Name.pathSql names ∧ IsPlainArguments d k args

theorem mapM_argument (texts : List String) :
    (texts.map Argument.plain).mapM Argument.column = .ok (texts.map .identifier) := by
  induction texts with
  | nil => rfl
  | cons text texts ih =>
      rw [List.map_cons, List.mapM_cons, ih]
      rfl

theorem columnRef_plainCall (names : List Name) (texts : List String) :
    (Expr.call (plainCall names (texts.map .plain))).columnRef =
      .ok (.call (Name.pathSql names) (texts.map .identifier)) := by
  simp only [Expr.columnRef, Call.column, Call.isWindowed, plainCall, Option.isSome_none,
    Bool.or_self, Bool.false_eq_true, if_false, mapM_argument, Call.name]
  rfl

theorem exists_head_word {names : List Name} (hne : names ≠ []) (rest : List Token) :
    ∃ w us, Name.pathTokens names ++ rest = .word w :: us := by
  obtain ⟨first, more, rfl⟩ := List.exists_cons_of_ne_nil hne
  cases more with
  | nil => exact ⟨_, _, rfl⟩
  | cons next more => exact ⟨_, _, rfl⟩

theorem reservedItem?_column {names : List Name}
    (hnames : ∀ name ∈ names, isOperandName d name = true) :
    reservedItem? (.column names) = none := by
  unfold reservedItem?
  split
  · rename_i text heq
    obtain rfl := Expr.column.inj heq
    rw [if_neg]
    intro hfrom
    exact keyword_of_isOperandName (hnames ⟨text, none⟩ (by simp)) hfrom (by decide)
  · rfl

theorem IsPlain.phrase {c : ColumnRef} (h : c.IsPlain d depth) :
    ∃ ts e, Phrase d depth 0 c.sql ts e ∧ e.columnRef = .ok c ∧ reservedItem? e = none ∧
      ∃ w us, ts = .word w :: us := by
  cases c with
  | identifier text =>
      obtain ⟨names, hne, hnames, hlength, rfl⟩ := h
      obtain ⟨m, rfl⟩ : ∃ m, depth = m + 1 :=
        ⟨depth - 1, by have := List.length_pos_iff.mpr hne; omega⟩
      exact ⟨_, _, .column hne hnames hlength, rfl, reservedItem?_column hnames,
        by simpa using exists_head_word hne []⟩
  | call name args =>
      obtain ⟨names, k, hne, hnames, hlength, rfl, hargs⟩ := h
      rcases hargs with ⟨hk, rfl⟩ | ⟨pieces, rfl, hpieces⟩
      · have hphrase : Phrase d (names.length + (k - 1) + 1) 0 _ _ _ :=
          .callOfAll hne hnames rfl
        exact ⟨_, _, hphrase.mono (by omega) (Nat.le_refl 0), columnRef_plainCall names ["*"], rfl,
          exists_head_word hne _⟩
      · have hpos := List.length_pos_iff.mpr hne
        have hphrase : Phrase d (names.length + k - 1 + 1) 0 _ _ _ :=
          .call hne hnames (by omega) fun piece hpiece => (hpieces piece hpiece).1
        have htexts : (pieces.map fun piece => Argument.plain piece.expr.sql) =
            (pieces.map Piece.text).map .plain := by
          rw [List.map_map]
          exact List.map_congr_left fun piece hpiece => by rw [(hpieces piece hpiece).2]; rfl
        have hsql : (call (Name.pathSql names) (pieces.map fun piece => .identifier piece.text)).sql =
            Name.pathSql names ++ Text.parenthesized (Text.listed (pieces.map Piece.text)) := by
          simp [sql, sqlList_eq_map, Function.comp_def]
        rw [hsql]
        refine ⟨_, _, hphrase.mono (by omega) (Nat.le_refl 0), ?_, rfl, exists_head_word hne _⟩
        rw [htexts, columnRef_plainCall, List.map_map]
        rfl

end ColumnRef

end SelectTree
