import SelectTree.Edit.Projection
import SelectTree.Proofs.TreeReading
import SelectTree.Sql.Parse

namespace SelectTree

open Sql Sql.Grammar Sql.Parser

/-! Printed queries, read back. -/

variable {d : Dialect}

/-! Statements -/

theorem statement_select {us : List Token} {query : Query} {m : Nat}
    (hread : Grammar.query d (nestedAt d m) (Keyword.SELECT.token :: us) = .ok (query, [])) :
    (nestedAt d (m + 2)).statement (Keyword.SELECT.token :: us) = .ok (.query query, []) := by
  have hstatement : (nestedAt d (m + 2)).statement =
      statement d ((nestedAt d (m + 1)).within .plain) :=
    rfl
  have hopens : peekAny opensQuery (Keyword.SELECT.token :: us) =
      .ok (true, Keyword.SELECT.token :: us) := by
    have hselect : opensQuery Keyword.SELECT.token = true := by decide +kernel
    simp [peekAny, hselect]
  rw [hstatement, within_plain]
  simp only [statement, run_bind, hopens, if_true, nestedAt_query, hread, run_pure]

def statementStep (n : Nested) : List Statement × Bool →
    Parser (List Statement × Bool ⊕ List Statement)
  | (read, separated) => do
      if ← accept .semicolon then return .inl (read, true)
      else
        match ← peek with
        | none => return .inr read.reverse
        | some t =>
            if !separated && t.keyword = some .END then return .inr read.reverse
            else if !separated then expected .endOfStatement
            else
              let s ← n.statement
              return .inl (s :: read, false)

theorem statements_eq (n : Nested) : statements n = iterate (statementStep n) ([], true) :=
  rfl

theorem statements_of_one {n : Nested} {t : Token} {us : List Token} {s : Statement}
    (ht : t ≠ .symbol .semicolon) (hread : n.statement (t :: us) = .ok (s, [])) :
    statements n (t :: us) = .ok ([s], []) := by
  have hfirst : statementStep n ([], true) (t :: us) = .ok (.inl ([s], false), []) := by
    have hsemicolon : accept .semicolon (t :: us) = .ok (false, t :: us) := by
      simp [accept, ht]
    simp [statementStep, hsemicolon, peek, hread]
  have hlast : statementStep n ([s], false) [] = .ok (.inr [s], []) := rfl
  rw [statements_eq]
  exact (Runs.more hfirst (Nat.zero_lt_succ _) (.stop hlast)).iterate

/-- The layers that are left for a query in the one statement of a text. -/
def queryDepth : Nat := 48

/-- A text is read as the query that its tokens are read as. -/
theorem readStatements_of_reads {cs : List Char} {ts : List Token} {query : Query}
    (hlex : ∃ lexemes, lex d cs = .ok lexemes ∧ lexemes.map Lexeme.token = ts)
    (hstarts : ∃ us, ts = Keyword.SELECT.token :: us)
    (hread : Reads (Grammar.query d (nestedAt d queryDepth)) [.symbol .rparen] ts query) :
    readStatements d cs = .ok [.query query] := by
  obtain ⟨lexemes, hlex, htokens⟩ := hlex
  obtain ⟨us, rfl⟩ := hstarts
  have hread := hread [] (headIn_nil _)
  rw [List.append_nil] at hread
  have htext : text d (Keyword.SELECT.token :: us) = .ok ([.query query], []) :=
    statements_of_one nofun (statement_select hread)
  simp only [readStatements, hlex, htokens, htext]

theorem readStatements_of_isReadAs {q tree : Select} {ts : List Token} {query : Query}
    (h : q.IsReadAs d queryDepth ts query tree) :
    readStatements d q.sql.toList = .ok [.query query] :=
  readStatements_of_reads h.spells.lex h.starts (h.reads queryDepth (Nat.le_refl _))

/-! Queries -/

theorem Select.isBlankText_sql (q : Select) : Text.isBlankText q.sql = false := by
  obtain ⟨items, source, filter, groupBy, orderBy⟩ := q
  have hblank : "SELECT ".toList.all Text.isBlank = false := by decide
  simp only [sql_eq, Text.isBlankText, String.toList_append, List.all_append, hblank,
    Bool.false_and]

theorem validate_of_parse {text : String} {q : Select} (h : d.parse text = .ok (some q)) :
    q.validate = .ok () := by
  unfold Dialect.parse at h
  split at h
  · cases h
  · cases hstatements : d.parseStatements text with
    | error error => simp [hstatements, Except.map] at h
    | ok tree =>
        obtain rfl : tree = q := by simpa [hstatements, Except.map] using h
        unfold Dialect.parseStatements at hstatements
        obtain ⟨statements, -, hstatements⟩ := bind_eq_ok_iff.mp hstatements
        obtain ⟨tree', -, hstatements⟩ := bind_eq_ok_iff.mp hstatements
        obtain ⟨⟨⟩, hvalid, htree⟩ := bind_eq_ok_iff.mp hstatements
        obtain rfl := Except.ok.inj htree
        exact hvalid

theorem parseStatements_of_query {text : String} {query : Query} {tree : Select}
    (hread : readStatements d text.toList = .ok [.query query]) (htree : query.select = .ok tree)
    (hvalid : tree.validate = .ok ()) : d.parseStatements text = .ok tree := by
  refine bind_eq_ok_iff.mpr ⟨[.query query], mapError_eq_ok_iff.mpr hread, ?_⟩
  refine bind_eq_ok_iff.mpr ⟨tree, mapError_eq_ok_iff.mpr htree, ?_⟩
  exact bind_eq_ok_iff.mpr ⟨(), hvalid, rfl⟩

theorem Select.IsReadAs.parse_sql {q tree : Select} {ts : List Token} {query : Query}
    (h : q.IsReadAs d queryDepth ts query tree) (hvalid : tree.validate = .ok ()) :
    d.parse q.sql = .ok (some tree) := by
  have hstatements :=
    parseStatements_of_query (readStatements_of_isReadAs h) h.select_eq hvalid
  simp [Dialect.parse, isBlankText_sql, hstatements, Except.map]

theorem Select.validate_reread {q : Select} (h : q.validate = .ok ()) : q.reread.validate = .ok () :=
  validate_iff.mpr (check_reread q (validate_iff.mp h))

/-- The text of a well-formed query in plain words is read as the query. -/
theorem Select.parse_sql {q : Select} (hplain : q.IsPlain d queryDepth)
    (hvalid : q.validate = .ok ()) : d.parse q.sql = .ok (some q.reread) := by
  obtain ⟨ts, query, hread⟩ := Select.readable q hplain
  exact hread.parse_sql (validate_reread hvalid)

def answersWith (answer : Except Error (Option Select)) (q : Select) : Bool :=
  match answer with
  | .ok (some read) => read = q
  | _ => false

theorem eq_ok_of_answersWith {answer : Except Error (Option Select)} {q : Select}
    (h : answersWith answer q = true) : answer = .ok (some q) := by
  unfold answersWith at h
  split at h
  · rw [of_decide_eq_true h]
  · cases h

def soldItems : Select :=
  ⟨[.identifier "o.id", .call "count" [.identifier "*"]],
    .naturalJoin (.table "orders" (some "o")) (.table "items" none),
    some (.and (.test (.compare "price" .le (.number "9.5"))) (.test (.like "name" (.string "it's%")))),
    [.identifier "id"], [⟨.identifier "id", some false⟩]⟩

theorem isPlain_soldItems : soldItems.IsPlain .generic queryDepth := by
  have hid : IsPlainColumn .generic queryDepth "id" :=
    ⟨[⟨"id", none⟩], by decide, by decide +kernel, by decide, rfl⟩
  refine ⟨⟨List.cons_ne_nil _ _, ?_⟩, ?_, ?_, ?_, ?_⟩
  · intro item hmem
    simp only [List.mem_cons, List.not_mem_nil, or_false] at hmem
    rcases hmem with rfl | rfl
    · exact .inl ⟨[⟨"o", none⟩, ⟨"id", none⟩], by decide, by decide +kernel, by decide, rfl⟩
    · exact .inl ⟨[⟨"count", none⟩], 1, by decide, by decide +kernel, by decide, rfl,
        .inl ⟨by decide, rfl⟩⟩
  · refine ⟨⟨rfl, ⟨⟨"orders", none⟩, [], by decide +kernel, nofun, rfl⟩, ?_⟩,
      ⟨rfl, by decide, ⟨⟨"items", none⟩, [], by decide +kernel, nofun, rfl⟩, nofun⟩⟩
    intro text htext
    obtain rfl := Option.some.inj htext
    decide +kernel
  · intro p hp
    obtain rfl := Option.some.inj hp
    refine ⟨⟨by decide, ⟨[⟨"price", none⟩], by decide, by decide +kernel, by decide, rfl⟩, ?_⟩,
      ⟨by decide, ⟨[⟨"name", none⟩], by decide, by decide +kernel, by decide, rfl⟩, ?_⟩⟩
    · exact .inl (by decide +kernel)
    · exact (by decide +kernel : isPlainText .generic "it's%" = true)
  · intro key hkey
    obtain rfl := List.mem_singleton.mp hkey
    exact hid
  · intro key hkey
    obtain rfl := List.mem_singleton.mp hkey
    exact hid

end SelectTree
