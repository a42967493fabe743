import SelectTree.Proofs.ListedItems

namespace SelectTree

open Sql Sql.Grammar

/-! Plain identifiers: words without quotes that are read as names wherever the name of a column or
of a table may stand. -/

variable {d : Dialect} {text : String}

/-! Reserved words -/

/-- The words that open the name of a type that may go on after them, in capitals. -/
def typeWords : List String :=
  wholeTypes ++ sizedTypes ++ scaledTypes ++ signableTypes ++
    ["REAL", "DOUBLE", "VARCHAR", "NVARCHAR", "CHARACTER", "CHAR", "VARBINARY", "BIT", "DATETIME64",
      "TIMESTAMP", "TIME", "FIXEDSTRING", "ENUM", "ENUM8", "ENUM16", "SET", "SIGNED", "UNSIGNED",
      "TSVECTOR", "TSQUERY", "STRUCT", "UNION", "NULLABLE", "LOWCARDINALITY", "MAP", "NESTED",
      "TUPLE", "INTERVAL", "ARRAY", "TABLE", "ANY"]

/-- The keywords that are read as more than a name where a column or a table may stand, in
capitals. -/
def reservedWords : List String :=
  (constantKeywords ++ openingKeywords ++ sourceKeywords).map Keyword.spelling ++ typeWords ++
    shapes ++ changeWords

theorem spelling_of_ofText? {k : Keyword} (h : Keyword.ofText? text = some k) :
    k.spelling = Keyword.capitals text := by
  simpa using List.find?_some h

theorem knownType?_eq_none {capitals : String} (h : capitals ∉ typeWords)
    (hplain : plainTypes.lookup capitals = none) : knownType? d capitals = none := by
  simp only [typeWords, List.mem_append, not_or] at h
  obtain ⟨⟨⟨⟨hwhole, hsized⟩, hscaled⟩, hsignable⟩, hothers⟩ := h
  unfold knownType?
  simp only [hplain, List.contains_iff_mem, hwhole, hsized, hscaled, hsignable, if_false]
  split
  all_goals first
    | rfl
    | exact absurd (by decide) hothers

theorem opensType_eq_false {capitals : String} (h : capitals ∉ typeWords) :
    opensType d capitals = false := by
  have hothers : capitals ∉ ["STRUCT", "UNION", "NULLABLE", "LOWCARDINALITY", "MAP", "NESTED",
      "TUPLE", "INTERVAL", "ARRAY", "TABLE", "ANY"] :=
    fun hmem => h (by simp_all [typeWords])
  cases hplain : plainTypes.lookup capitals with
  | some printed => simp [opensType, hplain, hothers]
  | none => simp [opensType, knownType?_eq_none h hplain, hothers]

/-- A word that is no reserved one is read as a name in every place. -/
theorem opensNothing_of_not_mem (h : Keyword.capitals text ∉ reservedWords) :
    opensNothing d text = true ∧ opensSource text = false := by
  simp only [reservedWords, List.mem_append, not_or] at h
  obtain ⟨⟨⟨hkeywords, htypes⟩, hshapes⟩, hchanges⟩ := h
  have hkeyword : ∀ k, Keyword.ofText? text = some k →
      k ∉ constantKeywords ++ openingKeywords ++ sourceKeywords := by
    intro k hk hmem
    rw [← spelling_of_ofText? hk] at hkeywords
    exact hkeywords (List.mem_map.mpr ⟨k, hmem, rfl⟩)
  constructor
  · refine opensNothing_iff.mpr ⟨?_, opensType_eq_false htypes, hshapes⟩
    exact fun k hk hmem => hkeyword k hk (List.mem_append_left _ hmem)
  · cases hk : Keyword.ofText? text with
    | none => simp [opensSource, hk, hchanges]
    | some k =>
        have hsource : k ∉ sourceKeywords :=
          fun hmem => hkeyword k hk (List.mem_append_right _ hmem)
        simp [opensSource, hk, hsource, hchanges]

/-! Identifiers -/

/-- One word without quotes that is no reserved one. -/
structure IsPlainIdentifier (d : Dialect) (text : String) : Prop where
  word : isWordText d text = true
  unreserved : Keyword.capitals text ∉ reservedWords

theorem isPlainIdentifier_iff :
    IsPlainIdentifier d text ↔ isWordText d text = true ∧ Keyword.capitals text ∉ reservedWords :=
  ⟨fun ⟨hword, hfree⟩ => ⟨hword, hfree⟩, fun ⟨hword, hfree⟩ => ⟨hword, hfree⟩⟩

instance (d : Dialect) (text : String) : Decidable (IsPlainIdentifier d text) :=
  decidable_of_iff' _ isPlainIdentifier_iff

theorem not_mem_of_isWordText {c : Char} (h : isWordText d text = true)
    (hopens : opensWord d c = false) (hpart : d.isWordPart c = false) : c ∉ text.toList := by
  intro hmem
  unfold isWordText at h
  cases hchars : text.toList with
  | nil => simp [hchars] at hmem
  | cons first more =>
      simp only [hchars, Bool.and_eq_true] at h hmem
      rcases List.mem_cons.mp hmem with rfl | hmem
      · rw [hopens] at h
        cases h.1
      · rw [List.all_eq_true.mp h.2 c hmem] at hpart
        cases hpart

theorem isPlainName_of_isWordText (h : isWordText d text = true) : IsPlainName text := by
  refine ⟨?_, not_mem_of_isWordText h ?_ (isWordPart_of_mem_ends (by simp)), ?_⟩
  · rintro rfl
    cases h
  · cases d <;> decide
  · rintro rfl
    revert h
    cases d <;> decide

namespace IsPlainIdentifier

theorem isOperandName (h : IsPlainIdentifier d text) :
    Grammar.isOperandName d ⟨text, none⟩ = true := by
  have hopens := (opensNothing_of_not_mem (d := d) h.unreserved).1
  simp [Grammar.isOperandName, Name.isWord, h.word, hopens]

theorem isTableName (h : IsPlainIdentifier d text) : Grammar.isTableName d ⟨text, none⟩ = true := by
  have hopens := (opensNothing_of_not_mem (d := d) h.unreserved).2
  simp [Grammar.isTableName, Name.isWord, h.word, hopens]

theorem isPlainName (h : IsPlainIdentifier d text) : IsPlainName text :=
  isPlainName_of_isWordText h.word

theorem hasFullSegments (h : IsPlainIdentifier d text) : SelectTree.hasFullSegments text = true :=
  have hdotless : IsDotless text := ⟨h.isPlainName.ne_empty, h.isPlainName.dotless⟩
  hdotless.hasFullSegments

theorem isTableText (h : IsPlainIdentifier d text) : Source.IsTableText d text := by
  have hfactor : IsFactor d queryDepth (Source.table (Name.pathSql [⟨text, none⟩]) none).sql
      (Name.pathTokens [⟨text, none⟩] ++ aliasTokens none)
      (.table [⟨text, none⟩] [] none false (aliasOf none) []) :=
    Source.isFactor_table h.isTableName (fun _ hname => by cases hname) fun _ hname => by cases hname
  have htext : (Source.table (Name.pathSql [⟨text, none⟩]) none).sql = text := by
    simp [Source.sql, Source.asSql, Name.pathSql, Name.sql]
  rw [htext] at hfactor
  exact ⟨_, _, hfactor, Source.source_tableFactor [⟨text, none⟩] none⟩

end IsPlainIdentifier

/-! References -/

/-- Whether a text is an identifier, with another one and a dot before it perhaps. -/
def isPlainReference (d : Dialect) (text : String) : Bool :=
  match Text.splitLast '.' text.toList with
  | some (table, column) =>
      decide (IsPlainIdentifier d (String.ofList table) ∧ IsPlainIdentifier d (String.ofList column))
  | none => decide (IsPlainIdentifier d text)

theorem isPlainReference_cases (h : isPlainReference d text = true) :
    IsPlainIdentifier d text ∨ ∃ table column, IsPlainIdentifier d table ∧
      IsPlainIdentifier d column ∧ text = table ++ "." ++ column := by
  unfold isPlainReference at h
  split at h
  · rename_i table column hsplit
    obtain ⟨htable, hcolumn⟩ := of_decide_eq_true h
    refine .inr ⟨_, _, htable, hcolumn, ?_⟩
    rw [← String.toList_inj, (Text.eq_append_of_splitLast hsplit).1]
    simp
  · exact .inl (of_decide_eq_true h)

theorem isPlainColumn_of_isPlainReference (h : isPlainReference d text = true) {depth : Nat}
    (hdepth : 1 < depth) : IsPlainColumn d depth text := by
  rcases isPlainReference_cases h with h | ⟨table, column, htable, hcolumn, rfl⟩
  · exact ⟨[⟨text, none⟩], List.cons_ne_nil _ _, by simpa using h.isOperandName,
      Nat.le_of_lt hdepth, rfl⟩
  · exact ⟨[⟨table, none⟩, ⟨column, none⟩], List.cons_ne_nil _ _,
      by simpa using ⟨htable.isOperandName, hcolumn.isOperandName⟩, hdepth, rfl⟩

theorem hasFullSegments_of_isPlainReference (h : isPlainReference d text = true) :
    hasFullSegments text = true := by
  rcases isPlainReference_cases h with h | ⟨table, column, htable, hcolumn, rfl⟩
  · exact h.hasFullSegments
  · have htable := htable.hasFullSegments
    have hcolumn := hcolumn.hasFullSegments
    have hchars : (table ++ "." ++ column).toList = table.toList ++ '.' :: column.toList := by
      simp
    rw [hasFullSegments] at htable hcolumn ⊢
    rw [hchars, Text.segments_append, List.all_append, htable, hcolumn]
    rfl

/-! Catalogs -/

/-- A catalog of tables with columns, all named by identifiers. -/
def Schema.HasPlainIdentifiers (d : Dialect) (schema : Schema) : Prop :=
  ∀ table ∈ schema.tables, table.columns ≠ [] ∧ IsPlainIdentifier d table.name ∧
    ∀ column ∈ table.columns, IsPlainIdentifier d column.name

instance (d : Dialect) (schema : Schema) : Decidable (schema.HasPlainIdentifiers d) :=
  inferInstanceAs (Decidable (∀ table ∈ schema.tables, table.columns ≠ [] ∧
    IsPlainIdentifier d table.name ∧ ∀ column ∈ table.columns, IsPlainIdentifier d column.name))

namespace Schema.HasPlainIdentifiers

variable {schema : Schema} {table name : String}

theorem isPlain (identifiers : schema.HasPlainIdentifiers d) : schema.IsPlain where
  tableNames := fun table htable => (identifiers table htable).2.1.isPlainName
  filled := fun table htable => (identifiers table htable).1
  columns := fun table htable column hcolumn =>
    ((identifiers table htable).2.2 column hcolumn).isPlainName

theorem isTableText (identifiers : schema.HasPlainIdentifiers d) (h : name ∈ schema.tableNames) :
    Source.IsTableText d name := by
  obtain ⟨table, htable, rfl⟩ := List.mem_map.mp h
  exact (identifiers table htable).2.1.isTableText

theorem readsChains (identifiers : schema.HasPlainIdentifiers d) : Edit.ReadsChains d schema :=
  Edit.readsChains_of_isTableText identifiers.isPlain fun _ => identifiers.isTableText

theorem columnName (identifiers : schema.HasPlainIdentifiers d)
    (h : name ∈ schema.columnNames table) :
    IsPlainIdentifier d table ∧ IsPlainIdentifier d name := by
  obtain ⟨found, hfound, rfl, column, hcolumn, rfl⟩ := Edit.exists_of_mem_columnNames h
  exact ⟨(identifiers found hfound).2.1, (identifiers found hfound).2.2 column hcolumn⟩

theorem isPlainItem (identifiers : schema.HasPlainIdentifiers d) {item : ColumnRef}
    (h : Edit.IsListed schema item) {depth : Nat} (hdepth : 0 < depth) :
    IsPlainItem d depth item := by
  cases h with
  | wildcard => exact .inr (.inl rfl)
  | @star table h =>
      obtain ⟨name, hname⟩ := List.exists_mem_of_ne_nil _ h
      have htable := (identifiers.columnName hname).1.isOperandName
      exact .inr (.inr ⟨[⟨table, none⟩], List.cons_ne_nil _ _, by simpa using htable, rfl⟩)
  | @column table name h =>
      have hname := (identifiers.columnName h).2.isOperandName
      exact .inl ⟨[⟨name, none⟩], List.cons_ne_nil _ _, by simpa using hname, hdepth, rfl⟩

end Schema.HasPlainIdentifiers

end SelectTree
