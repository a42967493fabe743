import SelectTree.Proofs.NeededTables
import SelectTree.Proofs.PlainIdentifiers
import SelectTree.Proofs.SuppliedColumns
import SelectTree.Proofs.WordChains

namespace SelectTree

/-! Arguments of calls. A call keeps the tables that its arguments are read from, while a call
among its arguments, which is kept as a text, keeps none. -/

/-! Columns that a call reads -/

namespace ColumnRef

variable {x text name : String} {c : ColumnRef} {args : List ColumnRef}

/-- A column stands, qualified or not, among the arguments of a call, or of a call among these,
which may be there as a tree or as its text. -/
inductive Reads (x : String) : ColumnRef → Prop
  | argument {name text : String} {args : List ColumnRef} (h : .identifier text ∈ args)
      (hname : projectedName text = x) : Reads x (.call name args)
  | inner {name : String} {args : List ColumnRef} {c : ColumnRef} (h : c ∈ args)
      (reads : Reads x c) : Reads x (.call name args)
  | written {name text : String} {args : List ColumnRef} {c : ColumnRef}
      (h : .identifier text ∈ args) (htext : c.sql = text) (reads : Reads x c) :
      Reads x (.call name args)

/-- No argument is a text with a parenthesis in it. -/
def IsFlat (c : ColumnRef) : Prop :=
  ∀ x ∈ c.argumentColumns, '(' ∉ x.toList

instance (c : ColumnRef) : Decidable c.IsFlat :=
  inferInstanceAs (Decidable (∀ x ∈ c.argumentColumns, '(' ∉ x.toList))

theorem mem_argumentColumns_call :
    x ∈ (call name args).argumentColumns ↔
      (∃ text, .identifier text ∈ args ∧ projectedName text = x) ∨
        ∃ c ∈ args, x ∈ c.argumentColumns := by
  rw [argumentColumns]
  induction args with
  | nil => simp [argumentColumnsList]
  | cons first rest ih =>
      cases first with
      | identifier text =>
          simp [argumentColumnsList, ih, argumentColumns, or_and_right, exists_or, or_assoc,
            eq_comm (a := x)]
      | call name args =>
          simp [argumentColumnsList, ih, or_left_comm]

theorem Reads.paren_mem_sql (h : Reads x c) : '(' ∈ c.sql.toList := by
  cases h <;> simp [sql, Text.parenthesized]

/-- In a flat call no call is hidden in a text, so that every column it reads is seen. -/
theorem Reads.mem_argumentColumns (h : Reads x c) (flat : c.IsFlat) : x ∈ c.argumentColumns := by
  induction h with
  | argument h hname => exact mem_argumentColumns_call.mpr (.inl ⟨_, h, hname⟩)
  | @inner name args c h _ ih =>
      have hsub : ∀ y ∈ c.argumentColumns, y ∈ (call name args).argumentColumns :=
        fun y hy => mem_argumentColumns_call.mpr (.inr ⟨c, h, hy⟩)
      exact hsub x (ih fun y hy => flat y (hsub y hy))
  | @written name text args c h htext hreads ih =>
      have hparen : '(' ∈ text.toList := htext ▸ hreads.paren_mem_sql
      have hwhole : projectedName text = text := by simp [projectedName, hparen]
      exact absurd hparen (flat text (mem_argumentColumns_call.mpr (.inl ⟨text, h, hwhole⟩)))

end ColumnRef

/-! Catalogs of words -/

/-- A catalog whose tables and columns are named by words. -/
def Schema.HasWordNames (d : Sql.Dialect) (schema : Schema) : Prop :=
  ∀ table ∈ schema.tables, Sql.isWordText d table.name = true ∧
    ∀ column ∈ table.columns, Sql.isWordText d column.name = true

instance (d : Sql.Dialect) (schema : Schema) : Decidable (schema.HasWordNames d) :=
  inferInstanceAs (Decidable (∀ table ∈ schema.tables, Sql.isWordText d table.name = true ∧
    ∀ column ∈ table.columns, Sql.isWordText d column.name = true))

namespace Schema.HasWordNames

variable {d : Sql.Dialect} {schema : Schema} {table name : String}

theorem hasPlainColumns (words : schema.HasWordNames d) : schema.HasPlainColumns :=
  fun table htable column hcolumn =>
    isPlainName_of_isWordText ((words table htable).2 column hcolumn)

theorem columnName (words : schema.HasWordNames d) (h : name ∈ schema.columnNames table) :
    Sql.isWordText d table = true ∧ Sql.isWordText d name = true := by
  obtain ⟨found, hfound, rfl, column, hcolumn, rfl⟩ := Edit.exists_of_mem_columnNames h
  exact ⟨(words found hfound).1, (words found hfound).2 column hcolumn⟩

theorem paren_not_mem (words : schema.HasWordNames d) (h : name ∈ schema.columnNames table) :
    '(' ∉ name.toList :=
  not_mem_of_isWordText (words.columnName h).2 (by cases d <;> decide)
    (Sql.isWordPart_of_mem_ends (by simp))

end Schema.HasWordNames

namespace Edit

variable {schema : Schema} {options : Options} {q edited : Select} {text column table x : String}
  {columns : List String}

/-! Tables that stay -/

/-- Every table that is kept where a `FROM` tree is read anew has some column. -/
theorem exists_columnName_of_isReread (h : isReread schema q columns = true)
    (hmem : table ∈ neededTables schema q columns) : ∃ name, name ∈ schema.columnNames table := by
  have htable := (neededTables_sublist schema q columns).mem hmem
  rcases (mem_neededTables_iff htable).mp hmem with hneeded | hnone
  · obtain ⟨name, -, hname⟩ := exists_mem_of_isNeeded hneeded
    exact ⟨name, hname⟩
  · -- Where no table is needed, all of them are kept, and nothing is read anew.
    have hall : q.tables.filter (!(neededTables schema q columns).contains ·) = [] := by
      rw [List.filter_eq_nil_iff]
      intro other hother
      simpa using (mem_neededTables_iff hother).mpr (.inr hnone)
    rw [isReread, hall] at h
    cases h

/-- The columns that a query names without one column, other than by texts with a parenthesis in
them. -/
def namedColumns (schema : Schema) (q : Select) (column : String) : List String :=
  (references (withoutColumn q column) (remaining schema q column)).filter ('(' ∉ ·.toList)

/-- The tables that these columns need, or all tables if they need none. -/
def namedTables (schema : Schema) (q : Select) (column : String) : List String :=
  let needed := tablesForWithin schema (namedColumns schema q column) q.tables
  if needed.isEmpty then q.tables else needed

/-- Texts with a parenthesis in them are no columns, and keep no table. -/
theorem neededTables_eq_namedTables (words : schema.HasWordNames options.dialect) :
    neededTables schema (withoutColumn q column) (remaining schema q column) =
      namedTables schema q column := by
  have hsame : tablesForWithin schema
      (references (withoutColumn q column) (remaining schema q column)) q.tables =
        tablesForWithin schema (namedColumns schema q column) q.tables := by
    apply tablesForWithin_congr_of_columnNames
    intro table x hx
    have hparen := words.paren_not_mem hx
    simp [namedColumns, hparen]
  have htables : (withoutColumn q column).tables = q.tables := rfl
  rw [neededTables, namedTables, htables, hsame]

theorem mem_tables_unprojectColumn (words : schema.HasWordNames options.dialect)
    (h : unprojectColumn schema options q text = .ok edited) :
    table ∈ edited.tables ↔ table ∈ namedTables schema q (projectedName text) := by
  obtain ⟨pruned, hpruned, rfl⟩ := unprojectColumn_eq_ok h
  rw [← neededTables_eq_namedTables words]
  refine mem_tables_pruneTables_of_reread (fun hreread source hread => ?_) hpruned
  refine (isLeftChain_of_readChain hread fun name hname => ?_).tableNames_eq
  obtain ⟨column, hcolumn⟩ := exists_columnName_of_isReread hreread hname
  exact (words.columnName hcolumn).1

theorem mem_mentioned_of_argument {c : ColumnRef} (h : c ∈ q.items ++ keys q)
    (hx : x ∈ c.argumentColumns) : x ∈ mentioned schema q := by
  rw [mem_mentioned]
  rcases List.mem_append.mp h with hitem | hkey
  · exact .inr (.inr (.inr (.inl ⟨c, hitem, hx⟩)))
  · exact .inr (.inr (.inr (.inr ⟨c, hkey, hx⟩)))

theorem isSupplied_namedTables (words : schema.HasWordNames options.dialect)
    (h : unprojectColumn schema options q text = .ok edited) (hx : x ∈ mentioned schema edited)
    (hsupplied : IsSupplied schema q.tables x) :
    IsSupplied schema (namedTables schema q (projectedName text)) x := by
  have hreferred := mem_references_of_mentioned words.hasPlainColumns h hx
  have htables : (withoutColumn q (projectedName text)).tables = q.tables := rfl
  rw [← neededTables_eq_namedTables words]
  exact isSupplied_neededTables hreferred (htables ▸ hsupplied)

/-- Flights, and something of the names of their carriers in capitals. -/
def capitalFlights (argument : ColumnRef) : Select :=
  .new [.identifier "id", .identifier "carrier_id", .call "upper" [argument]]
    (.naturalJoin (.bare "flights") (.bare "carriers"))

end Edit

end SelectTree
