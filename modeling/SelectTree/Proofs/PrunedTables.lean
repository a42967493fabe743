import SelectTree.Edit.Projection
import SelectTree.Proofs.Sources

namespace SelectTree.Edit

/-! Pruned tables: which tables a query needs for its columns, and what is left of its `FROM`
tree without the others. -/

variable {schema : Schema} {options : Options} {q edited : Select}
  {columns candidates stale : List String}

/-! Needed tables -/

/-- Those of the columns that a table has, in the order of the table. -/
def supplied (schema : Schema) (columns : List String) (table : String) : List String :=
  (schema.columnNames table).filter (columns.contains ·)

theorem contributions_cons (table : String) (rest : List String) :
    contributions schema columns (table :: rest) =
      if supplied schema columns table = [] then contributions schema columns rest
      else (table, supplied schema columns table) :: contributions schema columns rest := by
  unfold contributions supplied
  rw [List.map_cons, List.filter_cons]
  split
  · rename_i h
    rw [if_neg (by simpa using h)]
  · rename_i h
    rw [if_pos (by simpa using h)]

/-- A table among the candidates brings several columns, or one that is not supplied yet and
that no candidate before it brings alone. -/
def IsUseful (schema : Schema) (columns : List String) (done : List String)
    (candidates : List String) (table : String) : Prop :=
  ∃ before after, candidates = before ++ table :: after ∧
    (1 < (supplied schema columns table).length ∨
      ∃ name, supplied schema columns table = [name] ∧ name ∉ done ∧
        ∀ other ∈ before, supplied schema columns other ≠ [name])

theorem isUseful_cons_iff {done : List String} {first table : String} {rest : List String} :
    IsUseful schema columns done (first :: rest) table ↔
      table = first ∧ (1 < (supplied schema columns first).length ∨
        ∃ name, supplied schema columns first = [name] ∧ name ∉ done) ∨
      ∃ before after, rest = before ++ table :: after ∧
        (1 < (supplied schema columns table).length ∨
          ∃ name, supplied schema columns table = [name] ∧ name ∉ done ∧
            supplied schema columns first ≠ [name] ∧
            ∀ other ∈ before, supplied schema columns other ≠ [name]) := by
  constructor
  · rintro ⟨before, after, heq, huseful⟩
    cases before with
    | nil =>
        obtain ⟨rfl, rfl⟩ := List.cons.inj heq
        refine .inl ⟨rfl, huseful.imp_right ?_⟩
        rintro ⟨name, hname, hdone, -⟩
        exact ⟨name, hname, hdone⟩
    | cons head before =>
        obtain ⟨rfl, rfl⟩ := List.cons.inj heq
        refine .inr ⟨before, after, rfl, huseful.imp_right ?_⟩
        rintro ⟨name, hname, hdone, hbefore⟩
        exact ⟨name, hname, hdone, List.forall_mem_cons.mp hbefore⟩
  · rintro (⟨rfl, huseful⟩ | ⟨before, after, rfl, huseful⟩)
    · refine ⟨[], rest, rfl, huseful.imp_right ?_⟩
      rintro ⟨name, hname, hdone⟩
      exact ⟨name, hname, hdone, fun _ hother => by cases hother⟩
    · refine ⟨first :: before, after, rfl, huseful.imp_right ?_⟩
      rintro ⟨name, hname, hdone, hbefore⟩
      exact ⟨name, hname, hdone, List.forall_mem_cons.mpr hbefore⟩

theorem mem_keepUseful_iff {done : List String} {table : String} :
    table ∈ keepUseful done (contributions schema columns candidates) ↔
      IsUseful schema columns done candidates table := by
  induction candidates generalizing done with
  | nil =>
      constructor
      · intro h
        cases h
      · rintro ⟨before, after, heq, -⟩
        simp at heq
  | cons first rest ih =>
      rw [isUseful_cons_iff, contributions_cons]
      cases hfirst : supplied schema columns first with
      | nil => simp [ih, IsUseful]
      | cons name names =>
          rw [if_neg (List.cons_ne_nil name names)]
          cases names with
          | nil =>
              have hlength : ¬ 1 < [name].length := by simp
              by_cases hdone : name ∈ done
              · have hskip : ∀ other, other ∉ done → [name] ≠ [other] := by
                  rintro other hother heq
                  cases heq
                  exact hother hdone
                have hfirst : ¬ ∃ other, [name] = [other] ∧ other ∉ done :=
                  fun ⟨other, heq, hother⟩ => hskip other hother heq
                rw [keepUseful, if_pos (by simpa using hdone), ih]
                simp only [hlength, hfirst, or_self, and_false, false_or, IsUseful]
                constructor
                · rintro ⟨before, after, heq, huseful⟩
                  refine ⟨before, after, heq, huseful.imp_right ?_⟩
                  rintro ⟨other, hname, hother, hbefore⟩
                  exact ⟨other, hname, hother, hskip other hother, hbefore⟩
                · rintro ⟨before, after, heq, huseful⟩
                  refine ⟨before, after, heq, huseful.imp_right ?_⟩
                  rintro ⟨other, hname, hother, -, hbefore⟩
                  exact ⟨other, hname, hother, hbefore⟩
              · have hnew : ∀ other, other ∉ name :: done ↔ other ∉ done ∧ [name] ≠ [other] := by
                  intro other
                  simp [and_comm, eq_comm]
                have hfirst : ∃ other, [name] = [other] ∧ other ∉ done := ⟨name, rfl, hdone⟩
                rw [keepUseful, if_neg (by simpa using hdone), List.mem_cons, ih]
                simp only [hfirst, or_true, and_true, IsUseful, hnew, and_assoc]
          | cons second names =>
              simp [keepUseful, ih, IsUseful]

/-- The columns that come from tables which bring several of them. -/
def suppliedTogether (schema : Schema) (columns candidates : List String) : List String :=
  candidates.flatMap fun table =>
    if 1 < (supplied schema columns table).length then supplied schema columns table else []

theorem mem_suppliedTogether_iff {name : String} :
    name ∈ suppliedTogether schema columns candidates ↔
      ∃ table ∈ candidates, 1 < (supplied schema columns table).length ∧
        name ∈ supplied schema columns table := by
  rw [suppliedTogether, List.mem_flatMap]
  refine exists_congr fun table => and_congr_right fun _ => ?_
  split
  · rename_i hseveral
    exact (and_iff_right hseveral).symm
  · rename_i hlone
    exact iff_of_false List.not_mem_nil fun h => hlone h.1

theorem suppliedTogether_eq (schema : Schema) (columns candidates : List String) :
    ((contributions schema columns candidates).filter
      fun (_, names) => 1 < names.length).flatMap Prod.snd =
        suppliedTogether schema columns candidates := by
  induction candidates with
  | nil => rfl
  | cons first rest ih =>
      rw [contributions_cons, suppliedTogether, List.flatMap_cons, ← suppliedTogether, ← ih]
      cases hfirst : supplied schema columns first with
      | nil => simp
      | cons name names =>
          rw [if_neg (List.cons_ne_nil name names)]
          by_cases hlength : 1 < (name :: names).length
          · rw [List.filter_cons_of_pos (by simpa using hlength), List.flatMap_cons,
              if_pos hlength]
          · rw [List.filter_cons_of_neg (by simpa using hlength), if_neg hlength,
              List.nil_append]

/-- A table is needed if it brings several of the columns, or if it is the first to bring one
that no table with several of them brings. -/
def IsNeeded (schema : Schema) (candidates columns : List String) (table : String) : Prop :=
  IsUseful schema columns (suppliedTogether schema columns candidates) candidates table

theorem isNeeded_of_several {table : String} (hmem : table ∈ candidates)
    (hseveral : 1 < (supplied schema columns table).length) :
    IsNeeded schema candidates columns table := by
  obtain ⟨before, after, hsplit⟩ := List.append_of_mem hmem
  exact ⟨before, after, hsplit, .inl hseveral⟩

theorem mem_tablesForWithin_iff {table : String} :
    table ∈ tablesForWithin schema columns candidates ↔
      IsNeeded schema candidates columns table := by
  rw [tablesForWithin, suppliedTogether_eq, mem_keepUseful_iff, IsNeeded]

/-- What is needed depends on which columns of the catalog there are, not on their order, nor on
any other texts. -/
theorem tablesForWithin_congr_of_columnNames {others : List String}
    (h : ∀ table, ∀ x ∈ schema.columnNames table, (x ∈ columns ↔ x ∈ others)) :
    tablesForWithin schema columns candidates = tablesForWithin schema others candidates := by
  have hsame : contributions schema columns candidates =
      contributions schema others candidates := by
    unfold contributions
    congr 1
    apply List.map_congr_left
    intro table _
    congr 1
    apply List.filter_congr
    intro x hx
    rw [Bool.eq_iff_iff, List.contains_iff_mem, List.contains_iff_mem, h table x hx]
  rw [tablesForWithin, tablesForWithin, hsame]

theorem tablesForWithin_congr {others : List String} (h : ∀ x, x ∈ columns ↔ x ∈ others) :
    tablesForWithin schema columns candidates = tablesForWithin schema others candidates :=
  tablesForWithin_congr_of_columnNames fun _ x _ => h x

/-- Some of the tables has the column. -/
def IsSupplied (schema : Schema) (tables : List String) (name : String) : Prop :=
  ∃ table ∈ tables, name ∈ schema.columnNames table

theorem IsSupplied.mono {tables others : List String} {name : String}
    (h : IsSupplied schema tables name) (hsub : ∀ table ∈ tables, table ∈ others) :
    IsSupplied schema others name := by
  obtain ⟨table, htable, hname⟩ := h
  exact ⟨table, hsub table htable, hname⟩

theorem isSupplied_congr {tables others : List String} {name : String}
    (h : ∀ table, table ∈ tables ↔ table ∈ others) :
    IsSupplied schema tables name ↔ IsSupplied schema others name := by
  simp only [IsSupplied, h]

theorem mem_supplied {name table : String} :
    name ∈ supplied schema columns table ↔ name ∈ schema.columnNames table ∧ name ∈ columns := by
  simp [supplied]

/-- What the candidates have of the columns, the needed tables among them have. -/
theorem isSupplied_tablesForWithin {name : String} (hname : name ∈ columns)
    (h : IsSupplied schema candidates name) :
    IsSupplied schema (tablesForWithin schema columns candidates) name := by
  by_cases htogether : name ∈ suppliedTogether schema columns candidates
  · obtain ⟨table, htable, hseveral, hbrought⟩ := mem_suppliedTogether_iff.mp htogether
    exact ⟨table, mem_tablesForWithin_iff.mpr (isNeeded_of_several htable hseveral),
      (mem_supplied.mp hbrought).1⟩
  · -- No table brings it with others, so the first one that has it brings it alone.
    obtain ⟨table, hfound⟩ : ∃ table,
        candidates.find? (fun table => (schema.columnNames table).contains name) = some table := by
      obtain ⟨table, htable, hmem⟩ := h
      exact Option.isSome_iff_exists.mp
        (List.find?_isSome.mpr ⟨table, htable, List.contains_iff_mem.mpr hmem⟩)
    obtain ⟨hmem, before, after, rfl, hbefore⟩ := List.find?_eq_some_iff_append.mp hfound
    rw [List.contains_iff_mem] at hmem
    have hbrought : name ∈ supplied schema columns table := mem_supplied.mpr ⟨hmem, hname⟩
    have hlone : ¬ 1 < (supplied schema columns table).length := by
      intro hseveral
      exact htogether (mem_suppliedTogether_iff.mpr ⟨table, by simp, hseveral, hbrought⟩)
    have hsupplied : supplied schema columns table = [name] := by
      rcases hlist : supplied schema columns table with _ | ⟨first, _ | ⟨second, rest⟩⟩
      · rw [hlist] at hbrought
        cases hbrought
      · rw [hlist] at hbrought
        rw [List.mem_singleton.mp hbrought]
      · exact absurd (by simp [hlist]) hlone
    refine ⟨table, mem_tablesForWithin_iff.mpr ⟨before, after, rfl, .inr ⟨name, hsupplied,
      htogether, ?_⟩⟩, hmem⟩
    intro other hother hsame
    have hother' : name ∈ supplied schema columns other := hsame ▸ List.mem_singleton_self name
    have hnot := hbefore other hother
    rw [List.contains_iff_mem.mpr (mem_supplied.mp hother').1] at hnot
    cases hnot

theorem keepUseful_sublist (done : List String) (found : List (String × List String)) :
    (keepUseful done found).Sublist (found.map Prod.fst) := by
  induction found generalizing done with
  | nil => exact List.nil_sublist _
  | cons contribution rest ih =>
      rcases contribution with ⟨table, _ | ⟨name, _ | ⟨second, names⟩⟩⟩
      · exact (ih done).cons_cons table
      · rw [keepUseful]
        split
        · exact (ih done).cons table
        · exact (ih (name :: done)).cons_cons table
      · exact (ih done).cons_cons table

theorem tablesForWithin_sublist (schema : Schema) (columns candidates : List String) :
    (tablesForWithin schema columns candidates).Sublist candidates := by
  have hfound : ((contributions schema columns candidates).map Prod.fst).Sublist candidates := by
    have hfilter := (List.filter_sublist (p := fun contribution => !contribution.2.isEmpty)
      (l := candidates.map fun table =>
        (table, (schema.columnNames table).filter (columns.contains ·)))).map Prod.fst
    rwa [List.map_map, Function.comp_def, List.map_id'] at hfilter
  exact (keepUseful_sublist _ _).trans hfound

theorem neededTables_sublist (schema : Schema) (q : Select) (remaining : List String) :
    (neededTables schema q remaining).Sublist q.tables := by
  unfold neededTables
  dsimp only
  split
  · exact List.Sublist.refl _
  · exact tablesForWithin_sublist schema _ _

theorem isSupplied_neededTables {remaining : List String} {name : String}
    (hname : name ∈ references q remaining) (h : IsSupplied schema q.tables name) :
    IsSupplied schema (neededTables schema q remaining) name := by
  have hsupplied := isSupplied_tablesForWithin hname h
  unfold neededTables
  dsimp only
  split
  · exact h
  · exact hsupplied

theorem mem_neededTables_iff {remaining : List String} {table : String}
    (h : table ∈ q.tables) :
    table ∈ neededTables schema q remaining ↔
      IsNeeded schema q.tables (references q remaining) table ∨
        ∀ other, ¬ IsNeeded schema q.tables (references q remaining) other := by
  have hiff : ∀ other, other ∈ tablesForWithin schema (references q remaining) q.tables ↔
      IsNeeded schema q.tables (references q remaining) other := fun other =>
    mem_tablesForWithin_iff
  simp only [neededTables, ← hiff]
  split
  · rename_i hnone
    rw [List.isEmpty_iff] at hnone
    exact ⟨fun _ => .inr (by simp [hnone]), fun _ => h⟩
  · rename_i hsome
    rw [List.isEmpty_iff] at hsome
    obtain ⟨other, hother⟩ := List.exists_mem_of_ne_nil _ hsome
    exact ⟨.inl, fun hneeded => hneeded.resolve_right fun hnone => hnone other hother⟩

/-! Tables taken out -/

theorem replaceSource_source (q : Select) : q.replaceSource q.source = q := by
  cases q
  rfl

theorem foldlM_removeNaturalJoin_eq_ok
    (h : stale.foldlM Select.removeNaturalJoin q = .ok edited) :
    edited = q.replaceSource (stale.foldl (fun source table => source.prune table) q.source) := by
  induction stale generalizing q with
  | nil =>
      cases h
      exact (replaceSource_source _).symm
  | cons table rest ih =>
      rw [List.foldlM_cons] at h
      obtain ⟨pruned, hpruned, h⟩ := bind_eq_ok_iff.mp h
      obtain ⟨⟨⟩, -, heq⟩ := bind_eq_ok_iff.mp hpruned
      cases heq
      exact ih h

/-- Nothing but the `FROM` tree changes, and of its tables exactly the stale ones are gone. -/
theorem removeTables_eq_ok (h : removeTables q stale = .ok edited) :
    edited = q.replaceSource edited.source ∧
      edited.tables = q.tables.filter (!stale.contains ·) := by
  obtain ⟨pruned, hpruned, h⟩ := bind_eq_ok_iff.mp h
  have heq := foldlM_removeNaturalJoin_eq_ok hpruned
  dsimp only at h
  split at h
  · rename_i hstuck
    cases h
    refine ⟨by rw [heq]; rfl, ?_⟩
    rw [List.isEmpty_iff, List.filter_eq_nil_iff] at hstuck
    have hall : edited.tables.filter (!stale.contains ·) = edited.tables := by
      rw [List.filter_eq_self]
      intro table htable
      simpa using hstuck table htable
    rw [← hall, Select.tables, Select.tables, ← eraseDups_filter, ← eraseDups_filter, heq]
    congr 1
    exact Source.filter_tableNames_foldl_prune stale (by simp) q.source
  · cases h

theorem source_removeTables (h : removeTables q stale = .ok edited) :
    edited.source = stale.foldl (fun source table => source.prune table) q.source := by
  obtain ⟨pruned, hpruned, h⟩ := bind_eq_ok_iff.mp h
  dsimp only at h
  split at h
  · cases h
    rw [foldlM_removeNaturalJoin_eq_ok hpruned]
    rfl
  · cases h

/-- The tables that the columns of a query do not need. -/
def staleTables (schema : Schema) (q : Select) (remaining : List String) : List String :=
  q.tables.filter (!(neededTables schema q remaining).contains ·)

/-- A `FROM` tree loses its stale tables one after the other, unless it is a chain of natural
joins that is read anew. -/
theorem source_pruneTables {remaining : List String}
    (h : pruneTables schema options q remaining = .ok edited) :
    edited.source = (staleTables schema q remaining).foldl
        (fun source table => source.prune table) q.source ∨
      q.source.isNaturalChain = true ∧
        readChain options.dialect (neededTables schema q remaining) = .ok edited.source := by
  unfold staleTables
  simp only [pruneTables] at h
  split at h
  · rename_i hstale
    cases h
    rw [List.isEmpty_iff.mp hstale]
    exact .inl rfl
  · split at h
    · rename_i hreread
      rw [Bool.and_eq_true] at hreread
      obtain ⟨source, hread, rfl⟩ := map_eq_ok_iff.mp h
      exact .inr ⟨hreread.2, hread⟩
    · exact .inl (source_removeTables h)

/-- Holds of a query whose `FROM` tree is read anew, not pruned. -/
def isReread (schema : Schema) (q : Select) (remaining : List String) : Bool :=
  1 < (q.tables.filter (!(neededTables schema q remaining).contains ·)).length &&
    q.source.isNaturalChain

/-- The tables that a query reads when those that its columns do not need are gone. -/
def tablesLeft (schema : Schema) (options : Options) (q : Select) (remaining : List String) :
    List String :=
  if isReread schema q remaining then
    match readChain options.dialect (neededTables schema q remaining) with
    | .ok source => (q.replaceSource source).tables
    | .error _ => []
  else q.tables.filter ((neededTables schema q remaining).contains ·)

theorem filter_not_stale {needed : List String} :
    q.tables.filter (!(q.tables.filter (!needed.contains ·)).contains ·) =
      q.tables.filter (needed.contains ·) := by
  apply List.filter_congr
  intro table htable
  simp [htable]

theorem pruneTables_eq_ok {remaining : List String}
    (h : pruneTables schema options q remaining = .ok edited) :
    edited = q.replaceSource edited.source ∧
      edited.tables = tablesLeft schema options q remaining := by
  unfold tablesLeft isReread
  simp only [pruneTables] at h
  split at h
  · rename_i hstale
    cases h
    rw [List.isEmpty_iff] at hstale
    refine ⟨(replaceSource_source q).symm, ?_⟩
    rw [hstale, if_neg (by simp), ← filter_not_stale, hstale]
    exact (List.filter_eq_self.mpr (by simp)).symm
  · split at h
    · rename_i hreread
      rw [if_pos hreread]
      cases hread : readChain options.dialect (neededTables schema q remaining) with
      | error e =>
          rw [hread] at h
          cases h
      | ok source =>
          rw [hread] at h
          cases h
          exact ⟨rfl, rfl⟩
    · rename_i hreread
      rw [if_neg hreread, ← filter_not_stale]
      exact removeTables_eq_ok h

/-- Some of these names, in their order, are read as a `FROM` tree of just the tables so named. -/
def ReadsNames (d : Sql.Dialect) (names : List String) : Prop :=
  ∀ tables source, tables.Sublist names → readChain d tables = .ok source →
    source.tableNames = tables

theorem pruneTables_of_isReread {remaining : List String}
    (h : isReread schema q remaining = true) :
    pruneTables schema options q remaining =
      (readChain options.dialect (neededTables schema q remaining)).map q.replaceSource := by
  unfold isReread at h
  have hstale :
      ¬ (q.tables.filter (!(neededTables schema q remaining).contains ·)).isEmpty = true := by
    intro hnone
    rw [List.isEmpty_iff.mp hnone] at h
    cases h
  simp only [pruneTables]
  rw [if_neg hstale, if_pos h]

/-- The needed tables are what a pruned `FROM` tree is left with, provided that they are what is
read from their names where it is read anew. -/
theorem mem_tables_pruneTables_of_reread {remaining : List String}
    (reread : isReread schema q remaining = true → ∀ source,
      readChain options.dialect (neededTables schema q remaining) = .ok source →
        source.tableNames = neededTables schema q remaining)
    (h : pruneTables schema options q remaining = .ok edited) {table : String} :
    table ∈ edited.tables ↔ table ∈ neededTables schema q remaining := by
  cases hreread : isReread schema q remaining with
  | false =>
      have hsublist := neededTables_sublist schema q remaining
      rw [(pruneTables_eq_ok h).2, tablesLeft, hreread, if_neg Bool.false_ne_true,
        List.mem_filter, List.contains_iff_mem]
      exact ⟨And.right, fun hneeded => ⟨hsublist.mem hneeded, hneeded⟩⟩
  | true =>
      rw [pruneTables_of_isReread hreread] at h
      obtain ⟨source, hread, rfl⟩ := map_eq_ok_iff.mp h
      rw [Select.tables, List.mem_eraseDups, Select.replaceSource, reread hreread _ hread]

/-- However a `FROM` tree is pruned, the needed tables are what it is left with. -/
theorem mem_tables_pruneTables {remaining : List String}
    (reads : ReadsNames options.dialect q.tables)
    (h : pruneTables schema options q remaining = .ok edited) {table : String} :
    table ∈ edited.tables ↔ table ∈ neededTables schema q remaining :=
  mem_tables_pruneTables_of_reread
    (fun _ source => reads _ source (neededTables_sublist schema q remaining)) h

end SelectTree.Edit
