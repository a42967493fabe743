import SelectTree.Proofs.PrunedTables

namespace SelectTree

/-! Chains of natural joins: unaliased tables, joined one after the other from the left. -/

namespace Source

@[simp] theorem prune_bare (table name : String) : (bare name).prune table = bare name := rfl

/-- A tree of unaliased tables in this order, each joined naturally to all before it. -/
inductive IsLeftChain : Source → List String → Prop
  | single (table : String) : IsLeftChain (.bare table) [table]
  | join {source : Source} {names : List String} (h : IsLeftChain source names) (table : String) :
      IsLeftChain (.naturalJoin source (.bare table)) (names ++ [table])

namespace IsLeftChain

variable {source : Source} {names : List String} {table : String}

theorem ne_nil (h : IsLeftChain source names) : names ≠ [] := by
  cases h with
  | single table => exact List.cons_ne_nil table []
  | join h table => simp

theorem tableNames_eq (h : IsLeftChain source names) : source.tableNames = names := by
  induction h with
  | single table => rfl
  | join h table ih =>
      rw [tableNames, ih]
      rfl

theorem isNaturalChain_eq (h : IsLeftChain source names) : source.isNaturalChain = true := by
  induction h with
  | single table => rfl
  | join h table ih =>
      rw [isNaturalChain, ih]
      rfl

theorem tableName_eq_some_iff (h : IsLeftChain source names) :
    source.tableName = some table ↔ names = [table] := by
  cases h with
  | single other => simp [bare, tableName]
  | join h other =>
      have hne := h.ne_nil
      simp [tableName, List.append_eq_singleton_iff, hne]

/-- A table is joined right after the first one. -/
theorem grow (h : IsLeftChain source names) (table : String) :
    ∃ first rest, names = first :: rest ∧
      IsLeftChain (source.grow table) (first :: table :: rest) := by
  induction h with
  | single first => exact ⟨first, [], rfl, .join (.single first) table⟩
  | join h last ih =>
      obtain ⟨first, rest, rfl, hgrown⟩ := ih
      exact ⟨first, rest ++ [last], rfl, hgrown.join last⟩

/-- A table among several different ones is taken out, wherever it stands. -/
theorem prune (h : IsLeftChain source names) (hnodup : names.Nodup) (hmore : names ≠ [table]) :
    IsLeftChain (source.prune table) (names.filter (· ≠ table)) := by
  induction h with
  | single other =>
      have hne : other ≠ table := fun heq => hmore (by rw [heq])
      simpa [hne] using IsLeftChain.single other
  | @join left names h last ih =>
      obtain ⟨hnames, -, hdisjoint⟩ := List.nodup_append.mp hnodup
      have hlast : ∀ name ∈ names, name ≠ last := fun name hname =>
        hdisjoint name hname last (List.mem_singleton_self last)
      rw [Source.prune, List.filter_append]
      by_cases hleft : names = [table]
      · have hne : last ≠ table := (hlast table (by simp [hleft])).symm
        rw [if_pos (h.tableName_eq_some_iff.mpr hleft), hleft]
        simpa [hne] using IsLeftChain.single last
      · rw [if_neg (mt h.tableName_eq_some_iff.mp hleft)]
        by_cases hright : last = table
        · have hkept : names.filter (· ≠ table) = names := by
            rw [List.filter_eq_self]
            intro name hname
            simpa [← hright] using hlast name hname
          rw [if_pos (by rw [hright]; rfl), hkept]
          simpa [hright] using h
        · have hne : (bare last).tableName ≠ some table := by simpa [bare, tableName] using hright
          rw [if_neg hne]
          simpa [hright] using (ih hnames hleft).join last

end IsLeftChain

/-- A chain of natural joins of different tables. -/
structure Joins (source : Source) (names : List String) : Prop where
  chain : source.IsLeftChain names
  nodup : names.Nodup

end Source

namespace Edit

variable {schema : Schema} {options : Options} {q : Select} {names remaining : List String}

theorem tables_of_joins (h : q.source.Joins names) : q.tables = names := by
  rw [Select.tables, h.chain.tableNames_eq, eraseDups_eq_self h.nodup]

/-! Pruned chains -/

theorem removeTables_singleton (valid : q.validate = .ok ()) (h : q.source.Joins names)
    {table : String} (hmore : names ≠ [table]) :
    removeTables q [table] = .ok (q.replaceSource (q.source.prune table)) ∧
      (q.source.prune table).Joins (names.filter (· ≠ table)) := by
  have hpruned : (q.source.prune table).Joins (names.filter (· ≠ table)) :=
    ⟨h.chain.prune h.nodup hmore, h.nodup.filter _⟩
  refine ⟨?_, hpruned⟩
  have hfold : [table].foldlM Select.removeNaturalJoin q =
      .ok (q.replaceSource (q.source.prune table)) := by
    rw [List.foldlM_cons, Select.removeNaturalJoin_eq valid]
    rfl
  have hstuck : ((q.replaceSource (q.source.prune table)).tables.filter
      ([table].contains ·)).isEmpty = true := by
    rw [tables_of_joins (q := q.replaceSource (q.source.prune table)) hpruned]
    simp
  refine bind_eq_ok_iff.mpr ⟨_, hfold, ?_⟩
  dsimp only
  rw [if_pos hstuck]
  rfl

/-- Some table is always needed. -/
theorem neededTables_ne_nil (valid : q.validate = .ok ()) :
    neededTables schema q remaining ≠ [] := by
  obtain ⟨name, hname⟩ := List.exists_mem_of_ne_nil _
    (Source.tableNames_ne_nil q.source (Select.validate_source valid))
  unfold neededTables
  dsimp only
  split
  · exact List.ne_nil_of_mem (List.mem_eraseDups.mpr hname)
  · rename_i hsome
    simpa using hsome

/-- All names but a lone stale one are needed. -/
theorem mem_iff_of_stale {needed : List String} {table name : String}
    (hstale : names.filter (!needed.contains ·) = [table]) (hname : name ∈ names) :
    name ∈ needed ↔ name ≠ table := by
  rw [Ne, ← List.mem_singleton, ← hstale, List.mem_filter]
  simp [hname]

/-- A chain that loses tables is a chain of the ones that are needed, provided that the dialect
reads the names of its tables as chains. -/
theorem exists_pruneTables (valid : q.validate = .ok ()) (h : q.source.Joins names)
    (hread : ∀ tables, tables ≠ [] → (∀ table ∈ tables, table ∈ names) →
      ∃ source, readChain options.dialect tables = .ok source ∧ source.IsLeftChain tables) :
    ∃ source left, pruneTables schema options q remaining = .ok (q.replaceSource source) ∧
      source.Joins left ∧ ∀ table, table ∈ left ↔ table ∈ neededTables schema q remaining := by
  have hsublist := neededTables_sublist schema q remaining
  have hneeded : neededTables schema q remaining ≠ [] := neededTables_ne_nil valid
  generalize hlist : neededTables schema q remaining = needed at hsublist hneeded ⊢
  rw [tables_of_joins h] at hsublist
  have hsub : ∀ table ∈ needed, table ∈ names := fun _ => hsublist.mem
  rw [pruneTables, hlist, tables_of_joins h, h.chain.isNaturalChain_eq, Bool.and_true]
  rcases hstale : names.filter (!needed.contains ·) with _ | ⟨table, _ | ⟨second, rest⟩⟩
  · refine ⟨q.source, names, by rw [replaceSource_source]; rfl, h, ?_⟩
    rw [List.filter_eq_nil_iff] at hstale
    exact fun table => ⟨fun htable => by simpa using hstale table htable, hsub table⟩
  · have hmore : names ≠ [table] := by
      obtain ⟨name, hname⟩ := List.exists_mem_of_ne_nil _ hneeded
      rintro rfl
      exact (mem_iff_of_stale hstale (hsub name hname)).mp hname
        (List.mem_singleton.mp (hsub name hname))
    obtain ⟨hremoved, hjoins⟩ := removeTables_singleton valid h hmore
    refine ⟨_, _, hremoved, hjoins, ?_⟩
    intro name
    rw [List.mem_filter, decide_eq_true_eq]
    constructor
    · rintro ⟨hname, hne⟩
      exact (mem_iff_of_stale hstale hname).mpr hne
    · intro hname
      exact ⟨hsub name hname, (mem_iff_of_stale hstale (hsub name hname)).mp hname⟩
  · obtain ⟨source, hsource, hchain⟩ := hread needed hneeded hsub
    refine ⟨source, needed, ?_, ⟨hchain, hsublist.nodup h.nodup⟩, fun _ => Iff.rfl⟩
    simp [hsource, Except.map]

end Edit

end SelectTree
