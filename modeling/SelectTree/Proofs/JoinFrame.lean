import Mathlib.Logic.Relation
import SelectTree.Proofs.GrownQueries

namespace SelectTree

/-! What edits leave alone of a `FROM` tree: its explicit joins, its derived tables and all
aliases, but for those of tables that the query stops reading. -/

namespace Source

/-- A table, a derived table or an explicit join of a `FROM` tree. -/
inductive Part
  | table (name : String) (asName : Option String)
  | join (kind : JoinKind) (constraint : JoinConstraint)
  | derived (query : Select) (asName : Option String)

namespace Part

def join? : Part → Option (JoinKind × JoinConstraint)
  | .join kind constraint => some (kind, constraint)
  | _ => none

def derived? : Part → Option (Select × Option String)
  | .derived query asName => some (query, asName)
  | _ => none

def aliased? : Part → Option (String × String)
  | .table name (some asName) => some (name, asName)
  | _ => none

end Part

mutual
/-- The parts of a tree as they are written from left to right, those inside derived tables
left out. -/
def parts : Source → List Part
  | .table name asName => [.table name asName]
  | .join kind left right constraint => left.parts ++ .join kind constraint :: right.parts
  | .naturalJoin left right => left.parts ++ right.parts
  | .list items => partsList items
  | .nested inner => inner.parts
  | .derived query asName => [.derived query asName]

def partsList : List Source → List Part
  | [] => []
  | item :: rest => item.parts ++ partsList rest
end

/-- The kinds and constraints of the joins that are not natural. -/
def explicitJoins (source : Source) : List (JoinKind × JoinConstraint) :=
  source.parts.filterMap Part.join?

def derivedTables (source : Source) : List (Select × Option String) :=
  source.parts.filterMap Part.derived?

/-- The tables with an alias, each with the alias. -/
def aliasedTables (source : Source) : List (String × String) :=
  source.parts.filterMap Part.aliased?

variable {β : Type} {f : Part → Option β} {table : String}

/-! Grown trees -/

theorem filterMap_parts_grow (hbare : f (.table table none) = none) :
    (source : Source) → (source.grow table).parts.filterMap f = source.parts.filterMap f
  | .table name asName => by simp [grow, bare, parts, List.filterMap_cons, hbare]
  | .derived query asName => by simp [grow, bare, parts, List.filterMap_cons, hbare]
  | .nested inner => filterMap_parts_grow hbare inner
  | .list [] => rfl
  | .list (first :: rest) => by
      simp only [grow, parts, partsList, List.filterMap_append, filterMap_parts_grow hbare first]
  | .join kind left right constraint => by
      simp only [grow, parts, List.filterMap_append, filterMap_parts_grow hbare left]
  | .naturalJoin left right => by
      simp only [grow, parts, List.filterMap_append, filterMap_parts_grow hbare left]

/-! Pruned trees -/

theorem parts_parenthesize (source : Source) : source.parenthesize.parts = source.parts := by
  cases source with
  | _ => simp only [parenthesize, parts]

theorem parts_of_tableName {source : Source} (h : source.tableName = some table) :
    ∃ asName, source.parts = [.table table asName] := by
  cases source with
  | table name asName =>
      cases h
      exact ⟨asName, rfl⟩
  | _ => cases h

mutual
/-- Nothing is dropped but leaves of the table. What a natural join loses a side to is its other
side as a whole. -/
theorem filterMap_parts_prune (hgone : ∀ asName, f (.table table asName) = none) :
    (source : Source) → (source.prune table).parts.filterMap f = source.parts.filterMap f
  | .table name asName => rfl
  | .join kind left right constraint => rfl
  | .derived query asName => rfl
  | .nested inner => by
      rw [prune, parts_parenthesize]
      exact filterMap_parts_prune hgone inner
  | .list items => filterMap_partsList_pruneList hgone items
  | .naturalJoin left right => by
      rw [prune, parts, List.filterMap_append]
      split
      · rename_i hleft
        obtain ⟨asName, hparts⟩ := parts_of_tableName hleft
        simp [hparts, hgone]
      · split
        · rename_i hright
          obtain ⟨asName, hparts⟩ := parts_of_tableName hright
          simp [hparts, hgone]
        · rw [parts, List.filterMap_append, filterMap_parts_prune hgone left,
            filterMap_parts_prune hgone right]

theorem filterMap_partsList_pruneList (hgone : ∀ asName, f (.table table asName) = none) :
    (items : List Source) →
      (partsList (pruneList table items)).filterMap f = (partsList items).filterMap f
  | [] => rfl
  | item :: rest => by
      rw [pruneList, partsList, partsList, List.filterMap_append, List.filterMap_append,
        filterMap_parts_prune hgone item, filterMap_partsList_pruneList hgone rest]
end

theorem filterMap_parts_foldl_prune (stale : List String)
    (hgone : ∀ table ∈ stale, ∀ asName, f (.table table asName) = none) (source : Source) :
    (stale.foldl (fun source table => source.prune table) source).parts.filterMap f =
      source.parts.filterMap f := by
  induction stale generalizing source with
  | nil => rfl
  | cons table rest ih =>
      rw [List.foldl_cons, ih fun other hother => hgone other (List.mem_cons_of_mem table hother),
        filterMap_parts_prune (hgone table List.mem_cons_self)]

/-! Chains -/

/-- A tree that its table names determine has no other parts. -/
theorem filterMap_parts_of_isNaturalChain (hbare : ∀ name, f (.table name none) = none) :
    (source : Source) → source.isNaturalChain = true → source.parts.filterMap f = []
  | .table name asName, h => by
      rw [isNaturalChain, Option.isNone_iff_eq_none] at h
      simp [parts, h, hbare]
  | .naturalJoin left right, h => by
      rw [isNaturalChain, Bool.and_eq_true] at h
      rw [parts, List.filterMap_append, filterMap_parts_of_isNaturalChain hbare left h.1,
        filterMap_parts_of_isNaturalChain hbare right h.2, List.append_nil]
  | .nested inner, h => filterMap_parts_of_isNaturalChain hbare inner h

/-! Leaves -/

mutual
theorem mem_tableNames_of_mem_parts {name : String} {asName : Option String} :
    (source : Source) → .table name asName ∈ source.parts → name ∈ source.tableNames
  | .table _ _, h => by
      rw [parts, List.mem_singleton] at h
      cases h
      exact List.mem_singleton_self name
  | .derived _ _, h => by
      rw [parts, List.mem_singleton] at h
      cases h
  | .nested inner, h => mem_tableNames_of_mem_parts inner h
  | .list items, h => mem_tableNamesList_of_mem_partsList items h
  | .naturalJoin left right, h => by
      rw [parts, List.mem_append] at h
      rw [tableNames, List.mem_append]
      exact h.imp (mem_tableNames_of_mem_parts left) (mem_tableNames_of_mem_parts right)
  | .join kind left right constraint, h => by
      rw [parts, List.mem_append, List.mem_cons] at h
      rw [tableNames, List.mem_append]
      rcases h with hleft | hself | hright
      · exact .inl (mem_tableNames_of_mem_parts left hleft)
      · cases hself
      · exact .inr (mem_tableNames_of_mem_parts right hright)

theorem mem_tableNamesList_of_mem_partsList {name : String} {asName : Option String} :
    (items : List Source) → .table name asName ∈ partsList items → name ∈ tableNamesList items
  | item :: rest, h => by
      rw [partsList, List.mem_append] at h
      rw [tableNamesList, List.mem_append]
      exact h.imp (mem_tableNames_of_mem_parts item) (mem_tableNamesList_of_mem_partsList rest)
end

theorem mem_tableNames_of_mem_aliasedTables {source : Source} {leaf : String × String}
    (h : leaf ∈ source.aliasedTables) : leaf.1 ∈ source.tableNames := by
  obtain ⟨part, hpart, hleaf⟩ := List.mem_filterMap.mp h
  cases part with
  | table name asName =>
      cases asName with
      | none => cases hleaf
      | some asName =>
          cases hleaf
          exact mem_tableNames_of_mem_parts source hpart
  | join kind constraint => cases hleaf
  | derived query asName => cases hleaf

end Source

namespace Edit

variable {schema : Schema} {options : Options} {q edited : Select} {column text : String}

/-- Some of these names are read as natural joins of just the tables so named, all of them
without alias. -/
def ReadsBareNames (d : Sql.Dialect) (names : List String) : Prop :=
  ∀ tables source, (∀ table ∈ tables, table ∈ names) → readChain d tables = .ok source →
    source.isNaturalChain = true ∧ source.tableNames = tables

theorem ReadsBareNames.mono {d : Sql.Dialect} {names others : List String}
    (reads : ReadsBareNames d others) (hsub : ∀ name ∈ names, name ∈ others) :
    ReadsBareNames d names :=
  fun tables source htables => reads tables source fun table htable => hsub table (htables table htable)

theorem ReadsBareNames.readsNames {d : Sql.Dialect} {names : List String}
    (reads : ReadsBareNames d names) : ReadsNames d names :=
  fun tables source hsublist hread => (reads tables source (fun _ => hsublist.mem) hread).2

theorem ReadsChains.readsBareNames {d : Sql.Dialect} (chains : ReadsChains d schema)
    {names : List String} (h : ∀ name ∈ names, name ∈ schema.tableNames) :
    ReadsBareNames d names := by
  intro tables source htables hread
  have hchain := chains.isLeftChain (fun table htable => h table (htables table htable)) hread
  exact ⟨hchain.isNaturalChain_eq, hchain.tableNames_eq⟩

/-! Removed columns -/

section RemovedColumns

variable {β : Type} {f : Source.Part → Option β} {remaining : List String}

/-- Parts that are neither unaliased tables nor tables which are not read any more are the same
as before. -/
theorem filterMap_parts_pruneTables (reads : ReadsBareNames options.dialect q.tables)
    (h : pruneTables schema options q remaining = .ok edited)
    (hbare : ∀ name, f (.table name none) = none)
    (hgone : ∀ name asName, name ∉ edited.tables → f (.table name asName) = none) :
    edited.source.parts.filterMap f = q.source.parts.filterMap f := by
  rcases source_pruneTables h with hpruned | ⟨hchain, hread⟩
  · rw [hpruned]
    apply Source.filterMap_parts_foldl_prune
    intro table hstale asName
    apply hgone
    rw [mem_tables_pruneTables reads.readsNames h]
    simpa using (List.mem_filter.mp hstale).2
  · have hsub : ∀ table ∈ neededTables schema q remaining, table ∈ q.tables :=
      fun _ => (neededTables_sublist schema q remaining).mem
    rw [Source.filterMap_parts_of_isNaturalChain hbare _ (reads _ _ hsub hread).1,
      Source.filterMap_parts_of_isNaturalChain hbare _ hchain]

theorem filterMap_parts_unprojectColumn (reads : ReadsBareNames options.dialect q.tables)
    (h : unprojectColumn schema options q text = .ok edited)
    (hbare : ∀ name, f (.table name none) = none)
    (hgone : ∀ name asName, name ∉ edited.tables → f (.table name asName) = none) :
    edited.source.parts.filterMap f = q.source.parts.filterMap f := by
  obtain ⟨pruned, hpruned, rfl⟩ := unprojectColumn_eq_ok h
  have hparts : pruned.source.parts.filterMap f =
      (withoutColumn q (projectedName text)).source.parts.filterMap f :=
    filterMap_parts_pruneTables reads hpruned hbare hgone
  exact hparts

end RemovedColumns

/-- The aliased tables that are left are those whose names are still read. -/
theorem aliasedTables_unprojectColumn (reads : ReadsBareNames options.dialect q.tables)
    (h : unprojectColumn schema options q text = .ok edited) :
    edited.source.aliasedTables =
      q.source.aliasedTables.filter fun leaf => edited.tables.contains leaf.1 := by
  have hself : edited.source.aliasedTables.filter (fun leaf => edited.tables.contains leaf.1) =
      edited.source.aliasedTables := by
    rw [List.filter_eq_self]
    intro leaf hleaf
    rw [List.contains_iff_mem, mem_tables]
    exact Source.mem_tableNames_of_mem_aliasedTables hleaf
  rw [← hself, Source.aliasedTables, Source.aliasedTables, List.filter_filterMap,
    List.filter_filterMap]
  refine filterMap_parts_unprojectColumn reads h (fun name => rfl) ?_
  intro name asName hgone
  cases asName with
  | none => rfl
  | some asName => simp [Source.Part.aliased?, hgone]

/-! Changes -/

/-- What can be done to a query apart from loading and clearing it, with a table and a column
for every column that is added. -/
inductive Change
  | addColumn (table column : String)
  | removeColumn (text : String)
  | setFilter (column operator value : String)
  | orderBy (text : String) (ascending : Option Bool)
  | removeOrder (text : String)
  | clearFilters
  | clearOrder

/-- The query after a change, or none if its last column goes. -/
def Change.apply (schema : Schema) (options : Options) (q : Select) :
    Change → Except Error (Option Select)
  | .addColumn table column => (Edit.addColumn schema options (some q) table column).map some
  | .removeColumn text => Edit.removeColumn schema options q text
  | .setFilter column operator value =>
      (Edit.setFilter schema options q column operator value).map some
  | .orderBy text ascending => (Edit.orderBy schema q text ascending).map some
  | .removeOrder text => (Edit.removeOrder q text).map some
  | .clearFilters => .ok (some (Edit.clearFilters q))
  | .clearOrder => .ok (some (Edit.clearOrder q))

/-- One query is what a change makes of the other. -/
def Step (schema : Schema) (options : Options) (q edited : Select) : Prop :=
  ∃ change : Change, change.apply schema options q = .ok (some edited)

/-- Only added and removed columns touch the `FROM` tree. -/
theorem Change.apply_cases {change : Change}
    (h : change.apply schema options q = .ok (some edited)) :
    (∃ table column, checkColumn schema table column = .ok () ∧
      extendQuery schema options q table column = .ok edited) ∨
    (∃ text name, change = .removeColumn text ∧
      unprojectColumn schema options q name = .ok edited) ∨
    edited.source = q.source := by
  cases change with
  | addColumn table column =>
      obtain ⟨added, hadd, heq⟩ := map_eq_ok_iff.mp h
      cases heq
      obtain ⟨⟨⟩, hcolumn, hextend⟩ := bind_eq_ok_iff.mp hadd
      exact .inl ⟨table, column, hcolumn, hextend⟩
  | removeColumn text =>
      obtain ⟨⟨⟩, valid, -⟩ := bind_eq_ok_iff.mp h
      by_cases hmem : projectedName text ∈ resolve schema q
      · exact .inr (.inl ⟨text, _, rfl, removeColumn_eq_some valid hmem h⟩)
      · rw [apply, removeColumn_of_not_mem valid hmem] at h
        cases h
        exact .inr (.inr rfl)
  | setFilter column operator value =>
      obtain ⟨filtered, hfilter, heq⟩ := map_eq_ok_iff.mp h
      cases heq
      rw [frame_setFilter hfilter]
      exact .inr (.inr rfl)
  | orderBy text ascending =>
      obtain ⟨ordered, horder, heq⟩ := map_eq_ok_iff.mp h
      cases heq
      rw [(orderBy_eq_ok horder).2.2]
      exact .inr (.inr rfl)
  | removeOrder text =>
      obtain ⟨ordered, horder, heq⟩ := map_eq_ok_iff.mp h
      cases heq
      rw [(removeOrder_eq_ok horder).2]
      exact .inr (.inr rfl)
  | clearFilters =>
      cases h
      exact .inr (.inr rfl)
  | clearOrder =>
      cases h
      exact .inr (.inr rfl)

/-- Whatever a change reads, the query read before, or the catalog has. -/
theorem Step.mem_tables (reads : ReadsNames options.dialect q.tables)
    (h : Step schema options q edited) {table : String} (hmem : table ∈ edited.tables) :
    table ∈ q.tables ∨ table ∈ schema.tableNames := by
  obtain ⟨change, h⟩ := h
  rcases Change.apply_cases h with ⟨added, column, hcolumn, hextend⟩ | ⟨text, name, -, hremove⟩ | hsource
  · rcases (mem_tables_extendQuery hextend).mp hmem with rfl | hold
    · exact .inr (mem_tableNames_of_checkColumn hcolumn)
    · exact .inl hold
  · obtain ⟨pruned, hpruned, rfl⟩ := unprojectColumn_eq_ok hremove
    have hneeded := (mem_tables_pruneTables (q := withoutColumn q (projectedName name)) reads
      hpruned).mp hmem
    exact .inl ((neededTables_sublist schema _ _).mem hneeded)
  · rw [Select.tables, hsource] at hmem
    exact .inl hmem

/-- A change keeps explicit joins and derived tables. It takes away aliased tables only where it
removes a column, and then exactly those that are not read any more. -/
theorem Change.keeps_parts {change : Change} (reads : ReadsBareNames options.dialect q.tables)
    (h : change.apply schema options q = .ok (some edited)) :
    edited.source.explicitJoins = q.source.explicitJoins ∧
    edited.source.derivedTables = q.source.derivedTables ∧
    (edited.source.aliasedTables = q.source.aliasedTables ∨
      (∃ text, change = .removeColumn text) ∧
        edited.source.aliasedTables =
          q.source.aliasedTables.filter fun leaf => edited.tables.contains leaf.1) := by
  rcases apply_cases h with ⟨table, column, -, hextend⟩ | ⟨text, name, rfl, hremove⟩ | hsource
  · have hparts : ∀ {β : Type} {f : Source.Part → Option β}, (f (.table table none) = none) →
        edited.source.parts.filterMap f = q.source.parts.filterMap f := by
      intro β f hbare
      rw [source_extendQuery hextend]
      split
      · rfl
      · exact Source.filterMap_parts_grow hbare q.source
    exact ⟨hparts rfl, hparts rfl, .inl (hparts rfl)⟩
  · exact ⟨filterMap_parts_unprojectColumn reads hremove (fun _ => rfl) fun _ _ _ => rfl,
      filterMap_parts_unprojectColumn reads hremove (fun _ => rfl) fun _ _ _ => rfl,
      .inr ⟨⟨text, rfl⟩, aliasedTables_unprojectColumn reads hremove⟩⟩
  · rw [hsource]
    exact ⟨rfl, rfl, .inl rfl⟩

/-! Runs of changes -/

open Relation (ReflTransGen)

/-- The tables that a query may read after changes: its own, and those of the catalog. -/
def knownTables (schema : Schema) (q : Select) : List String :=
  q.tables ++ schema.tableNames

theorem mem_knownTables_of_steps
    (reads : ReadsBareNames options.dialect (knownTables schema q))
    (h : ReflTransGen (Step schema options) q edited) :
    ∀ table ∈ edited.tables, table ∈ knownTables schema q := by
  induction h with
  | refl => exact fun table htable => List.mem_append_left _ htable
  | tail hsteps hstep ih =>
      intro table htable
      rcases hstep.mem_tables (reads.mono ih).readsNames htable with hold | hlisted
      · exact ih table hold
      · exact List.mem_append_right _ hlisted

/-- However often a query is changed, its explicit joins and derived tables stay, in their order.
Of the aliased tables some may go; a change that takes one away removes a column, and the table
is not read any more by that name. -/
theorem steps_keep_parts (reads : ReadsBareNames options.dialect (knownTables schema q))
    (h : ReflTransGen (Step schema options) q edited) :
    edited.source.explicitJoins = q.source.explicitJoins ∧
    edited.source.derivedTables = q.source.derivedTables ∧
    edited.source.aliasedTables.Sublist q.source.aliasedTables ∧
    ∀ (change : Change) (next : Select), change.apply schema options edited = .ok (some next) →
      next.source.aliasedTables = edited.source.aliasedTables ∨
        (∃ text, change = .removeColumn text) ∧
          next.source.aliasedTables =
            edited.source.aliasedTables.filter fun leaf => next.tables.contains leaf.1 := by
  have hreads : ∀ {mid}, ReflTransGen (Step schema options) q mid →
      ReadsBareNames options.dialect mid.tables :=
    fun hsteps => reads.mono (mem_knownTables_of_steps reads hsteps)
  suffices hkept : edited.source.explicitJoins = q.source.explicitJoins ∧
      edited.source.derivedTables = q.source.derivedTables ∧
      edited.source.aliasedTables.Sublist q.source.aliasedTables from
    ⟨hkept.1, hkept.2.1, hkept.2.2,
      fun change next hnext => (Change.keeps_parts (hreads h) hnext).2.2⟩
  induction h with
  | refl => exact ⟨rfl, rfl, List.Sublist.refl _⟩
  | tail hsteps hstep ih =>
      obtain ⟨change, hchange⟩ := hstep
      obtain ⟨hjoins, hderived, haliased⟩ := Change.keeps_parts (hreads hsteps) hchange
      refine ⟨hjoins.trans ih.1, hderived.trans ih.2.1, ?_⟩
      rcases haliased with hsame | ⟨-, hfilter⟩
      · rw [hsame]
        exact ih.2.2
      · rw [hfilter]
        exact List.filter_sublist.trans ih.2.2

/-- Late flights with those of their carriers that are at home somewhere. -/
def lateFlights : Select :=
  { items := [.identifier "id", .identifier "name", .identifier "carrier_id"]
    source := .naturalJoin
      (.join .left (.bare "flights")
        (.derived (.new [.identifier "carrier_id"] (.bare "flights")) (some "late")) (.on "true"))
      (.table "carriers" (some "c"))
    filter := none
    groupBy := []
    orderBy := [] }

/-- The carriers go with their name, and with them the alias. -/
theorem steps_keep_parts_late :
    ∃ edited, Step .flights .default lateFlights edited ∧
      edited.source.explicitJoins = [(.left, .on "true")] ∧
      edited.source.derivedTables =
        [(.new [.identifier "carrier_id"] (.bare "flights"), some "late")] ∧
      edited.source.aliasedTables = [] := by
  have hchains : ReadsChains Options.default.dialect .flights :=
    readsChains_of_readsTable (by decide +kernel)
  have hreads : ReadsBareNames Options.default.dialect (knownTables .flights lateFlights) :=
    hchains.readsBareNames (by decide)
  have hstep : Step .flights .default lateFlights _ := ⟨.removeColumn "name", rfl⟩
  obtain ⟨hjoins, hderived, -⟩ := steps_keep_parts hreads (.single hstep)
  exact ⟨_, hstep, hjoins, hderived, rfl⟩

end Edit

end SelectTree
