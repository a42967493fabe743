import SelectTree.Proofs.AddedColumns
import SelectTree.Proofs.JoinedLeaves

namespace SelectTree

/-! Tables that a query reads inside derived tables only. They count as read, so they are not
joined when a column of theirs is added, and the query around them does not see the column. -/

namespace Source

variable {table : String}

/-- A table of the name stands outside all derived tables. -/
def Shows (source : Source) (table : String) : Prop :=
  ∃ leaf ∈ source.leaves, leaf.tableName = some table

/-- A derived table reads a table of the name, however deep inside. -/
def Hides (source : Source) (table : String) : Prop :=
  ∃ leaf ∈ source.leaves, leaf.tableName = none ∧ table ∈ leaf.tableNames

instance (source : Source) (table : String) : Decidable (source.Shows table) :=
  inferInstanceAs (Decidable (∃ leaf ∈ source.leaves, leaf.tableName = some table))

instance (source : Source) (table : String) : Decidable (source.Hides table) :=
  inferInstanceAs
    (Decidable (∃ leaf ∈ source.leaves, leaf.tableName = none ∧ table ∈ leaf.tableNames))

mutual
/-- The tables of a tree are those of its leaves. -/
theorem tableNames_eq_flatMap_leaves :
    (source : Source) → source.tableNames = source.leaves.flatMap tableNames
  | .table _ _ => rfl
  | .derived query _ => (List.append_nil query.tableNames).symm
  | .join _ left right _ => by
      rw [tableNames, leaves, List.flatMap_append, tableNames_eq_flatMap_leaves left,
        tableNames_eq_flatMap_leaves right]
  | .naturalJoin left right => by
      rw [tableNames, leaves, List.flatMap_append, tableNames_eq_flatMap_leaves left,
        tableNames_eq_flatMap_leaves right]
  | .list items => tableNamesList_eq_flatMap_leavesList items
  | .nested inner => tableNames_eq_flatMap_leaves inner

theorem tableNamesList_eq_flatMap_leavesList :
    (items : List Source) → tableNamesList items = (leavesList items).flatMap tableNames
  | [] => rfl
  | item :: rest => by
      rw [tableNamesList, leavesList, List.flatMap_append, tableNames_eq_flatMap_leaves item,
        tableNamesList_eq_flatMap_leavesList rest]
end

/-- Each table that is read is shown or hidden. -/
theorem mem_tableNames_iff_shows {source : Source} :
    table ∈ source.tableNames ↔ source.Shows table ∨ source.Hides table := by
  rw [tableNames_eq_flatMap_leaves, List.mem_flatMap, Shows, Hides]
  constructor
  · rintro ⟨leaf, hleaf, hmem⟩
    cases hname : leaf.tableName with
    | none => exact .inr ⟨leaf, hleaf, hname, hmem⟩
    | some name =>
        rw [tableNames_of_tableName hname, List.mem_singleton] at hmem
        exact .inl ⟨leaf, hleaf, hmem ▸ hname⟩
  · rintro (⟨leaf, hleaf, hname⟩ | ⟨leaf, hleaf, -, hmem⟩)
    · exact ⟨leaf, hleaf, by rw [tableNames_of_tableName hname]; exact List.mem_singleton_self _⟩
    · exact ⟨leaf, hleaf, hmem⟩

/-- A table that is joined is shown, whatever stands around the leaf that it is joined to. -/
theorem shows_grow {source : Source} (h : source.check = .ok ()) :
    (source.grow table).Shows table := by
  obtain ⟨first, rest, -, hgrown⟩ := leaves_grow table source h
  exact ⟨.bare table, by simp [hgrown], rfl⟩

end Source

namespace Edit

variable {schema : Schema} {options : Options} {q edited : Select} {table column : String}

theorem source_joining :
    (joining q table).source =
      if table ∈ q.tables then q.source else q.source.grow table := by
  unfold joining
  by_cases hread : table ∈ q.tables
  · rw [if_pos (List.contains_iff_mem.mpr hread), if_pos hread]
  · rw [if_neg (mt List.contains_iff_mem.mp hread), if_neg hread]

/-- The `FROM` tree depends on the table that is asked for, and not on its column. -/
theorem source_of_extendQuery (h : extendQuery schema options q table column = .ok edited) :
    edited.source = if table ∈ q.tables then q.source else q.source.grow table := by
  obtain ⟨-, rfl⟩ := extendQuery_eq_ok h
  rw [source_joining]
  split <;> rfl

/-- The table of an added column is shown afterwards, unless the query hides it and does not show
it. It is then left hidden, as the whole tree is left as it was. -/
theorem addColumn_shows_iff
    (h : addColumn schema options (some q) table column = .ok edited) :
    (edited.source.Shows table ↔ (q.source.Hides table → q.source.Shows table)) ∧
      (q.source.Hides table ∨ q.source.Shows table → edited.source = q.source) := by
  obtain ⟨⟨⟩, -, h⟩ := bind_eq_ok_iff.mp h
  have hchecked := Select.validate_source (extendQuery_eq_ok h).1
  rw [source_of_extendQuery h]
  by_cases hread : table ∈ q.tables
  · rw [if_pos hread]
    have hfound := Source.mem_tableNames_iff_shows.mp (mem_tables.mp hread)
    refine ⟨⟨fun hshown _ => hshown, ?_⟩, fun _ => rfl⟩
    intro hunhidden
    exact hfound.elim id hunhidden
  · rw [if_neg hread]
    have hunread := mt (fun hfound => mem_tables.mpr (Source.mem_tableNames_iff_shows.mpr hfound)) hread
    rw [not_or] at hunread
    refine ⟨⟨fun _ hhidden => absurd hhidden hunread.2, fun _ => Source.shows_grow hchecked⟩, ?_⟩
    rintro (hhidden | hshown)
    · exact absurd hhidden hunread.2
    · exact absurd hshown hunread.1

/-- All flights, in a derived table that gives no more than their carriers. -/
def derivedFlights : Source :=
  .derived (.new [.identifier "carrier_id"] (.bare "flights")) (some "f")

/-- What is hidden does not keep another table from being joined. -/
theorem addColumn_shows_carriers :
    ∃ edited, addColumn .flights .default
        (some (.new [.identifier "carrier_id"] derivedFlights)) "carriers" "name" = .ok edited ∧
      edited.source.Shows "carriers" := by
  have hadd : addColumn .flights .default
      (some (.new [.identifier "carrier_id"] derivedFlights)) "carriers" "name" =
        .ok (.new [.identifier "carriers.*"] (derivedFlights.grow "carriers")) := rfl
  exact ⟨_, hadd, (addColumn_shows_iff hadd).1.mpr (by decide)⟩

/-- The identifiers of the flights are projected, though no table gives them. -/
theorem addColumn_hides_flights :
    ∃ edited, addColumn .flights .default
        (some (.new [.identifier "name"] (.naturalJoin derivedFlights (.bare "carriers"))))
        "flights" "id" = .ok edited ∧
      .identifier "id" ∈ edited.items ∧ ¬ edited.source.Shows "flights" :=
  ⟨_, rfl, by decide, by decide⟩

end Edit

end SelectTree
