import SelectTree.Proofs.GrownQueries
import SelectTree.Proofs.Qualifiers

namespace SelectTree.Edit

/-! Supplied columns: whatever a query still refers to once a column is removed has a table that
is still read, if it had one before. -/

variable {schema : Schema} {options : Options} {q edited : Select} {column text : String}

/-- The names of the columns that a query refers to: in its projection, its tests and its keys,
and in the arguments of calls among items and keys. -/
def mentioned (schema : Schema) (q : Select) : List String :=
  resolve schema q ++ q.tests.map (projectedName ·.column) ++
    (keys q).filterMap ColumnRef.resolvedName ++
    (q.items ++ keys q).flatMap ColumnRef.argumentColumns

theorem mem_mentioned {x : String} :
    x ∈ mentioned schema q ↔
      x ∈ resolve schema q ∨ x ∈ q.tests.map (projectedName ·.column) ∨
        x ∈ (keys q).filterMap ColumnRef.resolvedName ∨
        (∃ item ∈ q.items, x ∈ item.argumentColumns) ∨ ∃ key ∈ keys q, x ∈ key.argumentColumns := by
  simp only [mentioned, List.mem_append, List.mem_flatMap, or_and_right, exists_or, or_assoc]

theorem mem_references {columns : List String} {x : String} :
    x ∈ references q columns ↔
      x ∈ columns ∨ x ∈ q.tests.map (projectedName ·.column) ∨
        x ∈ (keys q).filterMap ColumnRef.resolvedName ∨
        (∃ item ∈ q.items, item.rendering ∈ columns ∧ x ∈ item.argumentColumns) ∨
          ∃ key ∈ keys q, x ∈ key.argumentColumns := by
  have htests : ((q.filter.map Predicate.columns).getD []).map projectedName =
      q.tests.map (projectedName ·.column) := by
    rw [Select.tests]
    cases q.filter with
    | none => rfl
    | some p => simp [Predicate.columns, List.map_map, Function.comp_def]
  simp only [references, htests, List.mem_append, List.mem_flatMap, List.mem_filter,
    List.contains_iff_mem, or_and_right, exists_or, or_assoc, and_assoc]

/-! Calls that stay -/

/-- An item that is written anew has arguments only where it is a call of before, under one of
the columns that it was written for. -/
theorem exists_item_of_mem_argumentColumns {items : List ColumnRef} {columns tables : List String}
    {item : ColumnRef} (h : item ∈ rebuildItems items (write schema options columns tables))
    {x : String} (hx : x ∈ item.argumentColumns) :
    item ∈ items ∧ item.rendering ∈ columns := by
  rw [rebuildItems_eq_map] at h
  obtain ⟨name, hname, rfl⟩ := List.mem_map.mp h
  rcases rebuildItem_cases items name with ⟨heq, -⟩ | ⟨hmem, hcall, hrendering⟩
  · rw [heq] at hx
    cases hx
  · refine ⟨hmem, ?_⟩
    rcases mem_of_mem_write options hname with rfl | ⟨table, -, -, rfl⟩ | hcolumn
    · exact absurd hrendering (ColumnRef.rendering_ne_wildcard hcall)
    · have hstar := isStar_rendering hcall
      rw [hrendering, isStar_star] at hstar
      cases hstar
    · exact hrendering.symm ▸ hcolumn

/-- All that is still mentioned was referred to when the tables were chosen. -/
theorem mem_references_of_mentioned (plain : schema.HasPlainColumns)
    (h : unprojectColumn schema options q text = .ok edited) {x : String}
    (hx : x ∈ mentioned schema edited) :
    x ∈ references (withoutColumn q (projectedName text))
      (remaining schema q (projectedName text)) := by
  have hkeys : keys edited = keys (withoutColumn q (projectedName text)) := by
    rw [eq_of_unprojectColumn h]
    rfl
  have htests : edited.tests = (withoutColumn q (projectedName text)).tests := by
    rw [eq_of_unprojectColumn h]
    rfl
  rw [mem_mentioned, hkeys, htests] at hx
  rw [mem_references]
  rcases hx with hprojected | htest | hkey | ⟨item, hitem, hargument⟩ | hargument
  · exact .inl (mem_remaining.mpr ((mem_resolve_unprojectColumn plain h).mp hprojected))
  · exact .inr (.inl htest)
  · exact .inr (.inr (.inl hkey))
  · obtain ⟨pruned, -, rfl⟩ := unprojectColumn_eq_ok h
    obtain ⟨hmem, hrendering⟩ := exists_item_of_mem_argumentColumns hitem hargument
    exact .inr (.inr (.inr (.inl ⟨item, hmem, hrendering, hargument⟩)))
  · exact .inr (.inr (.inr (.inr hargument)))

/-! The whole edit -/

/-- A removed column takes no table away that was the last to have a column which the query
still refers to. -/
theorem unprojectColumn_keeps_supplied (plain : schema.HasPlainColumns)
    (reads : ReadsNames options.dialect q.tables)
    (h : unprojectColumn schema options q column = .ok edited) :
    ∀ x ∈ mentioned schema edited, IsSupplied schema q.tables x →
      IsSupplied schema edited.tables x := by
  intro x hx hsupplied
  have hreferred := mem_references_of_mentioned plain h hx
  have htables : (withoutColumn q (projectedName column)).tables = q.tables := rfl
  obtain ⟨table, hneeded, hname⟩ := isSupplied_neededTables hreferred (htables ▸ hsupplied)
  obtain ⟨pruned, hpruned, rfl⟩ := unprojectColumn_eq_ok h
  exact ⟨table, (mem_tables_pruneTables (htables ▸ reads) hpruned).mpr hneeded, hname⟩

/-- Flights, the carriers that fly them, and where these are at home. -/
def abroad : Schema :=
  ⟨Schema.flights.tables ++ [⟨"homes", [⟨"carrier_id", .integer⟩, ⟨"country", .text⟩]⟩]⟩

/-- The last flight of a carrier, and its country. -/
def lastFlight : Select :=
  { items := [.call "max" [.identifier "flights.id"], .identifier "country"]
    source := .naturalJoin (.naturalJoin (.bare "flights") (.bare "carriers")) (.bare "homes")
    filter := some (.test (.compare "carrier_id" .eq (.number "7")))
    groupBy := []
    orderBy := [] }

/-- Two tables go at once. The flights have the argument of the call. -/
theorem unprojectColumn_keeps_supplied_flight :
    ∃ edited, unprojectColumn abroad .default lastFlight "homes.country" = .ok edited ∧
      edited.tables = ["flights"] ∧ IsSupplied abroad edited.tables "id" := by
  have hlisted : ∀ table ∈ lastFlight.tables, table ∈ abroad.tableNames := by decide
  have hchains : ReadsChains Options.default.dialect abroad :=
    readsChains_of_readsTable (by decide +kernel)
  have hread : ReadsNames Options.default.dialect lastFlight.tables :=
    fun tables source hsublist hread =>
      (hchains.isLeftChain (fun table htable => hlisted table (hsublist.mem htable)) hread).tableNames_eq
  have hedited : (unprojectColumn abroad .default lastFlight "homes.country").toOption.map
      (fun edited => (edited.tables, mentioned abroad edited)) =
        some (["flights"], ["max(flights.id)", "carrier_id", "id"]) := by
    decide +kernel
  cases hresult : unprojectColumn abroad .default lastFlight "homes.country" with
  | error e =>
      rw [hresult] at hedited
      cases hedited
  | ok edited =>
      rw [hresult] at hedited
      obtain ⟨htables, hmentioned⟩ := Prod.mk.inj (Option.some.inj hedited)
      refine ⟨edited, rfl, htables, ?_⟩
      exact unprojectColumn_keeps_supplied (by decide) hread hresult "id" (by simp [hmentioned])
        ⟨"flights", by decide, by decide⟩

end SelectTree.Edit
