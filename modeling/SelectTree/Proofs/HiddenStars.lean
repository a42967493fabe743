import SelectTree.Proofs.AddedColumns
import SelectTree.Proofs.RemovedColumns

namespace SelectTree.Edit

/-! Stars of tables that the catalog lists no columns for. They are part of a projection but stand
for nothing in it, so edits that write the projection anew lose them. -/

variable {schema : Schema} {options : Options} {q edited : Select} {items : List ColumnRef}
  {columns tables : List String} {table column other text : String}

/-- Columns and renderings of calls are no stars, so a star that is written stands for columns. -/
theorem star_not_mem_rebuilt (hcolumns : ∀ x ∈ columns, Projectable items x)
    (hidden : schema.columnNames other = []) :
    ColumnRef.identifier (star other) ∉
      rebuildItems items (write schema options columns tables) := by
  rw [rebuildItems_eq_map]
  intro h
  obtain ⟨x, hx, heq⟩ := List.mem_map.mp h
  have hstar : x = star other := by
    rcases rebuildItem_cases items x with ⟨hplain, -⟩ | ⟨-, hcall, -⟩
    · exact ColumnRef.identifier.inj (hplain.symm.trans heq)
    · rw [heq] at hcall
      cases hcall
  subst hstar
  rcases mem_of_mem_write options hx with hwild | ⟨covering, -, covered, hcovering⟩ | hcolumn
  · exact star_ne_wildcard other hwild
  · obtain rfl := star_injective hcovering
    exact (isCovered_iff.mp covered).1 hidden
  · have hnone := (hcolumns _ hcolumn).isStar_eq_false
    rw [isStar_star] at hnone
    cases hnone

theorem star_mem_extendQuery_iff (plain : schema.HasPlainColumns)
    (hidden : schema.columnNames other = [])
    (hstar : ColumnRef.identifier (star other) ∈ q.items)
    (h : extendQuery schema options q table column = .ok edited) :
    ColumnRef.identifier (star other) ∈ edited.items ↔ needsItem schema q column = false := by
  obtain ⟨-, rfl⟩ := extendQuery_eq_ok h
  rw [joining_items]
  cases hneeds : needsItem schema q column with
  | false => simpa using hstar
  | true =>
      have hlost : ColumnRef.identifier (star other) ∉
          (projecting schema options q table column).items :=
        star_not_mem_rebuilt (fun _ hx => projectable_of_mem_resolve plain hx) hidden
      simpa using hlost

theorem star_mem_removeColumn_iff (plain : schema.HasPlainColumns)
    (hidden : schema.columnNames other = [])
    (hstar : ColumnRef.identifier (star other) ∈ q.items)
    (h : removeColumn schema options q text = .ok (some edited)) :
    ColumnRef.identifier (star other) ∈ edited.items ↔ projectedName text ∉ resolve schema q := by
  have valid := removeColumn_valid h
  by_cases hmem : projectedName text ∈ resolve schema q
  · obtain ⟨pruned, -, rfl⟩ := unprojectColumn_eq_ok (removeColumn_eq_some valid hmem h)
    have hprojectable : ∀ x ∈ remaining schema q (projectedName (projectedName text)),
        Projectable q.items x :=
      fun _ hx => projectable_of_mem_resolve plain (mem_remaining.mp hx).1
    exact iff_of_false (star_not_mem_rebuilt hprojectable hidden) (not_not_intro hmem)
  · rw [removeColumn_of_not_mem valid hmem] at h
    cases h
    exact iff_of_true hstar hmem

/-- A projection stands for one column alone if each of its items stands for that column or for
none. -/
theorem resolve_eq_singleton_iff :
    resolve schema q = [column] ↔ column ∈ resolve schema q ∧
      ∀ item ∈ q.items, ∀ x ∈ expand schema q.tables item, x = column := by
  constructor
  · intro h
    refine ⟨by simp [h], fun item hitem x hx => ?_⟩
    have hmem := mem_resolve.mpr ⟨item, hitem, hx⟩
    rwa [h, List.mem_singleton] at hmem
  · rintro ⟨hmem, hall⟩
    have hnodup := resolve_nodup schema q
    rw [← eq_singleton_iff_of_nodup hnodup hmem]
    have hsingle : ∀ x ∈ resolve schema q, x = column := by
      intro x hx
      obtain ⟨item, hitem, hx⟩ := mem_resolve.mp hx
      exact hall item hitem x hx
    rw [List.eq_replicate_of_mem hsingle] at hnodup hmem ⊢
    have hle := List.nodup_replicate.mp hnodup
    have hpos : (resolve schema q).length ≠ 0 := fun h => by simp [h] at hmem
    rw [List.length_replicate]
    omega

/-- A star of a table without listed columns stays while the projection is not written anew: where
an added column is projected already, and where a removed one is not projected. Any other column
takes the star along when it is added or removed, and nothing is left of the query if no other
item stands for a column. -/
theorem hidden_star_stays_iff (plain : schema.HasPlainColumns)
    (hidden : schema.columnNames other = []) (valid : q.validate = .ok ())
    (hstar : ColumnRef.identifier (star other) ∈ q.items) :
    (∀ table column edited, addColumn schema options (some q) table column = .ok edited →
      (ColumnRef.identifier (star other) ∈ edited.items ↔
        column ≠ "*" ∧ column ∈ resolve schema q)) ∧
    (∀ text edited, removeColumn schema options q text = .ok (some edited) →
      (ColumnRef.identifier (star other) ∈ edited.items ↔
        projectedName text ∉ resolve schema q)) ∧
    ∀ text, removeColumn schema options q text = .ok none ↔
      projectedName text ∈ resolve schema q ∧
        ∀ item ∈ q.items, ∀ x ∈ expand schema q.tables item, x = projectedName text := by
  refine ⟨?_, fun text edited h => star_mem_removeColumn_iff plain hidden hstar h, ?_⟩
  · intro table column edited h
    obtain ⟨⟨⟩, -, h⟩ := bind_eq_ok_iff.mp h
    exact (star_mem_extendQuery_iff plain hidden hstar h).trans needsItem_eq_false_iff
  · intro text
    rw [removeColumn_eq_none_iff valid, resolve_eq_singleton_iff]

/-- All that is known of some flights, which have a name of their own. -/
def knownFlights (items : List ColumnRef) : Select :=
  .new (.identifier "f.*" :: items) (.table "flights" (some "f"))

/-- A column that is projected already can be added without harm. -/
theorem hidden_star_stays_id :
    ∃ edited, addColumn .flights .default (some (knownFlights [.identifier "id"])) "flights" "id" =
        .ok edited ∧
      ColumnRef.identifier (star "f") ∈ edited.items := by
  obtain ⟨hadd, -⟩ := @hidden_star_stays_iff .flights .default (knownFlights [.identifier "id"]) "f"
    (by decide) rfl rfl List.mem_cons_self
  exact ⟨_, rfl, (hadd "flights" "id" _ rfl).mpr (by decide)⟩

/-- The last column that is known takes the rest along, and so does the first one. -/
theorem hidden_star_lost_id :
    removeColumn .flights .default (knownFlights [.identifier "id"]) "id" = .ok none ∧
      addColumn .flights .default (some (knownFlights [])) "flights" "id" =
        .ok (.new [.identifier "id"] (.table "flights" (some "f"))) :=
  ⟨rfl, rfl⟩

end SelectTree.Edit
