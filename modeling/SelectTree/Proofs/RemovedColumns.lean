import SelectTree.Edit.Gesture
import SelectTree.Proofs.Compression
import SelectTree.Proofs.Predicates
import SelectTree.Proofs.PrunedTables

namespace SelectTree.Edit

/-! Removed columns: what is left of a query that loses a column of its projection. -/

variable {schema : Schema} {options : Options} {q edited : Select} {column text : String}

/-- What is left of the resolved projection without a column. -/
def remaining (schema : Schema) (q : Select) (column : String) : List String :=
  (resolve schema q).filter (· ≠ column)

theorem mem_remaining {x : String} :
    x ∈ remaining schema q column ↔ x ∈ resolve schema q ∧ x ≠ column := by
  simp [remaining]

/-- The tables are pruned after the tests and keys of the column are gone; the items are written
for the tables that are left. -/
theorem unprojectColumn_eq_ok
    (h : unprojectColumn schema options q text = .ok edited) :
    ∃ pruned,
      pruneTables schema options (withoutColumn q (projectedName text))
          (remaining schema q (projectedName text)) = .ok pruned ∧
        edited = { pruned with
          items := rebuildItems q.items
            (write schema options (remaining schema q (projectedName text)) pruned.tables) } := by
  obtain ⟨⟨⟩, -, h⟩ := bind_eq_ok_iff.mp h
  dsimp only at h
  split at h
  · cases h
  · obtain ⟨pruned, hpruned, heq⟩ := bind_eq_ok_iff.mp h
    exact ⟨pruned, hpruned, (Except.ok.inj heq).symm⟩

/-- Where a column is left, only the pruning of the tables can fail. -/
theorem unprojectColumn_eq (valid : q.validate = .ok ())
    (hmore : remaining schema q (projectedName text) ≠ []) :
    unprojectColumn schema options q text =
      (pruneTables schema options (withoutColumn q (projectedName text))
        (remaining schema q (projectedName text))).map fun pruned => { pruned with
          items := rebuildItems q.items
            (write schema options (remaining schema q (projectedName text)) pruned.tables) } := by
  have hsome : ¬ ((resolve schema q).filter (· ≠ projectedName text)).isEmpty = true := by
    simpa [remaining] using hmore
  rw [unprojectColumn, valid, remaining]
  dsimp only [bind, Except.bind]
  rw [if_neg hsome]
  cases pruneTables schema options (withoutColumn q (projectedName text))
    ((resolve schema q).filter (· ≠ projectedName text)) <;> rfl

theorem unprojectColumn_of_pruned (valid : q.validate = .ok ())
    (hmore : remaining schema q (projectedName text) ≠ []) {pruned : Select}
    (h : pruneTables schema options (withoutColumn q (projectedName text))
      (remaining schema q (projectedName text)) = .ok pruned) :
    unprojectColumn schema options q text = .ok { pruned with
      items := rebuildItems q.items
        (write schema options (remaining schema q (projectedName text)) pruned.tables) } := by
  rw [unprojectColumn_eq valid hmore, h]
  rfl

theorem mem_resolve_unprojectColumn (plain : schema.HasPlainColumns)
    (h : unprojectColumn schema options q text = .ok edited) {x : String} :
    x ∈ resolve schema edited ↔ x ∈ resolve schema q ∧ x ≠ projectedName text := by
  obtain ⟨pruned, -, rfl⟩ := unprojectColumn_eq_ok h
  rw [← mem_remaining, mem_resolve]
  apply mem_rebuilt_write plain options
  · intro y hy
    exact projectable_of_mem_resolve plain (mem_remaining.mp hy).1
  · intro t
    rfl

/-- All but the items and the sources is what is left without the column. -/
theorem eq_of_unprojectColumn (h : unprojectColumn schema options q text = .ok edited) :
    edited = { withoutColumn q (projectedName text) with
      items := edited.items, source := edited.source } := by
  obtain ⟨pruned, hpruned, rfl⟩ := unprojectColumn_eq_ok h
  rw [(pruneTables_eq_ok hpruned).1]
  rfl

/-- The tests and keys of the column go, and no others. -/
theorem frame_unprojectColumn (h : unprojectColumn schema options q text = .ok edited) :
    edited.tests = q.tests.filter (projectedName ·.column ≠ projectedName text) ∧
      edited.groupBy = q.groupBy.filter (·.resolvedName ≠ some (projectedName text)) ∧
      edited.orderBy = q.orderBy.filter (·.column.resolvedName ≠ some (projectedName text)) := by
  rw [eq_of_unprojectColumn h]
  refine ⟨Select.tests_pruneTests q _, ?_, ?_⟩
  · simp [withoutColumn, isKeyOf]
  · simp [withoutColumn, isKeyOf]

theorem eq_singleton_iff_of_nodup {names : List String} (hnodup : names.Nodup)
    (h : column ∈ names) : names.length = 1 ↔ names = [column] := by
  constructor
  · intro hlength
    obtain ⟨name, rfl⟩ := List.length_eq_one_iff.mp hlength
    rw [List.mem_singleton.mp h]
  · rintro rfl
    rfl

/-! The whole edit -/

theorem removeColumn_valid {result : Option Select}
    (h : removeColumn schema options q text = .ok result) : q.validate = .ok () := by
  obtain ⟨⟨⟩, valid, -⟩ := bind_eq_ok_iff.mp h
  exact valid

theorem removeColumn_of_not_mem (valid : q.validate = .ok ())
    (h : projectedName text ∉ resolve schema q) :
    removeColumn schema options q text = .ok (some q) := by
  rw [removeColumn, valid]
  dsimp only [bind, Except.bind]
  rw [if_pos (by simpa using h)]
  rfl

theorem removeColumn_of_eq_singleton (valid : q.validate = .ok ())
    (h : resolve schema q = [projectedName text]) :
    removeColumn schema options q text = .ok none := by
  rw [removeColumn, valid]
  dsimp only [bind, Except.bind]
  rw [if_neg (by simp [h]), if_pos (by simp [h])]
  rfl

theorem removeColumn_of_mem (valid : q.validate = .ok ())
    (h : projectedName text ∈ resolve schema q)
    (hmore : resolve schema q ≠ [projectedName text]) :
    removeColumn schema options q text =
      (unprojectColumn schema options q (projectedName text)).map some := by
  have hlength := mt (eq_singleton_iff_of_nodup (resolve_nodup schema q) h).mp hmore
  rw [removeColumn, valid]
  dsimp only [bind, Except.bind]
  rw [if_neg (by simpa using h), if_neg hlength]
  cases unprojectColumn schema options q (projectedName text) <;> rfl

theorem removeColumn_eq_some (valid : q.validate = .ok ())
    (h : projectedName text ∈ resolve schema q)
    (hedit : removeColumn schema options q text = .ok (some edited)) :
    unprojectColumn schema options q (projectedName text) = .ok edited := by
  by_cases hmore : resolve schema q = [projectedName text]
  · rw [removeColumn_of_eq_singleton valid hmore] at hedit
    cases hedit
  · rw [removeColumn_of_mem valid h hmore] at hedit
    cases hresult : unprojectColumn schema options q (projectedName text) with
    | error e =>
        rw [hresult] at hedit
        cases hedit
    | ok result =>
        rw [hresult] at hedit
        cases hedit
        rfl

theorem removeColumn_eq_none_iff (valid : q.validate = .ok ()) :
    removeColumn schema options q text = .ok none ↔ resolve schema q = [projectedName text] := by
  constructor
  · intro hedit
    apply Decidable.byContradiction
    intro hmore
    by_cases h : projectedName text ∈ resolve schema q
    · rw [removeColumn_of_mem valid h hmore] at hedit
      cases hresult : unprojectColumn schema options q (projectedName text) with
      | error e =>
          rw [hresult] at hedit
          cases hedit
      | ok result =>
          rw [hresult] at hedit
          cases hedit
    · rw [removeColumn_of_not_mem valid h] at hedit
      cases hedit
  · exact removeColumn_of_eq_singleton valid

/-- A column that is not projected changes nothing, and the last one leaves nothing. Any other
column goes from the projection, with its tests and keys; all others stay. -/
theorem removeColumn_unprojects (plain : schema.HasPlainColumns) (valid : q.validate = .ok ()) :
    (projectedName text ∉ resolve schema q →
      removeColumn schema options q text = .ok (some q)) ∧
    (removeColumn schema options q text = .ok none ↔
      resolve schema q = [projectedName text]) ∧
    ∀ edited, projectedName text ∈ resolve schema q →
      removeColumn schema options q text = .ok (some edited) →
        (∀ x, x ∈ resolve schema edited ↔ x ∈ resolve schema q ∧ x ≠ projectedName text) ∧
        edited.tests = q.tests.filter (projectedName ·.column ≠ projectedName text) ∧
        edited.groupBy = q.groupBy.filter (·.resolvedName ≠ some (projectedName text)) ∧
        edited.orderBy =
          q.orderBy.filter (·.column.resolvedName ≠ some (projectedName text)) := by
  refine ⟨removeColumn_of_not_mem valid, removeColumn_eq_none_iff valid, ?_⟩
  intro edited hmem hedit
  have h := removeColumn_eq_some valid hmem hedit
  have hresolve := fun x => mem_resolve_unprojectColumn plain h (x := x)
  have hframe := frame_unprojectColumn h
  rw [projectedName_projectedName] at hframe
  simp only [projectedName_projectedName] at hresolve
  exact ⟨hresolve, hframe⟩

/-- The flights of one carrier, with whatever is known of them. -/
def carrierFlights : Select :=
  { items := [.identifier "*"]
    source := .naturalJoin (.bare "flights") (.bare "carriers")
    filter := some (.and (.test (.compare "carrier_id" .eq (.number "7")))
      (.test (.like "name" (.string "A%"))))
    groupBy := []
    orderBy := [⟨.identifier "id", none⟩] }

theorem removeColumn_unprojects_name :
    ∃ edited, removeColumn .flights .default carrierFlights "carriers.name" = .ok (some edited) ∧
      (∀ x, x ∈ resolve .flights edited ↔ x ∈ resolve .flights carrierFlights ∧ x ≠ "name") ∧
      edited.tests = [.compare "carrier_id" .eq (.number "7")] :=
  have h := (@removeColumn_unprojects .flights .default carrierFlights "carriers.name" (by decide)
    rfl).2.2 _ (by decide) rfl
  ⟨_, rfl, h.1, h.2.1⟩

end SelectTree.Edit
