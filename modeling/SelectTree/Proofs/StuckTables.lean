import SelectTree.Proofs.DraggedColumns
import SelectTree.Proofs.LooseTables

namespace SelectTree.Edit

/-! Which tables are left of a query that loses some of them: how a chain that is pruned compares
to one that is read anew, and when a column cannot go because a table is stuck. -/

variable {schema : Schema} {options : Options} {q : Select} {stale remaining : List String}
  {text : String}

/-! Pruned chains -/

/-- Flights with their carriers and the home airports of these. -/
def homeAirports : Select :=
  .new [.identifier "id"]
    (.naturalJoin (.bare "flights") (.nested (.naturalJoin (.bare "carriers") (.bare "airports"))))

theorem keeps_staleTables (valid : q.validate = .ok ()) :
    q.source.keeps (staleTables schema q remaining) = true := by
  have hne : neededTables schema q remaining ≠ [] := neededTables_ne_nil valid
  obtain ⟨name, hname⟩ := List.exists_mem_of_ne_nil _ hne
  have hread : name ∈ q.tables := (neededTables_sublist schema q remaining).mem hname
  exact Source.keeps_iff.mpr ⟨name, mem_tables.mp hread, by simp [staleTables, hname]⟩

theorem removeTables_eq_error (valid : q.validate = .ok ()) (h : ¬ IsCleared q.source stale) :
    ∃ stuck, stuck ≠ [] ∧ (∀ table ∈ stuck, table ∈ stale) ∧
      removeTables q stale = .error (.unsupportedEdit (.stuckTables stuck)) := by
  rw [← exists_removeTables_iff valid] at h
  unfold removeTables at h ⊢
  rw [foldlM_removeNaturalJoin valid] at h ⊢
  dsimp only [bind, Except.bind] at h ⊢
  split at h
  · exact absurd ⟨_, rfl⟩ h
  · rename_i hstuck
    rw [if_neg hstuck]
    exact ⟨_, by simpa using hstuck, by simp, rfl⟩

/-- The needed tables are read anew or the stale ones are dropped, and then some may be stuck. -/
theorem pruneTables_outcome (valid : q.validate = .ok ()) (tidy : q.source.isTidy = true)
    (reads : ∀ name ∈ q.tables, ReadsTable options.dialect name) :
    if isReread schema q remaining ∨ q.source.isLoose (staleTables schema q remaining) then
      ∃ pruned, pruneTables schema options q remaining = .ok pruned
    else
      ∃ stuck, stuck ≠ [] ∧ (∀ table ∈ stuck, table ∈ staleTables schema q remaining) ∧
        pruneTables schema options q remaining = .error (.unsupportedEdit (.stuckTables stuck)) := by
  have hcleared : IsCleared q.source (staleTables schema q remaining) ↔
      q.source.isLoose (staleTables schema q remaining) = true := by
    have hnodup : (staleTables schema q remaining).Nodup := (nodup_eraseDups _).filter _
    rw [Source.isCleared_iff hnodup (Select.validate_source valid) tidy]
    exact and_iff_left (keeps_staleTables valid)
  split
  · rename_i h
    rw [exists_pruneTables_iff valid, IsPrunable]
    split
    · obtain ⟨source, hread, -⟩ := exists_readChain (neededTables_ne_nil valid)
        fun name hname => reads name ((neededTables_sublist schema q remaining).mem hname)
      exact ⟨source, hread⟩
    · rename_i hreread
      exact hcleared.mpr (h.resolve_left hreread)
  · rename_i h
    obtain ⟨hreread, hstuck⟩ := not_or.mp h
    rw [pruneTables_of_not_isReread (by simpa using hreread)]
    exact removeTables_eq_error valid (mt hcleared.mp hstuck)

/-- Flights with the names of their carriers, however these are joined. -/
def flightsWithNames (source : Source) : Select :=
  .new [.identifier "id", .identifier "name"] source

/-- Flights beside themselves, with their carriers. -/
def doubledFlights : Select :=
  flightsWithNames (.naturalJoin (.naturalJoin (.bare "flights") (.bare "flights")) (.bare "carriers"))

end SelectTree.Edit
