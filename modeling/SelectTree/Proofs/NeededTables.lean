import Mathlib.Data.List.Nodup
import Mathlib.Data.List.Perm.Subperm
import SelectTree.Proofs.Names
import SelectTree.Proofs.PrunedTables

namespace SelectTree.Edit

/-! Needed tables: which of some candidates are chosen for columns, and what the choice covers. -/

variable {schema : Schema} {table : String} {columns candidates : List String}

/-! Supplied columns -/

theorem supplied_sublist {others : List String} (h : ∀ x ∈ columns, x ∈ others) (table : String) :
    (supplied schema columns table).Sublist (supplied schema others table) := by
  have hkept : supplied schema columns table =
      (supplied schema others table).filter (columns.contains ·) := by
    rw [supplied, supplied, List.filter_filter]
    apply List.filter_congr
    intro x _
    by_cases hx : x ∈ columns
    · simp [hx, h x hx]
    · simp [hx]
  rw [hkept]
  exact List.filter_sublist

theorem eq_singleton_of_length {names : List String} (hne : names ≠ [])
    (hlength : ¬ 1 < names.length) : ∃ name, names = [name] := by
  apply List.length_eq_one_iff.mp
  have hpos := List.length_pos_iff.mpr hne
  omega

theorem supplied_eq_singleton_iff {name : String} :
    supplied schema columns table = [name] ↔
      (supplied schema columns table).length = 1 ∧ name ∈ supplied schema columns table := by
  constructor
  · intro h
    simp [h]
  · rintro ⟨hlength, hmem⟩
    obtain ⟨brought, hbrought⟩ := List.length_eq_one_iff.mp hlength
    rw [hbrought] at hmem ⊢
    rw [List.mem_singleton.mp hmem]

theorem suppliedTogether_subset {others : List String} (h : ∀ t ∈ candidates, t ∈ others) :
    ∀ name ∈ suppliedTogether schema columns candidates,
      name ∈ suppliedTogether schema columns others := by
  intro name hname
  obtain ⟨t, ht, hseveral⟩ := mem_suppliedTogether_iff.mp hname
  exact mem_suppliedTogether_iff.mpr ⟨t, h t ht, hseveral⟩

/-! One column -/

/-- A needed table with one of the columns is the first to bring it, and brings it alone. -/
theorem IsNeeded.exists_split {name : String} (h : IsNeeded schema candidates columns table)
    (hname : supplied schema columns table = [name]) :
    ∃ before after, candidates = before ++ table :: after ∧
      name ∉ suppliedTogether schema columns candidates ∧
      ∀ earlier ∈ before, supplied schema columns earlier ≠ [name] := by
  obtain ⟨before, after, hsplit, hseveral | ⟨brought, hbrought, htogether, hbefore⟩⟩ := h
  · rw [hname] at hseveral
    exact absurd hseveral (by simp)
  · rw [hname] at hbrought
    obtain rfl := List.singleton_inj.mp hbrought
    exact ⟨before, after, hsplit, htogether, hbefore⟩

theorem isNeeded_iff_of_singleton (hnodup : candidates.Nodup) {before after : List String}
    (hsplit : candidates = before ++ table :: after) {name : String}
    (hname : supplied schema columns table = [name]) :
    IsNeeded schema candidates columns table ↔
      name ∉ suppliedTogether schema columns candidates ∧
        ∀ earlier ∈ before, supplied schema columns earlier ≠ [name] := by
  constructor
  · intro h
    obtain ⟨front, back, hother, htogether, hfront⟩ := h.exists_split hname
    have hsides := List.nodup_middle.mp (hsplit ▸ hnodup)
    have hfresh := (List.nodup_cons.mp hsides).1
    rw [List.mem_append, not_or] at hfresh
    obtain ⟨rfl, -, -⟩ :=
      (List.append_cons_inj_of_notMem hfresh.1 hfresh.2).mp (hsplit.symm.trans hother)
    exact ⟨htogether, hfront⟩
  · rintro ⟨htogether, hbefore⟩
    exact ⟨before, after, hsplit, .inr ⟨name, hname, htogether, hbefore⟩⟩

/-- A candidate with some of the columns that is not needed has one of them, which another
candidate has as well. -/
theorem exists_supplier_of_not_isNeeded (hnodup : candidates.Nodup) (hmem : table ∈ candidates)
    (hsome : supplied schema columns table ≠ [])
    (h : ¬ IsNeeded schema candidates columns table) :
    ∃ name, supplied schema columns table = [name] ∧
      ∃ other ∈ candidates, other ≠ table ∧ name ∈ supplied schema columns other := by
  have hlength : ¬ 1 < (supplied schema columns table).length :=
    fun hseveral => h (isNeeded_of_several hmem hseveral)
  obtain ⟨name, hname⟩ := eq_singleton_of_length hsome hlength
  refine ⟨name, hname, ?_⟩
  by_cases htogether : name ∈ suppliedTogether schema columns candidates
  · obtain ⟨other, hother, hseveral, hbrought⟩ := mem_suppliedTogether_iff.mp htogether
    refine ⟨other, hother, ?_, hbrought⟩
    rintro rfl
    exact hlength hseveral
  · -- The column is not brought together with others, so a table before this one brings it alone.
    obtain ⟨before, after, hsplit⟩ := List.append_of_mem hmem
    have hearlier : ¬ ∀ other ∈ before, supplied schema columns other ≠ [name] :=
      fun hnone => h ⟨before, after, hsplit, .inr ⟨name, hname, htogether, hnone⟩⟩
    simp only [not_forall, not_not] at hearlier
    obtain ⟨other, hbefore, hother⟩ := hearlier
    rw [hsplit, List.nodup_append] at hnodup
    refine ⟨other, ?_, ?_, ?_⟩
    · rw [hsplit]
      exact List.mem_append_left _ hbefore
    · exact hnodup.2.2 other hbefore table List.mem_cons_self
    · rw [hother]
      exact List.mem_singleton_self name

/-- No column that a needed table brings alone comes from another needed table too. -/
theorem IsNeeded.eq_of_mem_supplied {other name : String}
    (h : IsNeeded schema candidates columns table)
    (hother : IsNeeded schema candidates columns other)
    (hname : supplied schema columns table = [name])
    (hmem : name ∈ supplied schema columns other) : other = table := by
  obtain ⟨before, after, hsplit, htogether, hbefore⟩ := h.exists_split hname
  have hlone : supplied schema columns other = [name] := by
    have hlength : ¬ 1 < (supplied schema columns other).length := by
      intro hseveral
      obtain ⟨front, back, hlisted, -⟩ := hother
      exact htogether (mem_suppliedTogether_iff.mpr ⟨other, by simp [hlisted], hseveral, hmem⟩)
    have hpos := List.length_pos_of_mem hmem
    exact supplied_eq_singleton_iff.mpr ⟨by omega, hmem⟩
  obtain ⟨front, back, hsplit', -, hfront⟩ := hother.exists_split hlone
  -- Whichever of the two stands first would leave the other one useless.
  rcases List.append_eq_append_iff.mp (hsplit.symm.trans hsplit') with
    ⟨middle, rfl, htail⟩ | ⟨middle, rfl, htail⟩
  · cases middle with
    | nil => exact (List.cons.inj htail).1.symm
    | cons first rest =>
        obtain ⟨rfl, -⟩ := List.cons.inj htail
        exact absurd hname (hfront table (by simp))
  · cases middle with
    | nil => exact (List.cons.inj htail).1
    | cons first rest =>
        obtain ⟨rfl, -⟩ := List.cons.inj htail
        exact absurd hlone (hbefore other (by simp))

/-! The choice -/

theorem exists_mem_of_isNeeded (h : IsNeeded schema candidates columns table) :
    ∃ name ∈ columns, name ∈ schema.columnNames table := by
  obtain ⟨before, after, -, huseful⟩ := h
  obtain ⟨name, hname⟩ : ∃ name, name ∈ supplied schema columns table := by
    rcases huseful with hseveral | ⟨name, hname, -⟩
    · exact List.exists_mem_of_length_pos (Nat.zero_lt_of_lt hseveral)
    · exact ⟨name, hname ▸ List.mem_singleton_self name⟩
  exact ⟨name, (mem_supplied.mp hname).2, (mem_supplied.mp hname).1⟩

/-- What was chosen is needed among the chosen tables too: fewer candidates bring nothing that
more of them did not. -/
theorem IsNeeded.among_chosen (hnodup : candidates.Nodup)
    (h : IsNeeded schema candidates columns table) :
    IsNeeded schema (tablesForWithin schema columns candidates) columns table := by
  have hchosen := tablesForWithin_sublist schema columns candidates
  have hmem := mem_tablesForWithin_iff.mpr h
  by_cases hseveral : 1 < (supplied schema columns table).length
  · exact isNeeded_of_several hmem hseveral
  · obtain ⟨x, hx, hxtable⟩ := exists_mem_of_isNeeded h
    obtain ⟨name, hname⟩ :=
      eq_singleton_of_length (List.ne_nil_of_mem (mem_supplied.mpr ⟨hxtable, hx⟩)) hseveral
    obtain ⟨-, -, -, htogether, -⟩ := h.exists_split hname
    obtain ⟨before, after, hsplit⟩ := List.append_of_mem hmem
    refine ⟨before, after, hsplit, .inr ⟨name, hname, ?_, ?_⟩⟩
    · exact fun hname => htogether
        (suppliedTogether_subset (fun _ ht => hchosen.mem ht) name hname)
    · intro other hother hsame
      have hneeded : IsNeeded schema candidates columns other := by
        rw [← mem_tablesForWithin_iff, hsplit]
        exact List.mem_append_left _ hother
      have heq := h.eq_of_mem_supplied hneeded hname (hsame ▸ List.mem_singleton_self name)
      have hdistinct := hnodup.sublist hchosen
      rw [hsplit, List.nodup_append] at hdistinct
      exact hdistinct.2.2 other hother table List.mem_cons_self heq

theorem tablesForWithin_again (hnodup : candidates.Nodup) :
    tablesForWithin schema columns (tablesForWithin schema columns candidates) =
      tablesForWithin schema columns candidates := by
  have hchosen := tablesForWithin_sublist schema columns candidates
  have hagain : tablesForWithin schema columns candidates ⊆
      tablesForWithin schema columns (tablesForWithin schema columns candidates) := by
    intro table htable
    exact mem_tablesForWithin_iff.mpr
      ((mem_tablesForWithin_iff.mp htable).among_chosen hnodup)
  exact (tablesForWithin_sublist schema columns _).eq_of_length_le
    ((hnodup.sublist hchosen).subperm hagain).length_le

/-- The choice of tables for some columns. Every chosen table has one of them, and every column
that a candidate has comes from a chosen table. A candidate with several of the columns is
chosen; one with a single column is chosen exactly if this column comes neither with others nor
alone from a candidate before it. Choosing among the chosen tables changes nothing. -/
theorem tablesForWithin_chooses (hnodup : candidates.Nodup) :
    (tablesForWithin schema columns candidates).Sublist candidates ∧
      (∀ table ∈ tablesForWithin schema columns candidates,
        ∃ name ∈ columns, name ∈ schema.columnNames table) ∧
      (∀ name ∈ columns, IsSupplied schema candidates name →
        IsSupplied schema (tablesForWithin schema columns candidates) name) ∧
      (∀ table ∈ candidates, 1 < (supplied schema columns table).length →
        table ∈ tablesForWithin schema columns candidates) ∧
      (∀ before table after name, candidates = before ++ table :: after →
        supplied schema columns table = [name] →
          (table ∈ tablesForWithin schema columns candidates ↔
            (∀ other ∈ candidates, 1 < (supplied schema columns other).length →
              name ∉ supplied schema columns other) ∧
            ∀ other ∈ before, (supplied schema columns other).length = 1 →
              name ∉ supplied schema columns other)) ∧
      tablesForWithin schema columns (tablesForWithin schema columns candidates) =
        tablesForWithin schema columns candidates := by
  refine ⟨tablesForWithin_sublist schema columns candidates, ?_, ?_, ?_, ?_,
    tablesForWithin_again hnodup⟩
  · intro table htable
    exact exists_mem_of_isNeeded (mem_tablesForWithin_iff.mp htable)
  · intro name hname hsupplied
    exact isSupplied_tablesForWithin hname hsupplied
  · intro table htable hseveral
    exact mem_tablesForWithin_iff.mpr (isNeeded_of_several htable hseveral)
  · intro before table after name hsplit hname
    rw [mem_tablesForWithin_iff, isNeeded_iff_of_singleton hnodup hsplit hname,
      mem_suppliedTogether_iff]
    refine and_congr (by simp) (forall₂_congr fun other _ => ?_)
    rw [ne_eq, supplied_eq_singleton_iff, not_and]

/-- Flights come first and bring the number of the carrier, but carriers bring it with the name. -/
theorem tablesForWithin_chooses_carriers :
    ["flights", "carriers"].Nodup ∧
      supplied .flights ["name", "carrier_id"] "flights" = ["carrier_id"] ∧
      "flights" ∉ tablesForWithin .flights ["name", "carrier_id"] ["flights", "carriers"] ∧
      "carriers" ∈ tablesForWithin .flights ["name", "carrier_id"] ["flights", "carriers"] ∧
      IsSupplied .flights (tablesForWithin .flights ["name", "carrier_id"] ["flights", "carriers"])
        "carrier_id" := by
  obtain ⟨-, -, hcovers, hseveral, hsingle, -⟩ :=
    @tablesForWithin_chooses .flights ["name", "carrier_id"] ["flights", "carriers"] (by decide)
  refine ⟨by decide, rfl, ?_, hseveral "carriers" (by decide) (by decide),
    hcovers "carrier_id" (by decide) ⟨"flights", by decide, by decide⟩⟩
  intro hmem
  exact ((hsingle [] "flights" ["carriers"] "carrier_id" rfl rfl).mp hmem).1 "carriers"
    (by decide) (by decide) (by decide)

end SelectTree.Edit
