import SelectTree.Edit.Projection

namespace SelectTree

/-! Column names, stars and renderings of calls as texts. The three never get mixed up: a column
name has no dot, a star ends in a dot and an asterisk, a rendering ends in a parenthesis. -/

/-- A text that is read as a column without a table. -/
def IsColumnName (name : String) : Prop :=
  Target.ofText name = .column none name

/-- A name as catalogs give them to tables and columns. -/
structure IsPlainName (name : String) : Prop where
  ne_empty : name ≠ ""
  dotless : '.' ∉ name.toList
  ne_wildcard : name ≠ "*"

theorem isPlainName_iff {name : String} :
    IsPlainName name ↔ name ≠ "" ∧ '.' ∉ name.toList ∧ name ≠ "*" :=
  ⟨fun ⟨hempty, hdot, hwild⟩ => ⟨hempty, hdot, hwild⟩,
    fun ⟨hempty, hdot, hwild⟩ => ⟨hempty, hdot, hwild⟩⟩

instance (name : String) : Decidable (IsPlainName name) :=
  decidable_of_iff' _ isPlainName_iff

/-- All columns of all tables have plain names. -/
def Schema.HasPlainColumns (schema : Schema) : Prop :=
  ∀ table ∈ schema.tables, ∀ column ∈ table.columns, IsPlainName column.name

instance (schema : Schema) : Decidable schema.HasPlainColumns :=
  inferInstanceAs (Decidable (∀ table ∈ schema.tables, ∀ column ∈ table.columns,
    IsPlainName column.name))

/-- Flights, and the carriers that fly them. -/
def Schema.flights : Schema :=
  ⟨[⟨"flights", [⟨"id", .integer⟩, ⟨"carrier_id", .integer⟩]⟩,
    ⟨"carriers", [⟨"carrier_id", .integer⟩, ⟨"name", .text⟩]⟩]⟩

theorem IsColumnName.ofText_eq {name : String} (h : IsColumnName name) :
    Target.ofText name = .column none name := h

theorem isColumnName_iff {name : String} :
    IsColumnName name ↔ '.' ∉ name.toList ∧ name ≠ "*" := by
  unfold IsColumnName Target.ofText
  by_cases hwild : name = "*"
  · simp [hwild]
  · cases hsplit : Text.splitLast '.' name.toList with
    | none => simpa [hwild] using Text.splitLast_eq_none_iff.mp hsplit
    | some parts =>
        obtain ⟨before, after⟩ := parts
        have hmem : '.' ∈ name.toList := by
          rw [(Text.eq_append_of_splitLast hsplit).1]
          simp
        simp only [hwild, if_false, hmem, not_true_eq_false, false_and, iff_false]
        split
        · simp
        · simp
        · rename_i heq
          cases heq

theorem IsPlainName.isColumnName {name : String} (plain : IsPlainName name) :
    IsColumnName name :=
  isColumnName_iff.mpr ⟨plain.dotless, plain.ne_wildcard⟩

theorem IsColumnName.dotless {name : String} (h : IsColumnName name) : '.' ∉ name.toList :=
  (isColumnName_iff.mp h).1

theorem IsColumnName.ne_wildcard {name : String} (h : IsColumnName name) : name ≠ "*" :=
  (isColumnName_iff.mp h).2

/-! Targets -/

@[simp] theorem ColumnRef.target_identifier (text : String) :
    (ColumnRef.identifier text).target = some (Target.ofText text) := rfl

@[simp] theorem ColumnRef.target_call (name : String) (args : List ColumnRef) :
    (ColumnRef.call name args).target = none := rfl

@[simp] theorem Target.ofText_wildcard : Target.ofText "*" = .wildcard := rfl

theorem Target.ofText_eq_wildcard_iff {text : String} :
    Target.ofText text = .wildcard ↔ text = "*" := by
  constructor
  · intro h
    unfold Target.ofText at h
    split at h
    · assumption
    · split at h <;> cases h
  · rintro rfl
    rfl

/-- The column of a qualified text is a column name on its own. -/
theorem Target.isColumnName_of_ofText {text name : String} {table : Option String}
    (h : Target.ofText text = .column table name) : IsColumnName name := by
  unfold Target.ofText at h
  split at h
  · cases h
  · rename_i hwild
    cases hsplit : Text.splitLast '.' text.toList with
    | none =>
        rw [hsplit] at h
        cases h
        exact isColumnName_iff.mpr ⟨Text.splitLast_eq_none_iff.mp hsplit, hwild⟩
    | some parts =>
        obtain ⟨before, after⟩ := parts
        have hdotless := (Text.eq_append_of_splitLast hsplit).2
        rw [hsplit] at h
        split at h
        · cases h
        · rename_i before' after' hne heq
          obtain ⟨rfl, rfl⟩ := Prod.mk.inj (Option.some.inj heq)
          cases h
          refine isColumnName_iff.mpr ⟨by simpa using hdotless, ?_⟩
          intro hstar
          have hlist : after = ['*'] := by
            simpa using congrArg String.toList hstar
          exact hne hlist
        · rename_i heq
          cases heq

/-- A text names what it is, or what stands behind its last dot. -/
theorem Target.toList_of_ofText {text name : String} {table : Option String}
    (h : Target.ofText text = .column table name) :
    text = name ∨ ∃ before, text.toList = before ++ '.' :: name.toList := by
  unfold Target.ofText at h
  split at h
  · cases h
  · split at h
    · cases h
    · rename_i before after _ hsplit
      cases h
      exact .inr ⟨before, by simpa using (Text.eq_append_of_splitLast hsplit).1⟩
    · cases h
      exact .inl rfl

theorem ColumnRef.columnName_eq_some_iff {text name : String} :
    (ColumnRef.identifier text).columnName = some name ↔
      ∃ table, Target.ofText text = .column table name := by
  rw [columnName, target_identifier]
  cases Target.ofText text with
  | wildcard => simp
  | tableWildcard table => simp
  | column table name' => simp

theorem Target.ofText_star (table : String) :
    Target.ofText (Edit.star table) = .tableWildcard table := by
  have hlist : (Edit.star table).toList = table.toList ++ '.' :: ['*'] := by
    simp [Edit.star]
  have hne : Edit.star table ≠ "*" := by
    intro h
    have := congrArg (fun text => text.toList.length) h
    simp [Edit.star] at this
  simp [Target.ofText, hne, hlist, Text.splitLast_append]

/-! Projected names -/

theorem projectedName_of_isColumnName {name : String} (h : IsColumnName name) :
    projectedName name = name := by
  unfold projectedName
  rw [h]
  split <;> rfl

@[simp] theorem projectedName_projectedName (text : String) :
    projectedName (projectedName text) = projectedName text := by
  by_cases hparen : '(' ∈ text.toList
  · have h : projectedName text = text := by simp [projectedName, hparen]
    rw [h, h]
  · cases htarget : Target.ofText text with
    | wildcard =>
        have h : projectedName text = text := by simp [projectedName, hparen, htarget]
        rw [h, h]
    | tableWildcard table =>
        have h : projectedName text = text := by simp [projectedName, hparen, htarget]
        rw [h, h]
    | column table name =>
        have h : projectedName text = name := by simp [projectedName, hparen, htarget]
        rw [h, projectedName_of_isColumnName (Target.isColumnName_of_ofText htarget)]

/-! Stars and renderings -/

namespace Edit

@[simp] theorem isStar_star (table : String) : isStar (star table) = true :=
  Text.endsWith_iff.mpr ⟨table.toList, by simp [star]⟩

theorem isStar_eq_false_of_isColumnName {name : String} (h : IsColumnName name) :
    isStar name = false := by
  rw [Bool.eq_false_iff]
  intro hstar
  obtain ⟨front, hlist⟩ := Text.endsWith_iff.mp hstar
  exact h.dotless (by simp [hlist])

theorem star_injective {table other : String} (h : star table = star other) : table = other := by
  have htarget := congrArg Target.ofText h
  rw [Target.ofText_star, Target.ofText_star] at htarget
  exact Target.tableWildcard.inj htarget

theorem star_ne_wildcard (table : String) : star table ≠ "*" := by
  intro h
  have htarget := Target.ofText_star table
  rw [h, Target.ofText_wildcard] at htarget
  cases htarget

theorem star_ne_of_isColumnName {name : String} (h : IsColumnName name) (table : String) :
    star table ≠ name := by
  intro heq
  have hstar := isStar_eq_false_of_isColumnName h
  rw [← heq, isStar_star] at hstar
  cases hstar

end Edit

theorem ColumnRef.exists_rendering_eq {c : ColumnRef} (h : c.isCall = true) :
    ∃ front, c.rendering.toList = front ++ [')'] := by
  cases c with
  | identifier text => cases h
  | call name args =>
      exact ⟨name.toList ++ '(' :: (Text.joined "," (renderings args)).toList, by
        simp [rendering, Text.parenthesized]⟩

theorem Edit.isStar_rendering {c : ColumnRef} (h : c.isCall = true) :
    isStar c.rendering = false := by
  rw [Bool.eq_false_iff]
  intro hstar
  obtain ⟨front, hfront⟩ := ColumnRef.exists_rendering_eq h
  obtain ⟨other, hother⟩ := Text.endsWith_iff.mp hstar
  have hlast := congrArg List.getLast? (hfront.symm.trans hother)
  simp at hlast

theorem ColumnRef.rendering_ne_wildcard {c : ColumnRef} (h : c.isCall = true) :
    c.rendering ≠ "*" := by
  intro hwild
  obtain ⟨front, hfront⟩ := exists_rendering_eq h
  have hlast := congrArg List.getLast? (hfront.symm.trans (congrArg String.toList hwild))
  simp at hlast

end SelectTree
