import SelectTree.Proofs.Validity

namespace SelectTree

/-! Sort keys that are set again. A key is stored as the text that it was set with, but it is
looked for by its name. A text that does not have the name it is looked for by is never found. -/

theorem ColumnRef.paren_mem_rendering {c : ColumnRef} (h : c.isCall = true) :
    '(' ∈ c.rendering.toList := by
  cases c with
  | identifier text => cases h
  | call name args => simp [rendering, Text.parenthesized]

namespace Edit

variable {schema : Schema} {q edited : Select} {text name : String} {table : Option String}
  {ascending : Option Bool}

/-! Texts that sort by the key they name -/

/-- Texts that are found again where they sort. -/
structure IsKeyText (text : String) : Prop where
  full : hasFullSegments text = true
  ne_wildcard : text ≠ "*"
  not_star : isStar text = false
  /-- The rendering of a call is looked for as a whole, while it is known by what follows its last
  dot. -/
  undivided : '(' ∈ text.toList → '.' ∉ text.toList

theorem isKeyText_iff :
    IsKeyText text ↔ hasFullSegments text = true ∧
      text ≠ "*" ∧ isStar text = false ∧ ('(' ∈ text.toList → '.' ∉ text.toList) :=
  ⟨fun ⟨hfull, hwild, hstar, hparen⟩ => ⟨hfull, hwild, hstar, hparen⟩,
    fun ⟨hfull, hwild, hstar, hparen⟩ => ⟨hfull, hwild, hstar, hparen⟩⟩

instance (text : String) : Decidable (IsKeyText text) :=
  decidable_of_iff' _ isKeyText_iff

theorem isStar_iff_ofText (hwild : text ≠ "*") :
    isStar text = true ↔ ∃ table, Target.ofText text = .tableWildcard table := by
  constructor
  · intro hstar
    obtain ⟨front, hlist⟩ := Text.endsWith_iff.mp hstar
    have htext : text = star (String.ofList front) :=
      String.toList_injective (by simp [star, hlist])
    exact ⟨_, htext ▸ Target.ofText_star _⟩
  · rintro ⟨table, htarget⟩
    unfold Target.ofText at htarget
    rw [if_neg hwild] at htarget
    split at htarget
    · rename_i before hsplit
      exact Text.endsWith_iff.mpr ⟨before, (Text.eq_append_of_splitLast hsplit).1⟩
    · cases htarget
    · cases htarget

theorem eq_of_ofText_iff (h : Target.ofText text = .column table name) :
    name = text ↔ '.' ∉ text.toList := by
  constructor
  · rintro rfl
    exact (Target.isColumnName_of_ofText h).dotless
  · intro hdot
    have hne : text ≠ "*" := fun heq => by simp [heq] at h
    have hname := isColumnName_iff.mpr ⟨hdot, hne⟩
    exact ((Target.column.inj (hname.ofText_eq.symm.trans h)).2).symm

theorem isKeyOf_projectedName :
    isKeyOf (projectedName text) (.identifier text) = true ↔
      text ≠ "*" ∧ isStar text = false ∧ ('(' ∈ text.toList → '.' ∉ text.toList) := by
  rw [isKeyOf, decide_eq_true_eq, ColumnRef.resolvedName, ColumnRef.columnName,
    ColumnRef.target_identifier]
  cases htarget : Target.ofText text with
  | wildcard => simp [Target.ofText_eq_wildcard_iff.mp htarget]
  | tableWildcard table =>
      have hne : text ≠ "*" := fun heq => by simp [heq] at htarget
      simp [(isStar_iff_ofText hne).mpr ⟨table, htarget⟩]
  | column table name =>
      have hne : text ≠ "*" := fun heq => by simp [heq] at htarget
      have hstar : isStar text = false := by
        rw [Bool.eq_false_iff, Ne, isStar_iff_ofText hne, htarget]
        simp
      by_cases hparen : '(' ∈ text.toList
      · simp [projectedName, hparen, hne, hstar, eq_of_ofText_iff htarget]
      · simp [projectedName, hparen, hne, hstar, htarget]

theorem ne_empty_of_mem_resolve (plain : schema.HasPlainColumns) (valid : q.validate = .ok ())
    (h : text ∈ resolve schema q) : text ≠ "" := by
  obtain ⟨item, hitem, hmem⟩ := mem_resolve.mp h
  have hcheck := (Select.check_iff.mp (Select.validate_iff.mp valid)).2.1 item hitem
  have hcatalog : ∀ {table}, text ∈ schema.columnNames table → text ≠ "" := by
    intro table hname
    obtain ⟨found, hfound, -, column, hcolumn, rfl⟩ := exists_of_mem_columnNames hname
    exact (plain found hfound column hcolumn).ne_empty
  cases item with
  | call name args =>
      obtain ⟨front, hfront⟩ :=
        ColumnRef.exists_rendering_eq (rfl : (ColumnRef.call name args).isCall = true)
      rw [expand_call rfl, List.mem_singleton] at hmem
      intro hempty
      simp [← hmem, hempty] at hfront
  | identifier written =>
      rw [expand, ColumnRef.target_identifier] at hmem
      cases htarget : Target.ofText written with
      | wildcard =>
          rw [htarget] at hmem
          obtain ⟨table, -, hname⟩ := List.mem_flatMap.mp hmem
          exact hcatalog hname
      | tableWildcard table =>
          rw [htarget] at hmem
          exact hcatalog hmem
      | column table name =>
          rw [htarget] at hmem
          obtain rfl := List.mem_singleton.mp hmem
          exact (isDotless_of_ofText (check_identifier_iff.mp hcheck) htarget).ne_empty

/-- Of the columns that a projection stands for, those without a dot are found again. -/
theorem isKeyText_iff_of_mem_resolve (plain : schema.HasPlainColumns)
    (valid : q.validate = .ok ()) (h : text ∈ resolve schema q) :
    IsKeyText text ↔ '.' ∉ text.toList := by
  have hprojectable := projectable_of_mem_resolve plain h
  constructor
  · intro hkey
    cases hprojectable with
    | name hname => exact hname.dotless
    | call hitem hcall => exact hkey.undivided (ColumnRef.paren_mem_rendering hcall)
  · intro hdot
    have hne := ne_empty_of_mem_resolve plain valid h
    exact ⟨IsDotless.hasFullSegments ⟨hne, hdot⟩, hprojectable.ne_wildcard,
      hprojectable.isStar_eq_false, fun _ => hdot⟩

/-! Keys that are set and removed again -/

/-- A query without the keys that a text names. -/
def withoutKeys (q : Select) (text : String) : Select :=
  { q with orderBy := q.orderBy.filter (!isKeyOf (projectedName text) ·.column) }

/-- A query that sorts by a text after all other keys. -/
def sorting (q : Select) (text : String) (ascending : Option Bool) : Select :=
  { q with orderBy := (withoutKeys q text).orderBy ++ [⟨.identifier text, ascending⟩] }

theorem removeOrder_eq_ok_iff :
    removeOrder q text = .ok edited ↔ q.validate = .ok () ∧ edited = withoutKeys q text := by
  constructor
  · exact removeOrder_eq_ok
  · rintro ⟨valid, rfl⟩
    rw [removeOrder, valid]
    rfl

theorem orderBy_eq_ok_iff :
    orderBy schema q text ascending = .ok edited ↔
      q.validate = .ok () ∧ isAvailable schema q text = true ∧
        edited = sorting q text ascending := by
  constructor
  · exact orderBy_eq_ok
  · rintro ⟨valid, havailable, rfl⟩
    rw [orderBy, removeOrder_eq_ok_iff.mpr ⟨valid, rfl⟩]
    exact if_pos havailable

theorem withoutKeys_withoutKeys : withoutKeys (withoutKeys q text) text = withoutKeys q text := by
  simp [withoutKeys, List.filter_filter]

/-- The key that was set is dropped with the others if it has the name that they have. -/
theorem orderBy_withoutKeys_sorting :
    (withoutKeys (sorting q text ascending) text).orderBy =
      if isKeyOf (projectedName text) (.identifier text) then (withoutKeys q text).orderBy
      else (sorting q text ascending).orderBy := by
  have hrest : (withoutKeys q text).orderBy.filter (!isKeyOf (projectedName text) ·.column) =
      (withoutKeys q text).orderBy :=
    congrArg Select.orderBy withoutKeys_withoutKeys
  rw [withoutKeys, sorting, List.filter_append, hrest]
  by_cases hkey : isKeyOf (projectedName text) (.identifier text) = true
  · simp [hkey]
  · simp [hkey]

theorem withoutKeys_sorting_iff :
    withoutKeys (sorting q text ascending) text = withoutKeys q text ↔
      isKeyOf (projectedName text) (.identifier text) = true := by
  have horder := @orderBy_withoutKeys_sorting q text ascending
  constructor
  · intro heq
    by_contra hkey
    rw [heq, if_neg hkey] at horder
    simp [sorting] at horder
  · intro hkey
    rw [if_pos hkey] at horder
    exact congrArg (fun orderBy => { q with orderBy }) horder

theorem sorting_sorting_iff :
    sorting (sorting q text ascending) text ascending = sorting q text ascending ↔
      isKeyOf (projectedName text) (.identifier text) = true := by
  rw [← @withoutKeys_sorting_iff q text ascending]
  constructor
  · intro heq
    have horder := List.append_cancel_right (congrArg Select.orderBy heq)
    exact congrArg (fun orderBy => { q with orderBy }) horder
  · intro heq
    have hkeys : (withoutKeys (sorting q text ascending) text).orderBy =
        (withoutKeys q text).orderBy := congrArg Select.orderBy heq
    rw [sorting, hkeys]
    rfl

/-- A key that is set comes last, in place of those it is known as. Setting it again changes
nothing, and removing it leaves the others, exactly if its text is found again; of the columns that
the projection stands for, those without a dot are. -/
theorem orderBy_replaces (h : orderBy schema q text ascending = .ok edited) :
    edited = sorting q text ascending ∧
      (orderBy schema edited text ascending = .ok edited ↔ IsKeyText text) ∧
      (removeOrder edited text = .ok (withoutKeys q text) ↔ IsKeyText text) ∧
      (schema.HasPlainColumns → text ∈ resolve schema q →
        (IsKeyText text ↔ '.' ∉ text.toList)) := by
  have hvalid := validate_orderBy_iff_hasFullSegments h
  obtain ⟨valid, havailable, rfl⟩ := orderBy_eq_ok_iff.mp h
  have havailable' : isAvailable schema (sorting q text ascending) text = true := havailable
  refine ⟨rfl, ?_, ?_, fun plain => isKeyText_iff_of_mem_resolve plain valid⟩
  · rw [orderBy_eq_ok_iff, hvalid, isKeyText_iff, ← isKeyOf_projectedName,
      eq_comm (a := sorting q text ascending), sorting_sorting_iff]
    simp [havailable']
  · rw [removeOrder_eq_ok_iff, hvalid, isKeyText_iff, ← isKeyOf_projectedName,
      eq_comm (a := withoutKeys q text), withoutKeys_sorting_iff]

/-- How many flights there are. -/
def flightCount : Select :=
  .new [.call "count" [.identifier "flights.id"]] (.bare "flights")

theorem orderBy_replaces_flight_id :
    ∃ edited, orderBy .flights (sorting (sorting flightCount "id" none) "carrier_id" (some false))
        "flights.id" (some true) = .ok edited ∧
      edited.orderBy = [⟨.identifier "carrier_id", some false⟩,
        ⟨.identifier "flights.id", some true⟩] ∧
      orderBy .flights edited "flights.id" (some true) = .ok edited :=
  have ⟨_, hagain, _⟩ := @orderBy_replaces .flights
    (sorting (sorting flightCount "id" none) "carrier_id" (some false)) _ "flights.id"
    (some true) rfl
  ⟨_, rfl, rfl, hagain.mpr (by decide)⟩

/-- The column of a call is sorted by twice, and its keys stay when they are removed. -/
theorem orderBy_keeps_flight_count :
    Sql.Dialect.generic.parse "SELECT count(flights.id) FROM flights" =
        .ok (some flightCount) ∧
      "count(flights.id)" ∈ resolve .flights flightCount ∧
      ∃ edited, orderBy .flights flightCount "count(flights.id)" none = .ok edited ∧
        removeOrder edited "count(flights.id)" = .ok edited ∧
        ∃ again, orderBy .flights edited "count(flights.id)" none = .ok again ∧
          again.orderBy = [⟨.identifier "count(flights.id)", none⟩,
            ⟨.identifier "count(flights.id)", none⟩] :=
  ⟨by decide +kernel, by decide, _, rfl, rfl, _, rfl, rfl⟩

end Edit

end SelectTree
