import SelectTree.Proofs.Filters

namespace SelectTree

/-! The types of columns and the constants that their filters compare with. The type of a filter's
column is looked up by the name alone, in the first table of the query that has the name. -/

/-- How the values of a column are written. -/
inductive ValueKind
  | number
  | text
  | truth
  deriving DecidableEq, Repr

/-- Every type has numerals, quoted texts or the two truth values. -/
def DataType.valueKind (type : DataType) : ValueKind :=
  if type.isNumeric then .number else if type.isTextual then .text else .truth

theorem DataType.valueKind_eq_truth_iff {type : DataType} :
    type.valueKind = .truth ↔ type = .boolean := by
  cases type <;> simp [valueKind, isNumeric, isTextual]

/-- Flights with the numbers of their gates, and airports with the names of theirs. -/
def Schema.gates : Schema :=
  ⟨[⟨"flights", [⟨"id", .integer⟩, ⟨"gate", .integer⟩]⟩,
    ⟨"airports", [⟨"gate", .text⟩, ⟨"city", .text⟩]⟩]⟩

namespace ValueKind

open Edit

/-- The constant that a value is for columns of a kind, if it is one. -/
def literal? : ValueKind → String → Option Literal
  | .number, value => numeral? value
  | .text, value => some (.string value)
  | .truth, value => boolean? value

variable {kind other : ValueKind} {value : String} {literal : Literal}

theorem isNumber_of_numeral? (h : numeral? value = some literal) :
    ∃ text, literal = .number text := by
  unfold numeral? at h
  dsimp only at h
  split at h
  · split at h
    · exact ⟨_, (Option.some.inj h).symm⟩
    · cases h
  · cases h

theorem isBoolean_of_boolean? (h : boolean? value = some literal) : ∃ b, literal = .boolean b := by
  unfold boolean? at h
  split at h
  · exact ⟨_, (Option.some.inj h).symm⟩
  · exact ⟨_, (Option.some.inj h).symm⟩
  · cases h

theorem numeral?_ne_string (value text : String) : numeral? value ≠ some (.string text) := by
  intro h
  obtain ⟨_, heq⟩ := isNumber_of_numeral? h
  cases heq

theorem boolean?_ne_string (value text : String) : boolean? value ≠ some (.string text) := by
  intro h
  obtain ⟨_, heq⟩ := isBoolean_of_boolean? h
  cases heq

theorem numeral?_eq_boolean?_iff :
    numeral? value = boolean? value ↔ numeral? value = none ∧ boolean? value = none := by
  refine ⟨fun h => ?_, fun ⟨hnumeral, hboolean⟩ => hnumeral.trans hboolean.symm⟩
  cases hnumeral : numeral? value with
  | none => exact ⟨rfl, by rw [← h, hnumeral]⟩
  | some literal =>
      obtain ⟨text, rfl⟩ := isNumber_of_numeral? hnumeral
      obtain ⟨b, heq⟩ := isBoolean_of_boolean? (h.symm.trans hnumeral)
      cases heq

/-- Values are the same constants for two kinds, or for neither of them any. -/
def Alike (kind other : ValueKind) (value : String) : Prop :=
  kind = other ∨
    kind ≠ .text ∧ other ≠ .text ∧ numeral? value = none ∧ boolean? value = none

theorem literal?_eq_iff : kind.literal? value = other.literal? value ↔ Alike kind other value := by
  cases kind <;> cases other <;>
    simp [literal?, Alike, numeral?_eq_boolean?_iff, numeral?_ne_string, boolean?_ne_string,
      eq_comm (a := boolean? value) (b := numeral? value),
      eq_comm (a := some (Literal.string value))]

end ValueKind

namespace Edit

variable {schema : Schema} {options : Options} {q : Select} {table name operator value text : String}
  {column : Column} {op : Comparison} {kind : ValueKind}

theorem typedLiteral?_some (type : DataType) (value : String) :
    typedLiteral? (some type) value = type.valueKind.literal? value := by
  simp only [typedLiteral?, DataType.valueKind]
  split
  · rfl
  · split <;> rfl

/-- The type that is found for a column reads a value as its kind does. Where none is found, a
numeral is a number and all else is a text. -/
def FoundAlike (found : Option DataType) (kind : ValueKind) (value : String) : Prop :=
  match found with
  | some type => type.valueKind.Alike kind value
  | none => kind = .number ∧ numeral? value ≠ none ∨ kind = .text ∧ numeral? value = none

theorem typedLiteral?_eq_iff {found : Option DataType} :
    typedLiteral? found value = kind.literal? value ↔ FoundAlike found kind value := by
  cases found with
  | some type => rw [typedLiteral?_some, ValueKind.literal?_eq_iff, FoundAlike]
  | none =>
      simp only [typedLiteral?, FoundAlike]
      cases hnumeral : numeral? value with
      | none =>
          have hboolean := ValueKind.boolean?_ne_string value value
          cases kind <;> simp [ValueKind.literal?, hnumeral, Ne.symm hboolean]
      | some literal =>
          obtain ⟨text, rfl⟩ := ValueKind.isNumber_of_numeral? hnumeral
          have hboolean : boolean? value ≠ some (.number text) := by
            intro h
            obtain ⟨b, heq⟩ := ValueKind.isBoolean_of_boolean? h
            cases heq
          cases kind <;> simp [ValueKind.literal?, hnumeral, Ne.symm hboolean]

/-! Filters by kind -/

/-- The query with a comparison whose value is written for columns of a kind, unless it is no such
value. -/
def comparing (q : Select) (text : String) (op : Comparison) (kind : ValueKind) (value : String) :
    Except Error Select :=
  match kind.literal? value with
  | some literal => .ok (filtering q text (.compare op) literal)
  | none => .error (.invalidValue text value)

theorem comparing_of_literal? {literal : Literal} (h : kind.literal? value = some literal) :
    comparing q text op kind value = .ok (filtering q text (.compare op) literal) := by
  rw [comparing, h]

theorem setFilter_compare (valid : q.validate = .ok ())
    (hop : FilterOperator.ofText operator = .ok (.compare op))
    (hblank : Text.isBlankText value = false) :
    setFilter schema options q text operator value =
      match typedLiteral? (columnType? schema q text) (Text.trim value) with
      | some literal => .ok (filtering q text (.compare op) literal)
      | none => .error (.invalidValue text (Text.trim value)) := by
  rw [setFilter_eq valid hop, hblank, if_neg Bool.false_ne_true, filterLiteral]
  cases typedLiteral? (columnType? schema q text) (Text.trim value) <;> rfl

theorem setFilter_eq_comparing_iff (valid : q.validate = .ok ())
    (hop : FilterOperator.ofText operator = .ok (.compare op))
    (hblank : Text.isBlankText value = false) :
    setFilter schema options q text operator value = comparing q text op kind (Text.trim value) ↔
      FoundAlike (columnType? schema q text) kind (Text.trim value) := by
  rw [setFilter_compare valid hop hblank, ← typedLiteral?_eq_iff, comparing]
  refine ⟨fun h => ?_, fun h => by rw [h]⟩
  cases hfound : typedLiteral? (columnType? schema q text) (Text.trim value) with
  | none =>
      cases hkind : kind.literal? (Text.trim value) with
      | none => rfl
      | some literal => simp [hfound, hkind] at h
  | some found =>
      cases hkind : kind.literal? (Text.trim value) with
      | none => simp [hfound, hkind] at h
      | some literal =>
          rw [hfound, hkind] at h
          rw [filtering_injective (Except.ok.inj h)]

/-- A column that a table of the query has is found in the first table that has its name. -/
theorem exists_first_of_mem (hmem : table ∈ q.tables)
    (hcolumn : schema.column? table name = some column) (htext : projectedName text = name) :
    ∃ before first after found, q.tables = before ++ first :: after ∧
      (∀ other ∈ before, schema.column? other name = none) ∧
      schema.column? first name = some found ∧
      columnType? schema q text = some found.dataType := by
  cases hfound : q.tables.findSome? fun table => schema.column? table name with
  | none =>
      rw [List.findSome?_eq_none_iff.mp hfound table hmem] at hcolumn
      cases hcolumn
  | some found =>
      obtain ⟨before, first, after, htables, hfirst, hbefore⟩ := List.findSome?_eq_some_iff.mp hfound
      refine ⟨before, first, after, found, htables, hbefore, hfirst, ?_⟩
      rw [columnType?, htext, hfound, Option.map_some]

/-- A comparison of a qualified column has the constant that the type of the column asks for, or
refuses the value as the type does, if and only if the type that is found reads the value alike.
What is found is the type in the first table of the query that has a column of the name. -/
theorem setFilter_typed_iff (valid : q.validate = .ok ()) (hmem : table ∈ q.tables)
    (hcolumn : schema.column? table name = some column)
    (hop : FilterOperator.ofText operator = .ok (.compare op))
    (hblank : Text.isBlankText value = false) :
    (setFilter schema options q (table ++ "." ++ name) operator value =
        comparing q (table ++ "." ++ name) op column.dataType.valueKind (Text.trim value) ↔
      FoundAlike (columnType? schema q (table ++ "." ++ name)) column.dataType.valueKind
        (Text.trim value)) ∧
    (projectedName (table ++ "." ++ name) = name →
      ∃ before first after found, q.tables = before ++ first :: after ∧
        (∀ other ∈ before, schema.column? other name = none) ∧
        schema.column? first name = some found ∧
        columnType? schema q (table ++ "." ++ name) = some found.dataType) :=
  ⟨setFilter_eq_comparing_iff valid hop hblank, exists_first_of_mem hmem hcolumn⟩

/-- The cities of all airports, whatever else is read. -/
def cityQuery (tables : List String) : Select :=
  .new [.identifier "city"] (.list (tables.map .bare))

theorem setFilter_typed_flights_gate :
    setFilter .gates .default (cityQuery ["flights", "airports"]) "flights.gate" "=" "7" =
      .ok (filtering (cityQuery ["flights", "airports"]) "flights.gate" (.compare .eq)
        (.number "7")) := by
  obtain ⟨hiff, -⟩ := @setFilter_typed_iff .gates .default (cityQuery ["flights", "airports"])
    "flights" "gate" "=" "7" ⟨"gate", .integer⟩ .eq rfl (by decide) rfl rfl rfl
  have hnumeral : numeral? "7" = some (.number "7") := by decide +kernel
  exact (hiff.mpr (.inl rfl)).trans (comparing_of_literal? hnumeral)

/-- The gates of the airports come first, so those of the flights are texts as well. -/
theorem setFilter_types_flights_gate_as_text :
    ∃ edited, setFilter .gates .default (cityQuery ["airports", "flights"]) "flights.gate" "="
        "7" = .ok edited ∧
      Schema.gates.column? "flights" "gate" = some ⟨"gate", .integer⟩ ∧
      edited.tests = [.compare "flights.gate" .eq (.string "7")] :=
  ⟨_, rfl, rfl, rfl⟩

end Edit

end SelectTree
