import SelectTree.Proofs.ValueKinds

namespace SelectTree

/-! Filters as they are shown, typed again. A value is trimmed when it is set and a pattern gets
the suffix of the settings, but what is shown of a pattern is the pattern without a percent sign at
either end, whatever the suffix is. -/

namespace Text

variable {cs more : List Char}

/-- No blank stands at either end. -/
structure IsTrimmed (cs : List Char) : Prop where
  head : ∀ c ∈ cs.head?, isBlank c = false
  last : ∀ c ∈ cs.getLast?, isBlank c = false

theorem trimStart_of_head (h : ∀ c ∈ cs.head?, isBlank c = false) : trimStart cs = cs := by
  cases cs with
  | nil => rfl
  | cons c cs => simp [trimStart, h c rfl]

theorem head_trimStart (cs : List Char) : ∀ c ∈ (trimStart cs).head?, isBlank c = false := by
  induction cs with
  | nil => nofun
  | cons c cs ih =>
      cases h : isBlank c with
      | false => simp [trimStart, h]
      | true => simpa [trimStart, h] using ih

theorem trimEnd_begins (cs : List Char) : trimEnd cs <+: cs := by
  have hsuffix : trimStart cs.reverse <:+ cs.reverse := List.dropWhile_suffix _
  simpa [trimEnd] using List.reverse_prefix.mpr hsuffix

theorem isTrimmed_trim (text : String) : IsTrimmed (trim text).toList := by
  rw [trim, String.toList_ofList]
  refine ⟨?_, ?_⟩
  · obtain ⟨rest, hrest⟩ := trimEnd_begins (trimStart text.toList)
    intro c hc
    apply head_trimStart text.toList
    rw [← hrest, List.head?_append, Option.mem_def.mp hc]
    rfl
  · intro c hc
    rw [trimEnd, List.getLast?_reverse] at hc
    exact head_trimStart _ c hc

/-- Only blanks can be added to a text and trimmed off again. -/
theorem trimEnd_append_eq_iff (hne : cs ≠ []) (h : IsTrimmed cs) :
    trimEnd (trimStart (cs ++ more)) = cs ↔ more.all isBlank = true := by
  have hstart : trimStart (cs ++ more) = cs ++ more := by
    obtain ⟨c, cs, rfl⟩ := List.exists_cons_of_ne_nil hne
    exact trimStart_of_head h.head
  have hend : trimStart cs.reverse = cs.reverse := by
    apply trimStart_of_head
    rw [List.head?_reverse]
    exact h.last
  rw [hstart, trimEnd, List.reverse_append, ← List.all_reverse, ← trimStart_eq_nil_iff]
  unfold trimStart at hend ⊢
  rw [List.dropWhile_append, hend]
  cases more.reverse.dropWhile isBlank with
  | nil => simp
  | cons c rest => simp

theorem length_trim_le (cs : List Char) : (trimEnd (trimStart cs)).length ≤ cs.length := by
  have hsuffix : trimStart cs <:+ cs := List.dropWhile_suffix _
  exact Nat.le_trans (trimEnd_begins _).length_le hsuffix.length_le

theorem trim_eq_iff {text value : String} :
    trim text = value ↔ trimEnd (trimStart text.toList) = value.toList := by
  rw [trim]
  constructor
  · rintro rfl
    exact String.toList_ofList.symm
  · intro h
    rw [h, String.ofList_toList]

theorem trim_eq_self {text : String} (hne : text ≠ "") (h : IsTrimmed text.toList) :
    trim text = text := by
  have hlist : trimEnd (trimStart (text.toList ++ [])) = text.toList :=
    (trimEnd_append_eq_iff (by simpa using hne) h).mpr rfl
  rwa [List.append_nil, ← trim_eq_iff] at hlist

end Text

namespace Edit

variable {schema : Schema} {options : Options} {q edited : Select}
  {column operator value text : String} {op : FilterOperator} {literal : Literal}
  {cs more : List Char}

/-! Patterns -/

/-- A text without a percent sign at its end. -/
def dropPercent (cs : List Char) : List Char :=
  match Text.stripPrefix? ['%'] cs.reverse with
  | some front => front.reverse
  | none => cs

theorem dropPercent_concat (cs : List Char) : dropPercent (cs ++ ['%']) = cs := by
  simp [dropPercent, Text.stripPrefix?]

theorem dropPercent_of_last (h : cs.getLast? ≠ some '%') : dropPercent cs = cs := by
  rw [← List.head?_reverse] at h
  unfold dropPercent
  cases hreverse : cs.reverse with
  | nil => rfl
  | cons c rest =>
      have hne : ¬ '%' = c := by
        rintro rfl
        exact h (by rw [hreverse]; rfl)
      simp [Text.stripPrefix?, hne]

theorem dropPercent_append (cs : List Char) (hne : more ≠ []) :
    dropPercent (cs ++ more) = cs ++ dropPercent more := by
  obtain ⟨front, c, rfl⟩ := (List.eq_nil_or_concat more).resolve_left hne
  rw [List.concat_eq_append]
  by_cases hc : c = '%'
  · subst hc
    rw [dropPercent_concat, ← List.append_assoc, dropPercent_concat]
  · have hlast : (front ++ [c]).getLast? ≠ some '%' := by simpa using hc
    rw [dropPercent_of_last hlast, dropPercent_of_last (by simpa using hc)]

theorem barePattern_cons (cs : List Char) : barePattern ('%' :: cs) = dropPercent cs := by
  rfl

theorem barePattern_of_head (h : cs.head? ≠ some '%') : barePattern cs = dropPercent cs := by
  have hnone : Text.stripPrefix? ['%'] cs = none := by
    cases cs with
    | nil => rfl
    | cons c cs =>
        have hne : ¬ '%' = c := by
          rintro rfl
          exact h rfl
        simp [Text.stripPrefix?, hne]
  simp only [barePattern, hnone, Option.getD_none]
  rfl

/-- A value that begins with no percent sign is what is left of its pattern if the suffix is blank
but for a percent sign at its end, and if no percent sign of the value stands there instead. -/
theorem trim_barePattern_iff (hne : cs ≠ []) (htrim : Text.IsTrimmed cs)
    (hhead : cs.head? ≠ some '%') :
    Text.trimEnd (Text.trimStart (barePattern (cs ++ more))) = cs ↔
      (dropPercent more).all Text.isBlank = true ∧ (more = [] → cs.getLast? ≠ some '%') := by
  have hbare : barePattern (cs ++ more) = dropPercent (cs ++ more) := by
    obtain ⟨c, cs, rfl⟩ := List.exists_cons_of_ne_nil hne
    exact barePattern_of_head hhead
  rw [hbare]
  by_cases hmore : more = []
  · subst hmore
    rw [List.append_nil]
    by_cases hlast : cs.getLast? = some '%'
    · obtain ⟨front, rfl⟩ := List.getLast?_eq_some_iff.mp hlast
      have hle := Text.length_trim_le front
      rw [dropPercent_concat]
      refine iff_of_false (fun heq => ?_) (fun h => h.2 rfl hlast)
      rw [heq, List.length_append, List.length_singleton] at hle
      omega
    · rw [dropPercent_of_last hlast]
      have hself : Text.trimEnd (Text.trimStart (cs ++ [])) = cs :=
        (Text.trimEnd_append_eq_iff hne htrim).mpr rfl
      rw [List.append_nil] at hself
      exact iff_of_true hself ⟨rfl, fun _ => hlast⟩
  · rw [dropPercent_append cs hmore, Text.trimEnd_append_eq_iff hne htrim]
    simp [hmore]

/-- With a percent sign for the suffix, any other value is what is left. -/
theorem trim_barePattern_percent_iff (hne : cs ≠ []) (htrim : Text.IsTrimmed cs) :
    Text.trimEnd (Text.trimStart (barePattern (cs ++ ['%']))) = cs ↔ cs.head? ≠ some '%' := by
  by_cases hhead : cs.head? = some '%'
  · obtain ⟨rest, rfl⟩ := List.head?_eq_some_iff.mp hhead
    have hle := Text.length_trim_le rest
    rw [List.cons_append, barePattern_cons, dropPercent_concat]
    refine iff_of_false (fun heq => ?_) (not_not_intro hhead)
    rw [heq, List.length_cons] at hle
    omega
  · rw [trim_barePattern_iff hne htrim hhead]
    exact iff_of_true ⟨rfl, nofun⟩ hhead

/-! Numerals -/

/-- A text without a plus sign in front. -/
def dropPlus (cs : List Char) : List Char :=
  match cs with
  | '+' :: rest => rest
  | rest => rest

theorem dropPlus_eq_self (h : cs.head? ≠ some '+') : dropPlus cs = cs := by
  unfold dropPlus
  split
  · exact absurd rfl h
  · rfl

theorem head_dropPlus_iff : (dropPlus cs).head? = some '+' ↔ ['+', '+'] <+: cs := by
  unfold dropPlus
  split
  · simp [List.cons_prefix_iff, List.head?_eq_some_iff]
  · rename_i hhead
    refine iff_of_false (fun h => ?_) ?_
    · obtain ⟨rest, rfl⟩ := List.head?_eq_some_iff.mp h
      exact hhead rest rfl
    · rintro ⟨rest, rfl⟩
      exact hhead ('+' :: rest) rfl

theorem numeral?_eq_some_iff :
    numeral? value = some literal ↔ literal = .number (String.ofList (dropPlus value.toList)) ∧
      ∃ decimal, Text.Decimal.read? (dropPlus value.toList) = some decimal ∧
        decimal.fitsDouble = true := by
  unfold numeral?
  dsimp only
  split
  · rename_i decimal hread
    change Text.Decimal.read? (dropPlus value.toList) = some decimal at hread
    change (if decimal.fitsDouble then some (Literal.number (String.ofList (dropPlus value.toList)))
      else none) = some literal ↔ _
    simp [hread, and_comm, eq_comm (a := literal)]
  · rename_i hread
    change Text.Decimal.read? (dropPlus value.toList) = none at hread
    simp [hread]

theorem isDigit_of_isBlank {c : Char} (h : Text.isBlank c = true) : c.isDigit = false := by
  have hnat : c.toNat = c.val.toNat := rfl
  simp only [Text.isBlank, Bool.or_eq_true, Bool.and_eq_true, decide_eq_true_eq, beq_iff_eq,
    hnat] at h
  simp only [Char.isDigit, Bool.and_eq_false_iff, decide_eq_false_iff_not, UInt32.le_iff_toNat_le]
  have hzero : '0'.val.toNat = 48 := rfl
  have hnine : '9'.val.toNat = 57 := rfl
  omega

theorem head_of_read? {decimal : Text.Decimal} (h : Text.Decimal.read? cs = some decimal) :
    ∀ c ∈ cs.head?, Text.isBlank c = false := by
  intro c hc
  obtain ⟨rest, rfl⟩ := List.head?_eq_some_iff.mp hc
  cases hblank : Text.isBlank c with
  | false => rfl
  | true =>
      have hne : ∀ other, Text.isBlank other = false → c ≠ other := by
        rintro other hother rfl
        rw [hblank] at hother
        cases hother
      simp [Text.Decimal.read?, Text.takeSign, hne '-' (by decide), hne '+' (by decide),
        hne '.' (by decide), isDigit_of_isBlank hblank] at h

/-- A plus sign in front is dropped once. A second one goes when the value is typed again. -/
theorem numeral?_dropPlus_iff {decimal : Text.Decimal}
    (h : Text.Decimal.read? (dropPlus value.toList) = some decimal)
    (hfits : decimal.fitsDouble = true) :
    numeral? (String.ofList (dropPlus value.toList)) =
        some (.number (String.ofList (dropPlus value.toList))) ↔
      (dropPlus value.toList).head? ≠ some '+' := by
  rw [numeral?_eq_some_iff, String.toList_ofList, Literal.number.injEq, String.ofList_inj]
  by_cases hhead : (dropPlus value.toList).head? = some '+'
  · obtain ⟨rest, hrest⟩ := List.head?_eq_some_iff.mp hhead
    rw [hrest]
    simp [dropPlus]
  · rw [dropPlus_eq_self hhead]
    exact iff_of_true ⟨rfl, decimal, h, hfits⟩ hhead

theorem isTrimmed_dropPlus {decimal : Text.Decimal} (htrim : Text.IsTrimmed value.toList)
    (h : Text.Decimal.read? (dropPlus value.toList) = some decimal) :
    String.ofList (dropPlus value.toList) ≠ "" ∧ Text.IsTrimmed (dropPlus value.toList) := by
  have hne : dropPlus value.toList ≠ [] := by
    intro hnil
    rw [hnil] at h
    cases h
  refine ⟨by simpa using hne, head_of_read? h, ?_⟩
  intro c hc
  apply htrim.last
  by_cases hhead : value.toList.head? = some '+'
  · obtain ⟨rest, hrest⟩ := List.head?_eq_some_iff.mp hhead
    rw [hrest] at hc hne
    rw [hrest, List.getLast?_cons_of_ne_nil (show rest ≠ [] from hne)]
    exact hc
  · rwa [dropPlus_eq_self hhead] at hc

/-! Constants -/

variable {found : Option DataType}

theorem typedLiteral?_number_iff :
    typedLiteral? found value = some (.number text) ↔
      (∀ type ∈ found, type.isNumeric = true) ∧ numeral? value = some (.number text) := by
  cases found with
  | none =>
      rw [typedLiteral?]
      cases numeral? value <;> simp
  | some type =>
      have hboolean : boolean? value ≠ some (.number text) := by
        intro h
        obtain ⟨b, heq⟩ := ValueKind.isBoolean_of_boolean? h
        cases heq
      rw [typedLiteral?]
      by_cases hnumeric : type.isNumeric = true
      · simp [hnumeric]
      · by_cases htextual : type.isTextual = true <;> simp [hnumeric, htextual, hboolean]

/-- Only numerals are not kept as they are typed. -/
theorem value_of_typedLiteral? (h : typedLiteral? found value = some literal)
    (hnumber : ∀ text, literal ≠ .number text) : literal.value = value := by
  have hnumeral : numeral? value ≠ some literal := by
    intro hnumeral
    obtain ⟨text, rfl⟩ := ValueKind.isNumber_of_numeral? hnumeral
    exact hnumber text rfl
  have hstring : some (Literal.string value) = some literal → literal.value = value := by
    rintro ⟨⟩
    rfl
  cases found with
  | none =>
      rw [typedLiteral?] at h
      cases heq : numeral? value with
      | none => rw [heq] at h; exact hstring h
      | some number => rw [heq] at h; exact absurd (heq.trans h) hnumeral
  | some type =>
      simp only [typedLiteral?] at h
      split at h
      · exact absurd h hnumeral
      · split at h
        · exact hstring h
        · unfold boolean? at h
          split at h
          · cases h; rfl
          · cases h; rfl
          · cases h

/-- A constant is shown as a value that stands for it again, unless it is a numeral that was typed
with two plus signs. -/
theorem typedLiteral?_value_iff (hne : value ≠ "") (htrim : Text.IsTrimmed value.toList)
    (h : typedLiteral? found value = some literal) :
    (literal.value ≠ "" ∧ Text.IsTrimmed literal.value.toList) ∧
      (typedLiteral? found literal.value = some literal ↔
        ((∃ text, literal = .number text) → (dropPlus value.toList).head? ≠ some '+')) := by
  by_cases hnumber : ∃ text, literal = .number text
  · obtain ⟨text, rfl⟩ := hnumber
    obtain ⟨hfound, hnumeral⟩ := typedLiteral?_number_iff.mp h
    obtain ⟨htext, decimal, hread, hfits⟩ := numeral?_eq_some_iff.mp hnumeral
    obtain rfl := Literal.number.inj htext
    obtain ⟨hne', htrim'⟩ := isTrimmed_dropPlus htrim hread
    refine ⟨⟨hne', by rwa [Literal.value, String.toList_ofList]⟩, ?_⟩
    rw [Literal.value, typedLiteral?_number_iff, numeral?_dropPlus_iff hread hfits,
      and_iff_right hfound]
    simp
  · have hvalue := value_of_typedLiteral? h (by simpa using hnumber)
    rw [hvalue]
    exact ⟨⟨hne, htrim⟩, iff_of_true h fun hsome => absurd hsome hnumber⟩

/-! Filters -/

theorem FilterOperator.ofText_toText (op : FilterOperator) : ofText op.toText = .ok op := by
  cases op with
  | like => rfl
  | compare op => cases op <;> rfl

theorem Predicate.find?_eq (column : String) (p : Predicate) :
    p.find? column = p.tests.find? (·.column = column) := by
  induction p with
  | test t => simp [Predicate.find?, List.find?_cons, List.find?_nil]; split <;> simp [*]
  | and left right ihLeft ihRight =>
      rw [Predicate.find?, ihLeft, ihRight, Predicate.tests_and, List.find?_append]
  | or left right ihLeft ihRight =>
      rw [Predicate.find?, ihLeft, ihRight, Predicate.tests_or, List.find?_append]

theorem findTest_eq (q : Select) (column : String) :
    q.findTest column = q.tests.find? (·.column = column) := by
  unfold Select.findTest Select.tests
  cases q.filter with
  | none => rfl
  | some p => exact Predicate.find?_eq column p

theorem cleared_of_free (free : ∀ t ∈ q.tests, t.column ≠ column) : cleared q column op = q := by
  apply cleared_eq_self
  intro t ht
  simp [Select.isReplaced, free t ht]

/-- Where no test is on a column, the filter that is set on it is the one that is shown. -/
theorem filterFor_filtering (free : ∀ t ∈ q.tests, t.column ≠ column) :
    filterFor (filtering q column op literal) column =
      some (.ofTest (op.test column literal)) := by
  have hnone : q.tests.find? (·.column = column) = none := by
    simpa using free
  rw [filterFor, findTest_eq, tests_filtering, cleared_of_free free, List.find?_append, hnone]
  simp

/-- A filter is set again by what stands for the same constant. -/
theorem setFilter_again_iff {shown : String} (valid : q.validate = .ok ())
    (free : ∀ t ∈ q.tests, t.column ≠ column) :
    setFilter schema options (filtering q column op literal) column op.toText shown =
        .ok (filtering q column op literal) ↔
      column ≠ "" ∧ Text.isBlankText shown = false ∧
        filterLiteral schema options q column op (Text.trim shown) = .ok literal := by
  have hcleared : cleared (filtering q column op literal) column op = q := by
    have apart : KeepsApart q column op := by
      rw [← cleared_clears_iff, cleared_of_free free]
      intro t ht
      simp [Select.isReplaced, free t ht]
    rw [cleared_filtering apart, cleared_of_free free]
  have hagain : ∀ other, filtering (filtering q column op literal) column op other =
      filtering q column op other := by
    intro other
    have hother : filtering q column op other =
        { q with filter := some (.requiring q.filter (op.test column other)) } := by
      rw [filtering, cleared_of_free free]
    rw [filtering, hcleared, hother]
    rfl
  constructor
  · intro h
    have hname : column ≠ "" := by
      have hvalid := (setFilter_eq_ok h).1
      have hadded := column_ne_of_validate hvalid (op.test column literal)
        (by simp [tests_filtering])
      rwa [FilterOperator.column_test] at hadded
    refine ⟨hname, ?_⟩
    rw [setFilter_eq (validate_filtering valid hname) op.ofText_toText, hcleared] at h
    cases hblank : Text.isBlankText shown with
    | true =>
        rw [hblank, if_pos rfl] at h
        have htests := congrArg Select.tests (Except.ok.inj h)
        rw [tests_filtering, cleared_of_free free] at htests
        simp at htests
    | false =>
        rw [hblank, if_neg Bool.false_ne_true, filterLiteral_filtering] at h
        obtain ⟨other, hother, heq⟩ := map_eq_ok_iff.mp h
        rw [hagain] at heq
        obtain rfl := filtering_injective heq
        exact ⟨rfl, hother⟩
  · rintro ⟨hname, hblank, hliteral⟩
    rw [setFilter_eq (validate_filtering valid hname) op.ofText_toText, hblank,
      if_neg Bool.false_ne_true, filterLiteral_filtering, hliteral]
    exact congrArg Except.ok (hagain literal)

/-- A pattern that is made of a value by a suffix is shown as a value that makes it again. -/
def PatternKept (suffix value : String) : Prop :=
  Text.trim (String.ofList (barePattern (value ++ suffix).toList)) = value

/-- A value that is set as a filter of a constant is shown as one that stands for it again. -/
def IsShownBack (options : Options) (op : FilterOperator) (literal : Literal) (value : String) :
    Prop :=
  match op with
  | .like => PatternKept options.likeSuffix value
  | .compare _ => (∃ text, literal = .number text) → ¬ ['+', '+'] <+: value.toList

theorem patternKept_iff {suffix : String} (hne : value ≠ "")
    (htrim : Text.IsTrimmed value.toList) :
    (value.toList.head? ≠ some '%' →
      (PatternKept suffix value ↔ (dropPercent suffix.toList).all Text.isBlank = true ∧
        (suffix = "" → value.toList.getLast? ≠ some '%'))) ∧
    (PatternKept "%" value ↔ value.toList.head? ≠ some '%') := by
  have hne' : value.toList ≠ [] := by simpa using hne
  have hkept : ∀ suffix : String, PatternKept suffix value ↔
      Text.trimEnd (Text.trimStart (barePattern (value.toList ++ suffix.toList))) =
        value.toList := by
    intro suffix
    rw [PatternKept, Text.trim_eq_iff, String.toList_ofList, String.toList_append]
  refine ⟨fun hhead => ?_, ?_⟩
  · rw [hkept, trim_barePattern_iff hne' htrim hhead, String.toList_eq_nil_iff]
  · rw [hkept]
    exact trim_barePattern_percent_iff hne' htrim

theorem filterLiteral_shown_iff (hne : value ≠ "") (htrim : Text.IsTrimmed value.toList)
    (h : filterLiteral schema options q column op value = .ok literal) :
    Text.isBlankText (Filter.ofTest (op.test column literal)).value = false ∧
        filterLiteral schema options q column op
          (Text.trim (Filter.ofTest (op.test column literal)).value) = .ok literal ↔
      IsShownBack options op literal value := by
  cases op with
  | like =>
      obtain rfl := Except.ok.inj h
      simp only [FilterOperator.test, Filter.ofTest, Literal.value, filterLiteral, IsShownBack,
        PatternKept, Except.ok.injEq, Literal.string.injEq, String.append_left_inj]
      refine and_iff_right_of_imp fun hkept => ?_
      rw [← Text.isEmpty_trim, hkept]
      simpa using hne
  | compare op =>
      simp only [filterLiteral] at h
      cases hfound : typedLiteral? (columnType? schema q column) value with
      | none => simp [hfound] at h
      | some found =>
          rw [hfound] at h
          obtain rfl := Except.ok.inj h
          obtain ⟨⟨hne', htrim'⟩, hagain⟩ := typedLiteral?_value_iff hne htrim hfound
          have hself := Text.trim_eq_self hne' htrim'
          have hblank : Text.isBlankText found.value = false := by
            rw [← Text.isEmpty_trim, hself]
            simpa using hne'
          rw [IsShownBack, ← head_dropPlus_iff, ← hagain]
          simp only [FilterOperator.test, Filter.ofTest, hblank, hself, filterLiteral, true_and]
          cases typedLiteral? (columnType? schema q column) found.value <;> simp

/-- Where no test is on a column, the filter that is set on it is shown with its operator. What is
shown sets it again if and only if the column has a name and the constant is shown as a value that
stands for it: a pattern without the percent signs around it has to make the pattern by the suffix,
and a numeral has to be typed with one plus sign at most. Texts and truth values are always shown
so. A value that begins with no percent sign makes its pattern again if the suffix is blank but for
a percent sign at its end, and if the value ends in none or the suffix is not empty. -/
theorem setFilter_shown_iff (free : ∀ t ∈ q.tests, t.column ≠ column)
    (hblank : Text.isBlankText value = false)
    (h : setFilter schema options q column operator value = .ok edited) :
    ∃ op literal shown, FilterOperator.ofText operator = .ok op ∧
      filterLiteral schema options q column op (Text.trim value) = .ok literal ∧
      filterFor edited column = some ⟨op, shown⟩ ∧
      (setFilter schema options edited column op.toText shown = .ok edited ↔
        column ≠ "" ∧ IsShownBack options op literal (Text.trim value)) ∧
      ((Text.trim value).toList.head? ≠ some '%' →
        (PatternKept options.likeSuffix (Text.trim value) ↔
          (dropPercent options.likeSuffix.toList).all Text.isBlank = true ∧
            (options.likeSuffix = "" → (Text.trim value).toList.getLast? ≠ some '%'))) ∧
      (PatternKept "%" (Text.trim value) ↔ (Text.trim value).toList.head? ≠ some '%') := by
  obtain ⟨valid, op, hop, ⟨hblank', -⟩ | ⟨-, literal, hliteral, rfl⟩⟩ := setFilter_eq_ok h
  · rw [hblank] at hblank'
    cases hblank'
  have hne : Text.trim value ≠ "" := by
    rw [Ne, ← String.isEmpty_iff, Text.isEmpty_trim, hblank]
    exact Bool.false_ne_true
  have htrim := Text.isTrimmed_trim value
  refine ⟨op, literal, (Filter.ofTest (op.test column literal)).value, hop, hliteral, ?_, ?_,
    patternKept_iff hne htrim⟩
  · rw [filterFor_filtering free]
    cases op <;> rfl
  · rw [setFilter_again_iff valid free, filterLiteral_shown_iff hne htrim hliteral]

theorem setFilter_shown_name_pattern :
    ∃ edited, setFilter .flights .default carrierNames "name" "Like" " Del " = .ok edited ∧
      filterFor edited "name" = some ⟨.like, "Del"⟩ ∧
      setFilter .flights .default edited "name" "like" "Del" = .ok edited := by
  refine ⟨_, rfl, rfl, ?_⟩
  obtain ⟨op, literal, shown, hop, hliteral, hshown, hagain, hkept, -⟩ :=
    @setFilter_shown_iff .flights .default carrierNames _ "name" "Like" " Del " (by decide)
      (by decide) rfl
  obtain rfl : .like = op := Except.ok.inj hop
  obtain rfl : "Del" = shown := congrArg Filter.value (Option.some.inj hshown)
  exact hagain.mpr ⟨by decide, (hkept (by decide)).mpr (by decide)⟩

/-- Another suffix than a percent sign is shown as a part of the value, and added to it again. -/
theorem setFilter_shown_name_suffix :
    ∃ edited,
      setFilter .flights { Options.default with likeSuffix := "_" } carrierNames "name" "like"
        "Del" = .ok edited ∧
      filterFor edited "name" = some ⟨.like, "Del_"⟩ ∧
      ∃ other,
        setFilter .flights { Options.default with likeSuffix := "_" } edited "name" "like"
          "Del_" = .ok other ∧
        edited.tests = [.like "name" (.string "Del_")] ∧
        other.tests = [.like "name" (.string "Del__")] :=
  ⟨_, rfl, rfl, _, rfl, rfl, rfl⟩

end Edit

end SelectTree
