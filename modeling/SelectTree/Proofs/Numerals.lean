import SelectTree.Proofs.Lexing
import SelectTree.Text.Decimal

namespace SelectTree.Sql

/-! Numerals: digits with a point among them perhaps, and an exponent perhaps. They are cut off as
one token, after a sign of their own. -/

variable {d : Dialect} {previous : Option Token} {cs digits mantissa exponent rest : List Char}

/-! Digits -/

/-- Holds where the digits of a number end. -/
def AtDigitsEnd (rest : List Char) : Prop :=
  ∀ c ∈ rest.head?, c ∈ [' ', ',', ')', '.', 'e', 'E']

theorem takeDigits_append (hdigits : digits.all Char.isDigit = true) (hend : AtDigitsEnd rest) :
    takeDigits d Char.isDigit (digits ++ rest) = (digits, rest) := by
  induction digits with
  | nil =>
      apply takeDigits_of_not_digit
      · intro c hc
        have hmem := hend c hc
        simp only [List.mem_cons, List.not_mem_nil, or_false] at hmem
        rcases hmem with rfl | rfl | rfl | rfl | rfl | rfl <;> rfl
      · intro hhead
        have hmem := hend _ hhead
        revert hmem
        decide
  | cons c digits ih =>
      simp only [List.all_cons, Bool.and_eq_true] at hdigits
      have htail := ih hdigits.2
      cases hmore : digits ++ rest with
      | nil =>
          rw [hmore] at htail
          simp only [takeDigits, Prod.mk.injEq] at htail
          obtain ⟨rfl, rfl⟩ := htail
          simp [takeDigits, hdigits.1]
      | cons next more =>
          rw [hmore] at htail
          simp [hmore, takeDigits, hdigits.1, htail]

theorem takeWhile_isDigit (hdigits : digits.all Char.isDigit = true) (hgap : AtGap rest) :
    (digits ++ rest).takeWhile Char.isDigit = digits ∧
      (digits ++ rest).dropWhile Char.isDigit = rest := by
  have hgaps : ∀ c ∈ [' ', ',', ')'], c.isDigit = false := by decide
  exact takeWhile_all hdigits fun c hc => hgaps c (hgap c hc)

theorem exists_digit (hne : digits ≠ []) (hdigits : digits.all Char.isDigit = true) :
    ∃ c more, digits = c :: more ∧ c.isDigit = true := by
  obtain ⟨c, more, rfl⟩ := List.exists_cons_of_ne_nil hne
  simp only [List.all_cons, Bool.and_eq_true] at hdigits
  exact ⟨c, more, rfl, hdigits.1⟩

theorem ne_of_isDigit {c other : Char} (hc : c.isDigit = true) (hother : other.isDigit = false) :
    c ≠ other := by
  rintro rfl
  rw [hc] at hother
  cases hother

/-! Shapes -/

/-- Digits, with a point among them perhaps. No digit stands before the point only where words never
begin with digits. -/
inductive IsMantissa (d : Dialect) : List Char → Prop
  | whole {digits : List Char} (hne : digits ≠ []) (hdigits : digits.all Char.isDigit = true) :
      IsMantissa d digits
  | point {whole fraction : List Char}
      (hne : whole ≠ [] ∨ d.hasNumericWords = false ∧ fraction ≠ [])
      (hwhole : whole.all Char.isDigit = true) (hfraction : fraction.all Char.isDigit = true) :
      IsMantissa d (whole ++ '.' :: fraction)

/-- Nothing, or a letter before a whole number, which may have a sign. -/
inductive IsExponent (d : Dialect) : List Char → Prop
  | none : IsExponent d []
  | some {mark : Char} {sign digits : List Char} (hd : d.hasNumericWords = false)
      (hmark : mark = 'e' ∨ mark = 'E') (hsign : sign = [] ∨ sign = ['-'] ∨ sign = ['+'])
      (hne : digits ≠ []) (hdigits : digits.all Char.isDigit = true) :
      IsExponent d (mark :: (sign ++ digits))

/-- A numeral without a sign. -/
inductive IsNumeral (d : Dialect) : List Char → Prop
  | mk {mantissa exponent : List Char} (hmantissa : IsMantissa d mantissa)
      (hexponent : IsExponent d exponent) : IsNumeral d (mantissa ++ exponent)

namespace IsExponent

theorem head_mem (h : IsExponent d exponent) (hgap : AtGap rest) :
    ∀ c ∈ (exponent ++ rest).head?, c ∈ [' ', ',', ')', 'e', 'E'] := by
  intro c hc
  cases h with
  | none => exact List.mem_append_left ['e', 'E'] (hgap c hc)
  | some _ hmark =>
      obtain rfl := Option.some.inj hc
      rcases hmark with rfl | rfl <;> simp

theorem atDigitsEnd (h : IsExponent d exponent) (hgap : AtGap rest) :
    AtDigitsEnd (exponent ++ rest) := by
  intro c hc
  have hsub : ∀ c ∈ [' ', ',', ')', 'e', 'E'], c ∈ [' ', ',', ')', '.', 'e', 'E'] := by decide
  exact hsub c (h.head_mem hgap c hc)

theorem ne_cons (h : IsExponent d exponent) (hgap : AtGap rest) {c : Char}
    (hc : c ∉ [' ', ',', ')', 'e', 'E']) (tail : List Char) : exponent ++ rest ≠ c :: tail := by
  intro heq
  exact hc (h.head_mem hgap c (by rw [heq]; rfl))

theorem takeExponent_append (h : IsExponent d exponent) (hgap : AtGap rest) :
    takeExponent (exponent ++ rest) = (exponent, rest) := by
  cases h with
  | none =>
      cases rest with
      | nil => rfl
      | cons c rest =>
          have hc := hgap c rfl
          simp only [List.mem_cons, List.not_mem_nil, or_false] at hc
          rcases hc with rfl | rfl | rfl <;> rfl
  | @some mark sign digits _ hmark hsign hne hdigits =>
      obtain ⟨htake, hdrop⟩ := takeWhile_isDigit hdigits hgap
      have hmark' : (mark = 'e' || mark = 'E') = true := by simpa using hmark
      rcases hsign with rfl | rfl | rfl
      · obtain ⟨c, more, rfl, hc⟩ := exists_digit hne hdigits
        have hplus : c ≠ '+' := ne_of_isDigit hc (by decide)
        have hminus : c ≠ '-' := ne_of_isDigit hc (by decide)
        rw [List.cons_append] at htake hdrop
        simp [takeExponent, hmark', hplus, hminus, htake, hdrop]
      · simp [takeExponent, hmark', htake, hdrop, hne]
      · simp [takeExponent, hmark', htake, hdrop, hne]

theorem finishNumber_append (h : IsExponent d exponent) (mantissa : List Char) (hgap : AtGap rest) :
    finishNumber d previous mantissa (exponent ++ rest) =
      emit (.number (String.ofList (mantissa ++ exponent)) false) rest := by
  have hword : rest.takeWhile d.isWordPart = [] :=
    (takeWhile_isWordPart (List.all_nil : [].all d.isWordPart = true) hgap.atWordEnd).1
  have hmarks : (d.hasNumericWords && marksExponent (exponent ++ rest)) = false := by
    cases h with
    | none =>
        cases rest with
        | nil => simp [marksExponent]
        | cons c rest =>
            have hc := hgap c rfl
            simp only [List.mem_cons, List.not_mem_nil, or_false] at hc
            rcases hc with rfl | rfl | rfl <;> simp [marksExponent]
    | some hd => simp [hd]
  -- A letter `L` would belong to the number.
  have hlong : ∀ tail, rest ≠ 'L' :: tail := by
    rintro tail rfl
    exact absurd (hgap 'L' rfl) (by decide)
  simp only [finishNumber, h.takeExponent_append hgap, hword, hmarks, List.isEmpty_nil,
    Bool.not_true, Bool.and_false, Bool.false_and, Bool.false_eq_true, if_false]

end IsExponent

namespace IsMantissa

theorem exists_cons (h : IsMantissa d mantissa) :
    ∃ c more, mantissa = c :: more ∧ (c.isDigit = true ∨ c = '.') := by
  cases h with
  | whole hne hdigits =>
      obtain ⟨c, more, rfl, hc⟩ := exists_digit hne hdigits
      exact ⟨c, more, rfl, .inl hc⟩
  | @point whole fraction _ hwhole _ =>
      cases whole with
      | nil => exact ⟨'.', fraction, rfl, .inr rfl⟩
      | cons c whole =>
          obtain ⟨c', more, heq, hc⟩ := exists_digit (List.cons_ne_nil c whole) hwhole
          obtain ⟨rfl, rfl⟩ := List.cons.inj heq
          exact ⟨c, _, rfl, .inl hc⟩

theorem ne_period (h : IsMantissa d mantissa) (tail : List Char) :
    mantissa ++ rest ≠ '.' :: '_' :: tail := by
  intro heq
  cases h with
  | whole hne hdigits =>
      obtain ⟨c, more, rfl, hc⟩ := exists_digit hne hdigits
      exact ne_of_isDigit hc (by decide) (List.cons.inj heq).1
  | @point whole fraction hne hwhole hfraction =>
      cases whole with
      | nil =>
          obtain ⟨c, more, rfl, hc⟩ := exists_digit (hne.resolve_left (by simp)).2 hfraction
          exact ne_of_isDigit hc (by decide) (List.cons.inj (List.cons.inj heq).2).1
      | cons c whole =>
          obtain ⟨c', more, hcons, hc⟩ := exists_digit (List.cons_ne_nil c whole) hwhole
          obtain ⟨rfl, rfl⟩ := List.cons.inj hcons
          exact ne_of_isDigit hc (by decide) (List.cons.inj heq).1

variable (previous) in
theorem scanNumber_append (h : IsMantissa d mantissa) (hexponent : IsExponent d exponent)
    (hgap : AtGap rest) :
    scanNumber d previous (mantissa ++ (exponent ++ rest)) =
      emit (.number (String.ofList (mantissa ++ exponent)) false) rest := by
  have hend := hexponent.atDigitsEnd hgap
  unfold scanNumber
  split
  -- A period with an underscore after it begins a word.
  · rename_i heq
    exact absurd heq (h.ne_period _)
  · cases h with
    | whole hne hdigits =>
        rw [takeDigits_append hdigits hend]
        split
        · rename_i heq
          exact absurd (Prod.mk.inj heq).2 (hexponent.ne_cons hgap (by decide) _)
        · rename_i heq
          exact absurd (Prod.mk.inj heq).2 (hexponent.ne_cons hgap (by decide) _)
        · rename_i heq
          obtain ⟨rfl, rfl⟩ := Prod.mk.inj heq
          exact hexponent.finishNumber_append _ hgap
    | @point whole fraction hne hwhole hfraction =>
        have hpoint : AtDigitsEnd ('.' :: (fraction ++ (exponent ++ rest))) := by
          intro c hc
          obtain rfl := Option.some.inj hc
          decide
        have hnumber : (whole.isEmpty &&
            (fraction.isEmpty || (d.hasNumericWords && previousIsWord previous))) = false := by
          rcases hne with hne | ⟨hd, hne⟩
          · simp [hne]
          · simp [hd, hne]
        rw [List.append_assoc, List.cons_append, takeDigits_append hwhole hpoint]
        simp only [takeDigits_append hfraction hend, hnumber, Bool.false_eq_true, if_false]
        exact hexponent.finishNumber_append _ hgap

end IsMantissa

/-! Tokens -/

variable (previous) in
theorem scan_digit {c : Char} (h : c.isDigit = true) (cs : List Char) :
    scan d previous c cs = scanNumber d previous (c :: cs) := by
  have hopens : opensWord d c = false := by
    cases hopens : opensWord d c with
    | false => rfl
    | true => rw [isDigit_of_opensWord hopens] at h; cases h
  have halpha : c.isAlpha = false := by
    simp only [opensWord, Bool.or_eq_false_iff] at hopens
    exact hopens.1.1
  have hspecial : ∀ other ∈ [' ', '\t', '\n', '\r', '\'', '"', '\x60', '['],
      other.isDigit = false := by
    decide +kernel
  have hne : ∀ other ∈ [' ', '\t', '\n', '\r', '\'', '"', '\x60', '['], c ≠ other :=
    fun other hmem => ne_of_isDigit h (hspecial other hmem)
  have hquotes : c ∉ d.identifierQuotes := by
    intro hmem
    have hsubset : ∀ quote ∈ d.identifierQuotes,
        quote ∈ [' ', '\t', '\n', '\r', '\'', '"', '\x60', '['] := by
      cases d <;> decide +kernel
    exact hne c (hsubset c hmem) rfl
  have hspace : isPlainSpace c = false := by
    simp [isPlainSpace, hne]
  simp [scan, hspace, scanTagged?_of_not_alpha halpha, halpha, hne '\'' (by decide), hquotes,
    hne '"' (by decide), h]

variable (previous) in
theorem cuts_numeral (h : IsNumeral d cs) (hgap : AtGap rest) :
    Cuts d previous (cs ++ rest) [.number (String.ofList cs) false]
      (some (.number (String.ofList cs) false)) rest := by
  obtain ⟨hmantissa, hexponent⟩ := h
  have hnumber := hmantissa.scanNumber_append previous hexponent hgap
  obtain ⟨c, more, rfl, hc⟩ := hmantissa.exists_cons
  rw [List.cons_append] at hnumber
  have hscan := hnumber
  rcases hc with hc | rfl
  · rw [← scan_digit previous hc] at hscan
    simpa using Cuts.token hscan (by simp; omega) .done
  · rw [← scan_point previous] at hscan
    simpa using Cuts.token hscan (by simp; omega) .done

theorem spells_numeral {text : String} (h : IsNumeral d text.toList) :
    Spells d text [.number text false] := by
  intro previous rest _ hgap
  have hcuts := cuts_numeral previous h hgap
  rw [String.ofList_toList] at hcuts
  exact ⟨some (.number text false), ⟨nofun, nofun⟩, hcuts⟩

/-- A minus sign before what goes on no operator is a token of its own. -/
theorem scanMinus_cons {c : Char} (h : isOperatorPart c = false) (cs : List Char) :
    scanMinus d (c :: cs) = emitSymbol .minus (c :: cs) := by
  have hne : c ≠ '-' ∧ c ≠ '>' := by
    constructor <;>
    · rintro rfl
      cases h
  simp [scanMinus, hne, scanBinary, scanLonger, h, emitSymbol]

theorem IsNumeral.exists_cons (h : IsNumeral d cs) :
    ∃ c more, cs = c :: more ∧ isOperatorPart c = false := by
  obtain ⟨hmantissa, hexponent⟩ := h
  obtain ⟨c, more, rfl, hc⟩ := hmantissa.exists_cons
  refine ⟨c, _, rfl, ?_⟩
  rcases hc with hc | rfl
  · have hparts : ∀ part ∈ ['+', '-', '*', '/', '<', '>', '=', '~', '!', '@', '#', '%', '^', '&',
        '|', '\x60', '?'], part.isDigit = false := by
      decide +kernel
    exact decide_eq_false fun hmem => ne_of_isDigit hc (hparts c hmem) rfl
  · decide

def signSymbol (negative : Bool) : Symbol :=
  if negative then .minus else .plus

theorem spells_signed (negative : Bool) {text : String} (h : IsNumeral d text.toList) :
    Spells d ((if negative then "-" else "+") ++ text)
      [.symbol (signSymbol negative), .number text false] := by
  intro previous rest hcalm hgap
  refine ⟨some (.number text false), ⟨nofun, nofun⟩, ?_⟩
  have hnumber := cuts_numeral (some (.symbol (signSymbol negative))) h hgap
  rw [String.ofList_toList] at hnumber
  cases negative with
  | false =>
      have htext : ("+" ++ text).toList ++ rest = '+' :: (text.toList ++ rest) := by
        simp
      simp only [Bool.false_eq_true, if_false, htext]
      exact cuts_symbol (by decide) rfl hnumber
  | true =>
      have htext : ("-" ++ text).toList ++ rest = '-' :: (text.toList ++ rest) := by
        simp
      simp only [if_true, htext]
      refine cuts_symbol (by decide) ?_ hnumber
      obtain ⟨c, more, hchars, hc⟩ := h.exists_cons
      rw [hchars, List.cons_append]
      exact congrArg some (scanMinus_cons hc _)

/-! Numbers of digits -/

/-- Whether a text is a number of decimal digits, with a period among them perhaps. -/
def isNumberText (text : String) : Bool :=
  !(text.toList.takeWhile Char.isDigit).isEmpty &&
    match text.toList.dropWhile Char.isDigit with
    | [] => true
    | c :: fraction => c = '.' && fraction.all Char.isDigit

theorem isNumeral_of_isNumberText {text : String} (h : isNumberText text = true) :
    IsNumeral d text.toList := by
  have hsplit : text.toList.takeWhile Char.isDigit ++ text.toList.dropWhile Char.isDigit =
      text.toList :=
    List.takeWhile_append_dropWhile
  have hwhole : (text.toList.takeWhile Char.isDigit).all Char.isDigit = true :=
    List.all_takeWhile
  simp only [isNumberText, Bool.and_eq_true, Bool.not_eq_true'] at h
  obtain ⟨hne, htail⟩ := h
  have hne' : text.toList.takeWhile Char.isDigit ≠ [] := by simpa using hne
  have hmantissa : IsMantissa d text.toList := by
    rw [← hsplit]
    cases hdrop : text.toList.dropWhile Char.isDigit with
    | nil =>
        rw [List.append_nil]
        exact .whole hne' hwhole
    | cons point fraction =>
        simp only [hdrop, Bool.and_eq_true, decide_eq_true_eq] at htail
        obtain ⟨rfl, hfraction⟩ := htail
        exact .point (.inl hne') hwhole hfraction
  simpa using IsNumeral.mk hmantissa .none

theorem spells_number {text : String} (h : isNumberText text = true) :
    Spells d text [.number text false] :=
  spells_numeral (isNumeral_of_isNumberText h)

theorem spells_negative {text : String} (h : isNumberText text = true) :
    Spells d ("-" ++ text) [.symbol .minus, .number text false] :=
  spells_signed true (isNumeral_of_isNumberText h)

/-! Decimal numerals -/

theorem takeSign_cases (cs : List Char) :
    cs = (Text.takeSign cs).2 ∨ cs = '-' :: (Text.takeSign cs).2 ∨
      cs = '+' :: (Text.takeSign cs).2 := by
  unfold Text.takeSign
  split
  · exact .inr (.inl rfl)
  · exact .inr (.inr rfl)
  · exact .inl rfl

theorem isExponent_of_readExponent? (hd : d.hasNumericWords = false) {value : Int}
    (h : Text.readExponent? cs = some value) : IsExponent d cs := by
  cases cs with
  | nil => exact .none
  | cons mark cs =>
      simp only [Text.readExponent?] at h
      split at h
      · rename_i hshape
        simp only [Bool.and_eq_true, Bool.or_eq_true, decide_eq_true_eq, Bool.not_eq_true',
          List.isEmpty_eq_false_iff] at hshape
        obtain ⟨⟨hmark, hne⟩, hdigits⟩ := hshape
        rcases takeSign_cases cs with hsign | hsign | hsign
        · exact hsign ▸ .some hd hmark (.inl rfl) hne hdigits
        · exact hsign ▸ .some hd hmark (.inr (.inl rfl)) hne hdigits
        · exact hsign ▸ .some hd hmark (.inr (.inr rfl)) hne hdigits
      · cases h

theorem isNumeral_of_read? (hd : d.hasNumericWords = false) {decimal : Text.Decimal}
    (h : Text.Decimal.read? cs = some decimal) : IsNumeral d (Text.takeSign cs).2 := by
  generalize hunsigned : (Text.takeSign cs).2 = unsigned
  have hwhole : (unsigned.takeWhile Char.isDigit).all Char.isDigit = true := List.all_takeWhile
  have hsplit : unsigned.takeWhile Char.isDigit ++ unsigned.dropWhile Char.isDigit = unsigned :=
    List.takeWhile_append_dropWhile
  have hread : ∀ {fraction tail : List Char} {make : Int → Text.Decimal},
      (if (unsigned.takeWhile Char.isDigit).isEmpty && fraction.isEmpty then none
        else (Text.readExponent? tail).map make) = some decimal →
      (unsigned.takeWhile Char.isDigit ≠ [] ∨ fraction ≠ []) ∧ IsExponent d tail := by
    intro fraction tail make hsome
    split at hsome
    · cases hsome
    · rename_i hdigits
      obtain ⟨value, hvalue, -⟩ := Option.map_eq_some_iff.mp hsome
      refine ⟨?_, isExponent_of_readExponent? hd hvalue⟩
      rw [Decidable.or_iff_not_imp_left]
      simpa using hdigits
  simp only [Text.Decimal.read?, hunsigned] at h
  rw [← hsplit]
  split at h
  · rename_i tail hdrop
    obtain ⟨hne, hexponent⟩ := hread h
    have hmantissa : IsMantissa d (unsigned.takeWhile Char.isDigit ++
        '.' :: tail.takeWhile Char.isDigit) :=
      .point (hne.imp_right fun hne => ⟨hd, hne⟩) hwhole List.all_takeWhile
    rw [hdrop]
    simpa using IsNumeral.mk hmantissa hexponent
  · obtain ⟨hne, hexponent⟩ := hread h
    exact .mk (.whole (hne.resolve_right (by simp)) hwhole) hexponent

theorem exists_isNumeral (hd : d.hasNumericWords = false) {text : String} {decimal : Text.Decimal}
    (h : Text.Decimal.read? text.toList = some decimal) :
    ∃ unsigned : String, IsNumeral d unsigned.toList ∧
      (text = unsigned ∨ text = "-" ++ unsigned ∨ text = "+" ++ unsigned) := by
  have hnumeral := isNumeral_of_read? hd h
  have htext : ∀ {front : List Char}, text.toList = front ++ (Text.takeSign text.toList).2 →
      text = String.ofList front ++ String.ofList (Text.takeSign text.toList).2 := by
    intro front hfront
    rw [← String.ofList_append, ← hfront, String.ofList_toList]
  refine ⟨String.ofList (Text.takeSign text.toList).2, by simpa using hnumeral, ?_⟩
  rcases takeSign_cases text.toList with hsign | hsign | hsign
  · left
    rw [← hsign, String.ofList_toList]
  · exact .inr (.inl (htext hsign))
  · exact .inr (.inr (htext hsign))

end SelectTree.Sql
