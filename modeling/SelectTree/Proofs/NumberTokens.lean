import SelectTree.Proofs.LoneNames
import SelectTree.Proofs.Numerals

namespace SelectTree.Sql

/-! Numbers as they are cut off a text. Cut off again before a gap, a number is the same one,
except that an underscore at its end is left behind. -/

variable {d : Dialect} {previous next : Option Token} {c : Char}
  {cs digits mantissa exponent tail more rest left front : List Char}

/-! Digits -/

/-- Digits, with underscores that stand before a digit or at the end. -/
inductive IsDigitRun (d : Dialect) : List Char → Prop
  | nil : IsDigitRun d []
  | digit {c : Char} {digits : List Char} (hc : c.isDigit = true) (h : IsDigitRun d digits) :
      IsDigitRun d (c :: digits)
  | underscore {digits : List Char} (hd : d.separatesDigits = true)
      (hnext : ∀ c ∈ digits.head?, c.isDigit = true) (h : IsDigitRun d digits) :
      IsDigitRun d ('_' :: digits)

/-- An underscore at the end stands before what could be a digit of another base. -/
def EndsBefore (digits tail : List Char) : Prop :=
  digits.getLast? = some '_' → ∃ c ∈ tail.head?, isHexDigit c = true

theorem EndsBefore.of_cons (h : EndsBefore (c :: digits) tail) : EndsBefore digits tail := by
  intro hlast
  apply h
  have hne : digits ≠ [] := by
    rintro rfl
    cases hlast
  rwa [List.getLast?_cons_of_ne_nil hne]

theorem EndsBefore.cons (h : EndsBefore digits tail) (hne : digits ≠ []) (c : Char) :
    EndsBefore (c :: digits) tail := by
  intro hlast
  rw [List.getLast?_cons_of_ne_nil hne] at hlast
  exact h hlast

theorem IsDigitRun.isDigit_head (h : IsDigitRun d (c :: digits)) (hc : c ≠ '_') :
    c.isDigit = true := by
  cases h with
  | digit hdigit => exact hdigit
  | underscore => exact absurd rfl hc

theorem endsBefore_nil (tail : List Char) : EndsBefore [] tail := by
  intro hlast
  cases hlast

theorem isDigitRun_of_takeDigits (h : takeDigits d Char.isDigit cs = (digits, tail)) :
    IsDigitRun d digits ∧ EndsBefore digits tail := by
  fun_induction takeDigits d Char.isDigit cs generalizing digits tail with
  | case1 =>
      obtain ⟨rfl, rfl⟩ := Prod.mk.inj h
      exact ⟨.nil, endsBefore_nil _⟩
  | case2 c hc =>
      obtain ⟨rfl, rfl⟩ := Prod.mk.inj h
      refine ⟨.digit hc .nil, ?_⟩
      intro hlast
      obtain rfl := Option.some.inj hlast
      cases hc
  | case3 c hc =>
      obtain ⟨rfl, rfl⟩ := Prod.mk.inj h
      exact ⟨.nil, endsBefore_nil _⟩
  | case4 c next cs hc digits' tail' heq ih =>
      obtain ⟨rfl, rfl⟩ := Prod.mk.inj h
      obtain ⟨hrun, hends⟩ := ih heq
      have hsplit := takeDigits_fst_append (d := d) Char.isDigit (next :: cs)
      rw [heq] at hsplit
      simp only [Bool.or_eq_true, Bool.and_eq_true, decide_eq_true_eq] at hc
      rcases hc with hc | ⟨⟨hd, rfl⟩, hhex⟩
      · refine ⟨.digit hc hrun, ?_⟩
        cases digits' with
        | nil =>
            intro hlast
            obtain rfl := Option.some.inj hlast
            cases hc
        | cons more digits' => exact hends.cons (List.cons_ne_nil _ _) c
      · cases digits' with
        | nil =>
            obtain rfl : tail' = next :: cs := hsplit
            refine ⟨.underscore hd ?_ .nil, fun _ => ⟨next, rfl, hhex⟩⟩
            rintro _ ⟨⟩
        | cons more digits' =>
            obtain ⟨rfl, -⟩ := List.cons.inj hsplit
            have hne : more ≠ '_' := by
              rintro rfl
              cases hhex
            refine ⟨.underscore hd ?_ hrun, hends.cons (List.cons_ne_nil _ _) '_'⟩
            rintro _ ⟨⟩
            exact hrun.isDigit_head hne
  | case5 c next cs hc =>
      obtain ⟨rfl, rfl⟩ := Prod.mk.inj h
      exact ⟨.nil, endsBefore_nil _⟩

theorem isHexDigit_of_isDigit (h : c.isDigit = true) : isHexDigit c = true := by
  simp [isHexDigit, h]

/-- The same digits are taken again, up to what goes on with none. -/
theorem IsDigitRun.takeDigits_append (h : IsDigitRun d digits) (hends : EndsBefore digits more)
    (hmore : takeDigits d Char.isDigit more = ([], more)) :
    takeDigits d Char.isDigit (digits ++ more) = (digits, more) := by
  induction h with
  | nil => exact hmore
  | @digit c digits hc h ih =>
      have htail := ih hends.of_cons
      rw [List.cons_append]
      cases hrest : digits ++ more with
      | nil =>
          obtain ⟨rfl, rfl⟩ := List.append_eq_nil_iff.mp hrest
          simp [takeDigits, hc]
      | cons next rest =>
          rw [hrest] at htail
          simp [takeDigits, hc, htail]
  | @underscore digits hd hnext h ih =>
      have htail := ih hends.of_cons
      obtain ⟨next, rest, hrest, hhex⟩ : ∃ next rest, digits ++ more = next :: rest ∧
          isHexDigit next = true := by
        cases digits with
        | nil =>
            obtain ⟨next, hhead, hhex⟩ := hends rfl
            obtain ⟨rest, rfl⟩ := List.head?_eq_some_iff.mp hhead
            exact ⟨next, rest, rfl, hhex⟩
        | cons next digits =>
            exact ⟨next, digits ++ more, rfl, isHexDigit_of_isDigit (hnext next rfl)⟩
      rw [hrest] at htail
      rw [List.cons_append, hrest]
      simp [takeDigits, hd, hhex, htail]

/-- No underscore stands before one. -/
theorem IsDigitRun.of_concat (h : IsDigitRun d (digits ++ ['_'])) :
    IsDigitRun d digits ∧ digits.getLast? ≠ some '_' := by
  induction digits with
  | nil => exact ⟨.nil, nofun⟩
  | cons c digits ih =>
      rw [List.cons_append] at h
      cases h with
      | digit hc h =>
          obtain ⟨hrun, hlast⟩ := ih h
          refine ⟨.digit hc hrun, ?_⟩
          cases digits with
          | nil =>
              rintro ⟨⟩
              cases hc
          | cons => rwa [List.getLast?_cons_of_ne_nil (List.cons_ne_nil _ _)]
      | underscore hd hnext h =>
          obtain ⟨hrun, hlast⟩ := ih h
          cases digits with
          | nil => cases hnext '_' rfl
          | cons next digits =>
              refine ⟨.underscore hd hnext hrun, ?_⟩
              rwa [List.getLast?_cons_of_ne_nil (List.cons_ne_nil _ _)]

theorem IsDigitRun.all_isDigit (h : IsDigitRun d digits) :
    (digits.filter (· ≠ '_')).all Char.isDigit = true := by
  induction h with
  | nil => rfl
  | @digit c digits hc _ ih =>
      have hne : c ≠ '_' := by
        rintro rfl
        cases hc
      simpa [hne, hc] using ih
  | underscore _ _ _ ih => simpa using ih

/-! Exponents -/

/-- An exponent is read alike in every dialect. -/
theorem isExponent_takeExponent (cs : List Char) : IsExponent .generic (takeExponent cs).1 := by
  have hdigits : ∀ unsigned : List Char, (unsigned.takeWhile Char.isDigit).all Char.isDigit = true :=
    fun _ => List.all_takeWhile
  have hnone : IsExponent .generic [] := .none
  cases cs with
  | nil => exact hnone
  | cons mark cs =>
      simp only [takeExponent]
      split
      · rename_i hmark
        simp only [Bool.or_eq_true, decide_eq_true_eq] at hmark
        split <;>
        · split
          · exact hnone
          · rename_i hne
            refine .some rfl hmark ?_ (by simpa using hne) (hdigits _)
            simp
      · exact hnone

theorem IsExponent.eq_nil_or_head (h : IsExponent d exponent) :
    exponent = [] ∨ ∃ mark more, exponent = mark :: more ∧ (mark = 'e' ∨ mark = 'E') := by
  cases h with
  | none => exact .inl rfl
  | some _ hmark => exact .inr ⟨_, _, rfl, hmark⟩

theorem underscore_not_mem (h : IsExponent d exponent) : '_' ∉ exponent := by
  cases h with
  | none => exact List.not_mem_nil
  | @some mark sign digits _ hmark hsign _ hdigits =>
      have hdigit : '_' ∉ digits := fun hmem => by cases List.all_eq_true.mp hdigits _ hmem
      rcases hmark with rfl | rfl <;> rcases hsign with rfl | rfl | rfl <;> simp [hdigit]

/-- Before an exponent or a gap, digits end, and an underscore only before an exponent. -/
theorem endsBefore_exponent (h : IsExponent d exponent)
    (hlast : exponent = [] → digits.getLast? ≠ some '_') : EndsBefore digits (exponent ++ rest) := by
  intro hunderscore
  rcases h.eq_nil_or_head with rfl | ⟨mark, more, rfl, hmark⟩
  · exact absurd hunderscore (hlast rfl)
  · refine ⟨mark, rfl, ?_⟩
    rcases hmark with rfl | rfl <;> decide

theorem IsExponent.takeDigits_eq (h : IsExponent d exponent) (hgap : AtGap rest) (d' : Dialect) :
    takeDigits d' Char.isDigit (exponent ++ rest) = ([], exponent ++ rest) := by
  have hends : ∀ c ∈ [' ', ',', ')', 'e', 'E'], c.isDigit = false ∧ c ≠ '_' := by decide
  apply takeDigits_of_not_digit
  · exact fun c hc => (hends c (h.head_mem hgap c hc)).1
  · exact fun hhead => (hends _ (h.head_mem hgap _ hhead)).2 rfl

/-! Numbers -/

/-- What is cut off for the digits of a number: digits, with a point among them perhaps. -/
inductive IsMantissaRun (d : Dialect) : List Char → Prop
  | whole {digits : List Char} (h : IsDigitRun d digits) (hhead : ∃ c ∈ digits.head?, c.isDigit = true) :
      IsMantissaRun d digits
  | point {whole fraction : List Char} (hwhole : IsDigitRun d whole)
      (hlast : whole.getLast? ≠ some '_') (hfraction : IsDigitRun d fraction)
      (hhead : ∃ c ∈ (whole ++ fraction).head?, c.isDigit = true) :
      IsMantissaRun d (whole ++ '.' :: fraction)

theorem finishNumber_number {text : String} {long : Bool}
    (h : finishNumber d previous mantissa cs = emit (.number text long) left) :
    text = String.ofList (mantissa ++ (takeExponent cs).1) := by
  unfold finishNumber at h
  dsimp only at h
  split at h
  · cases h
  · split at h
    · cases h
    · split at h <;> cases h <;> rfl

/-- A number that is cut off is a mantissa and an exponent. -/
theorem exists_parts {text : String} {long : Bool} (hc : c.isDigit = true ∨ c = '.')
    (h : scanNumber d previous (c :: cs) = emit (.number text long) left) :
    ∃ mantissa exponent, text.toList = mantissa ++ exponent ∧ IsMantissaRun d mantissa ∧
      IsExponent .generic exponent := by
  have hunderscore : ∀ tail, c :: cs ≠ '.' :: '_' :: tail := by
    intro tail heq
    rw [heq, scanNumber_underscore] at h
    split at h <;> cases h
  have hne : c ≠ '_' := by
    rcases hc with hc | rfl
    · exact ne_of_isDigit hc (by decide)
    · decide
  have hsplit := takeDigits_fst_append (d := d) Char.isDigit (c :: cs)
  rw [scanNumber_eq hunderscore] at h
  cases hdigits : takeDigits d Char.isDigit (c :: cs) with
  | mk whole tail =>
      obtain ⟨hrun, hends⟩ := isDigitRun_of_takeDigits hdigits
      rw [hdigits] at h hsplit
      unfold scanDigits at h
      split at h
      · cases h
      · rename_i whole rest heq
        obtain ⟨rfl, rfl⟩ := Prod.mk.inj heq
        split at h
        · cases h
        · rename_i hfraction
          cases hmore : takeDigits d Char.isDigit rest with
          | mk fraction tail =>
              obtain ⟨hrunFraction, -⟩ := isDigitRun_of_takeDigits hmore
              have hsplitFraction := takeDigits_fst_append (d := d) Char.isDigit rest
              rw [hmore] at h hfraction hsplitFraction
              refine ⟨_, _, by rw [finishNumber_number h, String.toList_ofList],
                .point hrun ?_ hrunFraction ?_, isExponent_takeExponent _⟩
              · intro hlast
                obtain ⟨next, hnext, hhex⟩ := hends hlast
                cases hnext
                cases hhex
              · cases whole with
                | cons first whole =>
                    obtain ⟨rfl, -⟩ := List.cons.inj hsplit
                    exact ⟨first, rfl, hrun.isDigit_head hne⟩
                | nil =>
                    obtain ⟨rfl, rfl⟩ := List.cons.inj hsplit
                    cases fraction with
                    | nil => simp at hfraction
                    | cons first fraction =>
                        refine ⟨first, rfl, hrunFraction.isDigit_head ?_⟩
                        rintro rfl
                        exact hunderscore _ (congrArg _ hsplitFraction.symm)
      · rename_i whole tail hperiod heq
        obtain ⟨rfl, rfl⟩ := Prod.mk.inj heq
        refine ⟨_, _, by rw [finishNumber_number h, String.toList_ofList], .whole hrun ?_,
          isExponent_takeExponent _⟩
        cases whole with
        | cons first whole =>
            obtain ⟨rfl, -⟩ := List.cons.inj hsplit
            exact ⟨first, rfl, hrun.isDigit_head hne⟩
        | nil =>
            rcases hc with hc | rfl
            · have hfirst := takeDigits_digit (d := d) hc cs
              rw [hdigits] at hfirst
              exact absurd rfl hfirst
            · exact absurd hsplit (hperiod cs)

/-- A number is finished where its exponent ends, before no word that it could be a part of. -/
theorem finishNumber_again (hperiod : previous ≠ some (.symbol .period))
    (hword : d.hasNumericWords = false ∨ rest.takeWhile d.isWordPart = [])
    (htake : takeExponent (exponent ++ rest) = (exponent, rest)) (hlong : rest.head? ≠ some 'L') :
    finishNumber d previous mantissa (exponent ++ rest) =
      emit (.number (String.ofList (mantissa ++ exponent)) false) rest := by
  have hnot : ∀ tail, rest = 'L' :: tail → False := by
    rintro tail rfl
    exact hlong rfl
  rcases hword with hword | hword <;> simp [finishNumber, htake, hword, hperiod]

theorem EndsBefore.of_append (h : EndsBefore (front ++ digits) tail) : EndsBefore digits tail := by
  intro hlast
  apply h
  rw [List.getLast?_append, hlast]
  rfl

/-- The digits of a number are cut off again as they are. -/
theorem scanNumber_mantissa (h : IsMantissaRun d mantissa) (hends : EndsBefore mantissa tail)
    (htail : takeDigits d Char.isDigit tail = ([], tail)) (hperiod : tail.head? ≠ some '.')
    (hx : tail.head? ≠ some 'x') (hprevious : previousIsWord previous = false) :
    scanNumber d previous (mantissa ++ tail) = finishNumber d previous mantissa tail := by
  cases h with
  | whole hrun hhead =>
      obtain ⟨c, hc, hdigit⟩ := hhead
      obtain ⟨more, rfl⟩ := List.head?_eq_some_iff.mp hc
      have hunderscore : ∀ rest, c :: more ++ tail ≠ '.' :: '_' :: rest := by
        intro rest heq
        exact ne_of_isDigit hdigit (by decide) (List.cons.inj heq).1
      rw [scanNumber_eq hunderscore, hrun.takeDigits_append hends htail]
      exact scanDigits_plain (fun _ => hx) hperiod
  | @point whole fraction hwhole hlast hfraction hhead =>
      have hunderscore : ∀ rest, whole ++ '.' :: fraction ++ tail ≠ '.' :: '_' :: rest := by
        intro rest heq
        obtain ⟨c, hc, hdigit⟩ := hhead
        cases whole with
        | cons first whole =>
            obtain rfl := Option.some.inj hc
            exact ne_of_isDigit hdigit (by decide) (List.cons.inj heq).1
        | nil =>
            obtain ⟨more, rfl⟩ := List.head?_eq_some_iff.mp hc
            exact ne_of_isDigit hdigit (by decide) (List.cons.inj (List.cons.inj heq).2).1
      have hpoint : takeDigits d Char.isDigit ('.' :: (fraction ++ tail)) =
          ([], '.' :: (fraction ++ tail)) :=
        takeDigits_of_not_digit (by simp) (by simp)
      have hnumber : (whole.isEmpty && (fraction.isEmpty ||
          (d.hasNumericWords && previousIsWord previous))) = false := by
        obtain ⟨c, hc, -⟩ := hhead
        cases whole with
        | cons => rfl
        | nil =>
            obtain ⟨more, rfl⟩ := List.head?_eq_some_iff.mp hc
            simp [hprevious]
      rw [scanNumber_eq hunderscore, List.append_assoc, List.cons_append,
        hwhole.takeDigits_append (fun heq => absurd heq hlast) hpoint]
      rw [List.append_cons] at hends
      have hmore := hfraction.takeDigits_append hends.of_append htail
      simp [scanDigits, hmore, hnumber]

/-- An underscore at the end is left behind. -/
theorem IsMantissaRun.of_concat (h : IsMantissaRun d (front ++ ['_'])) :
    IsMantissaRun d front ∧ front.getLast? ≠ some '_' := by
  generalize hmantissa : front ++ ['_'] = mantissa at h
  cases h with
  | whole hrun hhead =>
      subst hmantissa
      obtain ⟨hfront, hlast⟩ := hrun.of_concat
      refine ⟨.whole hfront ?_, hlast⟩
      obtain ⟨c, hc, hdigit⟩ := hhead
      cases front with
      | nil =>
          obtain rfl := Option.some.inj hc
          cases hdigit
      | cons => exact ⟨c, hc, hdigit⟩
  | @point whole fraction hwhole hlast hfraction hhead =>
      rcases List.eq_nil_or_concat fraction with rfl | ⟨digits, last, rfl⟩
      · have hsame := congrArg List.getLast? hmantissa
        simp at hsame
      · rw [List.concat_eq_append, ← List.cons_append, ← List.append_assoc] at hmantissa
        obtain ⟨rfl, hlastEq⟩ := List.append_inj' hmantissa rfl
        obtain rfl := List.singleton_inj.mp hlastEq
        rw [List.concat_eq_append] at hfraction hhead
        obtain ⟨hdigits, hend⟩ := hfraction.of_concat
        refine ⟨.point hwhole hlast hdigits ?_, ?_⟩
        · obtain ⟨c, hc, hdigit⟩ := hhead
          rw [← List.append_assoc] at hc
          cases hboth : whole ++ digits with
          | nil =>
              rw [hboth] at hc
              obtain rfl := Option.some.inj hc
              cases hdigit
          | cons first more =>
              rw [hboth] at hc
              exact ⟨c, hc, hdigit⟩
        · cases digits with
          | nil => simp
          | cons first digits =>
              rwa [List.getLast?_append, List.getLast?_cons_of_ne_nil (List.cons_ne_nil _ _),
                Option.or_of_isSome (by simp)]

/-! Tokens -/

/-- A text that is cut off as a number somewhere. -/
def IsNumberToken (d : Dialect) (text : String) : Prop :=
  ∃ previous c cs long rest, (c.isDigit = true ∨ c = '.') ∧
    scanNumber d previous (c :: cs) = emit (.number text long) rest

/-- What may stand before a number, if a blank or an operator does. -/
def PrecedesNumber (previous : Option Token) : Prop :=
  previousIsWord previous = false ∧ previous ≠ some (.symbol .period)

theorem IsNumberToken.scanNumber_eq {text : String} (h : IsNumberToken d text)
    (hlast : text.toList.getLast? ≠ some '_') (hprevious : PrecedesNumber previous)
    (hgap : AtGap rest) :
    scanNumber d previous (text.toList ++ rest) = emit (.number text false) rest := by
  obtain ⟨before, c, cs, long, left, hc, hscan⟩ := h
  obtain ⟨mantissa, exponent, htext, hmantissa, hexponent⟩ := exists_parts hc hscan
  have hends : EndsBefore mantissa (exponent ++ rest) := by
    apply endsBefore_exponent hexponent
    rintro rfl
    rwa [htext, List.append_nil] at hlast
  have hhead := hexponent.head_mem hgap
  have hword : rest.takeWhile d.isWordPart = [] :=
    (takeWhile_isWordPart (List.all_nil : [].all d.isWordPart = true) hgap.atWordEnd).1
  rw [htext, List.append_assoc, scanNumber_mantissa hmantissa hends
    (hexponent.takeDigits_eq hgap d) (fun heq => absurd (hhead _ heq) (by decide))
    (fun heq => absurd (hhead _ heq) (by decide)) hprevious.1,
    finishNumber_again hprevious.2 (.inr hword) (hexponent.takeExponent_append hgap)
      (head_ne_of_atGap (by decide) hgap), ← htext, String.ofList_toList]

theorem IsDigitRun.separatesDigits (h : IsDigitRun d digits) (hmem : '_' ∈ digits) :
    d.separatesDigits = true := by
  induction h with
  | nil => cases hmem
  | digit hc _ ih =>
      rcases List.mem_cons.mp hmem with rfl | hmem
      · cases hc
      · exact ih hmem
  | underscore hd _ _ _ => exact hd

theorem IsMantissaRun.hasNumericWords (h : IsMantissaRun d mantissa) (hmem : '_' ∈ mantissa) :
    d.hasNumericWords = false := by
  have hseparates : d.separatesDigits = true := by
    cases h with
    | whole hrun _ => exact hrun.separatesDigits hmem
    | point hwhole _ hfraction _ =>
        rcases List.mem_append.mp hmem with hmem | hmem
        · exact hwhole.separatesDigits hmem
        · exact hfraction.separatesDigits (List.mem_of_ne_of_mem (by decide) hmem)
  cases d <;> first | rfl | cases hseparates

theorem takeDigits_underscore (hgap : AtGap rest) :
    takeDigits d Char.isDigit ('_' :: rest) = ([], '_' :: rest) := by
  rcases eq_nil_or_cons_of_atGap hgap with rfl | ⟨c, tail, rfl | rfl | rfl, rfl⟩ <;>
    simp [takeDigits, isHexDigit]

/-- Of a number with an underscore at its end, the underscore stays behind. -/
theorem IsNumberToken.scanNumber_underscore {text : String} (h : IsNumberToken d text)
    (hlast : text.toList = front ++ ['_']) (hprevious : PrecedesNumber previous) (hgap : AtGap rest) :
    scanNumber d previous (text.toList ++ rest) =
      emit (.number (String.ofList front) false) ('_' :: rest) := by
  obtain ⟨before, c, cs, long, left, hc, hscan⟩ := h
  obtain ⟨mantissa, exponent, htext, hmantissa, hexponent⟩ := exists_parts hc hscan
  obtain rfl : exponent = [] := by
    have hend : (mantissa ++ exponent).getLast? = some '_' := by
      rw [← htext, hlast, List.getLast?_concat]
    rw [List.getLast?_append, Option.or_eq_some_iff] at hend
    rcases hend with hend | ⟨hend, -⟩
    · exact absurd (List.mem_of_getLast? hend) (underscore_not_mem hexponent)
    · exact List.getLast?_eq_none_iff.mp hend
  rw [List.append_nil, hlast] at htext
  subst htext
  have hwords := hmantissa.hasNumericWords (by simp)
  obtain ⟨hfront, hend⟩ := hmantissa.of_concat
  have hnumber : finishNumber d previous front ([] ++ '_' :: rest) =
      emit (.number (String.ofList (front ++ [])) false) ('_' :: rest) :=
    finishNumber_again hprevious.2 (.inl hwords) rfl (by simp)
  rw [List.nil_append, List.append_nil] at hnumber
  rw [hlast, List.append_assoc, List.singleton_append,
    scanNumber_mantissa hfront (fun heq => absurd heq hend) (takeDigits_underscore hgap) (by simp)
      (by simp) hprevious.1, hnumber]

theorem IsMantissaRun.exists_cons (h : IsMantissaRun d mantissa) :
    ∃ c more, mantissa = c :: more ∧ (c.isDigit = true ∨ c = '.') := by
  cases h with
  | whole _ hhead =>
      obtain ⟨c, hc, hdigit⟩ := hhead
      obtain ⟨more, rfl⟩ := List.head?_eq_some_iff.mp hc
      exact ⟨c, more, rfl, .inl hdigit⟩
  | @point whole fraction _ _ _ hhead =>
      cases whole with
      | nil => exact ⟨'.', fraction, rfl, .inr rfl⟩
      | cons c whole =>
          obtain ⟨c', hc, hdigit⟩ := hhead
          obtain rfl := Option.some.inj hc
          exact ⟨c, _, rfl, .inl hdigit⟩

theorem IsNumberToken.exists_cons {text : String} (h : IsNumberToken d text) :
    ∃ c more, text.toList = c :: more ∧ (c.isDigit = true ∨ c = '.') := by
  obtain ⟨before, c, cs, long, left, hc, hscan⟩ := h
  obtain ⟨mantissa, exponent, htext, hmantissa, -⟩ := exists_parts hc hscan
  obtain ⟨first, more, rfl, hfirst⟩ := hmantissa.exists_cons
  exact ⟨first, more ++ exponent, htext, hfirst⟩

theorem scan_number (hc : c.isDigit = true ∨ c = '.') (cs : List Char) :
    scan d previous c cs = scanNumber d previous (c :: cs) := by
  rcases hc with hc | rfl
  · exact scan_digit previous hc cs
  · exact scan_point previous cs

theorem IsNumberToken.cuts_of_scanNumber {text : String} (h : IsNumberToken d text) {t : Token}
    (hscan : scanNumber d previous (text.toList ++ rest) = emit t left)
    (hlength : left.length < (text.toList ++ rest).length) :
    Cuts d previous (text.toList ++ rest) [t] (some t) left := by
  obtain ⟨c, more, htext, hc⟩ := h.exists_cons
  rw [htext, List.cons_append] at hscan hlength ⊢
  rw [← scan_number hc] at hscan
  exact .token hscan (Nat.le_of_lt_succ hlength) .done

theorem IsNumberToken.cuts {text : String} (h : IsNumberToken d text)
    (hlast : text.toList.getLast? ≠ some '_') (hprevious : PrecedesNumber previous)
    (hgap : AtGap rest) :
    Cuts d previous (text.toList ++ rest) [.number text false] (some (.number text false)) rest := by
  apply h.cuts_of_scanNumber (h.scanNumber_eq hlast hprevious hgap)
  obtain ⟨c, more, htext, -⟩ := h.exists_cons
  rw [htext, List.length_append, List.length_cons]
  omega

theorem IsNumberToken.cuts_underscore {text : String} (h : IsNumberToken d text)
    (hlast : text.toList = front ++ ['_']) (hprevious : PrecedesNumber previous) (hgap : AtGap rest) :
    Cuts d previous (text.toList ++ rest) [.number (String.ofList front) false]
      (some (.number (String.ofList front) false)) ('_' :: rest) := by
  apply h.cuts_of_scanNumber (h.scanNumber_underscore hlast hprevious hgap)
  obtain ⟨c, more, htext, hc⟩ := h.exists_cons
  rw [hlast] at htext ⊢
  cases front with
  | nil =>
      obtain ⟨rfl, -⟩ := List.cons.inj htext
      rcases hc with hc | hc <;> cases hc
  | cons first front =>
      simp only [List.length_append, List.length_cons, List.length_nil]
      omega

end SelectTree.Sql
