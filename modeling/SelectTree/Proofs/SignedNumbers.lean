import SelectTree.Proofs.ConditionReading
import SelectTree.Proofs.NumberTokens
import SelectTree.Proofs.ReadChains

namespace SelectTree

/-! Numbers with signs and parentheses around them: what constant they are, what number it says, and
how its text is read. -/

/-! Values -/

/-- The number that a decimal numeral says. -/
def Text.Decimal.value (decimal : Decimal) : Rat :=
  (if decimal.negative then -1 else 1) * decimal.mantissa * 10 ^ decimal.scale

/-- The number that a text says: minus signs, and a numeral whose digits underscores may separate. -/
def Text.number? : List Char → Option Rat
  | '-' :: cs => (number? cs).map (- ·)
  | cs => (Decimal.read? (cs.filter (· ≠ '_'))).map Decimal.value

namespace Sql

variable {d : Dialect} {text number : String} {minuses : Nat} {e : Expr}
  {digits mantissa exponent cs rest : List Char}

/-- The number that an expression says, if it is a number in signs and parentheses. -/
def Expr.number? : Expr → Option Rat
  | .value (.number text _) => Text.number? text.toList
  | .signed negative inner => inner.number?.map fun value => if negative then -value else value
  | .nested inner => inner.number?
  | _ => none

/-- A number in signs and parentheses, with as many minus signs among them. -/
inductive Expr.IsSigned (number : String) : (minuses : Nat) → Expr → Prop
  | number (long : Bool) : IsSigned number 0 (.value (.number number long))
  | plus {minuses : Nat} {inner : Expr} (h : IsSigned number minuses inner) :
      IsSigned number minuses (.signed false inner)
  | minus {minuses : Nat} {inner : Expr} (h : IsSigned number minuses inner) :
      IsSigned number (minuses + 1) (.signed true inner)
  | nested {minuses : Nat} {inner : Expr} (h : IsSigned number minuses inner) :
      IsSigned number minuses (.nested inner)

/-- Minus signs, and a number after them. -/
def signedText (minuses : Nat) (number : String) : String :=
  String.ofList (List.replicate minuses '-' ++ number.toList)

theorem toList_signedText (minuses : Nat) (number : String) :
    (signedText minuses number).toList = List.replicate minuses '-' ++ number.toList :=
  String.toList_ofList

theorem signedText_zero (number : String) : signedText 0 number = number := by
  simp [signedText]

theorem signedText_succ (minuses : Nat) (number : String) :
    signedText (minuses + 1) number = "-" ++ signedText minuses number := by
  rw [← String.toList_inj, String.toList_append, toList_signedText, toList_signedText]
  simp [List.replicate_succ]

/-- Every such expression is a constant: the number behind all minus signs. -/
theorem Expr.IsSigned.literal_eq (h : e.IsSigned number minuses) :
    e.literal = .ok (.number (signedText minuses number)) := by
  induction h with
  | number long => simp [Expr.literal, signedText_zero]
  | plus _ ih => simp [Expr.literal, ih]
  | minus _ ih => simp [Expr.literal, ih, signedText_succ]
  | nested _ ih => simpa [Expr.literal] using ih

/-- The constant says the number that the expression says. -/
theorem Expr.IsSigned.number?_eq (h : e.IsSigned number minuses) :
    e.number? = Text.number? (signedText minuses number).toList := by
  induction h with
  | number long => rw [Expr.number?, signedText_zero]
  | plus _ ih => simp [Expr.number?, ih]
  | minus _ ih => simp [Expr.number?, ih, signedText_succ, Text.number?]
  | nested _ ih => simpa [Expr.number?] using ih

/-! Number tokens say numbers -/

theorem isSome_readExponent? (h : IsExponent d exponent) :
    (Text.readExponent? exponent).isSome = true := by
  cases h with
  | none => rfl
  | @some mark sign digits _ hmark hsign hne hdigits =>
      have hmark' : (mark = 'e' || mark = 'E') = true := by simpa using hmark
      rcases hsign with rfl | rfl | rfl
      · obtain ⟨c, more, rfl, hc⟩ := exists_digit hne hdigits
        have hplus : c ≠ '+' := ne_of_isDigit hc (by decide)
        have hminus : c ≠ '-' := ne_of_isDigit hc (by decide)
        have hsign : Text.takeSign (c :: more) = (false, c :: more) := by
          simp [Text.takeSign, hplus, hminus]
        simp only [List.nil_append, Text.readExponent?, hmark', hsign, hdigits]
        rfl
      · simp [Text.readExponent?, hmark', Text.takeSign, hdigits, hne]
      · simp [Text.readExponent?, hmark', Text.takeSign, hdigits, hne]

theorem takeSign_eq_self {c : Char} (hc : c.isDigit = true ∨ c = '.') (cs : List Char) :
    Text.takeSign (c :: cs) = (false, c :: cs) := by
  have hne : c ≠ '-' ∧ c ≠ '+' := by
    rcases hc with hc | rfl
    · exact ⟨ne_of_isDigit hc (by decide), ne_of_isDigit hc (by decide)⟩
    · decide
  simp [Text.takeSign, hne]

theorem isDigit_head_exponent (h : IsExponent d exponent) :
    ∀ c ∈ exponent.head?, c.isDigit = false ∧ c ≠ '.' := by
  rcases h.eq_nil_or_head with rfl | ⟨mark, more, rfl, rfl | rfl⟩
  · nofun
  · rintro _ ⟨⟩
    decide
  · rintro _ ⟨⟩
    decide

theorem isSome_read?_whole (hne : digits ≠ []) (hdigits : digits.all Char.isDigit = true)
    (hexponent : IsExponent d exponent) :
    (Text.Decimal.read? (digits ++ exponent)).isSome = true := by
  have hends := isDigit_head_exponent hexponent
  obtain ⟨htake, hdrop⟩ := takeWhile_all hdigits fun c hc => (hends c hc).1
  have hperiod : ∀ tail, exponent ≠ '.' :: tail := by
    rintro tail rfl
    exact (hends '.' rfl).2 rfl
  obtain ⟨c, more, rfl, hc⟩ := exists_digit hne hdigits
  rw [List.cons_append] at htake hdrop ⊢
  simp [Text.Decimal.read?, takeSign_eq_self (.inl hc), htake, hdrop,
    isSome_readExponent? hexponent]

theorem isSome_read?_point {whole fraction : List Char} (hne : whole ++ fraction ≠ [])
    (hwhole : whole.all Char.isDigit = true) (hfraction : fraction.all Char.isDigit = true)
    (hexponent : IsExponent d exponent) :
    (Text.Decimal.read? (whole ++ '.' :: (fraction ++ exponent))).isSome = true := by
  have hends := isDigit_head_exponent hexponent
  have hpoint : ∀ c ∈ ('.' :: (fraction ++ exponent)).head?, c.isDigit = false := by simp
  obtain ⟨htake, hdrop⟩ := takeWhile_all hwhole hpoint
  obtain ⟨htake', hdrop'⟩ := takeWhile_all hfraction fun c hc => (hends c hc).1
  have hsign : Text.takeSign (whole ++ '.' :: (fraction ++ exponent)) =
      (false, whole ++ '.' :: (fraction ++ exponent)) := by
    cases whole with
    | nil => exact takeSign_eq_self (.inr rfl) _
    | cons c whole =>
        simp only [List.all_cons, Bool.and_eq_true] at hwhole
        exact takeSign_eq_self (.inl hwhole.1) _
  have hsome : (whole.isEmpty && fraction.isEmpty) = false := by
    simpa [Bool.and_eq_false_iff, Decidable.imp_iff_not_or] using hne
  simp [Text.Decimal.read?, hsign, htake, hdrop, htake', hdrop', hsome,
    isSome_readExponent? hexponent]

theorem IsMantissaRun.isSome_read? (h : IsMantissaRun d mantissa)
    (hexponent : IsExponent .generic exponent) :
    (Text.Decimal.read? ((mantissa ++ exponent).filter (· ≠ '_'))).isSome = true := by
  have hkeeps : exponent.filter (· ≠ '_') = exponent := by
    rw [List.filter_eq_self]
    intro c hc
    rw [decide_eq_true_eq]
    rintro rfl
    exact underscore_not_mem hexponent hc
  have hne : ∀ {cs : List Char}, (∃ c ∈ cs.head?, c.isDigit = true) →
      cs.filter (· ≠ '_') ≠ [] := by
    rintro cs ⟨c, hc, hdigit⟩ hnil
    have hmem : c ∈ cs := List.mem_of_head? hc
    have hunderscore := List.filter_eq_nil_iff.mp hnil c hmem
    rw [decide_eq_true_eq] at hunderscore
    exact hunderscore (ne_of_isDigit hdigit (by decide))
  rw [List.filter_append, hkeeps]
  cases h with
  | whole hrun hhead => exact isSome_read?_whole (hne hhead) hrun.all_isDigit hexponent
  | @point whole fraction hwhole _ hfraction hhead =>
      have hboth := hne hhead
      rw [List.filter_append] at hboth
      have hpoint := isSome_read?_point hboth hwhole.all_isDigit hfraction.all_isDigit hexponent
      simpa [List.filter_cons] using hpoint

theorem IsNumberToken.isSome_number? (h : IsNumberToken d number) :
    (Text.number? number.toList).isSome = true := by
  obtain ⟨c, more, hchars, hc⟩ := h.exists_cons
  obtain ⟨before, first, cs, long, left, hfirst, hscan⟩ := h
  obtain ⟨mantissa, exponent, htext, hmantissa, hexponent⟩ := exists_parts hfirst hscan
  have hread := hmantissa.isSome_read? hexponent
  rw [← htext] at hread
  have hminus : ∀ tail, number.toList ≠ '-' :: tail := by
    intro tail heq
    obtain ⟨rfl, -⟩ := List.cons.inj (hchars.symm.trans heq)
    rcases hc with hc | hc <;> cases hc
  unfold Text.number?
  split
  · rename_i tail heq
    exact absurd heq (hminus tail)
  · rwa [Option.isSome_map]

theorem Expr.IsSigned.isSome_number? (h : e.IsSigned number minuses)
    (hnumber : IsNumberToken d number) : e.number?.isSome = true := by
  induction h with
  | number long => exact hnumber.isSome_number?
  | plus _ ih => simpa [Expr.number?] using ih
  | minus _ ih => simpa [Expr.number?] using ih
  | nested _ ih => exact ih

/-! Tokens -/

/-- The tokens of minus signs and a number after them. -/
def signedTokens (minuses : Nat) (number : String) : List Token :=
  List.replicate minuses (.symbol .minus) ++ [.number number false]

/-- Minus signs do not begin a comment. -/
def KeepsMinuses (d : Dialect) (minuses : Nat) : Prop :=
  minuses ≤ 1 ∨ d.dashCommentNeedsSpace = true

theorem precedesNumber_none : PrecedesNumber none :=
  ⟨rfl, nofun⟩

theorem precedesNumber_minus : PrecedesNumber (some (.symbol .minus)) :=
  ⟨rfl, nofun⟩

/-- Where two minus signs begin a comment before a blank only, the first of them is a sign. -/
theorem scanMinus_minus (hd : d.dashCommentNeedsSpace = true) (hhead : cs.head? ≠ some ' ') :
    scanMinus d ('-' :: cs) = emitSymbol .minus ('-' :: cs) := by
  obtain rfl : d = .mysql := by cases d <;> first | rfl | cases hd
  simp [scanMinus, Dialect.dashCommentNeedsSpace, hhead, scanBinary, scanLonger,
    Dialect.hasCustomOperators, emitSymbol]

theorem isOperatorPart_head {c : Char} (hc : c.isDigit = true ∨ c = '.') :
    isOperatorPart c = false := by
  rcases hc with hc | rfl
  · have hall : ∀ other ∈ ['+', '-', '*', '/', '<', '>', '=', '~', '!', '@', '#', '%', '^', '&', '|',
        '\x60', '?'], other.isDigit = false := by decide
    rw [isOperatorPart, decide_eq_false_iff_not]
    intro hmem
    rw [hall c hmem] at hc
    cases hc
  · decide

variable {previous last : Option Token} {c : Char} {ts us : List Token}

/-- Minus signs before what begins a number. -/
theorem cuts_minuses (hsigns : KeepsMinuses d minuses) (hc : c.isDigit = true ∨ c = '.')
    (htail : ∀ previous, PrecedesNumber previous → Cuts d previous (c :: cs) ts last rest)
    (hprevious : PrecedesNumber previous) :
    Cuts d previous (List.replicate minuses '-' ++ c :: cs)
      (List.replicate minuses (.symbol .minus) ++ ts) last rest := by
  induction minuses generalizing previous with
  | zero => exact htail previous hprevious
  | succ minuses ih =>
      have hmore := ih (hsigns.imp_left Nat.le_of_succ_le) precedesNumber_minus
      rw [List.replicate_succ, List.replicate_succ, List.cons_append, List.cons_append]
      refine cuts_symbol (by decide) (congrArg some ?_) hmore
      cases minuses with
      | zero => exact scanMinus_cons (isOperatorPart_head hc) cs
      | succ minuses =>
          have hd := hsigns.resolve_left (by omega)
          rw [List.replicate_succ, List.cons_append]
          apply scanMinus_minus hd
          cases minuses with
          | zero =>
              rintro heq
              obtain rfl := Option.some.inj heq
              rcases hc with hc | hc <;> cases hc
          | succ minuses => exact nofun

/-- A number with minus signs before it, cut off where no word stands. -/
theorem spellsFirst_signed (hnumber : IsNumberToken d number)
    (hlast : number.toList.getLast? ≠ some '_') (hsigns : KeepsMinuses d minuses) :
    SpellsFirst d (signedText minuses number) (signedTokens minuses number) := by
  intro rest hgap
  refine ⟨some (.number number false), ⟨nofun, nofun⟩, ?_⟩
  obtain ⟨c, more, hchars, hc⟩ := hnumber.exists_cons
  have htail : ∀ previous, PrecedesNumber previous → Cuts d previous (c :: (more ++ rest))
      [.number number false] (some (.number number false)) rest := by
    intro previous hprevious
    have hcuts := hnumber.cuts hlast hprevious hgap
    rwa [hchars] at hcuts
  rw [toList_signedText, hchars, List.append_assoc, List.cons_append]
  exact cuts_minuses hsigns hc htail precedesNumber_none

/-! Operands -/

namespace Grammar

open Sql.Parser

/-- Minus signs, and a number after them. -/
def minusExpr (number : String) : Nat → Expr
  | 0 => .value (.number number false)
  | minuses + 1 => .signed true (minusExpr number minuses)

theorem isSigned_minusExpr (number : String) (minuses : Nat) :
    (minusExpr number minuses).IsSigned number minuses := by
  induction minuses with
  | zero => exact .number false
  | succ minuses ih => exact .minus ih

theorem exists_signedTokens (minuses : Nat) (number : String) :
    ∃ t ts, signedTokens minuses number = t :: ts ∧ StartsOperand d t := by
  cases minuses with
  | zero => exact ⟨_, _, rfl, .number number⟩
  | succ minuses => exact ⟨_, _, rfl, .sign true⟩

/-- Every minus sign takes a layer. -/
theorem primary_minuses (number : String) {m : Nat} (hm : minuses ≤ m) :
    Reads (primary d (nestedAt d m)) operandEnds (signedTokens minuses number)
      (minusExpr number minuses) := by
  induction minuses generalizing m with
  | zero => exact primary_number number
  | succ minuses ih =>
      intro rest hrest
      obtain ⟨m, rfl⟩ : ∃ j, m = j + 1 := ⟨m - 1, by omega⟩
      have hread := operand_of_primary (ih (Nat.le_of_succ_le_succ hm) rest hrest)
        (strength_operandEnds (nestedAt d m).context hrest)
      rw [← nestedAt_operand] at hread
      obtain ⟨t, ts, htokens, ht⟩ := exists_signedTokens (d := d) minuses number
      have hspace : NoSpace (signedTokens minuses number ++ rest) := by
        rw [htokens]
        exact noSpace_cons ht.isSpace _
      exact primary_signed true hspace hrest hread

/-- An operand on the right of an operator stands after a blank. -/
theorem IsOperand.link_first {link : Link} {k strength : Nat} {text text' : String} {left : Expr}
    (hstrength : strength < link.binding.strength d)
    (hleft : IsOperand d (k + 1) (link.binding.strength d - 1) text ts left)
    (hright : SpellsFirst d text' (signedTokens minuses number)) (hk : minuses ≤ k) :
    IsOperand d (k + 1) strength (text ++ " " ++ (link.sql ++ " " ++ text'))
      (ts ++ link.token :: signedTokens minuses number)
      (link.join left (minusExpr number minuses)) := by
  refine ⟨hleft.spells.space (link.spells.space_first hright), ?_, ?_⟩
  · obtain ⟨t, us, rfl, ht⟩ := hleft.starts
    exact ⟨t, _, rfl, ht⟩
  · intro j hj
    obtain ⟨j, rfl⟩ : ∃ i, j = i + 1 := ⟨j - 1, by omega⟩
    have hread : Unfolds d j (link.binding.strength d) (signedTokens minuses number)
        (minusExpr number minuses) :=
      .of_primary (primary_minuses number (by omega))
    exact (hleft.unfolds _ hj).link hstrength (hread.operand_eq (Nat.le_refl _))
      (exists_signedTokens minuses number)

end Grammar

end Sql

/-! Tests -/

open Sql Sql.Grammar

variable {d : Dialect} {number : String} {minuses : Nat}

/-- A test of a column in plain words against a number with minus signs. -/
theorem Test.isReadable_signed {t : Test} {parts : Nat}
    (hcolumn : IsPlainColumn d (parts + 2) t.column)
    (hvalue : t.value = .number (signedText minuses number)) (hnumber : IsNumberToken d number)
    (hlast : number.toList.getLast? ≠ some '_') (hsigns : KeepsMinuses d minuses) :
    t.IsReadable d (max minuses parts + 2) := by
  obtain ⟨ts, names, hpath, hleft⟩ := hcolumn.phrase (t.link.binding.strength d - 1)
  have hstart := hleft.isOperand.mono (Nat.add_le_add_right (Nat.le_max_right minuses parts) 1)
    (Nat.le_refl _)
  have hoperand := hstart.link_first t.strength_link (spellsFirst_signed hnumber hlast hsigns)
    (Nat.le_max_left minuses parts)
  have hsql : (Literal.number (signedText minuses number)).sql = signedText minuses number := rfl
  rw [← hsql, ← hvalue, ← t.sql_eq] at hoperand
  refine ⟨_, _, _, Nat.lt_succ_self _, hoperand, ?_⟩
  rw [Test.predicate_join hpath (isSigned_minusExpr number minuses).literal_eq, ← hvalue,
    t.withValue_value]

end SelectTree
