import SelectTree.Proofs.SignedNumbers
import SelectTree.Proofs.SplitConditions

namespace SelectTree

open Sql Sql.Grammar Sql.Parser

/-! Queries with signed numbers in their conditions, read back from their texts. -/

variable {d : Dialect} {n : Nested} {number : String} {minuses : Nat}

/-! Operands -/

namespace Sql.Grammar

theorem fails_typedValue_nil (p : Parser Expr) : Fails (typedValue d n p) [] := by
  have hopen : Fails (openType d n) [] := by
    apply fails_openType
    intro inner
    exact ⟨⟨.expected .dataType, []⟩, rfl, nofun⟩
  unfold typedValue dataType closedType
  exact hopen.bind.bind

/-- No operand begins where the tokens end. -/
theorem operand_nil_ne_ok {k s : Nat} {e : Expr} {rest : List Token} :
    (nestedAt d k).operand s [] ≠ .ok (e, rest) := by
  intro h
  cases k with
  | zero => cases h
  | succ k =>
      rw [nestedAt_operand, operand_eq] at h
      obtain ⟨opening, left, hopening, -⟩ := run_bind_eq_ok_iff.mp h
      obtain ⟨whole, left', hwhole, -⟩ := run_bind_eq_ok_iff.mp hopening
      rw [prefixExpr, prefixAt_succ, run_bind, attempt_of_fails (fails_typedValue_nil _)] at hwhole
      cases hwhole

theorem value_number_eq (text : String) (us : List Token) :
    value d (.number text false :: us) =
      .ok (.number text false, after (.number text false) us) := by
  simp [value, peek, token, valueOfToken?]

theorem prefixAfter_minus (inner : Parser Expr) (ts : List Token) :
    prefixAfter d n inner (.symbol .minus :: ts) =
      ((do expect .minus; n.tighter d .times) >>= fun e => collated n (.signed true e))
        (.symbol .minus :: ts) := by
  rw [prefixAfter_symbol]
  simp only [symbolExpr, prefixBinding?, prefixed, run_bind, run_pure]
  cases expect .minus (.symbol .minus :: ts) with
  | error failure => rfl
  | ok sign =>
      obtain ⟨-, rest⟩ := sign
      dsimp only
      cases n.tighter d .times rest <;> rfl

/-- An operand that begins with a number behind minus signs is that number, as far as it is any
constant. -/
theorem literal_of_operand_signed {k s : Nat} {us rest : List Token} {e : Expr} {value : Literal}
    (h : (nestedAt d k).operand s (signedTokens minuses number ++ us) = .ok (e, rest))
    (hvalue : e.literal = .ok value) : value = .number (signedText minuses number) := by
  induction minuses generalizing k s e rest value with
  | zero =>
      cases k with
      | zero => cases h
      | succ k =>
          obtain ⟨v, left, hread, hgoes⟩ := exists_root_of_operand (f := Expr.value) rfl
            (fun inner => prefixAfter_number inner number us) (fun _ _ _ => nofun) h
          rw [value_number_eq] at hread
          obtain ⟨rfl, -⟩ := Prod.mk.inj (Except.ok.inj hread)
          obtain rfl := hgoes.literal hvalue
          rw [signedText_zero]
          exact (Except.ok.inj hvalue).symm
  | succ minuses ih =>
      cases k with
      | zero => cases h
      | succ k =>
          obtain ⟨root, left, hroot, hgoes⟩ := exists_root_of_operand (f := Expr.signed true) rfl
            (fun inner => prefixAfter_minus inner _) (fun _ _ _ => nofun) h
          have hspace : NoSpace (signedTokens minuses number ++ us) := by
            obtain ⟨t, ts, htokens, ht⟩ := exists_signedTokens (d := d) minuses number
            rw [htokens]
            exact noSpace_cons ht.isSpace _
          replace hroot := run_bind_of_ok (expect_symbol hspace) hroot
          obtain rfl := hgoes.literal hvalue
          rw [Expr.literal] at hvalue
          split at hvalue
          · rename_i text htext
            obtain rfl := Literal.number.inj (ih hroot htext)
            rw [signedText_succ]
            exact (Except.ok.inj hvalue).symm
          · cases hvalue
          · cases hvalue

end Sql.Grammar

/-! Texts that are lost -/

namespace Sql

variable {fuel : Nat} {cs rest : List Char} {lexemes : List Lexeme}

/-- The text of a number with minus signs keeps its meaning: no two of them begin a comment, and no
underscore stands at its end. -/
structure IsKeptNumber (d : Dialect) (minuses : Nat) (number : String) : Prop where
  minuses : KeepsMinuses d minuses
  last : number.toList.getLast? ≠ some '_'

theorem afterLine_eq_nil (h : ∀ c ∈ cs, c ≠ '\n' ∧ c ≠ '\r') : afterLine d cs = [] := by
  induction cs with
  | nil => rfl
  | cons c cs ih =>
      obtain ⟨hc, hcs⟩ := List.forall_mem_cons.mp h
      rw [afterLine, List.dropWhile_cons_of_pos (by simp [hc])]
      exact ih hcs

/-- Two minus signs begin a comment, up to the end of the line. -/
theorem lexFrom_comment (hd : d.dashCommentNeedsSpace = false)
    (hline : ∀ c ∈ cs, c ≠ '\n' ∧ c ≠ '\r')
    (h : lexFrom d fuel none ('-' :: '-' :: cs) = .ok lexemes) : lexemes.map Lexeme.token = [] := by
  cases fuel with
  | zero =>
      obtain rfl := Except.ok.inj h
      rfl
  | succ fuel =>
      obtain ⟨read, left, token, more, hscan, hmore, htokens, hread⟩ := lexFrom_cons_inv h
      have hskip : scan d none '-' ('-' :: cs) = skipTo [] := by
        apply scan_of_scanOperator? (by decide)
        simp [scanOperator?, scanMinus, hd, afterLine_eq_nil hline]
      obtain ⟨rfl, rfl⟩ := Prod.mk.inj (Except.ok.inj (hskip.symm.trans hscan))
      obtain rfl : token = none := by
        rcases hread with rfl | ⟨-, skipped, rfl⟩ <;> rfl
      obtain rfl : more = [] := by
        cases fuel <;> exact (Except.ok.inj hmore).symm
      exact htokens

/-- Of a number that is not kept nothing is read, or another one with as many minus signs. -/
theorem tokens_of_lost (hnumber : IsNumberToken d number) (hlost : ¬ IsKeptNumber d minuses number)
    (hgap : AtGap rest) (hline : ∀ c ∈ number.toList ++ rest, c ≠ '\n' ∧ c ≠ '\r')
    (hfuel : ((signedText minuses number).toList ++ rest).length ≤ fuel)
    (h : lexFrom d fuel none ((signedText minuses number).toList ++ rest) = .ok lexemes) :
    lexemes.map Lexeme.token = [] ∨ ∃ other us, other ≠ number ∧
      lexemes.map Lexeme.token = signedTokens minuses other ++ us := by
  rw [toList_signedText, List.append_assoc] at hfuel h
  by_cases hminuses : KeepsMinuses d minuses
  · -- Only an underscore at the end is left, so the number is read without it.
    have hlast : number.toList.getLast? = some '_' := by
      cases hend : decide (number.toList.getLast? = some '_') with
      | true => exact of_decide_eq_true hend
      | false => exact absurd ⟨hminuses, of_decide_eq_false hend⟩ hlost
    obtain ⟨front, hfront⟩ := List.getLast?_eq_some_iff.mp hlast
    obtain ⟨c, more, hchars, hc⟩ := hnumber.exists_cons
    have htail : ∀ previous, PrecedesNumber previous → Cuts d previous (c :: (more ++ rest))
        [.number (String.ofList front) false] (some (.number (String.ofList front) false))
        ('_' :: rest) := by
      intro previous hprevious
      have hcuts := hnumber.cuts_underscore hfront hprevious hgap
      rwa [hchars] at hcuts
    have hcuts := cuts_minuses hminuses hc htail precedesNumber_none
    rw [← List.cons_append, ← hchars] at hcuts
    obtain ⟨-, behind, -, -, htokens⟩ := lexFrom_of_cuts hcuts hfuel h
    refine .inr ⟨String.ofList front, _, ?_, htokens⟩
    rintro rfl
    simp at hfront
  · obtain ⟨htwo, hd⟩ : 2 ≤ minuses ∧ d.dashCommentNeedsSpace = false := by
      simp only [KeepsMinuses, not_or, Bool.not_eq_true] at hminuses
      exact ⟨by omega, hminuses.2⟩
    obtain ⟨minuses, rfl⟩ := Nat.exists_eq_add_of_le' htwo
    rw [List.replicate_succ, List.replicate_succ, List.cons_append, List.cons_append] at h
    refine .inl (lexFrom_comment hd ?_ h)
    intro c hc
    rcases List.mem_append.mp hc with hc | hc
    · obtain rfl := List.eq_of_mem_replicate hc
      decide
    · exact hline c hc

end Sql

/-! Queries -/

/-- The number that a constant says. -/
def Literal.number? : Literal → Option Rat
  | .number text => Text.number? text.toList
  | _ => none

namespace Select

variable {q read : Select} {p : Predicate} {t : Test} {e : Expr} {items : List ColumnRef}
  {source : Source} {groupBy : List ColumnRef} {orderBy : List OrderItem} {parts : Nat}

theorem mem_sql_of_mem_filter {c : Char} (h : c ∈ p.sql.toList ++ lastClauses groupBy orderBy) :
    c ∈ (Select.mk items source (some p) groupBy orderBy).sql.toList := by
  rw [lastClauses] at h
  rw [sql_eq, Option.map_some, clausePart]
  simp only [String.toList_append, List.mem_append] at h ⊢
  tauto

/-- Where clauses begin, a gap does. -/
theorem atGap_lastClauses (groupBy : List ColumnRef) (orderBy : List OrderItem) :
    AtGap (lastClauses groupBy orderBy) := by
  unfold lastClauses
  cases listClause (groupBy.map ColumnRef.sql) with
  | some keys => simpa [clausePart] using atGap_cons (by decide) _
  | none =>
      cases listClause (orderBy.map OrderItem.sql) with
      | some keys => simpa [clausePart] using atGap_cons (by decide) _
      | none => exact atGap_nil

/-- A query that is read with its tests, one of which has a number, was printed with a number that
is kept. -/
theorem ReadsBack.isKeptNumber_of_parse
    (hq : ReadsBack d queryDepth (Select.mk items source none groupBy orderBy))
    (hcolumn : IsPlainColumn d (parts + 2) t.column) (hmem : t ∈ p.tests)
    (haround : p.IsReadableAround d t (max minuses parts + 2) queryDepth)
    (hnumber : IsNumberToken d number) (hvalue : t.value = .number (signedText minuses number))
    (hline : ∀ c ∈ (Select.mk items source (some p) groupBy orderBy).sql.toList,
      c ≠ '\n' ∧ c ≠ '\r')
    (hparse : d.parse (Select.mk items source (some p) groupBy orderBy).sql = .ok (some read))
    (htests : read.tests = p.tests) : IsKeptNumber d minuses number := by
  have hliteral : (minusExpr number minuses).literal = .ok t.value := by
    rw [hvalue, (isSigned_minusExpr number minuses).literal_eq]
  obtain ⟨front, ts, before, back, hlead, hprefix, hsql, hgap⟩ :=
    Predicate.IsReadableAround.exists_lead (m := queryDepth - 1) haround (by omega) hcolumn hliteral
      hmem
  obtain ⟨fuel, behind, hfuel, hbehind, hread⟩ :=
    exists_value_of_parse hq.items hq.source hlead hsql hparse
  have hchars : (t.value.sql ++ back).toList ++ lastClauses groupBy orderBy =
      (signedText minuses number).toList ++ (back.toList ++ lastClauses groupBy orderBy) := by
    rw [hvalue, String.toList_append, List.append_assoc]
    rfl
  rw [hchars] at hfuel hbehind
  have hrest : ∀ c ∈ number.toList ++ (back.toList ++ lastClauses groupBy orderBy),
      c ≠ '\n' ∧ c ≠ '\r' := by
    intro c hc
    apply hline c
    apply mem_sql_of_mem_filter
    rw [hsql, String.toList_append, List.append_assoc, hchars, toList_signedText, List.append_assoc]
    exact List.mem_append_right _ (List.mem_append_right _ hc)
  by_cases hkept : IsKeptNumber d minuses number
  · exact hkept
  · exfalso
    rcases tokens_of_lost hnumber hkept (hgap.append (atGap_lastClauses groupBy orderBy)) hrest hfuel
      hbehind with htokens | ⟨other, us, hother, htokens⟩
    · rw [htokens] at hread
      obtain ⟨k, right, rest, value, hright, -⟩ := hread .nil
      exact operand_nil_ne_ok hright
    · rw [htokens] at hread
      obtain ⟨first, more, hfirst, hstarts⟩ := exists_signedTokens (d := d) minuses other
      have hbegins : BeginsOperand d (signedTokens minuses other ++ us) := by
        rw [hfirst]
        exact .cons hstarts _
      obtain ⟨k, right, rest, value, hright, hliteral, hwith⟩ := hread hbegins
      obtain rfl := literal_of_operand_signed hright hliteral
      rw [htests] at hwith
      -- Both tests stand at the same place, so the number that was read is the one that was printed.
      have hsame := (List.prefix_of_prefix_length_le hwith hprefix (by simp)).eq_of_length (by simp)
      have hlast := congrArg Test.value (List.singleton_inj.mp (List.append_cancel_left hsame))
      rw [t.value_withValue, hvalue] at hlast
      have htext := congrArg String.toList (Literal.number.inj hlast)
      rw [toList_signedText, toList_signedText] at htext
      exact hother (String.toList_inj.mp (List.append_cancel_left htext))

/-- A test against a number that is negated twice. -/
def negatedTwice : Select :=
  { items := [.identifier "a"]
    source := .bare "t"
    filter := some (.test (.compare "a" .eq (.number "--5")))
    groupBy := []
    orderBy := [] }

end Select

end SelectTree
