import SelectTree.Proofs.ColumnReading
import SelectTree.Proofs.Predicates

namespace SelectTree

open Sql Sql.Grammar

/-! Conjunctions of tests whose constants are typed in. Their numbers may have signs and exponents,
so they are no phrases, but they are read in the same way. -/

variable {d : Dialect} {m strength : Nat} {text : String} {ts : List Token} {e : Expr}

namespace Sql.Grammar

/-! Operands -/

/-- A text that is cut into the tokens, and these are read as the expression where more than `m`
layers are left. Its operators bind more tightly than `strength`. -/
structure IsOperand (d : Dialect) (m strength : Nat) (text : String) (ts : List Token) (e : Expr) :
    Prop where
  spells : Spells d text ts
  starts : ∃ t us, ts = t :: us ∧ StartsOperand d t
  unfolds : ∀ k, m ≤ k → Unfolds d k strength ts e

theorem Phrase.isOperand (h : Phrase d (m + 1) strength text ts e) :
    IsOperand d m strength text ts e := by
  refine ⟨h.spells, h.starts, ?_⟩
  intro k hk
  have hphrase : Phrase d (k + 1) strength text ts e :=
    h.mono (Nat.succ_le_succ hk) (Nat.le_refl strength)
  obtain ⟨k', hk', hunfolds⟩ := hphrase.unfolds
  obtain rfl := Nat.succ.inj hk'
  exact hunfolds

namespace IsOperand

theorem mono (h : IsOperand d m strength text ts e) {k weaker : Nat} (hk : m ≤ k)
    (hweaker : weaker ≤ strength) : IsOperand d k weaker text ts e :=
  ⟨h.spells, h.starts, fun j hj => (h.unfolds j (Nat.le_trans hk hj)).mono hweaker⟩

theorem number (h : IsNumeral d text.toList) :
    IsOperand d m strength text [.number text false] (.value (.number text false)) :=
  ⟨spells_numeral h, ⟨_, _, rfl, .number text⟩, fun _ _ => .of_primary (primary_number text)⟩

theorem signed (negative : Bool) (h : IsNumeral d text.toList) :
    IsOperand d (m + 1) strength ((if negative then "-" else "+") ++ text)
      [.symbol (signSymbol negative), .number text false]
      (.signed negative (.value (.number text false))) := by
  refine ⟨spells_signed negative h, ⟨_, _, rfl, .sign negative⟩, ?_⟩
  intro k hk
  obtain ⟨k, rfl⟩ := Nat.exists_eq_add_of_le' hk
  exact .signed negative text

theorem string (h : isKeptText d text = true) :
    IsOperand d m strength (Literal.string text).sql [.string text] (.value (.string text)) :=
  ⟨spells_string h, ⟨_, _, rfl, .string text⟩, fun _ _ => .of_primary (primary_string text)⟩

theorem link {link : Link} {text' : String} {us : List Token} {right : Expr}
    (hstrength : strength < link.binding.strength d)
    (hleft : IsOperand d (m + 1) (link.binding.strength d - 1) text ts e)
    (hright : IsOperand d m (link.binding.strength d) text' us right) :
    IsOperand d (m + 1) strength (text ++ " " ++ (link.sql ++ " " ++ text'))
      (ts ++ link.token :: us) (link.join e right) := by
  refine ⟨hleft.spells.space (link.spells.space hright.spells), ?_, ?_⟩
  · obtain ⟨t, us, rfl, ht⟩ := hleft.starts
    exact ⟨t, _, rfl, ht⟩
  · intro k hk
    obtain ⟨k, rfl⟩ : ∃ j, k = j + 1 := ⟨k - 1, by omega⟩
    have hread := hright.unfolds k (Nat.le_of_succ_le_succ hk)
    exact (hleft.unfolds _ hk).link hstrength (hread.operand_eq (Nat.le_refl _)) hright.starts

theorem isRead (h : IsOperand d m 0 text ts e) :
    IsRead d (m + 1) Nested.expr exprEnds text ts e := by
  refine ⟨h.spells, ?_, ?_⟩
  · obtain ⟨t, us, hts, ht⟩ := h.starts
    exact ⟨t, us, hts, ht.opens⟩
  · intro k hk rest hrest
    obtain ⟨k, rfl⟩ : ∃ j, k = j + 1 := ⟨k - 1, by omega⟩
    exact Phrase.expr_of_unfolds (h.unfolds k (Nat.le_of_succ_le_succ hk)) hrest

end IsOperand

end Sql.Grammar

/-! Constants -/

namespace Literal

/-- What a typed value stands for: a decimal number, a text or a truth value. -/
inductive IsTyped : Literal → Prop
  | number {text : String} {decimal : Text.Decimal}
      (h : Text.Decimal.read? text.toList = some decimal) : IsTyped (.number text)
  | string (text : String) : IsTyped (.string text)
  | boolean (value : Bool) : IsTyped (.boolean value)

/-- The constant that is read from the text of a constant: no plus sign stands before a number. -/
def reread : Literal → Literal
  | .number text =>
      match text.toList with
      | '+' :: unsigned => .number (String.ofList unsigned)
      | _ => .number text
  | literal => literal

theorem reread_numeral (h : IsNumeral d text.toList) : (number text).reread = .number text := by
  obtain ⟨c, more, hchars, hc⟩ := h.exists_cons
  have hplus : c ≠ '+' := by
    rintro rfl
    cases hc
  simp [reread, hchars, hplus]

theorem reread_negative (text : String) : (number ("-" ++ text)).reread = .number ("-" ++ text) := by
  simp [reread]

theorem reread_positive (text : String) : (number ("+" ++ text)).reread = .number text := by
  simp [reread]

theorem IsTyped.exists_operand (hwords : d.hasNumericWords = false)
    (hescapes : d.escapesWithBackslash = false) {literal : Literal} (h : literal.IsTyped)
    (strength : Nat) :
    ∃ ts e, IsOperand d 1 strength literal.sql ts e ∧ e.literal = .ok literal.reread := by
  cases h with
  | number h =>
      obtain ⟨unsigned, hnumeral, rfl | rfl | rfl⟩ := exists_isNumeral hwords h
      · exact ⟨_, _, .number hnumeral, by rw [reread_numeral hnumeral]; rfl⟩
      · exact ⟨_, _, .signed true hnumeral, by rw [reread_negative]; rfl⟩
      · exact ⟨_, _, .signed false hnumeral, by rw [reread_positive]; rfl⟩
  | string text =>
      have hplain : (Literal.string text).IsPlain d := by simp [IsPlain, isPlainText, hescapes]
      obtain ⟨ts, e, hphrase, hliteral⟩ := hplain.phrase strength Nat.one_lt_two
      exact ⟨ts, e, hphrase.isOperand, hliteral⟩
  | boolean value =>
      have hplain : (Literal.boolean value).IsPlain d := trivial
      obtain ⟨ts, e, hphrase, hliteral⟩ := hplain.phrase strength Nat.one_lt_two
      exact ⟨ts, e, hphrase.isOperand, hliteral⟩

end Literal

/-! Tests -/

namespace Test

/-- A test as it is typed in, of a column in plain words. -/
structure IsTyped (d : Dialect) (t : Test) : Prop where
  column : IsPlainColumn d 3 t.column
  value : t.value.IsTyped

def reread (t : Test) : Test :=
  t.withValue t.value.reread

theorem column_reread (t : Test) : t.reread.column = t.column := by
  cases t <;> rfl

theorem IsTyped.exists_operand (hwords : d.hasNumericWords = false)
    (hescapes : d.escapesWithBackslash = false) {t : Test} (h : t.IsTyped d) :
    ∃ ts e, IsOperand d 2 (Binding.and.strength d) t.sql ts e ∧
      e.predicate = .ok (.test t.reread) := by
  obtain ⟨ts, names, hcolumn, hleft⟩ := h.column.phrase (t.link.binding.strength d - 1)
  obtain ⟨us, value, hright, hvalue⟩ :=
    h.value.exists_operand hwords hescapes (t.link.binding.strength d)
  have hoperand := hleft.isOperand.link t.strength_link hright
  rw [← t.sql_eq] at hoperand
  exact ⟨_, _, hoperand, Test.predicate_join hcolumn hvalue⟩

end Test

/-! Chains -/

theorem Text.joined_cons_append (sep first second : String) (rest : List String) :
    joined sep (first :: second :: rest) = joined sep ((first ++ sep ++ second) :: rest) := by
  cases rest with
  | nil => rfl
  | cons third rest => simp [String.append_assoc]

theorem exists_operand_chain (hwords : d.hasNumericWords = false)
    (hescapes : d.escapesWithBackslash = false) {tree : Predicate}
    (hleft : IsOperand d 3 (Binding.and.strength d - 1) text ts e) (htree : e.predicate = .ok tree)
    {tests : List Test} (h : ∀ t ∈ tests, t.IsTyped d) :
    ∃ us chain whole,
      IsOperand d 3 (Binding.and.strength d - 1) (Text.joined " AND " (text :: tests.map Test.sql))
        us chain ∧
      chain.predicate = .ok whole ∧ whole.tests = tree.tests ++ tests.map Test.reread := by
  -- The chain read so far is the left side of the next test.
  induction tests generalizing text ts e tree with
  | nil => exact ⟨ts, e, tree, hleft, htree, by simp⟩
  | cons t rest ih =>
      obtain ⟨ht, hrest⟩ := List.forall_mem_cons.mp h
      obtain ⟨us, right, hright, hrightTree⟩ := ht.exists_operand hwords hescapes
      have hlonger := hleft.link (Nat.sub_one_lt_of_lt (Link.strength_pos .and)) hright
      have hlongerTree : (Link.and.join e right).predicate = .ok (.and tree (.test t.reread)) := by
        simp only [Link.join, Expr.predicate, htree, hrightTree]
        rfl
      have hand : text ++ " " ++ (Link.and.sql ++ " " ++ t.sql) = text ++ " AND " ++ t.sql := by
        have hwhole : " AND " = " " ++ Link.and.sql ++ " " := rfl
        simp only [hwhole, String.append_assoc]
      rw [hand] at hlonger
      obtain ⟨vs, chain, whole, hchain, hwhole, htests⟩ := ih hlonger hlongerTree hrest
      refine ⟨vs, chain, whole, ?_, hwhole, by simp [htests]⟩
      rw [List.map_cons, Text.joined_cons_append]
      exact hchain

namespace Predicate

variable {p : Predicate}

theorem IsConjunction.isOr_eq (h : p.IsConjunction) : p.isOr = false := by
  cases p with
  | or => exact h.elim
  | _ => rfl

theorem IsConjunction.sql_eq (h : p.IsConjunction) :
    p.sql = Text.joined " AND " (p.tests.map Test.sql) := by
  induction p with
  | test t => rfl
  | and left right ihLeft ihRight =>
      obtain ⟨hleft, hright⟩ := h
      rw [sql, hleft.isOr_eq, hright.isOr_eq, tests_and, List.map_append,
        Text.joined_append _ (by simpa using left.tests_ne_nil) (by simpa using right.tests_ne_nil),
        ← ihLeft hleft, ← ihRight hright]
      rfl
  | or => exact h.elim

/-- The text of a conjunction is read as the same tests, from left to right. -/
theorem IsConjunction.exists_isRead (hwords : d.hasNumericWords = false)
    (hescapes : d.escapesWithBackslash = false) (h : p.IsConjunction)
    (htyped : ∀ t ∈ p.tests, t.IsTyped d) {depth : Nat} (hdepth : 3 < depth) :
    ∃ ts e read, IsRead d depth Nested.expr exprEnds p.sql ts e ∧ e.predicate = .ok read ∧
      read.tests = p.tests.map Test.reread := by
  obtain ⟨m, rfl⟩ : ∃ m, depth = m + 1 := ⟨depth - 1, by omega⟩
  obtain ⟨first, rest, htests⟩ := List.exists_cons_of_ne_nil p.tests_ne_nil
  rw [htests] at htyped
  obtain ⟨hfirst, hrest⟩ := List.forall_mem_cons.mp htyped
  obtain ⟨us, left, hleft, hleftTree⟩ := hfirst.exists_operand hwords hescapes
  have hstart := hleft.mono (Nat.le_succ 2) (Nat.sub_le (Binding.and.strength d) 1)
  obtain ⟨ts, e, read, hchain, hread, hreadTests⟩ :=
    exists_operand_chain hwords hescapes hstart hleftTree hrest
  -- Parentheses stand around alternatives only, so the text is the tests in a row.
  rw [← List.map_cons, ← htests, ← h.sql_eq] at hchain
  refine ⟨ts, e, read, (hchain.mono (Nat.le_of_lt_succ hdepth) (Nat.zero_le _)).isRead, hread, ?_⟩
  rw [hreadTests, htests]
  rfl

end Predicate

end SelectTree
