import SelectTree.Proofs.PhraseReading
import SelectTree.Proofs.Reassociation
import SelectTree.Sql.Tree

namespace SelectTree

open Sql Sql.Grammar

/-! Tests and predicates in plain words, as phrases. -/

/-- A qualified name that is read as a column, of at most as many parts as `depth` says. -/
def IsPlainColumn (d : Dialect) (depth : Nat) (text : String) : Prop :=
  ∃ names : List Name, names ≠ [] ∧ (∀ name ∈ names, isOperandName d name = true) ∧
    names.length ≤ depth ∧ text = Name.pathSql names

theorem IsPlainColumn.mono {d : Dialect} {depth depth' : Nat} {text : String}
    (h : IsPlainColumn d depth text) (hdepth : depth ≤ depth') : IsPlainColumn d depth' text := by
  obtain ⟨names, hne, hnames, hlength, htext⟩ := h
  exact ⟨names, hne, hnames, Nat.le_trans hlength hdepth, htext⟩

/-- A constant that is read as it is written. -/
def Literal.IsPlain (d : Dialect) : Literal → Prop
  | .number text => isNumberText text = true ∨
      ∃ digits, text = "-" ++ digits ∧ isNumberText digits = true
  | .string text => isPlainText d text = true
  | .boolean _ => True
  | .null => True

def Test.value : Test → Literal
  | .compare _ _ value => value
  | .like _ pattern => pattern

def Test.link : Test → Link
  | .compare _ op _ => .compare op
  | .like _ _ => .like

def Test.withValue (value : Literal) : Test → Test
  | .compare column op _ => .compare column op value
  | .like column _ => .like column value

def Test.IsPlain (d : Dialect) (depth : Nat) (t : Test) : Prop :=
  2 < depth ∧ IsPlainColumn d depth t.column ∧ t.value.IsPlain d

/-- How many parentheses a side of a conjunction stands in. -/
def Predicate.parentheses (p : Predicate) : Nat :=
  if p.isOr then 1 else 0

@[simp] theorem Predicate.parentheses_test (t : Test) : (test t).parentheses = 0 := rfl

@[simp] theorem Predicate.parentheses_and (left right : Predicate) :
    (and left right).parentheses = 0 := rfl

@[simp] theorem Predicate.parentheses_or (left right : Predicate) :
    (or left right).parentheses = 1 := rfl

theorem Predicate.parentheses_le_one (p : Predicate) : p.parentheses ≤ 1 := by
  cases p <;> simp

def Predicate.IsPlain (d : Dialect) : (depth : Nat) → Predicate → Prop
  | depth, .test t => t.IsPlain d depth
  | depth, .and left right =>
      left.IsPlain d (depth - left.parentheses) ∧ right.IsPlain d (depth - 1 - right.parentheses)
  | depth, .or left right => left.IsPlain d depth ∧ right.IsPlain d (depth - 1)

variable {d : Dialect} {depth : Nat}

theorem IsPlainColumn.phrase (strength : Nat) {text : String} (h : IsPlainColumn d depth text) :
    ∃ ts names, text = Name.pathSql names ∧ Phrase d depth strength text ts (.column names) := by
  obtain ⟨names, hne, hnames, hlength, rfl⟩ := h
  cases depth with
  | zero => exact absurd (List.length_eq_zero_iff.mp (by omega)) hne
  | succ m => exact ⟨_, names, rfl, .column hne hnames hlength⟩

theorem Literal.IsPlain.phrase (strength : Nat) {literal : Literal} (h : literal.IsPlain d)
    (hdepth : 1 < depth) :
    ∃ ts e, Phrase d depth strength literal.sql ts e ∧ e.literal = .ok literal := by
  obtain ⟨m, rfl⟩ := Nat.exists_eq_add_of_le' hdepth
  cases literal with
  | number text =>
      rcases h with h | ⟨digits, rfl, h⟩
      · exact ⟨_, _, .number (m := m + 1) h, rfl⟩
      · exact ⟨_, _, .negative h, rfl⟩
  | string text => exact ⟨_, _, .string (m := m + 1) h, rfl⟩
  | boolean value =>
      cases value with
      | true =>
          have hmem : ("TRUE", Value.boolean true) ∈ wordConstants := by simp [wordConstants]
          exact ⟨_, _, .constant (m := m + 1) hmem, rfl⟩
      | false =>
          have hmem : ("FALSE", Value.boolean false) ∈ wordConstants := by simp [wordConstants]
          exact ⟨_, _, .constant (m := m + 1) hmem, rfl⟩
  | null =>
      have hmem : ("NULL", Value.null) ∈ wordConstants := by simp [wordConstants]
      exact ⟨_, _, .constant (m := m + 1) hmem, rfl⟩

theorem Test.sql_eq (t : Test) :
    t.sql = t.column ++ " " ++ (t.link.sql ++ " " ++ t.value.sql) := by
  cases t with
  | compare column op value => simp [sql, Test.column, link, Test.value, Link.sql, String.append_assoc]
  | like column pattern =>
      have hlike : " LIKE " = " " ++ "LIKE" ++ " " := rfl
      rw [sql, hlike]
      simp only [Test.column, link, Test.value, Link.sql, String.append_assoc]

/-- A test binds more tightly than a conjunction. -/
theorem Test.strength_link (t : Test) : Binding.and.strength d < t.link.binding.strength d := by
  have hall : ∀ b ∈ [Binding.equality, .like], Binding.and.strength d < b.strength d := by
    cases d <;> decide
  cases t with
  | compare column op value => exact hall .equality (by simp)
  | like column pattern => exact hall .like (by simp)

/-- A column and a constant, with the operator of a test between them. -/
theorem Test.predicate_join {t : Test} {names : List Name} {e : Expr} {value : Literal}
    (hcolumn : t.column = Name.pathSql names) (hvalue : e.literal = .ok value) :
    (t.link.join (.column names) e).predicate = .ok (.test (t.withValue value)) := by
  cases t with
  | compare column op _ =>
      simp only [Test.column] at hcolumn
      simp only [link, Link.join, Expr.predicate, Expr.columnText, hvalue, hcolumn]
      rfl
  | like column _ =>
      simp only [Test.column] at hcolumn
      simp only [link, Link.join, Expr.predicate, Expr.columnText, hvalue, hcolumn]
      rfl

theorem Test.value_withValue (t : Test) (value : Literal) : (t.withValue value).value = value := by
  cases t <;> rfl

theorem Test.withValue_value (t : Test) : t.withValue t.value = t := by
  cases t <;> rfl

theorem Test.IsPlain.phrase {t : Test} (h : t.IsPlain d depth) :
    ∃ ts e, Phrase d depth (Binding.and.strength d) t.sql ts e ∧ e.predicate = .ok (.test t) := by
  obtain ⟨hdepth, hcolumn, hvalue⟩ := h
  obtain ⟨m, rfl⟩ : ∃ m, depth = m + 3 := ⟨depth - 3, by omega⟩
  obtain ⟨ts, names, htext, hleft⟩ := hcolumn.phrase (t.link.binding.strength d - 1)
  obtain ⟨us, value, hright, hliteral⟩ := hvalue.phrase (t.link.binding.strength d)
    (Nat.lt_add_left m Nat.one_lt_two)
  have hphrase := Phrase.link t.strength_link hleft hright
  rw [← t.sql_eq] at hphrase
  refine ⟨_, _, hphrase, ?_⟩
  rw [Test.predicate_join htext hliteral, t.withValue_value]

end SelectTree
