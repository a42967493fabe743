import SelectTree.Proofs.Filters

namespace SelectTree

/-! Which rows a query lets through once one more test is required of them. -/

/-- Whether the `WHERE` tree of a query, if it has one, is true on a row. -/
def Select.admits (q : Select) (row : Test → Bool) : Bool :=
  (q.filter.map (·.holds row)).getD true

/-- Holds of the rows that pass by the left side of an `OR` with a lone test on its right. A test
that is required next joins the lone one, and says nothing about these rows. -/
def Select.Exempts (q : Select) (row : Test → Bool) : Prop :=
  ∃ left last, q.filter = some (.or left (.test last)) ∧ left.holds row = true

namespace Predicate

variable {row : Test → Bool} {p : Predicate} {t : Test}

theorem holds_attach_or (left : Predicate) (last : Test) :
    ((or left (test last)).attach t).holds row =
      ((or left (test last)).holds row && row t || left.holds row) := by
  simp only [attach, holds_or, holds_and, holds_test]
  cases left.holds row with
  | true => simp
  | false => simp

/-- Attached anywhere else, a test restricts the whole tree. -/
theorem holds_attach (h : ∀ left last, p ≠ .or left (.test last)) :
    (p.attach t).holds row = (p.holds row && row t) := by
  unfold attach
  split
  · simp [Bool.and_assoc]
  · exact absurd rfl (h _ _)
  · rfl

end Predicate

section Required

variable {q edited : Select} {t : Test} {row : Test → Bool}

theorem Select.admits_none (h : q.filter = none) : q.admits row = true := by
  simp [admits, h]

theorem Select.admits_some {p : Predicate} (h : q.filter = some p) :
    q.admits row = p.holds row := by
  simp [admits, h]

theorem Select.admits_requiring_iff :
    (Predicate.requiring q.filter t).holds row = true ↔
      q.admits row = true ∧ row t = true ∨ q.Exempts row := by
  cases hfilter : q.filter with
  | none =>
      simp [Predicate.requiring, Exempts, admits_none hfilter, hfilter]
  | some p =>
      rw [Predicate.requiring, admits_some hfilter, Exempts, hfilter]
      by_cases hshape : ∃ left last, p = .or left (.test last)
      · obtain ⟨left, last, rfl⟩ := hshape
        rw [Predicate.holds_attach_or, Bool.or_eq_true, Bool.and_eq_true]
        simp
      · have hother : ∀ left last, p ≠ .or left (.test last) :=
          fun left last heq => hshape ⟨left, last, heq⟩
        rw [Predicate.holds_attach hother, Bool.and_eq_true]
        simp [hother]

/-- What is exempt from a new test passed all along, so that no test lets more rows through. -/
theorem Select.admits_of_exempts (h : q.Exempts row) : q.admits row = true := by
  obtain ⟨left, last, hfilter, hleft⟩ := h
  rw [admits_some hfilter, Predicate.holds_or, hleft, Bool.true_or]

theorem Select.admits_of_requiring
    (h : (Predicate.requiring q.filter t).holds row = true) : q.admits row = true := by
  rcases admits_requiring_iff.mp h with ⟨hadmits, -⟩ | hexempt
  · exact hadmits
  · exact admits_of_exempts hexempt

end Required

namespace Edit

variable {schema : Schema} {options : Options} {q : Select}

/-- A row passes a query with one more test if it passed before and passes the test, or if it is
exempt. A filter that is set is such a test for what is left of the tree without the filters that
it replaces. -/
theorem appended_tests_restrict (valid : q.validate = .ok ()) :
    (∀ t, ∃ edited, q.appendTest t = .ok edited ∧ ∀ row,
      (edited.admits row = true ↔ q.admits row = true ∧ row t = true ∨ q.Exempts row)) ∧
    ∀ column operator value edited,
      setFilter schema options q column operator value = .ok edited →
      Text.isBlankText value = false →
      ∃ op literal, FilterOperator.ofText operator = .ok op ∧
        filterLiteral schema options q column op (Text.trim value) = .ok literal ∧
        ∀ row, (edited.admits row = true ↔
          (cleared q column op).admits row = true ∧ row (op.test column literal) = true ∨
            (cleared q column op).Exempts row) := by
  constructor
  · intro t
    exact ⟨_, appendTest_eq valid t, fun row => Select.admits_requiring_iff⟩
  · intro column operator value edited h hvalue
    obtain ⟨-, op, hop, ⟨hblank, -⟩ | ⟨-, literal, hliteral, rfl⟩⟩ := setFilter_eq_ok h
    · rw [hvalue] at hblank
      cases hblank
    · exact ⟨op, literal, hop, hliteral, fun row => Select.admits_requiring_iff⟩

/-- The first two carriers. -/
def firstCarriers : Select :=
  { items := [.identifier "*"]
    source := .bare "carriers"
    filter := some (.or (.test (.compare "carrier_id" .eq (.number "1")))
      (.test (.compare "carrier_id" .eq (.number "2"))))
    groupBy := []
    orderBy := [] }

theorem appended_tests_restrict_first_carriers :
    ∃ edited, firstCarriers.appendTest (.like "name" (.string "A%")) = .ok edited ∧
      ∀ row, (edited.admits row = true ↔
        firstCarriers.admits row = true ∧ row (.like "name" (.string "A%")) = true ∨
          firstCarriers.Exempts row) :=
  (@appended_tests_restrict .flights .default firstCarriers rfl).1 _

/-- The first carrier passes a filter on the name, whatever its name is. -/
theorem setFilter_exempts_first_carrier :
    ∃ edited, setFilter .flights .default firstCarriers "name" "LIKE" "A" = .ok edited ∧
      firstCarriers.appendTest (.like "name" (.string "A%")) = .ok edited ∧
      ∃ row : Test → Bool, edited.admits row = true ∧
        ¬ (firstCarriers.admits row = true ∧ row (.like "name" (.string "A%")) = true) :=
  ⟨_, rfl, rfl, fun t => t = .compare "carrier_id" .eq (.number "1"), by decide, by decide⟩

end Edit

end SelectTree
