import SelectTree.Error

namespace SelectTree

/-! What a passed check says about the parts of a tree. -/

theorem bind_eq_ok_iff {x : Except ε α} {f : α → Except ε β} {b : β} :
    (x >>= f) = .ok b ↔ ∃ a, x = .ok a ∧ f a = .ok b := by
  cases x with
  | error e => exact ⟨nofun, nofun⟩
  | ok a => exact ⟨fun h => ⟨a, rfl, h⟩, fun ⟨_, ha, h⟩ => by cases ha; exact h⟩

theorem mapError_ok (f : ε → δ) (a : α) : (Except.ok a : Except ε α).mapError f = .ok a := rfl

theorem mapError_error (f : ε → δ) (e : ε) :
    (Except.error e : Except ε α).mapError f = .error (f e) := rfl

theorem mapError_eq_ok_iff {x : Except ε α} {f : ε → δ} {a : α} :
    x.mapError f = .ok a ↔ x = .ok a := by
  cases x with
  | error e => exact ⟨fun h => (by cases h), fun h => (by cases h)⟩
  | ok b => simp [mapError_ok]

theorem map_eq_ok_iff {x : Except ε α} {f : α → β} {b : β} :
    x.map f = .ok b ↔ ∃ a, x = .ok a ∧ f a = b := by
  cases x with
  | error e => exact ⟨fun h => (by cases h), fun ⟨_, h, _⟩ => (by cases h)⟩
  | ok a => simp [Except.map]

theorem Check.both_iff {first second : Check} :
    (do first; second) = .ok () ↔ first = .ok () ∧ second = .ok () := by
  rw [bind_eq_ok_iff]
  constructor
  · rintro ⟨⟨⟩, hfirst, hsecond⟩
    exact ⟨hfirst, hsecond⟩
  · rintro ⟨hfirst, hsecond⟩
    exact ⟨(), hfirst, hsecond⟩

theorem ColumnRef.checkList_iff {cs : List ColumnRef} :
    checkList cs = .ok () ↔ ∀ c ∈ cs, c.check = .ok () := by
  induction cs with
  | nil => simp [checkList]
  | cons c cs ih => rw [checkList, Check.both_iff, ih, List.forall_mem_cons]

theorem Predicate.check_iff {p : Predicate} :
    p.check = .ok () ↔ ∀ t ∈ p.tests, t.check = .ok () := by
  induction p with
  | test t => simp [check]
  | and left right ihLeft ihRight =>
      rw [check, Check.both_iff, ihLeft, ihRight, tests_and, List.forall_mem_append]
  | or left right ihLeft ihRight =>
      rw [check, Check.both_iff, ihLeft, ihRight, tests_or, List.forall_mem_append]

namespace Source

theorem check_table_iff {name : String} {asName : Option String} :
    (table name asName).check = .ok () ↔ name ≠ "" := by
  rw [check, requires_eq_ok_iff]
  simp

theorem check_join_iff {kind : JoinKind} {left right : Source} {constraint : JoinConstraint} :
    (join kind left right constraint).check = .ok () ↔
      left.check = .ok () ∧ right.check = .ok () := by
  rw [check, Check.both_iff]

theorem check_naturalJoin_iff {left right : Source} :
    (naturalJoin left right).check = .ok () ↔ left.check = .ok () ∧ right.check = .ok () := by
  rw [check, Check.both_iff]

theorem checkList_iff {items : List Source} :
    checkList items = .ok () ↔ ∀ item ∈ items, item.check = .ok () := by
  induction items with
  | nil => simp [checkList]
  | cons item rest ih => rw [checkList, Check.both_iff, ih, List.forall_mem_cons]

theorem check_list_iff {items : List Source} :
    (list items).check = .ok () ↔ items ≠ [] ∧ ∀ item ∈ items, item.check = .ok () := by
  rw [check, Check.both_iff, requires_eq_ok_iff, checkList_iff]
  simp

end Source

namespace Select

theorem check_iff {q : Select} :
    q.check = .ok () ↔
      q.items ≠ [] ∧ (∀ item ∈ q.items, item.check = .ok ()) ∧ q.source.check = .ok () ∧
        (∀ p, q.filter = some p → p.check = .ok ()) ∧
        (∀ key ∈ q.groupBy, key.check = .ok ()) ∧
        ∀ item ∈ q.orderBy, item.column.check = .ok () := by
  obtain ⟨items, source, filter, groupBy, orderBy⟩ := q
  rw [check]
  cases filter with
  | none => simp [Check.both_iff, requires_eq_ok_iff, ColumnRef.checkList_iff]
  | some p => simp [Check.both_iff, requires_eq_ok_iff, ColumnRef.checkList_iff]

theorem validate_iff {q : Select} : q.validate = .ok () ↔ q.check = .ok () :=
  mapError_eq_ok_iff

theorem validate_source {q : Select} (h : q.validate = .ok ()) : q.source.check = .ok () :=
  (check_iff.mp (validate_iff.mp h)).2.2.1

end Select

end SelectTree
