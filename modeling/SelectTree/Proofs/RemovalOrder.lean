import SelectTree.Proofs.RemovedColumns

namespace SelectTree

namespace Predicate

/-! Trees that are pruned more than once -/

variable {keep : Test → Bool}

theorem bind_prune_rejoin {join : Predicate → Predicate → Predicate}
    (hjoin : ∀ left right, (join left right).prune keep =
      rejoin join (left.prune keep) (right.prune keep))
    (left right : Option Predicate) :
    (rejoin join left right).bind (·.prune keep) =
      rejoin join (left.bind (·.prune keep)) (right.bind (·.prune keep)) := by
  cases left with
  | none =>
      cases right with
      | none => rfl
      | some right => cases h : right.prune keep <;> simp [rejoin, h]
  | some left =>
      cases right with
      | none => cases h : left.prune keep <;> simp [rejoin, h]
      | some right => exact hjoin left right

theorem bind_prune_prune (first second : Test → Bool) (p : Predicate) :
    (p.prune first).bind (·.prune second) = p.prune fun t => first t && second t := by
  induction p with
  | test t =>
      cases hfirst : first t with
      | false => simp [prune, hfirst]
      | true => simp [prune, hfirst]
  | and left right ihLeft ihRight =>
      rw [prune, bind_prune_rejoin fun _ _ => rfl, ihLeft, ihRight, prune]
  | or left right ihLeft ihRight =>
      rw [prune, bind_prune_rejoin fun _ _ => rfl, ihLeft, ihRight, prune]

end Predicate

namespace Edit

/-! Several columns that are removed one after the other. Their order may show in the tables that
are left and in how the items are written, and nowhere else. -/

variable {schema : Schema} {options : Options} {q next edited : Select} {text : String}
  {texts : List String}

/-- Drops the tests and keys of all columns of a kind. -/
def withoutColumns (gone : String → Bool) (q : Select) : Select :=
  { q.pruneTests fun t => !gone (projectedName t.column) with
    groupBy := q.groupBy.filter fun key => !key.resolvedName.any gone
    orderBy := q.orderBy.filter fun item => !item.column.resolvedName.any gone }

theorem withoutColumn_eq (q : Select) (column : String) :
    withoutColumn q column = withoutColumns (fun name => name = column) q := by
  have hkey : ∀ key : ColumnRef,
      isKeyOf column key = key.resolvedName.any fun name => name = column := by
    intro key
    unfold isKeyOf
    cases key.resolvedName <;> simp
  simp only [withoutColumn, withoutColumns, hkey, decide_not]

theorem withoutColumns_eq_self (q : Select) : withoutColumns (fun _ => false) q = q := by
  obtain ⟨items, source, filter, groupBy, orderBy⟩ := q
  have hfilter : filter.bind (·.prune fun _ => true) = filter := by
    cases filter with
    | none => rfl
    | some p => exact Predicate.prune_eq_self fun _ _ => rfl
  simp [withoutColumns, Select.pruneTests, hfilter]

theorem withoutColumns_withoutColumns (first second : String → Bool)
    (items : List ColumnRef) (source : Source) :
    withoutColumns second { withoutColumns first q with items, source } =
      { withoutColumns (fun name => first name || second name) q with items, source } := by
  have hfilter : (q.filter.bind (·.prune fun t => !first (projectedName t.column))).bind
      (·.prune fun t => !second (projectedName t.column)) =
        q.filter.bind (·.prune fun t =>
          !(first (projectedName t.column) || second (projectedName t.column))) := by
    cases q.filter with
    | none => rfl
    | some p => simp [Predicate.bind_prune_prune]
  have hkey : ∀ name : Option String, (!name.any second && !name.any first) =
      !name.any fun name => first name || second name := by
    intro name
    cases name <;> simp [Bool.and_comm]
  simp [withoutColumns, Select.pruneTests, hfilter, List.filter_filter, hkey]

/-! One removal -/

/-- Tests and keys go with a name that is projected; else the query stays as it is. -/
theorem removeColumn_clears (plain : schema.HasPlainColumns)
    (h : removeColumn schema options q text = .ok (some next)) :
    (∀ x, x ∈ resolve schema next ↔ x ∈ resolve schema q ∧ x ≠ projectedName text) ∧
      next = { withoutColumns (fun name => name = projectedName text ∧ name ∈ resolve schema q) q
        with items := next.items, source := next.source } := by
  have valid := removeColumn_valid h
  by_cases hmem : projectedName text ∈ resolve schema q
  · have hunproject := removeColumn_eq_some valid hmem h
    have heq := eq_of_unprojectColumn hunproject
    have hgone : (fun name => decide (name = projectedName text ∧ name ∈ resolve schema q)) =
        fun name => decide (name = projectedName text) := by
      funext name
      rw [decide_eq_decide]
      exact ⟨And.left, fun hname => ⟨hname, hname ▸ hmem⟩⟩
    rw [withoutColumn_eq, projectedName_projectedName] at heq
    refine ⟨fun x => ?_, ?_⟩
    · rw [mem_resolve_unprojectColumn plain hunproject, projectedName_projectedName]
    · rwa [hgone]
  · rw [removeColumn_of_not_mem valid hmem] at h
    obtain rfl : q = next := Option.some.inj (Except.ok.inj h)
    have hgone : (fun name => decide (name = projectedName text ∧ name ∈ resolve schema q)) =
        fun _ => false := by
      funext name
      rw [decide_eq_false_iff_not]
      rintro ⟨rfl, hname⟩
      exact hmem hname
    refine ⟨fun x => ?_, ?_⟩
    · refine ⟨fun hx => ⟨hx, ?_⟩, And.left⟩
      rintro rfl
      exact hmem hx
    · rw [hgone, withoutColumns_eq_self]
      cases q
      rfl

/-! Runs of removals -/

/-- The columns can be removed one after the other, and a query is left. -/
inductive Removes (schema : Schema) (options : Options) : Select → List String → Select → Prop
  | none (q : Select) : Removes schema options q [] q
  | first {q next edited : Select} {text : String} {texts : List String}
      (head : removeColumn schema options q text = .ok (some next))
      (rest : Removes schema options next texts edited) :
      Removes schema options q (text :: texts) edited

/-- The tests and keys that go are those of the names that were projected at first. -/
theorem Removes.clears (plain : schema.HasPlainColumns)
    (h : Removes schema options q texts edited) :
    (∀ x, x ∈ resolve schema edited ↔
        x ∈ resolve schema q ∧ x ∉ texts.map projectedName) ∧
      edited = { withoutColumns
          (fun name => name ∈ texts.map projectedName ∧ name ∈ resolve schema q) q
        with items := edited.items, source := edited.source } := by
  induction h with
  | none q =>
      cases q
      simp [withoutColumns_eq_self]
  | @first q next edited text texts head rest ih =>
      obtain ⟨hresolve, heq⟩ := removeColumn_clears plain head
      obtain ⟨ihResolve, ihEq⟩ := ih
      refine ⟨fun x => ?_, ?_⟩
      · rw [ihResolve, hresolve, List.map_cons, List.mem_cons, not_or, and_assoc]
      · rw [ihEq, heq, withoutColumns_withoutColumns]
        -- A name is dropped by the first removal, or by a later one as far as it is projected yet.
        have hgone : ∀ name,
            (name = projectedName text ∧ name ∈ resolve schema q ∨
              name ∈ texts.map projectedName ∧ name ∈ resolve schema next) ↔
            name ∈ (text :: texts).map projectedName ∧ name ∈ resolve schema q := by
          intro name
          rw [hresolve, List.map_cons, List.mem_cons]
          by_cases hname : name = projectedName text
          · simp [hname]
          · simp [hname]
        simp only [← Bool.decide_or, hgone, ← heq]

/-- Which columns are removed decides what is left, not their order. -/
theorem Removes.agree (plain : schema.HasPlainColumns) {others : List String} {other : Select}
    (h : Removes schema options q texts edited) (h' : Removes schema options q others other)
    (same : ∀ name, name ∈ texts.map projectedName ↔ name ∈ others.map projectedName) :
    (∀ x, x ∈ resolve schema edited ↔ x ∈ resolve schema other) ∧
      edited = { other with items := edited.items, source := edited.source } := by
  obtain ⟨hresolve, heq⟩ := h.clears plain
  obtain ⟨hresolve', heq'⟩ := h'.clears plain
  refine ⟨fun x => ?_, ?_⟩
  · rw [hresolve, hresolve', same]
  · rw [heq, heq']
    simp only [same]

/-- Two columns may be removed in any order: the projection stands for the same columns, and the
tests and keys that are left are the same. -/
theorem removeColumn_comm (plain : schema.HasPlainColumns) {a b : String}
    {qa qb qab qba : Select}
    (ha : removeColumn schema options q a = .ok (some qa))
    (hab : removeColumn schema options qa b = .ok (some qab))
    (hb : removeColumn schema options q b = .ok (some qb))
    (hba : removeColumn schema options qb a = .ok (some qba)) :
    (∀ x, x ∈ resolve schema qab ↔ x ∈ resolve schema qba) ∧
      qab.filter = qba.filter ∧ qab.groupBy = qba.groupBy ∧ qab.orderBy = qba.orderBy := by
  have forth : Removes schema options q [a, b] qab := .first ha (.first hab (.none qab))
  have back : Removes schema options q [b, a] qba := .first hb (.first hba (.none qba))
  obtain ⟨hresolve, heq⟩ := forth.agree plain back (by simp [or_comm])
  refine ⟨hresolve, ?_⟩
  rw [heq]
  exact ⟨rfl, rfl, rfl⟩

theorem removeColumn_comm_id_name :
    ∃ qa qb qab qba,
      removeColumn .flights .default carrierFlights "id" = .ok (some qa) ∧
      removeColumn .flights .default qa "name" = .ok (some qab) ∧
      removeColumn .flights .default carrierFlights "name" = .ok (some qb) ∧
      removeColumn .flights .default qb "id" = .ok (some qba) ∧
      (∀ x, x ∈ resolve .flights qab ↔ x ∈ resolve .flights qba) ∧
      qab.filter = qba.filter ∧ qab.orderBy = qba.orderBy :=
  have h := @removeColumn_comm .flights .default carrierFlights (by decide) "id" "name" _ _ _ _
    rfl rfl rfl rfl
  ⟨_, _, _, _, rfl, rfl, rfl, rfl, h.1, h.2.1, h.2.2.2⟩

end Edit

end SelectTree
