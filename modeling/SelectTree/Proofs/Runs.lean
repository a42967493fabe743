import Mathlib.Data.List.Induction
import SelectTree.Edit.Session
import SelectTree.Proofs.WellFormed

namespace SelectTree.Edit.Session

/-! Runs: what a session holds after gesture upon gesture. -/

variable {s : Session} {g : Gesture} {gestures : List Gesture} {query : Option Select}

/-- The session after some gestures. -/
def run (s : Session) (gestures : List Gesture) : Session :=
  gestures.foldl perform s

@[simp] theorem run_nil : s.run [] = s := rfl

@[simp] theorem run_cons : s.run (g :: gestures) = (s.perform g).run gestures := rfl

theorem run_concat (s : Session) (gestures : List Gesture) (g : Gesture) :
    s.run (gestures ++ [g]) = (s.run gestures).perform g := by
  simp [run]

/-! One gesture -/

@[simp] theorem perform_schema : (s.perform g).schema = s.schema := rfl

@[simp] theorem perform_options : (s.perform g).options = s.options := rfl

theorem query_perform_of_ok (h : s.edited g = .ok query) : (s.perform g).query = query := by
  rw [perform, queryAfter, h]

theorem query_perform_of_error {e : Error} (h : s.edited g = .error e) :
    (s.perform g).query = s.query := by
  rw [perform, queryAfter, h]

theorem current_eq_ok {q : Select} (h : s.current = .ok q) : s.query = some q := by
  unfold current at h
  split at h
  · rename_i hquery
    rw [hquery, Except.ok.inj h]
  · cases h

/-- What a gesture that succeeds makes of the query. -/
inductive Edits (s : Session) : Gesture → Option Select → Prop
  | load {text : String} {query : Option Select}
      (h : s.options.dialect.parse text = .ok query) : Edits s (.load text) query
  | start {qualified table column : String}
      (hname : splitQualified qualified = .ok (table, column)) (hquery : s.query = none)
      (hcolumn : checkColumn s.schema table column = .ok ()) :
      Edits s (.addColumn qualified) (some (startQuery table column))
  | extend {qualified table column : String} {q edited : Select}
      (hname : splitQualified qualified = .ok (table, column)) (hquery : s.query = some q)
      (hcolumn : checkColumn s.schema table column = .ok ())
      (h : extendQuery s.schema s.options q table column = .ok edited) :
      Edits s (.addColumn qualified) (some edited)
  | removeColumn {text : String} {q : Select} {query : Option Select} (hquery : s.query = some q)
      (h : Edit.removeColumn s.schema s.options q text = .ok query) :
      Edits s (.removeColumn text) query
  | setFilter {column operator value : String} {q edited : Select} (hquery : s.query = some q)
      (h : Edit.setFilter s.schema s.options q column operator value = .ok edited) :
      Edits s (.setFilter column operator value) (some edited)
  | orderBy {text : String} {ascending : Option Bool} {q edited : Select}
      (hquery : s.query = some q) (h : Edit.orderBy s.schema q text ascending = .ok edited) :
      Edits s (.orderBy text ascending) (some edited)
  | removeOrder {text : String} {q edited : Select} (hquery : s.query = some q)
      (h : Edit.removeOrder q text = .ok edited) : Edits s (.removeOrder text) (some edited)
  | clearFilters : Edits s .clearFilters (s.query.map Edit.clearFilters)
  | clearOrder : Edits s .clearOrder (s.query.map Edit.clearOrder)
  | clear : Edits s .clear none

theorem edits_of_edited (h : s.edited g = .ok query) : s.Edits g query := by
  cases g with
  | load text => exact .load h
  | addColumn qualified =>
      obtain ⟨⟨table, column⟩, hname, h⟩ := bind_eq_ok_iff.mp h
      obtain ⟨edited, hadd, heq⟩ := bind_eq_ok_iff.mp h
      cases heq
      obtain ⟨⟨⟩, hcolumn, hadd⟩ := bind_eq_ok_iff.mp hadd
      cases hquery : s.query with
      | none =>
          rw [hquery] at hadd
          cases hadd
          exact .start hname hquery hcolumn
      | some q =>
          rw [hquery] at hadd
          exact .extend hname hquery hcolumn hadd
  | removeColumn text =>
      obtain ⟨q, hq, h⟩ := bind_eq_ok_iff.mp h
      exact .removeColumn (current_eq_ok hq) h
  | setFilter column operator value =>
      obtain ⟨q, hq, h⟩ := bind_eq_ok_iff.mp h
      obtain ⟨edited, hedit, heq⟩ := bind_eq_ok_iff.mp h
      cases heq
      exact .setFilter (current_eq_ok hq) hedit
  | orderBy text ascending =>
      obtain ⟨q, hq, h⟩ := bind_eq_ok_iff.mp h
      obtain ⟨edited, hedit, heq⟩ := bind_eq_ok_iff.mp h
      cases heq
      exact .orderBy (current_eq_ok hq) hedit
  | removeOrder text =>
      obtain ⟨q, hq, h⟩ := bind_eq_ok_iff.mp h
      obtain ⟨edited, hedit, heq⟩ := bind_eq_ok_iff.mp h
      cases heq
      exact .removeOrder (current_eq_ok hq) hedit
  | clearFilters =>
      cases h
      exact .clearFilters
  | clearOrder =>
      cases h
      exact .clearOrder
  | clear =>
      cases h
      exact .clear

/-- A gesture keeps what its edit keeps: a gesture that fails leaves the query as it is. -/
theorem perform_keeps {P : Option Select → Prop} (hquery : P s.query)
    (hedits : ∀ query, s.Edits g query → P query) : P (s.perform g).query := by
  cases hedited : s.edited g with
  | ok query =>
      rw [query_perform_of_ok hedited]
      exact hedits query (edits_of_edited hedited)
  | error e =>
      rw [query_perform_of_error hedited]
      exact hquery

theorem errorOf_of_ok (h : s.edited g = .ok query) : s.errorOf g = none := by
  rw [errorOf, h]

theorem errorOf_of_error {e : Error} (h : s.edited g = .error e) : s.errorOf g = some e := by
  rw [errorOf, h]

/-! Many gestures -/

/-- What every gesture of a run keeps, on the way to it, holds all along. -/
theorem run_induction {P : Session → Prop} (hstart : P s)
    (hstep : ∀ before g, before ++ [g] <+: gestures → P (s.run before) → P ((s.run before).perform g))
    {before : List Gesture} (h : before <+: gestures) : P (s.run before) := by
  induction before using List.reverseRecOn with
  | nil => exact hstart
  | append_singleton before g ih =>
      rw [run_concat]
      exact hstep before g h (ih ((List.prefix_append before [g]).trans h))

@[simp] theorem run_schema : (s.run gestures).schema = s.schema :=
  run_induction (P := fun t => t.schema = s.schema) rfl (fun _ _ _ h => h)
    (List.prefix_refl gestures)

@[simp] theorem run_options : (s.run gestures).options = s.options :=
  run_induction (P := fun t => t.options = s.options) rfl (fun _ _ _ h => h)
    (List.prefix_refl gestures)

end SelectTree.Edit.Session
