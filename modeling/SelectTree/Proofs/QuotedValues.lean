import SelectTree.Proofs.EscapedTexts
import SelectTree.Proofs.Filters
import SelectTree.Proofs.LeadingTests
import SelectTree.Proofs.PlainIdentifiers

namespace SelectTree

open Sql Sql.Grammar

/-! Filters whose values stand in quotes, read back from the text of the query that they are set
in. -/

variable {d : Dialect} {depth : Nat}

/-! Edited conditions -/

/-- A test of a column in plain words, whose text is kept. -/
theorem Test.isReadable_of_isKeptText {t : Test} {text : String} (hcolumn : IsPlainColumn d 3 t.column)
    (hvalue : t.value = .string text) (hkept : isKeptText d text = true) : t.IsReadable d 3 := by
  obtain ⟨ts, names, hpath, hleft⟩ := hcolumn.phrase (t.link.binding.strength d - 1)
  have hoperand := hleft.isOperand.link t.strength_link (.string hkept)
  rw [← hvalue, ← t.sql_eq] at hoperand
  refine ⟨2, _, _, Nat.lt_succ_self 2, hoperand, ?_⟩
  rw [Test.predicate_join hpath rfl, ← hvalue, t.withValue_value]

/-- A test of a column in plain words, up to its value. -/
theorem Test.exists_lead {t : Test} {m : Nat} (hcolumn : IsPlainColumn d (m + 1) t.column) :
    ∃ text ts, IsLead d m (Binding.and.strength d) text ts [] t ∧
      t.sql = text ++ " " ++ t.value.sql := by
  obtain ⟨ts, names, hpath, hleft⟩ := hcolumn.phrase (t.link.binding.strength d - 1)
  exact ⟨_, _, isLead_test hleft.isOperand hpath, by simp only [t.sql_eq, String.append_assoc]⟩

namespace Predicate

variable {p : Predicate} {t : Test}

/-- A predicate that is attached to takes one more layer. -/
theorem IsReadable.attach (h : p.IsReadable d depth) (ht : t.IsReadable d 3) (hdepth : 3 < depth) :
    (p.attach t).IsReadable d (depth + 1) := by
  have hadded : (test t).IsReadable d (depth - 1) := ht.mono (by omega)
  have hjoined : ∀ {last : Test}, (test last).IsReadable d (depth - 1) →
      (and (test last) (test t)).IsReadable d depth :=
    fun hlast => ⟨hlast.mono (Nat.sub_le depth 1), hadded⟩
  unfold Predicate.attach
  split
  · exact ⟨h.1.mono (by omega), hjoined h.2⟩
  · exact ⟨h.1.mono (Nat.le_succ depth), hjoined h.2⟩
  · have hle := p.parentheses_le_one
    exact ⟨h.mono (by omega), hadded.mono (Nat.sub_le depth 1)⟩

/-- A side of a conjunction is read in the parentheses that it needs. -/
def IsReadableSide (d : Dialect) (depth : Nat) (p : Predicate) : Prop :=
  p.IsReadable d (depth - p.parentheses)

theorem IsReadableSide.mono (h : p.IsReadableSide d depth) {depth' : Nat} (hdepth : depth ≤ depth') :
    p.IsReadableSide d depth' :=
  IsReadable.mono h (Nat.sub_le_sub_right hdepth _)

theorem IsReadableSide.isReadable (h : p.IsReadableSide d depth) : p.IsReadable d depth :=
  IsReadable.mono h (Nat.sub_le _ _)

theorem IsReadable.side (h : p.IsReadable d (depth - 1)) : p.IsReadableSide d depth :=
  h.mono (Nat.sub_le_sub_left p.parentheses_le_one depth)

/-- What is left of a predicate is read where the predicate was. -/
theorem isReadable_collapse (target : Test → Bool) (p : Predicate) {depth : Nat} :
    (p.IsReadable d depth → (p.collapse target).IsReadable d depth) ∧
      (p.IsReadableSide d depth → (p.collapse target).IsReadableSide d depth) := by
  -- Where a conjunction leaves alternatives, they had parentheses already.
  induction p generalizing depth with
  | test t => exact ⟨id, id⟩
  | and left right ihLeft ihRight =>
      have hside : (and left right).IsReadable d depth →
          ((and left right).collapse target).IsReadableSide d depth := by
        intro h
        have hleft : left.IsReadableSide d depth := h.1
        have hright : right.IsReadableSide d (depth - 1) := h.2
        rw [collapse_and, collapsePair]
        split
        · exact hright.mono (Nat.sub_le depth 1)
        · split
          · exact hleft
          · exact ⟨ihLeft.2 hleft, ihRight.2 hright⟩
      exact ⟨fun h => (hside h).isReadable, hside⟩
  | or left right ihLeft ihRight =>
      have halternatives : ∀ {depth}, (or left right).IsReadable d depth →
          ((or left right).collapse target).IsReadable d depth := by
        intro depth h
        rw [collapse_or, collapsePair]
        split
        · exact h.2.mono (Nat.sub_le depth 1)
        · split
          · exact h.1
          · exact ⟨ihLeft.1 h.1, ihRight.1 h.2⟩
      exact ⟨halternatives, fun h => (halternatives h).side⟩

theorem IsReadable.of_mem_remove (h : p.IsReadable d depth) {target : Test → Bool} {rest : Predicate}
    (hrest : rest ∈ p.remove target) : rest.IsReadable d depth := by
  rw [remove_eq] at hrest
  split at hrest
  · cases hrest
  · cases hrest
    exact (isReadable_collapse target p).1 h

theorem isReadable_requiring {filter : Option Predicate} (h : ∀ p ∈ filter, p.IsReadable d depth)
    (ht : t.IsReadable d 3) (hdepth : 3 < depth) : (requiring filter t).IsReadable d (depth + 1) := by
  cases filter with
  | none => exact ht.mono (by omega)
  | some root => exact (h root rfl).attach ht hdepth

end Predicate

/-! Queries that are read back -/

namespace Select

/-- All clauses of a query are read as they are, wherever a query may stand; the tests of its
condition are, however it joins them. -/
structure ReadsBack (d : Dialect) (depth : Nat) (q : Select) : Prop where
  items : IsItemsRead d depth q.items
  source : ∃ ts js trees, q.source.IsReadList d depth ts js trees q.source
  filter : ∀ p ∈ q.filter, p.IsReadable d depth
  groupBy : IsGroupingRead d depth q.groupBy
  orderBy : IsOrderRead d depth q.orderBy

variable {q : Select}

theorem ReadsBack.withFilter (h : q.ReadsBack d depth) {filter : Option Predicate}
    (hfilter : ∀ p ∈ filter, p.IsReadable d depth) : ReadsBack d depth { q with filter } :=
  { h with filter := hfilter }

theorem ReadsBack.exists_readAs (h : q.ReadsBack d depth) :
    ∃ ts query, q.IsReadAs d depth ts query
      { q with filter := q.filter.map Predicate.reassociated } := by
  obtain ⟨items, source, filter, groupBy, orderBy⟩ := q
  exact Select.exists_readAs h.items h.source (isFilterRead_readable h.filter) h.groupBy h.orderBy

theorem tests_reassociated (q : Select) :
    Predicate.testsOf (q.filter.map Predicate.reassociated) = q.tests := by
  cases hfilter : q.filter with
  | none => simp [tests, hfilter]
  | some p => simp [tests, hfilter, Predicate.tests_reassociated]

/-- The text of such a query is read as the query, with its condition joined from the left. -/
theorem ReadsBack.parse_sql_eq (h : q.ReadsBack d queryDepth) (hvalid : q.validate = .ok ()) :
    d.parse q.sql = .ok (some { q with filter := q.filter.map Predicate.reassociated }) := by
  obtain ⟨ts, query, hread⟩ := h.exists_readAs
  refine hread.parse_sql (Edit.validate_of_tests hvalid ?_)
  rw [tests_reassociated]
  exact Edit.column_ne_of_validate hvalid

/-- The text of such a query is read as the query, with its tests in the same order. -/
theorem ReadsBack.exists_parse (h : q.ReadsBack d queryDepth) (hvalid : q.validate = .ok ()) :
    ∃ filter, d.parse q.sql = .ok (some { q with filter }) ∧
      Predicate.testsOf filter = q.tests :=
  ⟨_, h.parse_sql_eq hvalid, tests_reassociated q⟩

/-- A query in plain words whose source is read as it is. -/
theorem IsPlain.readsBack (h : q.IsPlain d depth) (hsource : q.source.reread = q.source) :
    q.ReadsBack d depth := by
  obtain ⟨items, source, filter, groupBy, orderBy⟩ := q
  obtain ⟨⟨hne, hitems⟩, hplain, hfilter, hgroup, horder⟩ := h
  obtain ⟨ts, js, trees, hread⟩ := (Source.readable source).sources hplain
  refine ⟨exists_items hne hitems, ⟨ts, js, trees, ?_⟩, fun p hp => (hfilter p hp).isReadable,
    isGroupingRead_plain hgroup, isOrderRead_plain horder⟩
  rw [Source.IsRereadList, hsource] at hread
  exact hread

/-- A query that is read with its tests, the last of which has a text, was printed with a text that
is kept. -/
theorem ReadsBack.isKeptText_of_parse {read : Select} (h : q.ReadsBack d queryDepth)
    {filter : Option Predicate} (room : ∀ p ∈ filter, p.IsReadable d (queryDepth - 1)) {t : Test}
    (hcolumn : IsPlainColumn d 3 t.column) {text : String} (hvalue : t.value = .string text)
    (hparse : d.parse (sql { q with filter := some (Predicate.requiring filter t) }) =
      .ok (some read))
    (htests : read.tests = Predicate.testsOf filter ++ [t]) : isKeptText d text = true := by
  obtain ⟨alone, us, halone, hsql⟩ := Test.exists_lead hcolumn
  obtain ⟨front, ts, hlead, hcondition⟩ :=
    Predicate.exists_lead_requiring room (by decide) halone hsql
  rw [hvalue] at hcondition
  obtain ⟨rest, given, left, joined, hrest, hgiven, hprefix, hright, hread⟩ :=
    exists_given_of_parse h.items h.source hlead hcondition hparse
  -- As many tests were read as there are, so the last one is the one that was printed.
  have hjoined : joined = text := by
    rw [htests] at hread
    have heq := List.append_cancel_left (hread.eq_of_length (by simp))
    have hlast := congrArg Test.value (List.singleton_inj.mp heq)
    rw [t.value_withValue, hvalue] at hlast
    exact Literal.string.inj hlast
  subst hjoined
  rw [isKeptText, Bool.or_eq_true, Bool.not_eq_true']
  cases hescapes : d.escapesWithBackslash with
  | false => exact .inl rfl
  | true =>
      rw [stringEscape, if_pos hescapes] at hgiven
      cases hkept : keepsBackslashes joined.toList with
      | true => exact .inr rfl
      | false =>
          rcases betrays_of_not_keepsBackslashes hescapes hkept hgiven hrest with
            hbreak | ⟨hleft, hne⟩
          · exact absurd hprefix hbreak
          · exact absurd (hright hleft).symm hne

end Select

/-! Filters that are set -/

namespace Edit

variable {schema : Schema} {options : Options} {q edited : Select}
  {column operator value text : String} {op : FilterOperator}

theorem FilterOperator.isReadable_test (op : FilterOperator) (hcolumn : isPlainReference d column = true)
    (hkept : isKeptText d text = true) : (op.test column (.string text)).IsReadable d 3 := by
  have hplain := isPlainColumn_of_isPlainReference hcolumn (by decide : 1 < 3)
  cases op with
  | like => exact Test.isReadable_of_isKeptText hplain rfl hkept
  | compare op => exact Test.isReadable_of_isKeptText hplain rfl hkept

theorem isReadable_cleared (room : ∀ p ∈ q.filter, p.IsReadable d depth) :
    ∀ p ∈ (cleared q column op).filter, p.IsReadable d depth := by
  intro p hp
  obtain ⟨root, hroot, hrest⟩ := Option.bind_eq_some_iff.mp hp
  exact (room root hroot).of_mem_remove hrest

theorem readsBack_filtering (op : FilterOperator) (hq : q.ReadsBack d (depth + 1))
    (room : ∀ p ∈ q.filter, p.IsReadable d depth) (hcolumn : isPlainReference d column = true)
    (hkept : isKeptText d text = true) (hdepth : 3 < depth) :
    (filtering q column op (.string text)).ReadsBack d (depth + 1) := by
  apply hq.withFilter
  intro p hp
  cases hp
  exact Predicate.isReadable_requiring (isReadable_cleared room)
    (op.isReadable_test hcolumn hkept) hdepth

theorem readsBack_carrierNames : carrierNames.ReadsBack .mysql queryDepth := by
  refine Select.IsPlain.readsBack ⟨⟨List.cons_ne_nil _ _, ?_⟩, ?_, nofun, nofun, nofun⟩ rfl
  · intro item hmem
    obtain rfl := List.mem_singleton.mp hmem
    exact .inl ⟨[⟨"name", none⟩], by decide, by decide +kernel, by decide, rfl⟩
  · exact ⟨⟨⟨"carriers", none⟩, [], by decide +kernel, nofun, rfl⟩, nofun⟩

/-- A value that ends its quotes early, with a test of its own behind it. -/
def endedValue : String :=
  "\\' OR name <> 0 #"

end Edit

end SelectTree
