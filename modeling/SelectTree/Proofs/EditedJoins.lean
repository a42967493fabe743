import SelectTree.Proofs.JoinedLeaves
import SelectTree.Proofs.LoneParentheses
import SelectTree.Proofs.ParsedShapes
import SelectTree.Proofs.PlainIdentifiers
import SelectTree.Proofs.RefusedSources

namespace SelectTree

open Sql Sql.Grammar Sql.Parser

/-! The texts of queries to which a natural join was added or from which one was taken. -/

variable {d : Dialect} {depth : Nat} {table : String}

namespace Source

/-! Tables that are joined -/

theorem nests_grow {source : Source} (h : source.nests = true) :
    (source.grow table).nests = true := by
  cases source with
  | join | naturalJoin | nested => rfl
  | _ => cases h

theorem isShaped_grow : (source : Source) → ∀ {root}, source.isShaped root = true →
    (source.grow table).isShaped root = true
  | .table _ _, _, _ => rfl
  | .join _ left _ _, _, h => by
      simp only [grow, isShaped, Bool.and_eq_true] at h ⊢
      exact ⟨⟨isShaped_grow left h.1.1, h.1.2⟩, h.2⟩
  | .naturalJoin left _, _, h => by
      simp only [grow, isShaped, Bool.and_eq_true] at h ⊢
      exact ⟨⟨isShaped_grow left h.1.1, h.1.2⟩, h.2⟩
  | .list [], _, h => h
  | .list (first :: _), _, h => by
      simp only [grow, isShaped, areShaped, List.length_cons, Bool.and_eq_true] at h ⊢
      exact ⟨h.1, isShaped_grow first h.2.1, h.2.2⟩
  | .nested inner, _, h => by
      simp only [grow, isShaped, Bool.and_eq_true] at h ⊢
      exact ⟨nests_grow h.1, isShaped_grow inner h.2⟩
  | .derived _ _, _, h => by
      simp only [grow, isShaped, Bool.and_eq_true] at h ⊢
      exact ⟨⟨h, rfl⟩, rfl⟩

/-- The table that is joined is the one new part. -/
theorem partsRead_grow (htable : ∀ n, IsTableRead d n table none) : (source : Source) →
    ∀ {depth}, source.PartsRead d depth → (source.grow table).PartsRead d depth
  | .table _ _, _, h => ⟨h, htable _⟩
  | .join _ left _ _, _, ⟨hleft, hright⟩ => ⟨partsRead_grow htable left hleft, hright⟩
  | .naturalJoin left _, _, ⟨hleft, hright⟩ => ⟨partsRead_grow htable left hleft, hright⟩
  | .list [], _, h => h
  | .list (first :: _), _, ⟨hfirst, hrest⟩ => ⟨partsRead_grow htable first hfirst, hrest⟩
  | .nested inner, _, ⟨hdepth, h⟩ => ⟨hdepth, partsRead_grow htable inner h⟩
  | .derived _ _, _, h => ⟨h, htable _⟩

/-! Tables that are taken out -/

theorem partsRead_parenthesize {source : Source} (hdepth : 0 < depth)
    (h : source.PartsRead d (depth - 1)) : source.parenthesize.PartsRead d depth := by
  cases source with
  | table name asName => exact IsTableRead.mono h (Nat.sub_le depth 1)
  | _ => exact ⟨hdepth, h⟩

mutual
theorem partsRead_prune (table : String) : (source : Source) → ∀ {depth}, source.PartsRead d depth →
    (source.prune table).PartsRead d depth
  | .table _ _, _, h => h
  | .join _ _ _ _, _, h => h
  | .derived _ _, _, h => h
  | .naturalJoin left right, _, ⟨hleft, hright⟩ => by
      rw [prune]
      split
      · exact hright
      · split
        · exact hleft
        · exact ⟨partsRead_prune table left hleft, partsRead_prune table right hright⟩
  | .list items, _, h => partsReadList_prune table items h
  | .nested inner, _, ⟨hdepth, h⟩ =>
      partsRead_parenthesize hdepth (partsRead_prune table inner h)

theorem partsReadList_prune (table : String) : (items : List Source) → ∀ {depth},
    PartsReadList d depth items → PartsReadList d depth (pruneList table items)
  | [], _, h => h
  | item :: rest, _, ⟨hitem, hrest⟩ =>
      ⟨partsRead_prune table item hitem, partsReadList_prune table rest hrest⟩
end

theorem isCombined_prune {source : Source} (h : source.isCombined = false) :
    (source.prune table).isCombined = false := by
  cases source with
  | nested inner => rw [prune]; cases inner.prune table <;> rfl
  | table | derived => rfl
  | _ => cases h

theorem length_pruneList (items : List Source) :
    (pruneList table items).length = items.length := by
  induction items with
  | nil => rfl
  | cons item rest ih => simp [pruneList, ih]

theorem tableName_unwrapped (source : Source) : source.unwrapped.tableName = source.tableName := by
  cases source with
  | nested inner => cases h : inner.unwrapped <;> simp [unwrapped, h, enclosed, tableName]
  | _ => rfl

/-- In a tree of the shape that parsers make there are no parentheses to drop. -/
theorem unwrapped_eq_self : (source : Source) → source.isShaped false = true →
    source.unwrapped = source
  | .table _ _, _ => rfl
  | .join _ _ _ _, _ => rfl
  | .derived _ _, _ => rfl
  | .list _, h => nomatch h
  | .naturalJoin left right, h => by
      simp only [isShaped, Bool.and_eq_true] at h
      rw [unwrapped, unwrapped_eq_self left h.1.1, unwrapped_eq_self right h.1.2]
  | .nested inner, h => by
      simp only [isShaped, Bool.and_eq_true] at h
      rw [unwrapped, unwrapped_eq_self inner h.2, enclosed_eq_nested]
      revert h
      cases inner <;> simp [nests, isDerived]

theorem isShaped_enclosed {source : Source} (h : source.isShaped false = true)
    (htable : source.tableName = none) (root : Bool) : source.enclosed.isShaped root = true := by
  cases source with
  | table name asName => cases htable
  | list items => cases h
  | derived query asName => exact h
  | _ => exact h

theorem isShaped_unwrapped_parenthesize {source : Source}
    (h : source.unwrapped.isShaped false = true) (root : Bool) :
    source.parenthesize.unwrapped.isShaped root = true := by
  cases htable : source.tableName with
  | none =>
      rw [parenthesize_eq_nested htable, unwrapped]
      rw [← tableName_unwrapped] at htable
      exact isShaped_enclosed h htable root
  | some name =>
      cases source with
      | table name asName => rfl
      | _ => cases htable

theorem isShaped_of_operand {source : Source} (h : source.isShaped false = true) (root : Bool) :
    source.unwrapped.isShaped root = true := by
  rw [unwrapped_eq_self source h, isShaped_root root (isList_of_isShaped h)]
  exact h

mutual
/-- What is left has the shape that parsers make, but for parentheses around derived tables. -/
theorem isShaped_unwrapped_prune (table : String) : (source : Source) → ∀ {root},
    source.isShaped root = true → (source.prune table).unwrapped.isShaped root = true
  | .table _ _, _, h => h
  | .join _ _ _ _, _, h => h
  | .derived _ _, _, h => h
  | .naturalJoin left right, root, h => by
      simp only [isShaped, Bool.and_eq_true, Bool.not_eq_true'] at h
      obtain ⟨⟨hleft, hright⟩, hcombined⟩ := h
      rw [prune]
      -- The side that stays stands alone where the join stood, in its parentheses perhaps.
      split
      · exact isShaped_of_operand hright root
      · split
        · exact isShaped_of_operand hleft root
        · rw [unwrapped, isShaped, isShaped_unwrapped_prune table left hleft,
            isShaped_unwrapped_prune table right hright, isCombined_unwrapped,
            isCombined_prune hcombined]
          rfl
  | .list items, root, h => by
      simp only [isShaped, Bool.and_eq_true] at h
      rw [prune, unwrapped, isShaped, areShaped_unwrapped_prune table items h.2,
        unwrappedList_eq_map, List.length_map, length_pruneList, h.1.1, h.1.2]
      rfl
  | .nested inner, root, h => by
      simp only [isShaped, Bool.and_eq_true] at h
      rw [prune]
      exact isShaped_unwrapped_parenthesize (isShaped_unwrapped_prune table inner h.2) root

theorem areShaped_unwrapped_prune (table : String) : (items : List Source) →
    areShaped items = true → areShaped (unwrappedList (pruneList table items)) = true
  | [], _ => rfl
  | item :: rest, h => by
      rw [areShaped, Bool.and_eq_true] at h
      rw [pruneList, unwrappedList, areShaped, isShaped_unwrapped_prune table item h.1,
        areShaped_unwrapped_prune table rest h.2]
      rfl
end

end Source

/-! Queries -/

namespace Select

variable {q : Select}

theorem PartsRead.source (h : q.PartsRead d depth) : q.source.PartsRead d depth := by
  cases q
  exact h.1

theorem PartsRead.replaceSource (h : q.PartsRead d depth) {source : Source}
    (hsource : source.PartsRead d depth) : (q.replaceSource source).PartsRead d depth := by
  cases q
  exact ⟨hsource, h.2⟩

theorem parse_sql_of_isShaped (hshaped : q.isShaped = true) (hparts : q.PartsRead d queryDepth)
    (valid : q.validate = .ok ()) : d.parse q.sql = .ok (some q) := by
  obtain ⟨ts, query, hread⟩ := isSelfRead q hparts hshaped
  exact hread.parse_sql valid

/-- Plain words are the parts that are read, whatever joins and parentheses they stand in. -/
theorem partsRead_of_isPlain (hplain : q.IsPlain d queryDepth)
    (hread : d.parse q.sql = .ok (some q)) : q.PartsRead d queryDepth := by
  have hreread := parse_sql hplain (validate_of_parse hread)
  rw [hread] at hreread
  apply IsPlain.partsRead q hplain
  exact (Option.some.inj (Except.ok.inj hreread)).symm

section Parentheses

variable (hparts : q.PartsRead d queryDepth) (hshaped : q.source.unwrapped.isShaped true = true)
include hparts hshaped

/-- Parentheses that may hold a derived table alone are not read. -/
theorem parse_sql_unwrapped (valid : q.validate = .ok ())
    (hallowed : q.source.holdsRefused d = false) :
    d.parse q.sql = .ok (some (q.replaceSource q.source.unwrapped)) := by
  obtain ⟨items, source, filter, groupBy, orderBy⟩ := q
  obtain ⟨hsource, hitems, hfilter, hgroup, horder⟩ := hparts
  obtain ⟨ts, query, hread⟩ := exists_readAs hitems
    (Source.exists_readUnwrapped hsource hshaped hallowed) hfilter hgroup horder
  apply hread.parse_sql
  apply Edit.validate_replaceSource valid
  rw [Source.check_unwrapped]
  exact validate_source valid

theorem parse_sql_refused (hrefused : q.source.holdsRefused d = true) :
    ∃ error, d.parse q.sql = .error error := by
  cases hread : d.parse q.sql with
  | error error => exact ⟨error, rfl⟩
  | ok read =>
      cases read with
      | some read => exact absurd hread (parse_ne_of_refused hparts hshaped hrefused read)
      | none =>
          unfold Dialect.parse at hread
          cases hquery : d.parseStatements q.sql <;>
            simp [isBlankText_sql, hquery, Except.map] at hread

end Parentheses

/-- Carriers beside a table of flights, in parentheses. -/
def carriersBesideFlights : Select :=
  .new [.identifier "*"] (.nested (.naturalJoin (.bare "carriers")
    (.derived (.new [.identifier "id"] (.bare "flights")) (some "f"))))

theorem isPlain_carriersBesideFlights : carriersBesideFlights.IsPlain .postgres queryDepth := by
  have htable : ∀ name ∈ ["carriers", "flights"], IsPlainTable .postgres name := by
    intro name hname
    refine ⟨⟨name, none⟩, [], ?_, nofun, rfl⟩
    revert name
    decide +kernel
  have hid : IsPlainItem .postgres 46 (.identifier "id") :=
    .inl ⟨[⟨"id", none⟩], by decide, by decide +kernel, by decide, rfl⟩
  have halias : IsPlainAlias .postgres (some "f") := by
    rintro _ ⟨⟩
    decide +kernel
  refine ⟨⟨List.cons_ne_nil _ _, List.forall_mem_singleton.mpr (.inr (.inl rfl))⟩,
    ⟨by decide, rfl, ⟨rfl, htable _ (by simp), nofun⟩, rfl, by decide, by decide, ?_, halias⟩,
    nofun, nofun, nofun⟩
  exact ⟨⟨List.cons_ne_nil _ _, List.forall_mem_singleton.mpr hid⟩,
    ⟨htable _ (by simp), nofun⟩, nofun, nofun, nofun⟩

theorem parse_carriersBesideFlights :
    Dialect.postgres.parse carriersBesideFlights.sql = .ok (some carriersBesideFlights) :=
  parse_sql_of_isShaped (by decide) (IsPlain.partsRead _ isPlain_carriersBesideFlights rfl) rfl

theorem isPlainIdentifier_carriers : IsPlainIdentifier .postgres "carriers" := by
  decide +kernel

end Select

end SelectTree
