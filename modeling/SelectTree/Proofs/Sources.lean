import SelectTree.Edit.Joins
import SelectTree.Proofs.WellFormed

namespace SelectTree

/-! Which tables the edits of a `FROM` tree bring in and take out. -/

/-! Lists without repetitions -/

section Distinct

variable [BEq α] [LawfulBEq α]

theorem nodup_eraseDups (xs : List α) : xs.eraseDups.Nodup := by
  induction hlength : xs.length using Nat.strongRecOn generalizing xs with
  | _ n ih =>
      cases xs with
      | nil => simp
      | cons x xs =>
          subst hlength
          have hfilter := List.length_filter_le (fun y => !y == x) xs
          rw [List.eraseDups_cons, List.nodup_cons]
          refine ⟨by simp, ih _ ?_ _ rfl⟩
          simp only [List.length_cons]
          omega

theorem eraseDups_filter (keep : α → Bool) (xs : List α) :
    (xs.filter keep).eraseDups = xs.eraseDups.filter keep := by
  induction hlength : xs.length using Nat.strongRecOn generalizing xs with
  | _ n ih =>
      cases xs with
      | nil => simp
      | cons x xs =>
          subst hlength
          have hfilter := List.length_filter_le (fun y => !y == x) xs
          have hrest : ((xs.filter keep).filter fun y => !y == x).eraseDups =
              (xs.filter fun y => !y == x).eraseDups.filter keep := by
            rw [List.filter_filter, funext fun y => Bool.and_comm (!y == x) (keep y),
              ← List.filter_filter]
            refine ih _ ?_ _ rfl
            simp only [List.length_cons]
            omega
          by_cases hx : keep x = true
          · rw [List.filter_cons_of_pos hx, List.eraseDups_cons, List.eraseDups_cons,
              List.filter_cons_of_pos hx, hrest]
          · have hself : ((xs.filter keep).filter fun y => !y == x) = xs.filter keep := by
              rw [List.filter_eq_self]
              intro y hy
              have hkept := (List.mem_filter.mp hy).2
              cases heq : y == x with
              | false => rfl
              | true => exact absurd (eq_of_beq heq ▸ hkept) hx
            rw [List.filter_cons_of_neg hx, List.eraseDups_cons, List.filter_cons_of_neg hx,
              ← hrest, hself]

theorem eraseDups_eq_self {xs : List α} (h : xs.Nodup) : xs.eraseDups = xs := by
  induction xs with
  | nil => rfl
  | cons x xs ih =>
      obtain ⟨hx, hxs⟩ := List.nodup_cons.mp h
      have hrest : (xs.filter fun y => !y == x) = xs := by
        rw [List.filter_eq_self]
        intro y hy
        have hne : y ≠ x := fun heq => hx (heq ▸ hy)
        simpa using hne
      rw [List.eraseDups_cons, hrest, ih hxs]

theorem contains_congr {xs ys : List α} (h : ∀ x, x ∈ xs ↔ x ∈ ys) : xs.contains = ys.contains := by
  funext x
  rw [Bool.eq_iff_iff, List.contains_iff_mem, List.contains_iff_mem]
  exact h x

end Distinct

/-! Tables of valid trees -/

mutual
theorem Source.tableNames_ne_nil :
    (source : Source) → source.check = .ok () → source.tableNames ≠ []
  | .table _ _, _ => List.cons_ne_nil _ _
  | .join _ left _ _, h =>
      List.append_ne_nil_of_left_ne_nil
        (Source.tableNames_ne_nil left (Source.check_join_iff.mp h).1) _
  | .naturalJoin left _, h =>
      List.append_ne_nil_of_left_ne_nil
        (Source.tableNames_ne_nil left (Source.check_naturalJoin_iff.mp h).1) _
  | .list [], h => absurd rfl (Source.check_list_iff.mp h).1
  | .list (first :: _), h =>
      List.append_ne_nil_of_left_ne_nil (Source.tableNames_ne_nil first
        ((Source.check_list_iff.mp h).2 first List.mem_cons_self)) _
  | .nested inner, h => Source.tableNames_ne_nil inner h
  | .derived query _, h => Select.tableNames_ne_nil query h

theorem Select.tableNames_ne_nil : (q : Select) → q.check = .ok () → q.tableNames ≠ []
  | ⟨_, source, _, _, _⟩, h => Source.tableNames_ne_nil source (Select.check_iff.mp h).2.2.1
end

namespace Source

theorem tableNames_of_tableName {source : Source} {name : String}
    (h : source.tableName = some name) : source.tableNames = [name] := by
  cases source with
  | table other asName =>
      cases h
      rfl
  | _ => cases h

/-! Grown trees -/

theorem mem_tableNames_grow {table x : String} :
    (source : Source) → source.check = .ok () →
      (x ∈ (source.grow table).tableNames ↔ x = table ∨ x ∈ source.tableNames)
  | .table name asName, _ => by
      simp [grow, bare, tableNames, or_comm]
  | .derived query asName, _ => by
      simp [grow, bare, tableNames, or_comm]
  | .nested inner, h => by
      rw [grow, tableNames, tableNames]
      exact mem_tableNames_grow inner h
  | .list [], h => by
      exact absurd rfl (check_list_iff.mp h).1
  | .list (first :: rest), h => by
      have hfirst := (check_list_iff.mp h).2 first List.mem_cons_self
      simp only [grow, tableNames, tableNamesList, List.mem_append,
        mem_tableNames_grow first hfirst, or_assoc]
  | .join kind left right constraint, h => by
      have hleft := (check_join_iff.mp h).1
      simp only [grow, tableNames, List.mem_append, mem_tableNames_grow left hleft, or_assoc]
  | .naturalJoin left right, h => by
      have hleft := (check_naturalJoin_iff.mp h).1
      simp only [grow, tableNames, List.mem_append, mem_tableNames_grow left hleft, or_assoc]

theorem check_grow {table : String} (htable : table ≠ "") :
    (source : Source) → source.check = .ok () → (source.grow table).check = .ok ()
  | .table _ _, h => check_naturalJoin_iff.mpr ⟨h, check_table_iff.mpr htable⟩
  | .derived _ _, h => check_naturalJoin_iff.mpr ⟨h, check_table_iff.mpr htable⟩
  | .nested inner, h => check_grow htable inner h
  | .list [], h => h
  | .list (first :: rest), h => by
      have hitems := List.forall_mem_cons.mp (check_list_iff.mp h).2
      rw [grow]
      refine check_list_iff.mpr ⟨List.cons_ne_nil _ _, List.forall_mem_cons.mpr ⟨?_, hitems.2⟩⟩
      exact check_grow htable first hitems.1
  | .join _ left _ _, h => by
      have hsides := check_join_iff.mp h
      exact check_join_iff.mpr ⟨check_grow htable left hsides.1, hsides.2⟩
  | .naturalJoin left _, h => by
      have hsides := check_naturalJoin_iff.mp h
      exact check_naturalJoin_iff.mpr ⟨check_grow htable left hsides.1, hsides.2⟩

/-! Pruned trees -/

theorem tableNames_parenthesize (source : Source) :
    source.parenthesize.tableNames = source.tableNames := by
  cases source with
  | _ => simp only [parenthesize, tableNames]

mutual
/-- Whatever is dropped goes by the name of the table. -/
theorem filter_tableNames_prune (table : String) :
    (source : Source) → (source.prune table).tableNames.filter (· ≠ table) =
      source.tableNames.filter (· ≠ table)
  | .table name asName => rfl
  | .join kind left right constraint => rfl
  | .derived query asName => rfl
  | .nested inner => by
      rw [prune, tableNames_parenthesize, tableNames]
      exact filter_tableNames_prune table inner
  | .list items => filter_tableNamesList_pruneList table items
  | .naturalJoin left right => by
      rw [prune, tableNames, List.filter_append]
      split
      · rename_i hleft
        rw [tableNames_of_tableName hleft]
        simp
      · split
        · rename_i hright
          rw [tableNames_of_tableName hright]
          simp
        · rw [tableNames, List.filter_append, filter_tableNames_prune table left,
            filter_tableNames_prune table right]

theorem filter_tableNamesList_pruneList (table : String) :
    (items : List Source) → (tableNamesList (pruneList table items)).filter (· ≠ table) =
      (tableNamesList items).filter (· ≠ table)
  | [] => rfl
  | item :: rest => by
      rw [pruneList, tableNamesList, tableNamesList, List.filter_append, List.filter_append,
        filter_tableNames_prune table item, filter_tableNamesList_pruneList table rest]
end

theorem check_parenthesize {source : Source} (h : source.check = .ok ()) :
    source.parenthesize.check = .ok () := by
  cases source with
  | _ => exact h

mutual
theorem check_prune (table : String) :
    (source : Source) → source.check = .ok () → (source.prune table).check = .ok ()
  | .table _ _, h => h
  | .join _ _ _ _, h => h
  | .derived _ _, h => h
  | .nested inner, h => check_parenthesize (check_prune table inner h)
  | .list items, h => by
      rw [check_list_iff] at h
      rw [prune, check_list_iff, ← checkList_iff]
      refine ⟨?_, checkList_pruneList table items (checkList_iff.mpr h.2)⟩
      cases items with
      | nil => exact absurd rfl h.1
      | cons item rest => exact List.cons_ne_nil _ _
  | .naturalJoin left right, h => by
      have hsides := check_naturalJoin_iff.mp h
      rw [prune]
      split
      · exact hsides.2
      · split
        · exact hsides.1
        · exact check_naturalJoin_iff.mpr
            ⟨check_prune table left hsides.1, check_prune table right hsides.2⟩

theorem checkList_pruneList (table : String) :
    (items : List Source) → checkList items = .ok () → checkList (pruneList table items) = .ok ()
  | [], h => h
  | item :: rest, h => by
      rw [checkList, Check.both_iff] at h
      rw [pruneList, checkList, Check.both_iff]
      exact ⟨check_prune table item h.1, checkList_pruneList table rest h.2⟩
end

theorem check_foldl_prune {source : Source} (stale : List String) (h : source.check = .ok ()) :
    (stale.foldl (fun source table => source.prune table) source).check = .ok () := by
  induction stale generalizing source with
  | nil => exact h
  | cons table rest ih => exact ih (check_prune table source h)

/-- The tables that are to stay are the same after each of the others was dropped where it could
be. -/
theorem filter_tableNames_foldl_prune {keep : String → Bool} (stale : List String)
    (hstale : ∀ table ∈ stale, keep table = false) (source : Source) :
    (stale.foldl (fun source table => source.prune table) source).tableNames.filter keep =
      source.tableNames.filter keep := by
  induction stale generalizing source with
  | nil => rfl
  | cons table rest ih =>
      have hkeep : ∀ names : List String,
          names.filter keep = (names.filter (· ≠ table)).filter keep := by
        intro names
        rw [List.filter_filter]
        apply List.filter_congr
        intro x _
        by_cases hx : x = table
        · rw [hx, hstale table List.mem_cons_self]
          simp
        · simp [hx]
      have hrest := fun other hother => hstale other (List.mem_cons_of_mem table hother)
      rw [List.foldl_cons, ih hrest, hkeep, filter_tableNames_prune, ← hkeep]

end Source

/-! Queries that gain or lose a table -/

namespace Select

variable {q : Select}

theorem addNaturalJoin_eq (valid : q.validate = .ok ()) (table : String) :
    q.addNaturalJoin table = .ok (q.replaceSource (q.source.grow table)) := by
  rw [addNaturalJoin, valid]
  rfl

theorem removeNaturalJoin_eq (valid : q.validate = .ok ()) (table : String) :
    q.removeNaturalJoin table = .ok (q.replaceSource (q.source.prune table)) := by
  rw [removeNaturalJoin, valid]
  rfl

end Select

end SelectTree
