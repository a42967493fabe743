import SelectTree.Proofs.UndoneJoins

namespace SelectTree

/-! When all of several tables come out of a `FROM` tree that are dropped one after the other.
Each pass drops one side of a natural join at most, so a table that stands on both sides stays if
one of them is a lone leaf by then. -/

namespace Source

variable {table : String} {rest : List String}

/-! Loose tables -/

/-- Some table is left of a tree without the stale ones. -/
def keeps (stale : List String) (source : Source) : Bool :=
  source.tableNames.any (!stale.contains ·)

/-- Some other table of the tree is not dropped before this one. -/
def outlasts (stale : List String) (table : String) (source : Source) : Bool :=
  source.tableNames.any fun name => name ≠ table && !(stale.takeWhile (· ≠ table)).contains name

/-- No stale table stands on both sides of a join, unless either side holds another one that is
dropped later or not at all. -/
def noneTwice (stale : List String) (left right : Source) : Bool :=
  stale.all fun table =>
    !(left.tableNames.contains table && right.tableNames.contains table) ||
      left.outlasts stale table && right.outlasts stale table

mutual
/-- No stale table of a tree is held in place: by an explicit join, by a derived table, by the
commas around it or by its own copy. -/
def isLoose (stale : List String) : Source → Bool
  | .table _ _ => true
  | .derived query _ => stale.all (!query.tableNames.contains ·)
  | .join _ left right _ => stale.all (!(left.tableNames ++ right.tableNames).contains ·)
  | .naturalJoin left right =>
      left.isLoose stale && right.isLoose stale && noneTwice stale left right
  | .list items => areLoose stale items
  | .nested inner => inner.isLoose stale

def areLoose (stale : List String) : List Source → Bool
  | [] => true
  | item :: rest => item.isLoose stale && item.keeps stale && areLoose stale rest
end

theorem keeps_iff {stale : List String} {source : Source} :
    source.keeps stale = true ↔ ∃ name ∈ source.tableNames, name ∉ stale := by
  simp [keeps]

theorem outlasts_iff {stale : List String} {source : Source} :
    source.outlasts stale table = true ↔
      ∃ name ∈ source.tableNames, name ≠ table ∧ name ∉ stale.takeWhile (· ≠ table) := by
  simp [outlasts]

theorem noneTwice_iff {stale : List String} {left right : Source} :
    noneTwice stale left right = true ↔
      ∀ table ∈ stale, table ∈ left.tableNames → table ∈ right.tableNames →
        left.outlasts stale table = true ∧ right.outlasts stale table = true := by
  simp only [noneTwice, List.all_eq_true, Bool.or_eq_true, Bool.and_eq_true, Bool.not_eq_true',
    Bool.and_eq_false_iff, List.contains_eq_mem, decide_eq_false_iff_not]
  refine forall₂_congr fun name _ => ?_
  constructor
  · rintro (h | h) hleft hright
    · exact absurd hright (h.resolve_left (not_not_intro hleft))
    · exact h
  · intro h
    by_cases hleft : name ∈ left.tableNames
    · by_cases hright : name ∈ right.tableNames
      · exact .inr (h hleft hright)
      · exact .inl (.inr hright)
    · exact .inl (.inl hleft)

/-! One pass -/

mutual
theorem isTidy_prune (table : String) :
    (source : Source) → source.isTidy = true → (source.prune table).isTidy = true
  | .table _ _, _ => rfl
  | .derived _ _, _ => rfl
  | .join _ _ _ _, _ => rfl
  | .nested inner, tidy => by
      rw [isTidy, Bool.and_eq_true] at tidy
      have hinner := isTidy_prune table inner tidy.2
      rw [prune]
      generalize inner.prune table = pruned at hinner ⊢
      cases pruned with
      | table name asName => rfl
      | _ => exact hinner
  | .list items, tidy => areTidy_pruneList table items tidy
  | .naturalJoin left right, tidy => by
      rw [isTidy, Bool.and_eq_true] at tidy
      rw [prune]
      split
      · exact tidy.2
      · split
        · exact tidy.1
        · rw [isTidy, isTidy_prune table left tidy.1, isTidy_prune table right tidy.2]
          rfl

theorem areTidy_pruneList (table : String) :
    (items : List Source) → areTidy items = true → areTidy (pruneList table items) = true
  | [], _ => rfl
  | item :: rest, tidy => by
      rw [areTidy, Bool.and_eq_true] at tidy
      rw [pruneList, areTidy, isTidy_prune table item tidy.1, areTidy_pruneList table rest tidy.2]
      rfl
end

/-- A pass over a tree keeps all names but that of the table. -/
theorem mem_tableNames_prune_of_ne {source : Source} {name : String} (h : name ≠ table) :
    name ∈ (source.prune table).tableNames ↔ name ∈ source.tableNames := by
  have hfilter := filter_tableNames_prune table source
  have hiff : ∀ names : List String, name ∈ names.filter (· ≠ table) ↔ name ∈ names := by
    simp [h]
  rw [← hiff, hfilter, hiff]

theorem isLoose_parenthesize (stale : List String) (source : Source) :
    source.parenthesize.isLoose stale = source.isLoose stale := by
  cases source with
  | _ => simp only [parenthesize, isLoose]

/-- Without the first table, a tree keeps what it keeps. -/
theorem keeps_prune_iff {source : Source} (hgone : table ∉ (source.prune table).tableNames) :
    (source.prune table).keeps rest = true ↔ source.keeps (table :: rest) = true := by
  rw [keeps_iff, keeps_iff]
  refine exists_congr fun name => ?_
  rw [List.mem_cons, not_or]
  constructor
  · rintro ⟨hmem, hname⟩
    have hne : name ≠ table := fun heq => hgone (heq ▸ hmem)
    exact ⟨(mem_tableNames_prune_of_ne hne).mp hmem, hne, hname⟩
  · rintro ⟨hmem, hne, hname⟩
    exact ⟨(mem_tableNames_prune_of_ne hne).mpr hmem, hname⟩

theorem tableName_ne_of_keeps {stale : List String} {source : Source} (hmem : table ∈ stale)
    (h : source.keeps stale = true) : source.tableName ≠ some table := by
  intro heq
  obtain ⟨name, hname, hkept⟩ := keeps_iff.mp h
  rw [tableNames_of_tableName heq, List.mem_singleton] at hname
  exact hkept (hname ▸ hmem)

theorem outlasts_prune_iff {source : Source} {other : String} (hne : other ≠ table)
    (hgone : table ∉ (source.prune table).tableNames) :
    (source.prune table).outlasts rest other = true ↔
      source.outlasts (table :: rest) other = true := by
  rw [outlasts_iff, outlasts_iff, List.takeWhile_cons_of_pos (by simpa using hne.symm)]
  refine exists_congr fun name => ?_
  rw [List.mem_cons, not_or]
  constructor
  · rintro ⟨hmem, hother, hname⟩
    have hne : name ≠ table := fun heq => hgone (heq ▸ hmem)
    exact ⟨(mem_tableNames_prune_of_ne hne).mp hmem, hother, hne, hname⟩
  · rintro ⟨hmem, hother, hne, hname⟩
    exact ⟨(mem_tableNames_prune_of_ne hne).mpr hmem, hother, hname⟩

/-- A tree that loses all leaves of the first table and has others outlasts it. -/
theorem outlasts_first {source : Source} (hvalid : (source.prune table).check = .ok ())
    (hgone : table ∉ (source.prune table).tableNames) :
    source.outlasts (table :: rest) table = true := by
  rw [outlasts_iff]
  obtain ⟨name, hname⟩ := List.exists_mem_of_ne_nil _ (tableNames_ne_nil _ hvalid)
  have hne : name ≠ table := fun heq => hgone (heq ▸ hname)
  exact ⟨name, (mem_tableNames_prune_of_ne hne).mp hname, hne, by simp⟩

theorem noneTwice_prune_iff {left right : Source} (hfresh : table ∉ rest)
    (hleft : (left.prune table).check = .ok ()) (hright : (right.prune table).check = .ok ())
    (hgoneLeft : table ∉ (left.prune table).tableNames)
    (hgoneRight : table ∉ (right.prune table).tableNames) :
    noneTwice rest (left.prune table) (right.prune table) = true ↔
      noneTwice (table :: rest) left right = true := by
  rw [noneTwice_iff, noneTwice_iff, List.forall_mem_cons]
  have hfirst : table ∈ left.tableNames → table ∈ right.tableNames →
      left.outlasts (table :: rest) table = true ∧ right.outlasts (table :: rest) table = true :=
    fun _ _ => ⟨outlasts_first hleft hgoneLeft, outlasts_first hright hgoneRight⟩
  rw [and_iff_right hfirst]
  refine forall₂_congr fun other hother => ?_
  have hne : other ≠ table := fun heq => hfresh (heq ▸ hother)
  rw [mem_tableNames_prune_of_ne hne, mem_tableNames_prune_of_ne hne,
    outlasts_prune_iff hne hgoneLeft, outlasts_prune_iff hne hgoneRight]

/-- A side that is the table itself is outlasted by no copy of it. -/
theorem noneTwice_cons_iff_of_tableName {left right : Source} (hfresh : table ∉ rest)
    (h : left.tableName = some table ∨ right.tableName = some table) :
    noneTwice (table :: rest) left right = true ↔
      ¬ (table ∈ left.tableNames ∧ table ∈ right.tableNames) := by
  have hlone : ∀ {side : Source}, side.tableName = some table →
      side.outlasts (table :: rest) table = false := by
    intro side hside
    simp [outlasts, tableNames_of_tableName hside]
  have hother : ∀ {side : Source} {other : String}, side.tableName = some table → other ∈ rest →
      other ∉ side.tableNames := by
    intro side other hside hother hmem
    rw [tableNames_of_tableName hside, List.mem_singleton] at hmem
    exact hfresh (hmem ▸ hother)
  rw [noneTwice_iff, List.forall_mem_cons]
  constructor
  · rintro ⟨hfirst, -⟩ ⟨hleft, hright⟩
    obtain ⟨hlastsLeft, hlastsRight⟩ := hfirst hleft hright
    rcases h with h | h
    · rw [hlone h] at hlastsLeft
      cases hlastsLeft
    · rw [hlone h] at hlastsRight
      cases hlastsRight
  · intro hnot
    refine ⟨fun hleft hright => absurd ⟨hleft, hright⟩ hnot, ?_⟩
    intro other hmem hleft hright
    rcases h with h | h
    · exact absurd hleft (hother h hmem)
    · exact absurd hright (hother h hmem)

/-- A step of the tables that are loose: one pass takes the first table out and leaves the others
as loose as they were. -/
def Drops (table : String) (rest : List String) (source : Source) : Prop :=
  (source.prune table).isLoose rest = true ∧ table ∉ (source.prune table).tableNames ↔
    source.isLoose (table :: rest) = true ∧ source.tableName ≠ some table

theorem Drops.isLoose_iff {source : Source} (h : Drops table rest source)
    (tidy : source.isTidy = true) (hnew : table ∉ source.tableNames) :
    source.isLoose rest = true ↔ source.isLoose (table :: rest) = true := by
  rw [Drops, prune_eq_self source tidy hnew, and_iff_left hnew,
    and_iff_left (tableName_ne_of_not_mem hnew)] at h
  exact h

/-- A tree that holds all of its tables in place. -/
theorem drops_of_held {source : Source} (hprune : source.prune table = source)
    (hheld : ∀ stale, source.isLoose stale = stale.all (!source.tableNames.contains ·))
    (hleaf : source.tableName = none) : Drops table rest source := by
  rw [Drops, hprune, hheld, hheld, hleaf]
  simp [and_comm]

/-- A natural join that loses its side. -/
theorem isLoose_side_iff {left right side : Source} (hfresh : table ∉ rest)
    (hside : left.tableName = some table ∧ side = right ∨
      right.tableName = some table ∧ side = left)
    (tidy : side.isTidy = true) (h : Drops table rest side) :
    side.isLoose rest = true ∧ table ∉ side.tableNames ↔
      (Source.naturalJoin left right).isLoose (table :: rest) = true := by
  have hlone : ∀ {other : Source}, other.tableName = some table →
      other.isLoose (table :: rest) = true ∧ table ∈ other.tableNames := by
    intro other hother
    cases other with
    | table name asName =>
        cases hother
        exact ⟨rfl, List.mem_singleton_self _⟩
    | _ => cases hother
  rw [isLoose, Bool.and_eq_true, Bool.and_eq_true]
  rcases hside with ⟨hleft, rfl⟩ | ⟨hright, rfl⟩
  · rw [noneTwice_cons_iff_of_tableName hfresh (.inl hleft), and_iff_right (hlone hleft).1, not_and,
      imp_iff_right (hlone hleft).2]
    exact and_congr_left fun hnew => h.isLoose_iff tidy hnew
  · rw [noneTwice_cons_iff_of_tableName hfresh (.inr hright), and_iff_left (hlone hright).1, not_and',
      imp_iff_right (hlone hright).2]
    exact and_congr_left fun hnew => h.isLoose_iff tidy hnew

mutual
theorem drops (hfresh : table ∉ rest) :
    (source : Source) → source.check = .ok () → source.isTidy = true → Drops table rest source
  | .table name asName, _, _ => by
      have hprune : (Source.table name asName).prune table = .table name asName := rfl
      rw [Drops, hprune]
      simp [isLoose, tableName, tableNames, eq_comm]
  | .derived _ _, _, _ => drops_of_held rfl (fun _ => rfl) rfl
  | .join _ _ _ _, _, _ => drops_of_held rfl (fun _ => rfl) rfl
  | .nested inner, h, tidy => by
      rw [isTidy, Bool.and_eq_true, Option.isNone_iff_eq_none] at tidy
      have hinner := drops hfresh inner h tidy.2
      rw [Drops, tidy.1] at hinner
      rw [Drops, prune, isLoose_parenthesize, tableNames_parenthesize, isLoose]
      exact hinner
  | .list items, h, tidy => by
      have hitems := drops_list hfresh items (checkList_iff.mpr (check_list_iff.mp h).2) tidy
      rw [Drops, prune, isLoose, isLoose, tableNames, hitems]
      simp [tableName]
  | .naturalJoin left right, h, tidy => by
      obtain ⟨hleft, hright⟩ := check_naturalJoin_iff.mp h
      rw [isTidy, Bool.and_eq_true] at tidy
      have hdropsLeft := drops hfresh left hleft tidy.1
      have hdropsRight := drops hfresh right hright tidy.2
      have hnone : (Source.naturalJoin left right).tableName ≠ some table := nofun
      rw [Drops, prune, and_iff_left hnone]
      split
      · rename_i hside
        exact isLoose_side_iff hfresh (.inl ⟨hside, rfl⟩) tidy.2 hdropsRight
      · rename_i hotherLeft
        split
        · rename_i hside
          exact isLoose_side_iff hfresh (.inr ⟨hside, rfl⟩) tidy.1 hdropsLeft
        · rename_i hotherRight
          rw [Drops, and_iff_left hotherLeft] at hdropsLeft
          rw [Drops, and_iff_left hotherRight] at hdropsRight
          have htwice := noneTwice_prune_iff hfresh (check_prune table left hleft)
            (check_prune table right hright)
          rw [isLoose, isLoose, tableNames, List.mem_append, not_or]
          simp only [Bool.and_eq_true]
          rw [← hdropsLeft, ← hdropsRight]
          constructor
          · rintro ⟨⟨⟨hlooseLeft, hlooseRight⟩, hnone⟩, hgoneLeft, hgoneRight⟩
            exact ⟨⟨⟨hlooseLeft, hgoneLeft⟩, hlooseRight, hgoneRight⟩,
              (htwice hgoneLeft hgoneRight).mp hnone⟩
          · rintro ⟨⟨⟨hlooseLeft, hgoneLeft⟩, hlooseRight, hgoneRight⟩, hnone⟩
            exact ⟨⟨⟨hlooseLeft, hlooseRight⟩, (htwice hgoneLeft hgoneRight).mpr hnone⟩,
              hgoneLeft, hgoneRight⟩

theorem drops_list (hfresh : table ∉ rest) :
    (items : List Source) → checkList items = .ok () → areTidy items = true →
      (areLoose rest (pruneList table items) = true ∧
          table ∉ tableNamesList (pruneList table items) ↔
        areLoose (table :: rest) items = true)
  | [], _, _ => by simp [pruneList, areLoose, tableNamesList]
  | item :: items, h, tidy => by
      rw [checkList, Check.both_iff] at h
      rw [areTidy, Bool.and_eq_true] at tidy
      have hitem := drops hfresh item h.1 tidy.1
      have hitems := drops_list hfresh items h.2 tidy.2
      rw [Drops] at hitem
      rw [pruneList, areLoose, areLoose, tableNamesList, List.mem_append, not_or]
      simp only [Bool.and_eq_true]
      rw [← hitems]
      constructor
      · rintro ⟨⟨⟨hloose, hkeeps⟩, hmore⟩, hgone, hgoneMore⟩
        exact ⟨⟨(hitem.mp ⟨hloose, hgone⟩).1, (keeps_prune_iff hgone).mp hkeeps⟩, hmore, hgoneMore⟩
      · rintro ⟨⟨hloose, hkeeps⟩, hmore, hgoneMore⟩
        obtain ⟨hpruned, hgone⟩ :=
          hitem.mpr ⟨hloose, tableName_ne_of_keeps List.mem_cons_self hkeeps⟩
        exact ⟨⟨⟨hpruned, (keeps_prune_iff hgone).mpr hkeeps⟩, hmore⟩, hgone, hgoneMore⟩
end

/-! All passes -/

theorem keeps_nil {source : Source} (h : source.check = .ok ()) : source.keeps [] = true := by
  obtain ⟨name, hname⟩ := List.exists_mem_of_ne_nil _ (tableNames_ne_nil source h)
  exact keeps_iff.mpr ⟨name, hname, List.not_mem_nil⟩

mutual
theorem isLoose_nil : (source : Source) → source.check = .ok () → source.isLoose [] = true
  | .table _ _, _ => rfl
  | .derived _ _, _ => rfl
  | .join _ _ _ _, _ => rfl
  | .nested inner, h => isLoose_nil inner h
  | .list items, h => areLoose_nil items (checkList_iff.mpr (check_list_iff.mp h).2)
  | .naturalJoin left right, h => by
      obtain ⟨hleft, hright⟩ := check_naturalJoin_iff.mp h
      rw [isLoose, isLoose_nil left hleft, isLoose_nil right hright]
      rfl

theorem areLoose_nil : (items : List Source) → checkList items = .ok () → areLoose [] items = true
  | [], _ => rfl
  | item :: rest, h => by
      rw [checkList, Check.both_iff] at h
      rw [areLoose, isLoose_nil item h.1, keeps_nil h.1, areLoose_nil rest h.2]
      rfl
end

/-- Passes for other tables do not touch the names of a table. -/
theorem mem_tableNames_foldl_prune {source : Source} {stale : List String} (h : table ∉ stale) :
    table ∈ (stale.foldl (fun source table => source.prune table) source).tableNames ↔
      table ∈ source.tableNames := by
  have hstale : ∀ other ∈ stale, (!stale.contains other) = false := by simp
  have hfilter := filter_tableNames_foldl_prune stale hstale source
  have hiff : ∀ names : List String, table ∈ names.filter (!stale.contains ·) ↔ table ∈ names := by
    simp [h]
  rw [← hiff, hfilter, hiff]

/-- Different tables come all out of a tree that are dropped in this order exactly if they are
loose and not all that the tree holds. -/
theorem isCleared_iff {stale : List String} (hnodup : stale.Nodup) {source : Source}
    (h : source.check = .ok ()) (tidy : source.isTidy = true) :
    Edit.IsCleared source stale ↔ source.isLoose stale = true ∧ source.keeps stale = true := by
  induction stale generalizing source with
  | nil => exact iff_of_true nofun ⟨isLoose_nil source h, keeps_nil h⟩
  | cons table rest ih =>
      obtain ⟨hfresh, hrest⟩ := List.nodup_cons.mp hnodup
      have hstep := drops hfresh source h tidy
      have hpasses : Edit.IsCleared source (table :: rest) ↔
          table ∉ (source.prune table).tableNames ∧ Edit.IsCleared (source.prune table) rest := by
        rw [Edit.IsCleared, List.forall_mem_cons, List.foldl_cons, mem_tableNames_foldl_prune hfresh]
        rfl
      rw [hpasses, ih hrest (check_prune table source h) (isTidy_prune table source tidy)]
      constructor
      · rintro ⟨hgone, hloose, hkeeps⟩
        exact ⟨(hstep.mp ⟨hloose, hgone⟩).1, (keeps_prune_iff hgone).mp hkeeps⟩
      · rintro ⟨hloose, hkeeps⟩
        obtain ⟨hpruned, hgone⟩ :=
          hstep.mpr ⟨hloose, tableName_ne_of_keeps List.mem_cons_self hkeeps⟩
        exact ⟨hgone, hpruned, (keeps_prune_iff hgone).mpr hkeeps⟩

/-! Trees of natural joins -/

/-- Holds of a tree of tables, natural joins and parentheses only. -/
def isNaturalTree : Source → Bool
  | .table _ _ => true
  | .naturalJoin left right => left.isNaturalTree && right.isNaturalTree
  | .nested inner => inner.isNaturalTree
  | _ => false

theorem isNaturalTree_of_isNaturalChain :
    (source : Source) → source.isNaturalChain = true → source.isNaturalTree = true
  | .table _ _, _ => rfl
  | .nested inner, h => isNaturalTree_of_isNaturalChain inner h
  | .naturalJoin left right, h => by
      rw [isNaturalChain, Bool.and_eq_true] at h
      rw [isNaturalTree, isNaturalTree_of_isNaturalChain left h.1,
        isNaturalTree_of_isNaturalChain right h.2]
      rfl

/-- In a tree of natural joins, a table can only be held by its own copy. -/
theorem isLoose_of_isNaturalTree {stale : List String} :
    (source : Source) → source.isNaturalTree = true →
      (∀ table ∈ stale, source.tableNames.count table ≤ 1) → source.isLoose stale = true
  | .table _ _, _, _ => rfl
  | .nested inner, h, honce => isLoose_of_isNaturalTree inner h honce
  | .naturalJoin left right, h, honce => by
      rw [isNaturalTree, Bool.and_eq_true] at h
      simp only [tableNames, List.count_append] at honce
      have hleft : ∀ table ∈ stale, left.tableNames.count table ≤ 1 :=
        fun table hmem => Nat.le_trans (Nat.le_add_right _ _) (honce table hmem)
      have hright : ∀ table ∈ stale, right.tableNames.count table ≤ 1 :=
        fun table hmem => Nat.le_trans (Nat.le_add_left _ _) (honce table hmem)
      have hnone : noneTwice stale left right = true := by
        rw [noneTwice_iff]
        intro table hmem hmemLeft hmemRight
        have htwice := Nat.add_le_add (List.count_pos_iff.mpr hmemLeft)
          (List.count_pos_iff.mpr hmemRight)
        exact absurd (Nat.le_trans htwice (honce table hmem)) (by decide)
      rw [isLoose, isLoose_of_isNaturalTree left h.1 hleft,
        isLoose_of_isNaturalTree right h.2 hright, hnone]
      rfl

end Source

end SelectTree
