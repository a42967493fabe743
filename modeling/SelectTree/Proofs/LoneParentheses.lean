import SelectTree.Proofs.ReadSources

namespace SelectTree

open Sql Sql.Grammar Sql.Parser

/-! Derived tables alone in parentheses. No parser makes such a tree, but what is taken out of a join
can leave one. Some dialects refuse its text, and the others drop the parentheses, unless the
derived table has no name: then they take the whole for a query in parentheses. -/

variable {d : Dialect} {depth : Nat}

namespace Source

def isDerived : Source → Bool
  | .derived _ _ => true
  | _ => false

/-- A derived table that may not stand alone in parentheses. -/
def isRefusedAlone (d : Dialect) : Source → Bool
  | .derived _ asName => !d.allowsParenthesizedTable || asName.isNone
  | _ => false

mutual
/-- Some parentheses hold nothing but a derived table that may not stand there. Explicit joins and
derived tables are not looked into. -/
def holdsRefused (d : Dialect) : Source → Bool
  | .naturalJoin left right => left.holdsRefused d || right.holdsRefused d
  | .list items => holdRefused d items
  | .nested inner => inner.isRefusedAlone d || inner.holdsRefused d
  | _ => false

def holdRefused (d : Dialect) : List Source → Bool
  | [] => false
  | item :: rest => item.holdsRefused d || holdRefused d rest
end

/-- Parentheses around a lone derived table say nothing. -/
def enclosed : Source → Source
  | .derived query asName => .derived query asName
  | source => .nested source

mutual
/-- The tree without parentheses around derived tables alone. -/
def unwrapped : Source → Source
  | .naturalJoin left right => .naturalJoin left.unwrapped right.unwrapped
  | .list items => .list (unwrappedList items)
  | .nested inner => inner.unwrapped.enclosed
  | source => source

def unwrappedList : List Source → List Source
  | [] => []
  | item :: rest => item.unwrapped :: unwrappedList rest
end

theorem unwrappedList_eq_map (items : List Source) : unwrappedList items = items.map unwrapped := by
  induction items with
  | nil => rfl
  | cons item rest ih => rw [unwrappedList, ih, List.map_cons]

theorem holdRefused_iff {items : List Source} :
    holdRefused d items = true ↔ ∃ item ∈ items, item.holdsRefused d = true := by
  induction items with
  | nil => simp [holdRefused]
  | cons item rest ih => simp [holdRefused, ih]

theorem holdRefused_eq_false_iff {items : List Source} :
    holdRefused d items = false ↔ ∀ item ∈ items, item.holdsRefused d = false := by
  simp [← Bool.not_eq_true, holdRefused_iff]

theorem enclosed_eq_nested {source : Source} (h : source.isDerived = false) :
    source.enclosed = .nested source := by
  cases source with
  | derived query asName => cases h
  | _ => rfl

theorem enclosed_eq_self {source : Source} (h : source.isDerived = true) :
    source.enclosed = source := by
  cases source with
  | derived query asName => rfl
  | _ => cases h

theorem nests_of_isDerived {source : Source} (h : source.isDerived = true) :
    source.nests = false := by
  cases source with
  | derived query asName => rfl
  | _ => cases h

theorem allows_of_isRefusedAlone {source : Source} (hderived : source.isDerived = true)
    (h : source.isRefusedAlone d = false) : d.allowsParenthesizedTable = true := by
  cases source with
  | derived query asName => simp_all [isRefusedAlone]
  | _ => cases hderived

theorem isCombined_enclosed (source : Source) : source.enclosed.isCombined = false := by
  cases source <;> rfl

theorem isCombined_unwrapped (source : Source) :
    source.unwrapped.isCombined = source.isCombined := by
  cases source with
  | nested inner => exact isCombined_enclosed inner.unwrapped
  | _ => rfl

theorem isList_unwrapped (source : Source) : source.unwrapped.isList = source.isList := by
  cases source with
  | nested inner => cases h : inner.unwrapped <;> simp [unwrapped, h, enclosed, isList]
  | _ => rfl

theorem isShaped_of_enclosed {source : Source} (h : source.enclosed.isShaped false = true) :
    (source.isDerived = true ∨ source.nests = true) ∧ source.isShaped false = true := by
  cases source with
  | derived query asName => exact ⟨.inl rfl, h⟩
  | _ =>
      simp only [enclosed, isShaped, Bool.and_eq_true] at h ⊢
      exact ⟨.inr h.1, h.2⟩

theorem isShaped_of_unwrapped_naturalJoin {left right : Source}
    (h : (naturalJoin left right).unwrapped.isShaped false = true) :
    (left.isList = false ∧ left.unwrapped.isShaped false = true) ∧
      right.isCombined = false ∧ right.unwrapped.isShaped false = true := by
  simp only [unwrapped, isShaped, Bool.and_eq_true, Bool.not_eq_true'] at h
  obtain ⟨⟨hleft, hright⟩, hcombined⟩ := h
  have hlist := isList_of_isShaped hleft
  rw [isList_unwrapped] at hlist
  rw [isCombined_unwrapped] at hcombined
  exact ⟨⟨hlist, hleft⟩, hcombined, hright⟩

theorem isRefusedAlone_unwrapped : (source : Source) → source.isRefusedAlone d = false →
    source.holdsRefused d = false → source.unwrapped.isRefusedAlone d = false
  | .table _ _, h, _ => h
  | .join _ _ _ _, h, _ => h
  | .derived _ _, h, _ => h
  | .naturalJoin _ _, _, _ => rfl
  | .list _, _, _ => rfl
  | .nested inner, _, h => by
      rw [holdsRefused, Bool.or_eq_false_iff] at h
      have hinner := isRefusedAlone_unwrapped inner h.1 h.2
      rw [unwrapped]
      cases hderived : inner.unwrapped.isDerived with
      | true => rwa [enclosed_eq_self hderived]
      | false =>
          rw [enclosed_eq_nested hderived]
          rfl

theorem tableNames_enclosed (source : Source) : source.enclosed.tableNames = source.tableNames := by
  cases source <;> rfl

theorem check_enclosed (source : Source) : source.enclosed.check = source.check := by
  cases source <;> rfl

mutual
/-- The same tables in the same order. -/
theorem tableNames_unwrapped : (source : Source) → source.unwrapped.tableNames = source.tableNames
  | .table _ _ => rfl
  | .join _ _ _ _ => rfl
  | .derived _ _ => rfl
  | .naturalJoin left right => by
      rw [unwrapped, tableNames, tableNames, tableNames_unwrapped left, tableNames_unwrapped right]
  | .list items => by
      rw [unwrapped, tableNames, tableNames, tableNamesList_unwrapped items]
  | .nested inner => by
      rw [unwrapped, tableNames_enclosed, tableNames_unwrapped inner, tableNames]

theorem tableNamesList_unwrapped : (items : List Source) →
    tableNamesList (unwrappedList items) = tableNamesList items
  | [] => rfl
  | item :: rest => by
      rw [unwrappedList, tableNamesList, tableNamesList, tableNames_unwrapped item,
        tableNamesList_unwrapped rest]
end

mutual
theorem check_unwrapped : (source : Source) → source.unwrapped.check = source.check
  | .table _ _ => rfl
  | .join _ _ _ _ => rfl
  | .derived _ _ => rfl
  | .naturalJoin left right => by
      rw [unwrapped, check, check, check_unwrapped left, check_unwrapped right]
  | .list items => by
      rw [unwrapped, check, check, checkList_unwrapped items, unwrappedList_eq_map,
        List.isEmpty_map]
  | .nested inner => by
      rw [unwrapped, check_enclosed, check_unwrapped inner, check]

theorem checkList_unwrapped : (items : List Source) →
    checkList (unwrappedList items) = checkList items
  | [] => rfl
  | item :: rest => by
      rw [unwrappedList, checkList, checkList, check_unwrapped item, checkList_unwrapped rest]
end

/-! Parentheses that are dropped -/

/-- A text is read as a factor and as no query, whatever stands behind it. -/
structure IsClosed (d : Dialect) (depth : Nat) (text : String) (ts : List Token) (f : Factor) : Prop
    extends IsFactor d depth text ts f where
  notNested : isNestedFactor f = false
  noQuery : ∀ m, depth < m → ∀ rest, NoQuery (nestedAt d m) (ts ++ rest)

theorem IsClosed.parenthesized {text : String} {ts : List Token} {f : Factor}
    (h : IsClosed d depth text ts f) (hallowed : d.allowsParenthesizedTable = true) :
    IsClosed d (depth + 1) (Text.parenthesized text)
      (.symbol .lparen :: (ts ++ [.symbol .rparen])) f where
  spells := h.spells.parenthesized
  solid := ⟨List.cons_ne_nil _ _, noSpace_cons rfl _⟩
  reads := by
    intro m hm
    apply readsFactor_parenthesized h.solid (h.noQuery m hm) hallowed _ h.notNested
    intro fuel hfuel
    have hread := (ReadsJoined.single h.solid h.reads).reads (Nat.le_of_succ_le hm)
      (readsFactors_factorAt (by simpa using hfuel))
    simpa using hread
  notNested := h.notNested
  noQuery := by
    intro m hm rest
    obtain ⟨m, rfl⟩ : ∃ k, m = k + 1 := ⟨m - 1, by omega⟩
    rw [List.cons_append, List.append_assoc]
    exact noQuery_lparen (h.solid.noSpace_append _) (h.noQuery m (by omega) _)

theorem IsClosed.exists_readAs {source tree : Source} {ts : List Token} {f : Factor}
    (h : IsClosed d depth source.sql ts f) (hsource : f.source = .ok tree)
    (hnests : tree.nests = false) : ∃ ts us j, source.IsReadAs d depth ts us j tree := by
  refine ⟨_, _, _, .single h.toIsFactor hsource (fun m hm rest _ => h.noQuery m hm rest) ?_⟩
  simp [hnests]

/-- What is read from the text of a tree whose lone derived tables may stand in parentheses. -/
structure IsUnwrapRead (d : Dialect) (depth : Nat) (source : Source) : Prop where
  chain : ∃ ts us j, source.IsReadAs d depth ts us j source.unwrapped
  derived : source.unwrapped.isDerived = true → source.unwrapped.isRefusedAlone d = false →
    ∃ ts f, IsClosed d depth source.sql ts f ∧ f.source = .ok source.unwrapped

theorem IsUnwrapRead.of_chain {source : Source} (hderived : source.unwrapped.isDerived = false)
    (h : ∃ ts us j, source.IsReadAs d depth ts us j source.unwrapped) :
    source.IsUnwrapRead d depth :=
  ⟨h, fun hd => absurd hd (by simp [hderived])⟩

theorem isUnwrapRead_derived {query : Select} {asName : Option String} (hdepth : 0 < depth)
    (hquery : query.PartsRead d (depth - 1)) (halias : IsAliasRead d asName)
    (hshaped : query.isShaped = true) : (derived query asName).IsUnwrapRead d depth := by
  obtain ⟨depth, rfl⟩ := Nat.exists_eq_add_of_le' hdepth
  have hread := Select.isSelfRead query hquery hshaped
  refine ⟨exists_readAs_derived hread halias, fun _ hallowed => ?_⟩
  obtain ⟨ts, f, hfactor, hsource⟩ := exists_derivedFactor hread halias
  have hname : asName ≠ none := by
    rintro rfl
    simp [unwrapped, isRefusedAlone] at hallowed
  exact ⟨ts, f, ⟨hfactor.toIsFactor, hfactor.notNested,
    fun m hm rest => hfactor.noQuery m hm rest (.inr hname)⟩, hsource⟩

theorem isUnwrapRead_nested {inner : Source} (hdepth : 0 < depth)
    (h : inner.IsUnwrapRead d (depth - 1))
    (hshaped : inner.unwrapped.isDerived = true ∨ inner.unwrapped.nests = true)
    (hallowed : inner.unwrapped.isRefusedAlone d = false) :
    (nested inner).IsUnwrapRead d depth := by
  obtain ⟨depth, rfl⟩ := Nat.exists_eq_add_of_le' hdepth
  -- Parentheses that are dropped may stand in others, which are dropped as well.
  cases hderived : inner.unwrapped.isDerived with
  | true =>
      obtain ⟨ts, f, hclosed, hsource⟩ := h.derived hderived hallowed
      have houter := hclosed.parenthesized (allows_of_isRefusedAlone hderived hallowed)
      have hunwrapped : (nested inner).unwrapped = inner.unwrapped := enclosed_eq_self hderived
      rw [← hunwrapped] at hsource hderived
      exact ⟨houter.exists_readAs hsource (nests_of_isDerived hderived),
        fun _ _ => ⟨_, f, houter, hsource⟩⟩
  | false =>
      have hunwrapped := enclosed_eq_nested hderived
      apply IsUnwrapRead.of_chain
      · rw [unwrapped, hunwrapped]
        rfl
      · rw [unwrapped, hunwrapped]
        exact exists_readAs_nested (hshaped.resolve_left (by simp [hderived])) h.chain

theorem isUnwrapRead : (source : Source) → ∀ {depth}, source.PartsRead d depth →
    source.unwrapped.isShaped false = true → source.holdsRefused d = false →
      source.IsUnwrapRead d depth
  | .table _ _, _, h, hshaped, _ => .of_chain rfl ((isSelfRead _ h).chain hshaped)
  | .join _ _ _ _, _, h, hshaped, _ => .of_chain rfl ((isSelfRead _ h).chain hshaped)
  | .derived _ _, _, ⟨hdepth, hquery, halias⟩, hshaped, _ =>
      isUnwrapRead_derived hdepth hquery halias hshaped
  | .naturalJoin left right, _, ⟨hleft, hright⟩, hshaped, hallowed => by
      obtain ⟨⟨hlist, hshapedLeft⟩, hcombined, hshapedRight⟩ :=
        isShaped_of_unwrapped_naturalJoin hshaped
      rw [holdsRefused, Bool.or_eq_false_iff] at hallowed
      exact .of_chain rfl (exists_readAs_naturalJoin hlist
        (isUnwrapRead left hleft hshapedLeft hallowed.1).chain
        (exists_operand_of_readAs hcombined
          (isUnwrapRead right hright hshapedRight hallowed.2).chain))
  | .list _, _, _, hshaped, _ => nomatch hshaped
  | .nested inner, _, ⟨hdepth, h⟩, hshaped, hallowed => by
      rw [holdsRefused, Bool.or_eq_false_iff] at hallowed
      obtain ⟨hnests, hshapedInner⟩ := isShaped_of_enclosed hshaped
      exact isUnwrapRead_nested hdepth (isUnwrapRead inner h hshapedInner hallowed.2) hnests
        (isRefusedAlone_unwrapped inner hallowed.1 hallowed.2)

theorem exists_readUnwrapped {source : Source} (hparts : source.PartsRead d depth)
    (hshaped : source.unwrapped.isShaped true = true) (hallowed : source.holdsRefused d = false) :
    ∃ ts js trees, source.IsReadList d depth ts js trees source.unwrapped := by
  cases hlist : source.isList with
  | false =>
      rw [← isList_unwrapped] at hlist
      rw [isShaped_root true hlist] at hshaped
      obtain ⟨ts, us, j, hj⟩ := (isUnwrapRead source hparts hshaped hallowed).chain
      exact ⟨_, _, _, hj.isReadList⟩
  | true =>
      cases source with
      | list items =>
          simp only [unwrapped, unwrappedList_eq_map, isShaped, Bool.true_and, Bool.and_eq_true,
            decide_eq_true_eq, List.length_map] at hshaped
          have hchains (item : Source) (hmem : item ∈ items) :
              ∃ ts us j, item.IsReadAs d depth ts us j item.unwrapped := by
            have hitem := areShaped_iff.mp hshaped.2 _ (List.mem_map_of_mem hmem)
            exact (isUnwrapRead item (partsReadList_iff.mp hparts item hmem) hitem
              (holdRefused_eq_false_iff.mp hallowed item hmem)).chain
          obtain ⟨ts, js, hread⟩ := exists_readList_list hshaped.1 unwrapped hchains
          rw [← unwrappedList_eq_map] at hread
          exact ⟨ts, js, _, hread⟩
      | _ => cases hlist

end Source

end SelectTree
