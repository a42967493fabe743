import SelectTree.Proofs.TreeReading

namespace SelectTree

open Sql Sql.Grammar Sql.Parser

/-! `FROM` trees that are read from the text they print. The parser makes trees of one shape only,
and these are read as they are, whatever joins, parentheses and derived tables they are made of. -/

variable {d : Dialect} {depth : Nat}

/-! Shapes -/

mutual
/-- The trees that a parser makes. A list of two sources or more stands only at the root of a
query, no join on the right side of a join, and in parentheses a join or other parentheses. -/
def Source.isShaped : (root : Bool) → Source → Bool
  | _, .table _ _ => true
  | _, .join _ left right _ =>
      left.isShaped false && right.isShaped false && !right.isCombined
  | _, .naturalJoin left right =>
      left.isShaped false && right.isShaped false && !right.isCombined
  | root, .list items => root && 2 ≤ items.length && Source.areShaped items
  | _, .nested inner => inner.nests && inner.isShaped false
  | _, .derived query _ => query.isShaped

def Source.areShaped : List Source → Bool
  | [] => true
  | item :: rest => item.isShaped false && Source.areShaped rest

def Select.isShaped : Select → Bool
  | ⟨_, source, _, _, _⟩ => source.isShaped true
end

theorem Select.isShaped_eq (q : Select) : q.isShaped = q.source.isShaped true := by
  cases q
  rw [isShaped]

/-! Parts -/

/-- The text of a table is read as the table, and as no query where a join stands behind it. -/
def IsTableRead (d : Dialect) (depth : Nat) (name : String) (asName : Option String) : Prop :=
  ∃ ts f, IsFactor d depth (Source.table name asName).sql ts f ∧
    f.source = .ok (.table name asName) ∧
    ∀ m, depth < m → ∀ rest, HeadIn joinStarts rest → NoQuery (nestedAt d m) (ts ++ rest)

mutual
/-- Tables, names, constraints and the other clauses of derived tables are read as what they are,
each of them by itself, with the layers that are left where it stands. -/
def Source.PartsRead (d : Dialect) : (depth : Nat) → Source → Prop
  | depth, .table name asName => IsTableRead d depth name asName
  | depth, .join _ left right constraint =>
      left.PartsRead d depth ∧ right.PartsRead d depth ∧ constraint.IsRead d depth
  | depth, .naturalJoin left right => left.PartsRead d depth ∧ right.PartsRead d depth
  | depth, .list items => Source.PartsReadList d depth items
  | depth, .nested inner => 0 < depth ∧ inner.PartsRead d (depth - 1)
  | depth, .derived query asName =>
      0 < depth ∧ query.PartsRead d (depth - 1) ∧ IsAliasRead d asName

def Source.PartsReadList (d : Dialect) : (depth : Nat) → List Source → Prop
  | _, [] => True
  | depth, item :: rest => item.PartsRead d depth ∧ Source.PartsReadList d depth rest

def Select.PartsRead (d : Dialect) : (depth : Nat) → Select → Prop
  | depth, ⟨items, source, filter, groupBy, orderBy⟩ =>
      source.PartsRead d depth ∧ IsItemsRead d depth items ∧ IsFilterRead d depth filter filter ∧
        IsGroupingRead d depth groupBy ∧ IsOrderRead d depth orderBy
end

theorem Source.partsReadList_iff {items : List Source} :
    Source.PartsReadList d depth items ↔ ∀ item ∈ items, item.PartsRead d depth := by
  induction items with
  | nil => simp [Source.PartsReadList]
  | cons item rest ih => rw [Source.PartsReadList, ih, List.forall_mem_cons]

theorem IsTableRead.mono {name : String} {asName : Option String}
    (h : IsTableRead d depth name asName) {depth' : Nat} (hdepth : depth ≤ depth') :
    IsTableRead d depth' name asName := by
  obtain ⟨ts, f, hfactor, hsource, hquery⟩ := h
  exact ⟨ts, f, hfactor.mono hdepth, hsource,
    fun m hm => hquery m (Nat.lt_of_le_of_lt hdepth hm)⟩

/-- A table in plain words. -/
theorem IsPlainTable.isTableRead {name : String} {asName : Option String} (h : IsPlainTable d name)
    (halias : IsPlainAlias d asName) (depth : Nat) : IsTableRead d depth name asName := by
  obtain ⟨first, more, hfirst, hmore, rfl⟩ := h
  refine ⟨_, _, Source.isFactor_table hfirst hmore halias, Source.source_tableFactor _ asName, ?_⟩
  intro m hm rest _
  cases more with
  | nil => exact noQuery_table hfirst (Nat.zero_lt_of_lt hm) _
  | cons next more => exact noQuery_table hfirst (Nat.zero_lt_of_lt hm) _

theorem exists_readAs_of_isTableRead {name : String} {asName : Option String}
    (h : IsTableRead d depth name asName) :
    ∃ ts us j, (Source.table name asName).IsReadAs d depth ts us j (.table name asName) := by
  obtain ⟨ts, f, hfactor, hsource, hquery⟩ := h
  refine ⟨_, _, _, .single hfactor hsource ?_ nofun⟩
  intro m hm rest hrest
  apply hquery m hm rest
  apply hrest.resolve_right
  intro hnested
  -- The tree of a factor in parentheses is no table.
  cases f with
  | nested inner asName =>
      cases asName with
      | none =>
          obtain ⟨tree, -, htree⟩ := bind_eq_ok_iff.mp hsource
          cases htree
      | some asName => cases hsource
  | _ => cases hnested

/-! Trees that are read -/

/-- What is read from the text of a shaped tree, wherever it stands. -/
structure Source.IsSelfRead (d : Dialect) (depth : Nat) (source : Source) : Prop where
  chain : source.isShaped false = true → ∃ ts us j, source.IsReadAs d depth ts us j source
  sources : source.isShaped true = true → ∃ ts js trees, source.IsReadList d depth ts js trees source

namespace Source

variable {source left right : Source}

theorem isShaped_root (root : Bool) (h : source.isList = false) :
    source.isShaped root = source.isShaped false := by
  cases source with
  | list items => cases h
  | _ => simp only [isShaped]

theorem isList_of_isShaped (h : source.isShaped false = true) : source.isList = false := by
  cases source with
  | list items => cases h
  | _ => rfl

theorem IsSelfRead.of_chain (hlist : source.isList = false)
    (h : source.isShaped false = true → ∃ ts us j, source.IsReadAs d depth ts us j source) :
    source.IsSelfRead d depth where
  chain := h
  sources := by
    intro hshaped
    rw [isShaped_root true hlist] at hshaped
    obtain ⟨ts, us, j, hj⟩ := h hshaped
    exact ⟨_, _, _, hj.isReadList⟩

/-- The right side of a join stands in no parentheses but its own. -/
theorem exists_operand_of_readAs {tree : Source} (hcombined : right.isCombined = false)
    (h : ∃ ts us j, right.IsReadAs d depth ts us j tree) :
    ∃ vs f, IsFactor d depth right.operand vs f ∧ f.source = .ok tree := by
  have hparentheses : right.parentheses = 0 := by simp [parentheses, hcombined]
  obtain ⟨ts, us, j, hj⟩ := h
  have hread : right.IsReadAs d (depth - right.parentheses) ts us j tree := by
    rwa [hparentheses, Nat.sub_zero]
  obtain ⟨vs, f, hfactor, hsource⟩ :=
    hread.exists_operand (by simp [hcombined]) (hparentheses ▸ Nat.zero_le depth)
  exact ⟨vs, f, hfactor, by simpa [grouped, hcombined] using hsource⟩

section Joins

variable (hleft : left.IsSelfRead d depth) (hright : right.IsSelfRead d depth)
include hleft hright

theorem isSelfRead_join {kind : JoinKind} {constraint : JoinConstraint}
    (hconstraint : constraint.IsRead d depth) :
    (join kind left right constraint).IsSelfRead d depth := by
  apply IsSelfRead.of_chain rfl
  intro hshaped
  simp only [isShaped, Bool.and_eq_true, Bool.not_eq_true'] at hshaped
  obtain ⟨⟨hshapedLeft, hshapedRight⟩, hcombined⟩ := hshaped
  exact exists_readAs_join (isList_of_isShaped hshapedLeft) (hleft.chain hshapedLeft)
    (exists_operand_of_readAs hcombined (hright.chain hshapedRight)) hconstraint

theorem isSelfRead_naturalJoin : (naturalJoin left right).IsSelfRead d depth := by
  apply IsSelfRead.of_chain rfl
  intro hshaped
  simp only [isShaped, Bool.and_eq_true, Bool.not_eq_true'] at hshaped
  obtain ⟨⟨hshapedLeft, hshapedRight⟩, hcombined⟩ := hshaped
  exact exists_readAs_naturalJoin (isList_of_isShaped hshapedLeft) (hleft.chain hshapedLeft)
    (exists_operand_of_readAs hcombined (hright.chain hshapedRight))

end Joins

theorem isSelfRead_nested {inner : Source} (hdepth : 0 < depth)
    (h : inner.IsSelfRead d (depth - 1)) : (nested inner).IsSelfRead d depth := by
  apply IsSelfRead.of_chain rfl
  intro hshaped
  simp only [isShaped, Bool.and_eq_true] at hshaped
  obtain ⟨depth, rfl⟩ := Nat.exists_eq_add_of_le' hdepth
  exact exists_readAs_nested hshaped.1 (h.chain hshaped.2)

theorem areShaped_iff {items : List Source} :
    areShaped items = true ↔ ∀ item ∈ items, item.isShaped false = true := by
  induction items with
  | nil => simp [areShaped]
  | cons item rest ih => rw [areShaped, Bool.and_eq_true, ih, List.forall_mem_cons]

theorem isSelfRead_list {items : List Source} (h : ∀ item ∈ items, item.IsSelfRead d depth) :
    (list items).IsSelfRead d depth where
  chain := nofun
  sources := by
    intro hshaped
    simp only [isShaped, Bool.true_and, Bool.and_eq_true, decide_eq_true_eq] at hshaped
    obtain ⟨ts, js, hread⟩ := exists_readList_list hshaped.1 id fun item hmem =>
      (h item hmem).chain (areShaped_iff.mp hshaped.2 item hmem)
    rw [List.map_id] at hread
    exact ⟨ts, js, items, hread⟩

end Source

mutual
theorem Source.isSelfRead : (source : Source) → ∀ {depth}, source.PartsRead d depth →
    source.IsSelfRead d depth
  | .table _ _, _, h => .of_chain rfl fun _ => exists_readAs_of_isTableRead h
  | .join _ left right _, _, ⟨hleft, hright, hconstraint⟩ =>
      Source.isSelfRead_join (Source.isSelfRead left hleft) (Source.isSelfRead right hright) hconstraint
  | .naturalJoin left right, _, ⟨hleft, hright⟩ =>
      Source.isSelfRead_naturalJoin (Source.isSelfRead left hleft) (Source.isSelfRead right hright)
  | .list items, _, h => Source.isSelfRead_list (Source.isSelfRead_of_mem items h)
  | .nested inner, _, ⟨hdepth, h⟩ => Source.isSelfRead_nested hdepth (Source.isSelfRead inner h)
  | .derived query _, _, ⟨hdepth, hquery, halias⟩ => by
      apply Source.IsSelfRead.of_chain rfl
      intro hshaped
      obtain ⟨depth, rfl⟩ := Nat.exists_eq_add_of_le' hdepth
      exact Source.exists_readAs_derived (Select.isSelfRead query hquery hshaped) halias

theorem Source.isSelfRead_of_mem : (items : List Source) → ∀ {depth},
    Source.PartsReadList d depth items → ∀ item ∈ items, item.IsSelfRead d depth
  | [], _, _ => nofun
  | first :: rest, _, ⟨hfirst, hrest⟩ => List.forall_mem_cons.mpr
      ⟨Source.isSelfRead first hfirst, Source.isSelfRead_of_mem rest hrest⟩

theorem Select.isSelfRead : (q : Select) → ∀ {depth}, q.PartsRead d depth → q.isShaped = true →
    ∃ ts query, q.IsReadAs d depth ts query q
  | ⟨_, source, _, _, _⟩, _, ⟨hsource, hitems, hfilter, hgroup, horder⟩, hshaped =>
      Select.exists_readAs hitems ((Source.isSelfRead source hsource).sources hshaped) hfilter hgroup
        horder
end

/-! Trees in plain words -/

/-- The right side of a join that is read back as it is stands in no parentheses of its own. -/
theorem Source.isPlain_of_grouped {right : Source}
    (hplain : right.IsPlain d (depth - right.parentheses))
    (h : right.grouped right.reread = right) : right.IsPlain d depth ∧ right.reread = right := by
  cases right with
  | join | naturalJoin | list => cases h
  | _ => exact ⟨hplain, h⟩

mutual
theorem Source.IsPlain.partsRead : (source : Source) → ∀ {depth}, source.IsPlain d depth →
    source.reread = source → source.PartsRead d depth
  | .table _ _, depth, ⟨htable, halias⟩, _ => htable.isTableRead halias depth
  | .join _ left right _, _, ⟨⟨_, hleft⟩, ⟨_, _, hright⟩, hconstraint⟩, h => by
      injection h with _ hrereadLeft hrereadRight
      obtain ⟨hright, hrereadRight⟩ := Source.isPlain_of_grouped hright hrereadRight
      exact ⟨Source.IsPlain.partsRead left hleft hrereadLeft,
        Source.IsPlain.partsRead right hright hrereadRight, hconstraint.isRead⟩
  | .naturalJoin left right, _, ⟨⟨_, hleft⟩, _, _, hright⟩, h => by
      injection h with hrereadLeft hrereadRight
      obtain ⟨hright, hrereadRight⟩ := Source.isPlain_of_grouped hright hrereadRight
      exact ⟨Source.IsPlain.partsRead left hleft hrereadLeft,
        Source.IsPlain.partsRead right hright hrereadRight⟩
  | .list items, _, ⟨_, hitems⟩, h =>
      Source.IsPlain.partsReadList items hitems (Source.list.inj h)
  | .nested inner, _, ⟨hdepth, _, hinner⟩, h =>
      ⟨hdepth, Source.IsPlain.partsRead inner hinner (Source.nested.inj h)⟩
  | .derived query _, _, ⟨hdepth, hquery, halias⟩, h =>
      ⟨hdepth, Select.IsPlain.partsRead query hquery (Source.derived.inj h).1, halias.isAliasRead⟩

theorem Source.IsPlain.partsReadList : (items : List Source) → ∀ {depth},
    Source.IsPlainList d depth items → Source.rereadList items = items →
      Source.PartsReadList d depth items
  | [], _, _, _ => trivial
  | item :: rest, _, ⟨⟨_, hitem⟩, hrest⟩, h => by
      injection h with hreread hrereadRest
      exact ⟨Source.IsPlain.partsRead item hitem hreread,
        Source.IsPlain.partsReadList rest hrest hrereadRest⟩

/-- The parts of a query in plain words that is read back as it is. -/
theorem Select.IsPlain.partsRead : (q : Select) → ∀ {depth}, q.IsPlain d depth → q.reread = q →
    q.PartsRead d depth
  | ⟨_, source, filter, _, _⟩, depth, ⟨⟨hne, hitems⟩, hsource, hfilter, hgroup, horder⟩, h => by
      injection h with _ hrereadSource hrereadFilter
      have hread : IsFilterRead d depth filter (filter.map Predicate.reassociated) :=
        isFilterRead_readable fun p hp => (hfilter p hp).isReadable
      rw [hrereadFilter] at hread
      exact ⟨Source.IsPlain.partsRead source hsource hrereadSource, exists_items hne hitems, hread,
        isGroupingRead_plain hgroup, isOrderRead_plain horder⟩
end

/-! Texts of sources -/

/-- The `FROM` tree that a text holds, read within `depth` layers. -/
def readSource (d : Dialect) (depth : Nat) (text : String) : Option Source := do
  let lexemes ← (lex d text.toList).toOption
  let (js, rest) ← (sources d (nestedAt d depth) (lexemes.map Lexeme.token)).toOption
  if rest.isEmpty then
    match ← (Joined.sources js).toOption with
    | [tree] => some tree
    | trees => some (.list trees)
  else none

theorem Source.IsReadList.readSource_eq {source tree : Source} {ts : List Token} {js : List Joined}
    {trees : List Source} (h : source.IsReadList d depth ts js trees tree) :
    readSource d depth source.sql = some tree := by
  obtain ⟨lexemes, hlex, htokens⟩ := h.spells.lex
  have hread := h.reads depth (Nat.le_refl depth) [] (headIn_nil _)
  rw [List.append_nil] at hread
  have hlower := h.sources_eq
  have htree := h.tree_eq
  rcases trees with _ | ⟨first, _ | ⟨second, more⟩⟩ <;>
    simp [readSource, hlex, htokens, hread, hlower, htree, Except.toOption]

/-- Flights with their carriers and airports, beside the pairs of two tables. -/
def flightsBesidePairs : Source :=
  .list
    [.join .left
      (.naturalJoin (.table "flights" (some "f"))
        (.nested (.join .plain (.bare "carriers") (.bare "fleets") (.usingColumns ["carrier_id"]))))
      (.derived (.new [.identifier "id"] (.naturalJoin (.bare "airports") (.bare "cities")))
        (some "a"))
      (.on "a.id = f.origin"),
    .nested (.nested (.naturalJoin (.bare "pilots") (.bare "crews")))]

theorem partsRead_flightsBesidePairs : flightsBesidePairs.PartsRead .sqlite 4 := by
  have htable : ∀ name ∈ ["flights", "carriers", "fleets", "airports", "cities", "pilots", "crews"],
      ∀ asName depth, IsPlainAlias .sqlite asName → IsTableRead .sqlite depth name asName := by
    intro name hname asName depth halias
    refine IsPlainTable.isTableRead ⟨⟨name, none⟩, [], ?_, nofun, rfl⟩ halias depth
    revert name
    decide +kernel
  have halias : ∀ text ∈ ["f", "a"], IsPlainAlias .sqlite (some text) := by
    rintro text htext _ ⟨⟩
    revert text
    decide +kernel
  have hcolumn : ∀ text ∈ ["f", "a", "id", "origin"], isOperandName .sqlite ⟨text, none⟩ = true := by
    decide +kernel
  have hon : (JoinConstraint.on "a.id = f.origin").IsRead .sqlite 4 := by
    apply JoinConstraint.IsPlain.isRead
    have hleft : Phrase .sqlite 4 (Binding.equality.strength .sqlite - 1)
        (Name.pathSql [⟨"a", none⟩, ⟨"id", none⟩]) _ _ :=
      .column (m := 3) (by simp) (by simp [hcolumn]) (by decide)
    have hright : Phrase .sqlite 3 (Binding.equality.strength .sqlite)
        (Name.pathSql [⟨"f", none⟩, ⟨"origin", none⟩]) _ _ :=
      .column (m := 2) (by simp) (by simp [hcolumn]) (by decide)
    have hlink : Phrase .sqlite 4 0 "a.id = f.origin" _ _ :=
      Phrase.link (by decide : 0 < (Link.compare .eq).binding.strength .sqlite) hleft hright
    exact ⟨_, _, hlink, rfl⟩
  have husing : (JoinConstraint.usingColumns ["carrier_id"]).IsRead .sqlite 3 := by
    apply JoinConstraint.IsPlain.isRead
    exact ⟨[[⟨"carrier_id", none⟩]], by simp, by simp; decide +kernel, rfl⟩
  have hitems : IsItemsRead .sqlite 3 [.identifier "id"] := by
    apply exists_items (List.cons_ne_nil _ _)
    intro item hitem
    obtain rfl := List.mem_singleton.mp hitem
    exact .inl ⟨[⟨"id", none⟩], by simp, by simp [hcolumn], by decide, rfl⟩
  refine ⟨⟨⟨htable _ (by simp) _ _ (halias _ (by simp)), ?_, ?_, ?_, husing⟩, ⟨?_, ⟨⟨?_, ?_⟩, hitems,
    isFilterRead_none, isGroupingRead_nil, isOrderRead_nil⟩, ?_⟩, hon⟩, ⟨?_, ?_, ?_, ?_⟩, trivial⟩
  any_goals decide
  any_goals exact htable _ (by simp) none _ nofun
  exact (halias _ (by simp)).isAliasRead

end SelectTree
