import SelectTree.Proofs.ReadSources
import SelectTree.Proofs.TableTokens

/-! The shape of the trees that are read. Whatever the text, the grammar puts a list of sources only
at the root of a query, a single factor on the right side of a join, and joins or more parentheses
in parentheses. -/

namespace SelectTree.Sql

open Grammar

/-! Trees of what is written -/

/-- The tree of a factor may stand on either side of a join. -/
def Factor.Shapes (f : Factor) : Prop :=
  ∀ tree, f.source = .ok tree → tree.isShaped false = true ∧ tree.isCombined = false

def Join.Shapes (join : Join) : Prop :=
  ∀ left tree, left.isShaped false = true → join.source left = .ok tree →
    tree.isShaped false = true ∧ tree.nests = true

structure Joined.Shapes (j : Joined) : Prop where
  first : j.first.Shapes
  joins : ∀ join ∈ j.joins, join.Shapes

def Body.Shapes (b : Body) : Prop :=
  ∀ tree, b.select = .ok tree → tree.isShaped = true

def Query.Shapes (q : Query) : Prop :=
  ∀ tree, q.select = .ok tree → tree.isShaped = true

/-- The statement is no query, or one with a tree of such a shape. -/
def Statement.Shapes (s : Statement) : Prop :=
  ∀ q, s = .query q → q.Shapes

theorem shapes_of_treeless {f : Factor} (h : Treeless f) : f.Shapes :=
  fun tree htree => absurd htree (h tree)

theorem shapes_table (path partitions : List Name) (arguments : Option (List Argument))
    (ordinality : Bool) (asName : Option Alias) (hints : List String) :
    (Factor.table path partitions arguments ordinality asName hints).Shapes := by
  intro tree h
  cases arguments with
  | some arguments => cases h
  | none =>
      obtain rfl := Except.ok.inj h
      exact ⟨rfl, rfl⟩

theorem Query.Shapes.derived {q : Query} (h : q.Shapes) (asName : Option Alias) :
    (Factor.derived false q asName).Shapes := by
  intro tree htree
  obtain ⟨select, hselect, htree⟩ := bind_eq_ok_iff.mp htree
  obtain rfl := Except.ok.inj htree
  exact ⟨h select hselect, rfl⟩

theorem Factor.Shapes.join {right : Factor} (h : right.Shapes) (isGlobal : Bool) (words : JoinWords)
    (condition : Condition) : (Join.mk isGlobal words right condition).Shapes := by
  intro left tree hleft htree
  obtain ⟨rightTree, hright, htree⟩ := bind_eq_ok_iff.mp htree
  obtain ⟨hshaped, hcombined⟩ := h rightTree hright
  have hjoined : (left.isShaped false && rightTree.isShaped false && !rightTree.isCombined) = true := by
    simp [hleft, hshaped, hcombined]
  unfold Join.combine at htree
  split at htree
  · cases htree
  · split at htree
    · split at htree
      · obtain rfl := Except.ok.inj htree
        exact ⟨hjoined, rfl⟩
      · cases htree
    all_goals
      obtain rfl := Except.ok.inj htree
      exact ⟨hjoined, rfl⟩

theorem isShaped_sourceFrom {joins : List Join} (h : ∀ join ∈ joins, join.Shapes)
    {left tree : Source} (hleft : left.isShaped false = true)
    (htree : Join.sourceFrom left joins = .ok tree) :
    tree.isShaped false = true ∧ (left.nests = true ∨ joins ≠ [] → tree.nests = true) := by
  induction joins generalizing left with
  | nil =>
      obtain rfl := Except.ok.inj htree
      exact ⟨hleft, fun hnests => hnests.resolve_right (· rfl)⟩
  | cons join rest ih =>
      obtain ⟨next, hnext, htree⟩ := bind_eq_ok_iff.mp htree
      obtain ⟨hjoin, hrest⟩ := List.forall_mem_cons.mp h
      obtain ⟨hshaped, hnests⟩ := hjoin left next hleft hnext
      obtain ⟨hshaped, hkept⟩ := ih hrest hshaped htree
      exact ⟨hshaped, fun _ => hkept (.inl hnests)⟩

theorem Joined.Shapes.isShaped {j : Joined} (h : j.Shapes) {tree : Source}
    (htree : j.source = .ok tree) : tree.isShaped false = true ∧
      (j.joins ≠ [] ∨ isNestedFactor j.first = true → tree.nests = true) := by
  obtain ⟨first, joins⟩ := j
  obtain ⟨base, hbase, htree⟩ := bind_eq_ok_iff.mp htree
  obtain ⟨hshaped, hkept⟩ := isShaped_sourceFrom h.joins (h.first base hbase).1 htree
  refine ⟨hshaped, fun hnests => hkept ?_⟩
  rcases hnests with hjoins | hnested
  · exact .inr hjoins
  · left
    cases first with
    | nested inner asName =>
        cases asName with
        | some asName => cases hbase
        | none =>
            obtain ⟨_, -, hbase⟩ := bind_eq_ok_iff.mp hbase
            obtain rfl := Except.ok.inj hbase
            rfl
    | _ => cases hnested

/-- Parentheses have a tree only where joins or other parentheses are in them. -/
theorem Joined.Shapes.nested {j : Joined} (h : j.Shapes)
    (hnests : j.joins ≠ [] ∨ isNestedFactor j.first = true) (asName : Option Alias) :
    (Factor.nested j asName).Shapes := by
  intro tree htree
  cases asName with
  | some asName => cases htree
  | none =>
      obtain ⟨inner, hinner, htree⟩ := bind_eq_ok_iff.mp htree
      obtain rfl := Except.ok.inj htree
      obtain ⟨hshaped, hkept⟩ := h.isShaped hinner
      refine ⟨?_, rfl⟩
      rw [Source.isShaped, hshaped, hkept hnests]
      rfl

theorem Factor.Shapes.renamed {f : Factor} (h : f.Shapes) (hnested : isNestedFactor f = false)
    (asName : Alias) : (Grammar.renamed asName f).Shapes := by
  cases f with
  | table path partitions arguments ordinality _ hints => exact shapes_table _ _ _ _ _ _
  | derived lateral q given =>
      cases lateral with
      | true => exact shapes_of_treeless (treeless_lateral q _)
      | false =>
          apply Query.Shapes.derived
          intro select hselect
          have htree : (Factor.derived false q given).source =
              .ok (.derived select (aliasText given)) :=
            bind_eq_ok_iff.mpr ⟨select, hselect, rfl⟩
          exact (h _ htree).1
  | nested inner _ => cases hnested
  | other before _ after => exact shapes_of_treeless (treeless_other _ _ _)

theorem areShaped_of_sources {js : List Joined} (h : ∀ j ∈ js, j.Shapes) {trees : List Source}
    (htrees : Joined.sources js = .ok trees) : Source.areShaped trees = true := by
  induction js generalizing trees with
  | nil =>
      obtain rfl := Except.ok.inj htrees
      rfl
  | cons j js ih =>
      obtain ⟨tree, more, htree, hmore, rfl⟩ := Joined.sources_cons_eq_ok htrees
      obtain ⟨hj, hjs⟩ := List.forall_mem_cons.mp h
      rw [Source.areShaped, (hj.isShaped htree).1, ih hjs hmore]
      rfl

/-- A query whose source is a list has two sources or more. -/
theorem shapes_of_sources {s : Selection} (h : ∀ j ∈ s.sources, j.Shapes) :
    (Body.selection s).Shapes := by
  intro tree htree
  obtain ⟨trees, htrees, hsource, -⟩ := Selection.select_eq_ok htree
  have hshaped := areShaped_of_sources h htrees
  rw [Select.isShaped_eq]
  rcases hsource with rfl | ⟨htwo, hlist⟩
  · rw [Source.areShaped, Bool.and_eq_true] at hshaped
    rw [Source.isShaped_root true (Source.isList_of_isShaped hshaped.1)]
    exact hshaped.1
  · rw [hlist, Source.isShaped, hshaped]
    simpa using htwo

theorem Query.shapes_of_body {q : Query} (h : q.body.Shapes) : q.Shapes := by
  intro tree htree
  obtain ⟨read, hread, -, heq⟩ := Query.select_eq_ok htree
  rw [heq, Select.isShaped_eq, ← Select.isShaped_eq read]
  exact h read hread

end SelectTree.Sql

namespace SelectTree.Sql.Grammar

open Sql.Parser

variable {d : Dialect} {n : Nested}

/-! What the grammar reads -/

theorem yields_optionally {α : Type} {c : Parser Bool} {p : Parser α} {P : α → Prop}
    (hp : Yields p P) : Yields (optionally c p) fun read => ∀ a ∈ read, P a := by
  refine yields_bind fun holds => yields_ite ?_ (yields_pure nofun)
  refine hp.bind fun a ha => yields_pure ?_
  rintro _ ⟨⟩
  exact ha

theorem yields_attempt {α : Type} {p : Parser α} {P : α → Prop} (hp : Yields p P) :
    Yields (attempt p) fun read => ∀ a ∈ read, P a := by
  intro ts read rest h a ha
  rcases attempt_eq_ok h with ⟨b, rfl, hb⟩ | ⟨rfl, -⟩
  · obtain rfl := Option.some.inj ha
    exact hp.of_ok hb
  · cases ha

theorem yields_commaSeparated {α : Type} {p : Parser α} {P : α → Prop} (hp : Yields p P) :
    Yields (commaSeparated p) fun as => ∀ a ∈ as, P a := by
  rw [commaSeparated_eq, commaSeparatedUntil_eq]
  refine hp.bind fun first hfirst => ?_
  refine yields_iterate (I := fun read => ∀ a ∈ read, P a) ?_ (by simpa using hfirst)
  intro read hread
  have hends : ∀ a ∈ read.reverse, P a := fun a hmem => hread a (List.mem_reverse.mp hmem)
  refine yields_bind fun goesOn => yields_ite (yields_bind fun ends => yields_ite ?_ ?_) ?_
  · exact yields_pure hends
  · exact hp.bind fun next hnext => yields_pure (List.forall_mem_cons.mpr ⟨hnext, hread⟩)
  · exact yields_pure hends

theorem yields_crossJoin {p : Parser Factor} (hp : Yields p Factor.Shapes) (isGlobal : Bool) :
    Yields (crossJoin d n p isGlobal) Join.Shapes := by
  refine yields_bind fun isJoin => yields_ite ?_ (yields_bind fun isApply => yields_ite ?_ ?_)
  · refine hp.bind fun right hright => ?_
    have hjoin : ∀ condition, Yields (pure ⟨isGlobal, .other "CROSS JOIN" "", right, condition⟩)
        Join.Shapes :=
      fun condition => yields_pure (hright.join _ _ _)
    exact yields_ite (yields_bind hjoin) (yields_bind hjoin)
  · exact hp.bind fun right hright => yields_pure (hright.join _ _ _)
  · exact yields_fail _

theorem yields_asOfJoin {p : Parser Factor} (hp : Yields p Factor.Shapes) (isGlobal : Bool) :
    Yields (asOfJoin n p isGlobal) Join.Shapes :=
  yields_bind fun _ => hp.bind fun _ hright => yields_bind fun _ => yields_bind fun _ =>
    yields_bind fun _ => yields_pure (hright.join _ _ _)

theorem yields_join? {p : Parser Factor} (hp : Yields p Factor.Shapes) :
    Yields (join? d n p) fun read => ∀ join ∈ read, join.Shapes := by
  have hsome : ∀ {join : Join}, join.Shapes → Yields (pure (some join) : Parser (Option Join))
      fun read => ∀ join ∈ read, join.Shapes := by
    intro join hjoin
    apply yields_pure
    rintro _ ⟨⟩
    exact hjoin
  refine yields_bind fun isGlobal => yields_bind fun isCross => yields_ite ?_ ?_
  · exact (yields_crossJoin hp isGlobal).bind fun join hjoin => hsome hjoin
  · refine yields_bind fun isOuter => yields_ite ?_ ?_
    · exact yields_bind fun _ => hp.bind fun right hright => hsome (hright.join _ _ _)
    · refine yields_bind fun isAsOf => yields_ite ?_ ?_
      · exact (yields_asOfJoin hp isGlobal).bind fun join hjoin => hsome hjoin
      · refine yields_bind fun natural => yields_bind fun words => ?_
        cases words with
        | none => exact yields_pure nofun
        | some words =>
            exact hp.bind fun right hright => yields_bind fun condition =>
              hsome (hright.join _ _ _)

theorem yields_joinedWith {p : Parser Factor} (hp : Yields p Factor.Shapes) :
    Yields (joinedWith d n p) Joined.Shapes := by
  rw [joinedWith_eq]
  refine hp.bind fun first hfirst => ?_
  refine yields_iterate (I := fun joins => ∀ join ∈ joins, join.Shapes) ?_ nofun
  intro joins hjoins
  refine (yields_join? hp).bind fun read hread => ?_
  cases read with
  | none => exact yields_pure ⟨hfirst, fun join hmem => hjoins join (List.mem_reverse.mp hmem)⟩
  | some join => exact yields_pure (List.forall_mem_cons.mpr ⟨hread join rfl, hjoins⟩)

theorem yields_nestedFactor {p : Parser Joined} (hp : Yields p Joined.Shapes) :
    Yields (nestedFactor d n p) Factor.Shapes := by
  refine hp.bind fun inner hinner => ?_
  split
  · rename_i hnests
    have hnested := hinner.nested (by simpa using hnests)
    exact yields_bind fun _ => yields_bind fun asName => yields_pure (hnested asName)
  · rename_i hnests
    refine yields_ite ?_ (yields_fail _)
    refine yields_bind fun _ => yields_bind fun outer => ?_
    cases outer with
    | none => exact yields_pure hinner.first
    | some outer =>
        have hrenamed := hinner.first.renamed (by simp at hnests; exact hnests.2) outer
        cases hgiven : innerAlias inner.first with
        | none => exact yields_pure hrenamed
        | some given => exact yields_fail _

theorem yields_tableFactor : Yields (tableFactor d n) Factor.Shapes := by
  refine yields_bind fun path => yields_bind fun partitions => yields_bind fun arguments =>
    yields_bind fun ordinality => yields_bind fun asName => yields_bind fun hints =>
      yields_bind fun more => yields_bind fun sample => ?_
  refine (yields_pivoted _ _).bind fun table htable => yields_bind fun isPattern => yields_ite ?_ ?_
  · exact fun ts f rest h => shapes_of_treeless ((yields_matched table).of_ok h)
  · apply yields_pure
    rcases htable with htreeless | rfl
    · exact shapes_of_treeless htreeless
    · exact shapes_table _ _ _ _ _ _

section

variable (hquery : Yields n.query Query.Shapes)
include hquery

theorem yields_derivedQuery : Yields (derived d n false) Factor.Shapes :=
  hquery.bind fun _ hq => yields_bind fun _ => yields_bind fun asName =>
    yields_pure (hq.derived asName)

theorem yields_factorAt (fuel : Nat) : Yields (factorAt d n fuel) Factor.Shapes := by
  induction fuel with
  | zero => exact yields_fail _
  | succ fuel ih =>
      have htreeless : ∀ {p : Parser Factor}, Yields p Treeless → Yields p Factor.Shapes :=
        fun hp ts f rest h => shapes_of_treeless (hp.of_ok h)
      refine yields_bind fun isLateral => yields_ite (htreeless yields_lateralFactor) ?_
      refine yields_bind fun isFunction => yields_ite (htreeless yields_functionFactor) ?_
      refine yields_bind fun isOpen => yields_ite ?_ ?_
      · refine (yields_attempt (yields_derivedQuery hquery)).bind fun read hread => ?_
        cases read with
        | some factor =>
            intro ts f rest h
            rcases (yields_pivoted _ factor).of_ok h with hpivot | rfl
            · exact shapes_of_treeless hpivot
            · exact hread f rfl
        | none => exact yields_nestedFactor (yields_joinedWith ih)
      · refine yields_bind fun isRows => yields_ite ?_ ?_
        · exact yields_bind fun _ => htreeless yields_valuesFactor
        · refine yields_bind fun isUnnest => yields_ite (htreeless yields_unnestFactor) ?_
          refine yields_documentTable?.bind fun read hread => ?_
          cases read with
          | some factor => exact yields_pure (shapes_of_treeless (hread factor rfl))
          | none => exact yields_tableFactor

theorem yields_sources : Yields (sources d n) fun js => ∀ j ∈ js, j.Shapes :=
  yields_commaSeparated (yields_joinedWith fun ts => yields_factorAt hquery (ts.length + 1) ts)

theorem yields_selectionAfter {first : Option (List Joined)}
    (hfirst : ∀ js ∈ first, ∀ j ∈ js, j.Shapes) :
    Yields (selectionAfter d n first) fun s => ∀ j ∈ s.sources, j.Shapes := by
  refine yields_bind fun _ => yields_bind fun _ => yields_bind fun _ => yields_bind fun _ =>
    yields_bind fun _ => ?_
  have hpure : ∀ {js : List Joined}, (∀ j ∈ js, j.Shapes) →
      Yields (pure js) fun js => ∀ j ∈ js, j.Shapes :=
    fun hjs => yields_pure hjs
  cases first with
  | some read =>
      refine (hpure (hfirst read rfl)).bind fun js hjs => ?_
      exact yields_bind fun _ => yields_bind fun _ => yields_bind fun _ => yields_bind fun _ =>
        yields_bind fun _ => yields_bind fun _ => yields_bind fun _ => yields_bind fun _ =>
          yields_pure hjs
  | none =>
      refine (yields_optionally (yields_sources hquery)).bind fun read hread => ?_
      have hsources : ∀ j ∈ read.getD [], j.Shapes := by
        cases read with
        | some js => exact hread js rfl
        | none => nofun
      refine (hpure hsources).bind fun js hjs => ?_
      exact yields_bind fun _ => yields_bind fun _ => yields_bind fun _ => yields_bind fun _ =>
        yields_bind fun _ => yields_bind fun _ => yields_bind fun _ => yields_bind fun _ =>
          yields_pure hjs

theorem yields_selection : Yields (selection d n) fun s => ∀ j ∈ s.sources, j.Shapes := by
  refine yields_bind fun sourcesFirst => yields_ite ?_ (yields_selectionAfter hquery nofun)
  refine (yields_sources hquery).bind fun js hjs => yields_bind fun selects => yields_ite ?_ ?_
  · apply yields_selectionAfter hquery
    rintro _ ⟨⟩
    exact hjs
  · exact yields_pure hjs

theorem yields_body : Yields (body d n) Body.Shapes := by
  have hcombined : ∀ {operators operand}, Yields operand Body.Shapes →
      Yields (combined operators operand) Body.Shapes := by
    intro operators operand hoperand ts b rest h
    rcases combined_eq_ok h with ⟨left, hb⟩ | ⟨sql, rfl⟩
    · exact hoperand.of_ok hb
    · nofun
  refine hcombined (hcombined ?_)
  refine yields_bind fun selects => yields_bind fun sourcesFirst => yields_ite ?_ ?_
  · exact (yields_selection hquery).bind fun s hs => yields_pure (shapes_of_sources hs)
  · refine yields_bind fun isOpen => yields_ite ?_ ?_
    · exact yields_bind fun _ => yields_bind fun _ => yields_pure nofun
    · refine yields_bind fun isValues => yields_ite (yields_bind fun _ => yields_pure nofun) ?_
      refine yields_bind fun isTable => yields_ite (yields_bind fun _ => yields_pure nofun) ?_
      exact yields_fail _

theorem yields_query : Yields (query d n) Query.Shapes := by
  refine yields_bind fun withClause => yields_bind fun changed => ?_
  cases changed with
  | some sql => exact yields_pure (Query.shapes_of_body nofun)
  | none =>
      refine (yields_body hquery).bind fun b hb => ?_
      exact yields_bind fun _ => yields_bind fun _ => yields_bind fun _ => yields_bind fun _ =>
        yields_bind fun _ => yields_bind fun _ => yields_bind fun _ =>
          yields_pure (Query.shapes_of_body hb)

end

theorem yields_nestedQuery (depth : Nat) : Yields (nestedAt d depth).query Query.Shapes := by
  induction depth with
  | zero => exact yields_fail .nestingLimit
  | succ depth ih =>
      rw [nestedAt_query]
      exact yields_query ih

/-! Statements -/

theorem yields_statement (hquery : Yields n.query Query.Shapes) :
    Yields (statement d n) Statement.Shapes := by
  have hother : ∀ sql, Statement.Shapes (.other sql) := fun _ => nofun
  refine yields_bind fun opens => yields_ite ?_ (yields_bind fun explains => ?_)
  · refine hquery.bind fun q hq => yields_pure ?_
    rintro _ ⟨⟩
    exact hq
  · cases explains with
    | some word =>
        refine yields_bind fun detail => yields_bind fun explained => ?_
        split
        · exact yields_fail _
        · exact yields_pure nofun
        · exact yields_bind fun _ => yields_bind fun _ => yields_pure nofun
    | none =>
        refine yields_bind fun text => ?_
        cases text with
        | some text => exact yields_pure (hother text)
        | none =>
            refine yields_bind fun word => ?_
            cases word with
            | none => exact yields_fail _
            | some word => exact yields_bind fun text => yields_pure (hother text)

theorem yields_nestedStatement (depth : Nat) :
    Yields (nestedAt d depth).statement Statement.Shapes := by
  cases depth with
  | zero => exact yields_fail .nestingLimit
  | succ depth =>
      have hstatement : (nestedAt d (depth + 1)).statement =
          statement d ((nestedAt d depth).within .plain) :=
        rfl
      rw [hstatement, within_plain]
      exact yields_statement (yields_nestedQuery depth)

theorem yields_text : Yields (text d) fun read => ∀ s ∈ read, s.Shapes := by
  rw [text, statements_eq]
  refine yields_iterate (I := fun state => ∀ s ∈ state.1, s.Shapes) ?_ (by simp)
  intro (read, separated) hread
  have hends : ∀ s ∈ read.reverse, s.Shapes := fun s hmem => hread s (List.mem_reverse.mp hmem)
  refine yields_bind fun separates => yields_ite (yields_pure hread) ?_
  refine yields_bind fun next => ?_
  cases next with
  | none => exact yields_pure hends
  | some t =>
      refine yields_ite (yields_pure hends) (yields_ite (yields_fail _) ?_)
      exact (yields_nestedStatement 50).bind fun s hs =>
        yields_pure (List.forall_mem_cons.mpr ⟨hs, hread⟩)

end SelectTree.Sql.Grammar

namespace SelectTree

open Sql

/-- Every tree that is read from a text has the shape that its own text is read back with. -/
theorem isShaped_of_parse {d : Dialect} {text : String} {q : Select}
    (h : d.parse text = .ok (some q)) : q.isShaped = true := by
  obtain ⟨query, hread, hquery⟩ := parse_eq_ok h
  obtain ⟨lexemes, rest, -, htext⟩ := readStatements_eq_ok hread
  exact Grammar.yields_text.of_ok htext (.query query) (List.mem_singleton_self _) query rfl q hquery

end SelectTree
