import SelectTree.Proofs.WrittenQueries

namespace SelectTree

open Sql

/-! Lost clauses: what is written in a query that its tree has no place for, and that is yet not
refused. A query without these clauses has the same tree, so that texts which differ in them only
are read alike. -/

namespace Sql

/-! Queries without the clauses that are lost -/

/-- The text of an alias is kept, without its quotes and the columns that it names. -/
def Alias.trimmed (a : Alias) : Alias :=
  ⟨.bare a.name.text, []⟩

/-- Of the arguments no clauses are kept, such as the order in which they are passed. -/
def Passed.trimmed : Passed → Passed
  | .list args => .list { args with clauses := [] }
  | passed => passed

def Call.trimmed (c : Call) : Call :=
  { c with
    parameters := none
    arguments := c.arguments.trimmed
    withinGroup := none
    nullTreatment := none
    braced := false }

/-- Calls inside of other expressions are kept with their text. -/
def Expr.trimmed : Expr → Expr
  | .call c => .call c.trimmed
  | e => e

def Item.trimmed : Item → Item
  | .expr e => .expr e.trimmed
  | item => item

/-- Of a sort key only its direction is kept, not where it puts nulls or what it fills in. -/
def OrderKey.trimmed (key : OrderKey) : OrderKey :=
  { key with expr := key.expr.trimmed, nullsFirst := none, fill := none }

def Grouping.trimmed : Grouping → Grouping
  | .keys exprs modifiers => .keys (exprs.map Expr.trimmed) modifiers
  | grouping => grouping

mutual
def Factor.trimmed : Factor → Factor
  | .table name _ arguments _ asName _ =>
      .table name [] arguments false (asName.map Alias.trimmed) []
  | .derived lateral query asName => .derived lateral query.trimmed (asName.map Alias.trimmed)
  | .nested inner asName => .nested inner.trimmed asName
  | .other before asName after => .other before asName after

def Joined.trimmed : Joined → Joined
  | ⟨first, joins⟩ => ⟨first.trimmed, Join.trimmedList joins⟩

def Joined.trimmedList : List Joined → List Joined
  | [] => []
  | joined :: rest => joined.trimmed :: Joined.trimmedList rest

def Join.trimmed : Join → Join
  | ⟨_, words, right, condition⟩ => ⟨false, words, right.trimmed, condition⟩

def Join.trimmedList : List Join → List Join
  | [] => []
  | join :: rest => join.trimmed :: Join.trimmedList rest

def Selection.trimmed : Selection → Selection
  | ⟨_, quantifier, _, items, _, sources, _, filter, _, grouping, _, having, _⟩ =>
      ⟨.select, quantifier, none, items.map Item.trimmed, none, Joined.trimmedList sources, [],
        filter, none, grouping.trimmed, [], having, []⟩

def Body.trimmed : Body → Body
  | .selection s => .selection s.trimmed
  | .other sql => .other sql

/-- The query with everything that its tree depends on, and nothing else. -/
def Query.trimmed : Query → Query
  | ⟨withClause, body, orderBy, _, limit, _, fetch, _⟩ =>
      ⟨withClause, body.trimmed, orderBy.map OrderKey.trimmed, "", limit, none, fetch, []⟩
end

/-! Trees without the clauses -/

section Outcomes

variable {α β γ : Type} {ε : Type}

theorem toOption_bind (x : Except ε α) (f : α → Except ε β) :
    (x >>= f).toOption = x.toOption.bind fun a => (f a).toOption := by
  cases x <;> rfl

theorem toOption_map (x : Except ε α) (f : α → β) : (x.map f).toOption = x.toOption.map f := by
  cases x <;> rfl

theorem toOption_mapM_map {f : β → Except ε γ} {f' : α → Except ε γ} {g : α → β} {as : List α}
    (h : ∀ a ∈ as, (f (g a)).toOption = (f' a).toOption) :
    ((as.map g).mapM f).toOption = (as.mapM f').toOption := by
  induction as with
  | nil => rfl
  | cons a as ih =>
      have htail := ih fun a hmem => h a (List.mem_cons_of_mem _ hmem)
      simp only [List.map_cons, List.mapM_cons, toOption_bind, h a List.mem_cons_self, htail]

end Outcomes

theorem Call.column_trimmed (c : Call) : c.trimmed.column.toOption = c.column.toOption := by
  unfold Call.column
  have hwindowed : c.trimmed.isWindowed = c.isWindowed := rfl
  have hname : c.trimmed.name = c.name := rfl
  rw [hwindowed, hname]
  split
  · rfl
  · cases harguments : c.arguments with
    | nothing => simp [Call.trimmed, harguments, Passed.trimmed]
    | query sql => simp [Call.trimmed, harguments, Passed.trimmed, Except.toOption]
    | list args =>
        simp only [Call.trimmed, harguments, Passed.trimmed]
        cases args.quantifier <;> rfl

theorem Expr.columnRef_trimmed (e : Expr) :
    e.trimmed.columnRef.toOption = e.columnRef.toOption := by
  cases e with
  | call c => exact c.column_trimmed
  | _ => rfl

theorem Item.columnRef_trimmed (item : Item) :
    item.trimmed.columnRef.toOption = item.columnRef.toOption := by
  cases item with
  | expr e => exact e.columnRef_trimmed
  | _ => rfl

theorem OrderKey.item_trimmed (key : OrderKey) : key.trimmed.item.toOption = key.item.toOption := by
  unfold OrderKey.item
  rw [toOption_map, toOption_map]
  exact congrArg _ key.expr.columnRef_trimmed

theorem Grouping.columns_trimmed (grouping : Grouping) :
    grouping.trimmed.columns.toOption = grouping.columns.toOption := by
  cases grouping with
  | all modifiers => rfl
  | keys exprs modifiers =>
      cases modifiers with
      | nil => exact toOption_mapM_map fun e _ => e.columnRef_trimmed
      | cons modifier modifiers => rfl

theorem aliasText_trimmed (asName : Option Alias) :
    aliasText (asName.map Alias.trimmed) = aliasText asName := by
  cases asName <;> rfl

theorem Join.combine_toOption {isGlobal isGlobal' : Bool} {words : JoinWords}
    {right right' : Factor} {condition : Condition} (base tree : Source) :
    ((Join.mk isGlobal words right condition).combine base tree).toOption =
      ((Join.mk isGlobal' words right' condition).combine base tree).toOption := by
  unfold Join.combine
  cases words with
  | other before after => rfl
  | kind kind =>
      cases condition with
      | natural =>
          simp only
          split <;> rfl
      | _ => rfl

theorem Joined.isEmpty_trimmedList (sources : List Joined) :
    (Joined.trimmedList sources).isEmpty = sources.isEmpty := by
  cases sources <;> rfl

mutual
theorem Factor.source_trimmed : (f : Factor) → f.trimmed.source.toOption = f.source.toOption
  | .table name partitions arguments withOrdinality asName hints => by
      cases arguments <;> simp [Factor.trimmed, Factor.source, aliasText_trimmed, Except.toOption]
  | .derived false query asName => by
      simp only [Factor.trimmed, Factor.source, toOption_bind, Query.select_trimmed query,
        aliasText_trimmed]
  | .derived true query asName => rfl
  | .nested inner none => by
      simp only [Factor.trimmed, Factor.source, toOption_bind, Joined.source_trimmed inner]
  | .nested inner (some asName) => rfl
  | .other before asName after => rfl

theorem Joined.source_trimmed : (j : Joined) → j.trimmed.source.toOption = j.source.toOption
  | ⟨first, joins⟩ => by
      simp only [Joined.trimmed, Joined.source, toOption_bind, Factor.source_trimmed first]
      exact congrArg _ (funext fun base => Join.sourceFrom_trimmed base joins)

theorem Join.sourceFrom_trimmed (base : Source) : (joins : List Join) →
    (Join.sourceFrom base (Join.trimmedList joins)).toOption =
      (Join.sourceFrom base joins).toOption
  | [] => rfl
  | join :: rest => by
      simp only [Join.trimmedList, Join.sourceFrom, toOption_bind, Join.source_trimmed base join]
      exact congrArg _ (funext fun tree => Join.sourceFrom_trimmed tree rest)

theorem Join.source_trimmed (base : Source) : (join : Join) →
    (Join.source base join.trimmed).toOption = (Join.source base join).toOption
  | ⟨isGlobal, words, right, condition⟩ => by
      simp only [Join.trimmed, Join.source, toOption_bind, Factor.source_trimmed right]
      exact congrArg _ (funext fun tree => Join.combine_toOption base tree)

theorem Joined.sources_trimmed : (sources : List Joined) →
    (Joined.sources (Joined.trimmedList sources)).toOption = (Joined.sources sources).toOption
  | [] => rfl
  | joined :: rest => by
      simp only [Joined.trimmedList, Joined.sources, toOption_bind, Joined.source_trimmed joined,
        Joined.sources_trimmed rest]

theorem Selection.select_trimmed : (s : Selection) →
    s.trimmed.select.toOption = s.select.toOption
  | ⟨opening, quantifier, top, items, into, sources, views, filter, prefilter, grouping,
      clusterings, having, endings⟩ => by
      have hitems : ((items.map Item.trimmed).mapM Item.columnRef).toOption =
          (items.mapM Item.columnRef).toOption :=
        toOption_mapM_map fun item _ => item.columnRef_trimmed
      simp only [Selection.trimmed, Selection.select, Joined.isEmpty_trimmedList]
      cases quantifier.isSome <;> cases having.isSome <;> cases sources.isEmpty <;> try rfl
      simp only [Bool.false_eq_true, if_false, toOption_bind, hitems,
        Joined.sources_trimmed sources, grouping.columns_trimmed]

theorem Body.select_trimmed : (b : Body) → b.trimmed.select.toOption = b.select.toOption
  | .selection s => Selection.select_trimmed s
  | .other _ => rfl

/-- A query has a tree if the trimmed one has it, and then it is the same. -/
theorem Query.select_trimmed : (q : Query) → q.trimmed.select.toOption = q.select.toOption
  | ⟨withClause, body, orderBy, interpolation, limit, settings, fetch, endings⟩ => by
      have hkeys : ((orderBy.map OrderKey.trimmed).mapM OrderKey.item).toOption =
          (orderBy.mapM OrderKey.item).toOption :=
        toOption_mapM_map fun key _ => key.item_trimmed
      simp only [Query.trimmed, Query.select]
      cases withClause.isSome <;> cases limit.isSome <;> cases fetch.isSome <;> try rfl
      simp only [Bool.false_eq_true, Bool.or_false, if_false, toOption_bind,
        Body.select_trimmed body, hkeys]
end

/-! Answers without the clauses -/

/-- The answers to two queries with the same kept part differ at most in the words in which they
are refused. -/
theorem Query.answer_eq_of_trimmed {q q' : Query} (h : q.trimmed = q'.trimmed) :
    q.answer = q'.answer ∨ ∃ cause cause', q.answer = .error (.unsupportedSql cause) ∧
      q'.answer = .error (.unsupportedSql cause') := by
  have hselect : q.select.toOption = q'.select.toOption := by
    rw [← q.select_trimmed, ← q'.select_trimmed, h]
  unfold Query.answer
  cases hq : q.select with
  | ok tree =>
      cases hq' : q'.select with
      | ok tree' =>
          obtain rfl : tree = tree' := by simpa [hq, hq', Except.toOption] using hselect
          exact .inl rfl
      | error cause' => simp [hq, hq', Except.toOption] at hselect
  | error cause =>
      cases hq' : q'.select with
      | ok tree' => simp [hq, hq', Except.toOption] at hselect
      | error cause' => exact .inr ⟨cause, cause', rfl, rfl⟩

end Sql

/-- Two texts of queries that differ only in lost clauses, at any depth of derived tables, are
answered alike, whether they are read or refused. A refusal may show the clauses. -/
theorem Sql.Dialect.parse_lostClauses {d d' : Dialect} {text text' : String} {q q' : Query}
    (h : d.written? text = some q) (h' : d'.written? text' = some q')
    (hsame : q.trimmed = q'.trimmed) :
    d.parse text = d'.parse text' ∨ ∃ cause cause', d.parse text = .error (.unsupportedSql cause) ∧
      d'.parse text' = .error (.unsupportedSql cause') := by
  rw [Dialect.parse_written h, Dialect.parse_written h']
  exact Query.answer_eq_of_trimmed hsame

/-- Another order of nulls and other columns of an alias. -/
theorem Sql.Dialect.parse_lostClauses_flights :
    ∃ q q',
      generic.written? "SELECT a FROM flights AS t (x) ORDER BY a NULLS FIRST" = some q ∧
      postgres.written? "SELECT a FROM flights AS t (y) ORDER BY a NULLS LAST" = some q' ∧
      q.trimmed = q'.trimmed ∧
      generic.parse "SELECT a FROM flights AS t (x) ORDER BY a NULLS FIRST" =
        postgres.parse "SELECT a FROM flights AS t (y) ORDER BY a NULLS LAST" := by
  have hfirst :
      generic.written? "SELECT a FROM flights AS t (x) ORDER BY a NULLS FIRST" = some
        (.ofTable [.expr (.column [.bare "a"])]
          (.table [.bare "flights"] [] none false (some ⟨.bare "t", ["x"]⟩) [])
          [⟨.column [.bare "a"], none, some true, none⟩]) :=
    written?_ofTable (by decide +kernel)
  have hlast :
      postgres.written? "SELECT a FROM flights AS t (y) ORDER BY a NULLS LAST" = some
        (.ofTable [.expr (.column [.bare "a"])]
          (.table [.bare "flights"] [] none false (some ⟨.bare "t", ["y"]⟩) [])
          [⟨.column [.bare "a"], none, some false, none⟩]) :=
    written?_ofTable (by decide +kernel)
  refine ⟨_, _, hfirst, hlast, rfl, ?_⟩
  refine (parse_lostClauses hfirst hlast rfl).resolve_right ?_
  rintro ⟨cause, cause', hrefused, -⟩
  rw [parse_written hfirst] at hrefused
  cases hrefused

/-- Neither are the clauses refused nor do they change the tree. -/
theorem Sql.Dialect.parse_loses_clauses :
    ∃ q, generic.parse "SELECT f(a) FROM t AS u ORDER BY a" = .ok (some q) ∧
      generic.parse "SELECT f(a ORDER BY b) FROM t AS u (x) ORDER BY a NULLS FIRST" =
        .ok (some q) := by
  refine ⟨⟨[.call "f" [.identifier "a"]], .table "t" (some "u"), none, [],
    [⟨.identifier "a", none⟩]⟩, ?_, ?_⟩
  all_goals exact eq_ok_of_answersWith (by decide +kernel)

end SelectTree
