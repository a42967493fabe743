import SelectTree.Proofs.FilledNames

namespace SelectTree.Sql

/-! Queries with a text in every name that their trees are checked for: the names of calls, of
tables, and of the columns of tests. -/

/-- A qualified name with a text. -/
class FilledPath (path : List Name) : Prop extends Filled path where
  ne_nil : path ≠ []

theorem FilledPath.pathSql_ne {path : List Name} (h : FilledPath path) :
    Name.pathSql path ≠ "" := by
  match path, h.ne_nil with
  | [name], _ => exact filled_name.mp (filled_cons.mp h.toFilled).1
  | first :: second :: rest, _ =>
      intro hempty
      have hdot := congrArg String.toList hempty
      simp [Name.pathSql] at hdot

instance filledPath_cons {name : Name} {more : List Name} [Filled (name :: more)] :
    FilledPath (name :: more) :=
  ⟨List.cons_ne_nil _ _⟩

instance filledPath_append {path more : List Name} [h : FilledPath path] [Filled more] :
    FilledPath (path ++ more) :=
  { toFilled := inferInstance, ne_nil := by simp [h.ne_nil] }

instance filledPath_reverse {path : List Name} [h : FilledPath path] : FilledPath path.reverse :=
  { toFilled := inferInstance, ne_nil := by simp [h.ne_nil] }

instance filledPath_val (path : { path : List Name // FilledPath path }) : FilledPath path.val :=
  path.property

/-! Expressions -/

instance : HoldsNames Call := ⟨fun c => FilledPath c.path⟩

/-- The columns and calls that a tree may be made of; other expressions are kept as texts. -/
def Expr.holdsNames : Expr → Prop
  | .column path => FilledPath path
  | .call c => Filled c
  | .signed _ inner => inner.holdsNames
  | .nested inner => inner.holdsNames
  | .binary left _ right => left.holdsNames ∧ right.holdsNames
  | .like subject pattern => subject.holdsNames ∧ pattern.holdsNames
  | .value _ | .subquery _ | .other _ => True

instance : HoldsNames Expr := ⟨Expr.holdsNames⟩

section

variable {path : List Name} {c : Call} {name : Name} {e left right : Expr}

theorem filled_call : Filled c ↔ FilledPath c.path := filled_iff

theorem filled_column : Filled (Expr.column path) ↔ FilledPath path := filled_iff

theorem filled_callExpr : Filled (Expr.call c) ↔ Filled c := filled_iff

theorem filled_nested : Filled (Expr.nested e) ↔ Filled e :=
  ⟨fun h => ⟨h.holds⟩, fun h => ⟨h.holds⟩⟩

theorem filled_binary {op : Operator} :
    Filled (Expr.binary left op right) ↔ Filled left ∧ Filled right :=
  ⟨fun h => ⟨⟨h.holds.1⟩, ⟨h.holds.2⟩⟩, fun h => ⟨h.1.holds, h.2.holds⟩⟩

theorem filled_like : Filled (Expr.like left right) ↔ Filled left ∧ Filled right :=
  ⟨fun h => ⟨⟨h.holds.1⟩, ⟨h.holds.2⟩⟩, fun h => ⟨h.1.holds, h.2.holds⟩⟩

instance [h : Filled c] : FilledPath c.path := filled_call.mp h

instance {parameters : Option Arguments} {arguments : Passed} {braced : Bool}
    {withinGroup filter nullTreatment window : Option String} [h : FilledPath path] :
    Filled (Call.mk path parameters arguments withinGroup filter nullTreatment window braced) :=
  filled_call.mpr h

instance [Filled name] : Filled (Call.ofName name) :=
  filled_call.mpr (inferInstanceAs (FilledPath [name]))

instance [h : FilledPath path] : Filled (Expr.column path) := filled_column.mpr h

instance [h : Filled c] : Filled (Expr.call c) := filled_callExpr.mpr h

instance {negative : Bool} [h : Filled e] : Filled (Expr.signed negative e) := ⟨h.holds⟩

instance [h : Filled e] : Filled (Expr.nested e) := filled_nested.mpr h

instance {op : Operator} [hl : Filled left] [hr : Filled right] :
    Filled (Expr.binary left op right) :=
  filled_binary.mpr ⟨hl, hr⟩

instance [hl : Filled left] [hr : Filled right] : Filled (Expr.like left right) :=
  filled_like.mpr ⟨hl, hr⟩

instance (v : Value) : Filled (Expr.value v) := ⟨trivial⟩

instance (sql : String) : Filled (Expr.subquery sql) := ⟨trivial⟩

/-- Expressions that are kept as texts hold no names. -/
instance filled_other (sql : String) : Filled (Expr.other sql) := ⟨trivial⟩

end

/-! Parts of queries -/

instance : HoldsNames Item where
  areFilled
    | .expr e | .aliased e _ => Filled e
    | .wildcard _ _ => True

instance : HoldsNames OrderKey := ⟨fun key => Filled key.expr⟩

instance : HoldsNames Grouping where
  areFilled
    | .all _ => True
    | .keys exprs _ => Filled exprs

section

variable {e : Expr} {exprs : List Expr}

theorem filled_item : Filled (Item.expr e) ↔ Filled e := filled_iff

theorem filled_orderKey {key : OrderKey} : Filled key ↔ Filled key.expr := filled_iff

theorem filled_keys {modifiers : List String} :
    Filled (Grouping.keys exprs modifiers) ↔ Filled exprs := filled_iff

instance [h : Filled e] : Filled (Item.expr e) := filled_item.mpr h

instance {asName : Name} [h : Filled e] : Filled (Item.aliased e asName) := ⟨h⟩

instance (table : Option (List Name)) (options : List String) :
    Filled (Item.wildcard table options) := ⟨trivial⟩

instance {ascending nullsFirst : Option Bool} {fill : Option String} [h : Filled e] :
    Filled (OrderKey.mk e ascending nullsFirst fill) :=
  filled_orderKey.mpr h

instance (modifiers : List String) : Filled (Grouping.all modifiers) := ⟨trivial⟩

instance {modifiers : List String} [h : Filled exprs] : Filled (Grouping.keys exprs modifiers) :=
  filled_keys.mpr h

instance : Filled Grouping.none := inferInstanceAs (Filled (Grouping.keys [] []))

end

mutual
def Factor.holdsNames : Factor → Prop
  | .table name _ _ _ _ _ => FilledPath name
  | .derived _ query _ => query.holdsNames
  | .nested inner _ => inner.holdsNames
  | .other _ _ _ => True

def Joined.holdsNames : Joined → Prop
  | ⟨first, joins⟩ => first.holdsNames ∧ Join.holdNames joins

def Join.holdsNames : Join → Prop
  | ⟨_, _, right, _⟩ => right.holdsNames

def Join.holdNames : List Join → Prop
  | [] => True
  | join :: rest => join.holdsNames ∧ Join.holdNames rest

def Joined.holdNames : List Joined → Prop
  | [] => True
  | joined :: rest => joined.holdsNames ∧ Joined.holdNames rest

def Selection.holdsNames : Selection → Prop
  | ⟨_, _, _, items, _, sources, _, filter, _, grouping, _, _, _⟩ =>
      Filled items ∧ Joined.holdNames sources ∧ Filled filter ∧ Filled grouping

def Body.holdsNames : Body → Prop
  | .selection s => s.holdsNames
  | .other _ => True

def Query.holdsNames : Query → Prop
  | ⟨_, body, orderBy, _, _, _, _, _⟩ => body.holdsNames ∧ Filled orderBy
end

instance : HoldsNames Factor := ⟨Factor.holdsNames⟩

instance : HoldsNames Joined := ⟨Joined.holdsNames⟩

instance : HoldsNames Join := ⟨Join.holdsNames⟩

instance : HoldsNames Selection := ⟨Selection.holdsNames⟩

instance : HoldsNames Body := ⟨Body.holdsNames⟩

instance : HoldsNames Query := ⟨Query.holdsNames⟩

theorem Join.holdNames_iff {joins : List Join} : Join.holdNames joins ↔ Filled joins := by
  induction joins with
  | nil => exact iff_of_true trivial filled_nil
  | cons join joins ih => exact (and_congr (filled_iff (a := join)).symm ih).trans filled_cons.symm

theorem Joined.holdNames_iff {sources : List Joined} :
    Joined.holdNames sources ↔ Filled sources := by
  induction sources with
  | nil => exact iff_of_true trivial filled_nil
  | cons joined sources ih =>
      exact (and_congr (filled_iff (a := joined)).symm ih).trans filled_cons.symm

section

variable {name partitions : List Name} {arguments : Option (List Argument)}
  {withOrdinality lateral isGlobal : Bool} {asName : Option Alias} {hints : List String}
  {first right : Factor} {inner : Joined} {joins : List Join} {words : JoinWords}
  {condition : Condition} {opening : Opening} {quantifier top into : Option String}
  {items : List Item} {sources : List Joined} {views clusterings endings : List String}
  {filter prefilter having : Option Expr} {grouping : Grouping} {s : Selection} {body : Body}
  {orderBy : List OrderKey} {withClause limit settings fetch : Option String}
  {interpolation : String} {q : Query}

theorem filled_table :
    Filled (Factor.table name partitions arguments withOrdinality asName hints) ↔
      FilledPath name := filled_iff

theorem filled_derived : Filled (Factor.derived lateral q asName) ↔ Filled q :=
  ⟨fun h => ⟨h.holds⟩, fun h => ⟨h.holds⟩⟩

theorem filled_nestedFactor : Filled (Factor.nested inner asName) ↔ Filled inner :=
  ⟨fun h => ⟨h.holds⟩, fun h => ⟨h.holds⟩⟩

theorem filled_joined : Filled (Joined.mk first joins) ↔ Filled first ∧ Filled joins :=
  filled_iff.trans (and_congr (filled_iff (a := first)).symm Join.holdNames_iff)

theorem filled_join : Filled (Join.mk isGlobal words right condition) ↔ Filled right :=
  ⟨fun h => ⟨h.holds⟩, fun h => ⟨h.holds⟩⟩

theorem filled_selection :
    Filled (Selection.mk opening quantifier top items into sources views filter prefilter grouping
      clusterings having endings) ↔
      Filled items ∧ Filled sources ∧ Filled filter ∧ Filled grouping :=
  filled_iff.trans (and_congr_right fun _ => and_congr_left fun _ => Joined.holdNames_iff)

theorem filled_body : Filled (Body.selection s) ↔ Filled s :=
  ⟨fun h => ⟨h.holds⟩, fun h => ⟨h.holds⟩⟩

theorem filled_query :
    Filled (Query.mk withClause body orderBy interpolation limit settings fetch endings) ↔
      Filled body ∧ Filled orderBy :=
  filled_iff.trans (and_congr_left fun _ => (filled_iff (a := body)).symm)

instance [h : FilledPath name] :
    Filled (Factor.table name partitions arguments withOrdinality asName hints) :=
  filled_table.mpr h

instance [h : Filled q] : Filled (Factor.derived lateral q asName) := filled_derived.mpr h

instance [h : Filled inner] : Filled (Factor.nested inner asName) := filled_nestedFactor.mpr h

instance (before : String) (after : String) : Filled (Factor.other before asName after) :=
  ⟨trivial⟩

instance [hfirst : Filled first] [hjoins : Filled joins] : Filled (Joined.mk first joins) :=
  filled_joined.mpr ⟨hfirst, hjoins⟩

instance [h : Filled right] : Filled (Join.mk isGlobal words right condition) :=
  filled_join.mpr h

instance [hitems : Filled items] [hsources : Filled sources] [hfilter : Filled filter]
    [hgrouping : Filled grouping] :
    Filled (Selection.mk opening quantifier top items into sources views filter prefilter grouping
      clusterings having endings) :=
  filled_selection.mpr ⟨hitems, hsources, hfilter, hgrouping⟩

instance [h : Filled s] : Filled (Body.selection s) := filled_body.mpr h

instance (sql : String) : Filled (Body.other sql) := ⟨trivial⟩

instance [hbody : Filled body] [horder : Filled orderBy] :
    Filled (Query.mk withClause body orderBy interpolation limit settings fetch endings) :=
  filled_query.mpr ⟨hbody, horder⟩

end

end SelectTree.Sql
