import SelectTree.Proofs.ParsedShapes
import SelectTree.Proofs.SortKeys

namespace SelectTree

/-! The last part of a qualified name. The parts are joined by dots when a query is read, and from
then on the column is what stands behind the last dot, wherever that dot comes from. -/

open Sql

/-! Qualified texts -/

section

variable {text name : String} {table : Option String}

theorem Target.ofText_qualified (table : String) (h : IsColumnName name) :
    Target.ofText (table ++ "." ++ name) = .column (some table) name := by
  have htext : (table ++ "." ++ name).toList = table.toList ++ '.' :: name.toList := by simp
  have hwild : table ++ "." ++ name ≠ "*" := by
    intro heq
    have hdot : '.' ∈ (table ++ "." ++ name).toList := by simp
    simp [heq] at hdot
  rw [Target.ofText, if_neg hwild, htext, Text.splitLast_append _ h.dotless]
  split
  · rename_i heq
    have hstar := (Prod.mk.inj (Option.some.inj heq)).2
    exact absurd (String.toList_injective hstar) h.ne_wildcard
  · rename_i heq
    obtain ⟨rfl, rfl⟩ := Prod.mk.inj (Option.some.inj heq)
    rw [String.ofList_toList, String.ofList_toList]
  · rename_i heq
    cases heq

/-- What a text names begins behind its qualifier, there or at a later dot. -/
theorem Target.unqualified_of_ofText {lead rest : List Char}
    (h : Target.ofText text = .column table name) (htext : text.toList = lead ++ rest)
    (hlead : lead = [] ∨ ∃ before, lead = before ++ ['.']) :
    rest = name.toList ∨ ∃ before, rest = before ++ '.' :: name.toList := by
  have hname := (Target.isColumnName_of_ofText h).dotless
  rcases Target.toList_of_ofText h with rfl | ⟨front, hfront⟩
  · rcases hlead with rfl | ⟨before, rfl⟩
    · exact .inl htext.symm
    · simp [htext] at hname
  · have hsplit := Text.splitLast_append front hname
    rw [← hfront, htext] at hsplit
    cases hrest : Text.splitLast '.' rest with
    | some parts =>
        obtain ⟨before, after⟩ := parts
        obtain ⟨rfl, hafter⟩ := Text.eq_append_of_splitLast hrest
        rw [← List.append_assoc, Text.splitLast_append _ hafter] at hsplit
        obtain ⟨-, rfl⟩ := Prod.mk.inj (Option.some.inj hsplit)
        exact .inr ⟨before, rfl⟩
    | none =>
        have hdotless := Text.splitLast_eq_none_iff.mp hrest
        rcases hlead with rfl | ⟨before, rfl⟩
        · rw [List.nil_append, hrest] at hsplit
          cases hsplit
        · rw [List.append_assoc, List.singleton_append, Text.splitLast_append _ hdotless] at hsplit
          obtain ⟨-, rfl⟩ := Prod.mk.inj (Option.some.inj hsplit)
          exact .inl rfl

end

/-! Joined parts -/

section

variable {front : List Name} {last : Name}

/-- A part that is left whole where the parts before it are cut off. -/
def Sql.Name.IsWhole (last : Name) : Prop :=
  '.' ∉ last.sql.toList ∧ last.sql ≠ "*"

instance (last : Name) : Decidable last.IsWhole :=
  inferInstanceAs (Decidable (_ ∧ _))

theorem Sql.Name.IsWhole.isColumnName (h : last.IsWhole) : IsColumnName last.sql :=
  isColumnName_iff.mpr h

theorem Sql.Name.pathSql_concat (hne : front ≠ []) :
    Name.pathSql (front ++ [last]) = Name.pathSql front ++ "." ++ last.sql := by
  rw [pathSql, List.map_append, Text.joined_append "." (by simpa using hne) (by simp)]
  rfl

theorem Sql.Name.pathSql_eq_last_iff : Name.pathSql (front ++ [last]) = last.sql ↔ front = [] := by
  constructor
  · intro heq
    apply Decidable.byContradiction
    intro hne
    have hlength := congrArg (fun text => text.toList.length) heq
    simp only [pathSql_concat hne, String.toList_append, List.length_append] at hlength
    simp at hlength
  · rintro rfl
    rfl

theorem Sql.Name.IsWhole.ofText_pathSql (h : last.IsWhole) (front : List Name) :
    ∃ table, Target.ofText (Name.pathSql (front ++ [last])) = .column table last.sql := by
  by_cases hfront : front = []
  · subst hfront
    exact ⟨none, h.isColumnName.ofText_eq⟩
  · exact ⟨some (Name.pathSql front), by
      rw [pathSql_concat hfront, Target.ofText_qualified _ h.isColumnName]⟩

theorem Sql.Name.columnName_pathSql_iff :
    (ColumnRef.identifier (Name.pathSql (front ++ [last]))).columnName = some last.sql ↔
      last.IsWhole := by
  rw [ColumnRef.columnName_eq_some_iff]
  constructor
  · rintro ⟨table, htarget⟩
    exact isColumnName_iff.mp (Target.isColumnName_of_ofText htarget)
  · exact fun hwhole => hwhole.ofText_pathSql front

/-- Nothing before the last part is left, and of that part what stands behind a dot. -/
theorem Sql.Name.last_of_columnName {name : String}
    (h : (ColumnRef.identifier (Name.pathSql (front ++ [last]))).columnName = some name) :
    last.sql.toList = name.toList ∨
      ∃ before, last.sql.toList = before ++ '.' :: name.toList := by
  obtain ⟨table, htarget⟩ := ColumnRef.columnName_eq_some_iff.mp h
  by_cases hfront : front = []
  · subst hfront
    exact Target.unqualified_of_ofText htarget (List.nil_append _).symm (.inl rfl)
  · have htext : (Name.pathSql (front ++ [last])).toList =
        (Name.pathSql front).toList ++ ['.'] ++ last.sql.toList := by
      simp [pathSql_concat hfront]
    exact Target.unqualified_of_ofText htarget htext (.inr ⟨_, rfl⟩)

/-- A last part that is an asterisk makes a star of the whole. -/
theorem Sql.Name.ofText_pathSql_ne_column (h : last.sql = "*") (table : Option String)
    (name : String) : Target.ofText (Name.pathSql (front ++ [last])) ≠ .column table name := by
  by_cases hfront : front = []
  · subst hfront
    rw [List.nil_append, pathSql, List.map_singleton, Text.joined_singleton, h,
      Target.ofText_wildcard]
    rintro ⟨⟩
  · have hstar : Name.pathSql front ++ "." ++ "*" = Edit.star (Name.pathSql front) :=
      String.append_assoc
    rw [pathSql_concat hfront, h, hstar, Target.ofText_star]
    rintro ⟨⟩

/-- A text with a parenthesis or with a star at its end is taken for a name as a whole. -/
theorem Sql.Name.projectedName_pathSql_iff :
    projectedName (Name.pathSql (front ++ [last])) = last.sql ↔
      if '(' ∈ (Name.pathSql (front ++ [last])).toList ∨
          Edit.isStar (Name.pathSql (front ++ [last])) = true then front = []
      else '.' ∉ last.sql.toList := by
  by_cases hparen : '(' ∈ (Name.pathSql (front ++ [last])).toList
  · rw [projectedName, if_pos hparen, if_pos (.inl hparen), pathSql_eq_last_iff]
  · rw [projectedName, if_neg hparen]
    cases htarget : Target.ofText (Name.pathSql (front ++ [last])) with
    | wildcard =>
        have hwild := Target.ofText_eq_wildcard_iff.mp htarget
        have hfront : front = [] := by
          apply Decidable.byContradiction
          intro hne
          have hdot : '.' ∈ (Name.pathSql (front ++ [last])).toList := by simp [pathSql_concat hne]
          simp [hwild] at hdot
        have hlast : Name.pathSql (front ++ [last]) = last.sql := pathSql_eq_last_iff.mpr hfront
        rw [hwild] at hlast
        rw [hwild, ← hlast, if_neg (by decide)]
        decide
    | tableWildcard table =>
        have hwild : Name.pathSql (front ++ [last]) ≠ "*" := fun heq => by simp [heq] at htarget
        rw [if_pos (.inr ((Edit.isStar_iff_ofText hwild).mpr ⟨table, htarget⟩))]
        exact pathSql_eq_last_iff
    | column table name =>
        have hwild : Name.pathSql (front ++ [last]) ≠ "*" := fun heq => by simp [heq] at htarget
        have hstar : ¬ Edit.isStar (Name.pathSql (front ++ [last])) = true := by
          rw [Edit.isStar_iff_ofText hwild, htarget]
          simp
        rw [if_neg (not_or.mpr ⟨hparen, hstar⟩)]
        constructor
        · rintro rfl
          exact (Target.isColumnName_of_ofText htarget).dotless
        · intro hdot
          have hne : last.sql ≠ "*" := fun heq => ofText_pathSql_ne_column heq table name htarget
          have hwhole : last.IsWhole := ⟨hdot, hne⟩
          obtain ⟨table', hlast⟩ := hwhole.ofText_pathSql front
          rw [hlast] at htarget
          exact (Target.column.inj htarget).2.symm

end

/-! Listed names -/

/-- What a query lists whatever the catalog is: its stars stand for nothing under the empty one. -/
theorem Edit.forall_mem_resolve_iff {q : Select} {x : String} :
    (∀ schema, x ∈ resolve schema q) ↔ ∃ item ∈ q.items, item.resolvedName = some x := by
  constructor
  · intro h
    obtain ⟨item, hitem, hmem⟩ := mem_resolve.mp (h ⟨[]⟩)
    refine ⟨item, hitem, ?_⟩
    cases item with
    | call name args =>
        rw [expand_call rfl, List.mem_singleton] at hmem
        rw [hmem]
        rfl
    | identifier text =>
        rw [expand, ColumnRef.target_identifier] at hmem
        rw [ColumnRef.resolvedName, ColumnRef.columnName_eq_some_iff]
        cases htarget : Target.ofText text with
        | wildcard => simp [htarget, Schema.columnNames, Schema.table?] at hmem
        | tableWildcard table => simp [htarget, Schema.columnNames, Schema.table?] at hmem
        | column table name =>
            rw [htarget, List.mem_singleton] at hmem
            exact ⟨table, by rw [hmem]⟩
  · rintro ⟨item, hitem, hname⟩ schema
    refine mem_resolve.mpr ⟨item, hitem, ?_⟩
    cases item with
    | call name args =>
        rw [expand_call rfl, List.mem_singleton]
        exact (Option.some.inj hname).symm
    | identifier text =>
        obtain ⟨table, htarget⟩ := ColumnRef.columnName_eq_some_iff.mp hname
        rw [expand, ColumnRef.target_identifier, htarget]
        exact List.mem_singleton_self x

/-- Of the names with a dot, and of asterisks, only the renderings of calls are listed. -/
theorem Sql.Name.forall_mem_resolve_iff {front : List Name} {last : Name} {q : Select}
    (hitem : .identifier (Name.pathSql (front ++ [last])) ∈ q.items) :
    (∀ schema, last.sql ∈ Edit.resolve schema q) ↔
      last.IsWhole ∨ ∃ c ∈ q.items, c.isCall = true ∧ c.rendering = last.sql := by
  rw [Edit.forall_mem_resolve_iff]
  constructor
  · rintro ⟨item, hmem, hname⟩
    cases item with
    | call name args => exact .inr ⟨_, hmem, rfl, Option.some.inj hname⟩
    | identifier text =>
        obtain ⟨table, htarget⟩ := ColumnRef.columnName_eq_some_iff.mp hname
        exact .inl (isColumnName_iff.mp (Target.isColumnName_of_ofText htarget))
  · rintro (hwhole | ⟨c, hmem, hcall, hrendering⟩)
    · exact ⟨_, hitem, columnName_pathSql_iff.mpr hwhole⟩
    · cases c with
      | identifier text => cases hcall
      | call name args => exact ⟨_, hmem, congrArg some hrendering⟩

/-! Columns as they are written -/

/-- The projection items of a text that holds one query of one selection, as they are written. -/
def Sql.Dialect.writtenItems (d : Dialect) (text : String) : List Item :=
  match readStatements d text.toList with
  | .ok [.query query] =>
      match query.body with
      | .selection s => s.items
      | .other _ => []
  | _ => []

theorem mapM_writtenItems {d : Dialect} {text : String} {q : Select}
    (h : d.parse text = .ok (some q)) :
    (d.writtenItems text).mapM Item.columnRef = .ok q.items := by
  obtain ⟨query, hread, hquery⟩ := parse_eq_ok h
  obtain ⟨tree, htree, -, heq⟩ := Query.select_eq_ok hquery
  simp only [Dialect.writtenItems, hread]
  cases hbody : query.body with
  | other sql =>
      rw [hbody] at htree
      cases htree
  | selection s =>
      rw [hbody] at htree
      obtain ⟨trees, -, -, -, -, hitems⟩ := Selection.select_eq_ok htree
      rw [heq]
      exact hitems

theorem exists_of_mapM_eq_ok {α β ε : Type} {f : α → Except ε β} {as : List α} {bs : List β}
    (h : as.mapM f = .ok bs) {i : Nat} {a : α} (ha : as[i]? = some a) :
    ∃ b, bs[i]? = some b ∧ f a = .ok b := by
  induction as generalizing bs i with
  | nil => cases ha
  | cons first as ih =>
      rw [List.mapM_cons] at h
      obtain ⟨b, hb, h⟩ := bind_eq_ok_iff.mp h
      obtain ⟨more, hmore, h⟩ := bind_eq_ok_iff.mp h
      obtain rfl := Except.ok.inj h
      cases i with
      | zero =>
          obtain rfl := Option.some.inj ha
          exact ⟨b, rfl, hb⟩
      | succ i => exact ih hmore ha

/-- A column without a name is refused. -/
theorem exists_lastPart {q : Select} (valid : q.validate = .ok ()) {path : List Name}
    (hitem : .identifier (Name.pathSql path) ∈ q.items) : ∃ front last, path = front ++ [last] := by
  have hcheck := Edit.check_items valid _ hitem
  have hne : path ≠ [] := by
    rintro rfl
    exact absurd (Edit.check_identifier_iff.mp hcheck) (by decide)
  exact ⟨path.dropLast, path.getLast hne, (List.dropLast_concat_getLast hne).symm⟩

/-- A plain column of a query that is read is known by the last part of its name if and only if
that part holds no dot; otherwise it is known by what stands behind the dot, even within quotes.
Where projected names are looked for, a parenthesis in any of the parts keeps them together. -/
theorem lastPart_named_iff {d : Dialect} {text : String} {q : Select}
    (h : d.parse text = .ok (some q)) {i : Nat} {path : List Name}
    (hwritten : (d.writtenItems text)[i]? = some (.expr (.column path))) :
    ∃ front last, path = front ++ [last] ∧
      q.items[i]? = some (.identifier (Name.pathSql path)) ∧
      ((ColumnRef.identifier (Name.pathSql path)).columnName = some last.sql ↔ last.IsWhole) ∧
      (∀ name, (ColumnRef.identifier (Name.pathSql path)).columnName = some name →
        last.sql.toList = name.toList ∨
          ∃ before, last.sql.toList = before ++ '.' :: name.toList) ∧
      ((∀ schema, last.sql ∈ Edit.resolve schema q) ↔
        last.IsWhole ∨ ∃ c ∈ q.items, c.isCall = true ∧ c.rendering = last.sql) ∧
      (projectedName (Name.pathSql path) = last.sql ↔
        if '(' ∈ (Name.pathSql path).toList ∨ Edit.isStar (Name.pathSql path) = true then
          front = []
        else '.' ∉ last.sql.toList) := by
  obtain ⟨item, hitem, hlower⟩ := exists_of_mapM_eq_ok (mapM_writtenItems h) hwritten
  obtain rfl : ColumnRef.identifier (Name.pathSql path) = item := Except.ok.inj hlower
  have hmem := List.mem_of_getElem? hitem
  obtain ⟨front, last, rfl⟩ := exists_lastPart (validate_of_parse h) hmem
  exact ⟨front, last, rfl, hitem, Name.columnName_pathSql_iff,
    fun name => Name.last_of_columnName, Name.forall_mem_resolve_iff hmem,
    Name.projectedName_pathSql_iff⟩

theorem lastPart_named_iff_quoted :
    ∃ q, Dialect.generic.parse "SELECT t.\"x y\" FROM t" = .ok (some q) ∧
      (Dialect.generic.writtenItems "SELECT t.\"x y\" FROM t")[0]? =
        some (.expr (.column [.bare "t", ⟨"x y", some '"'⟩])) ∧
      (ColumnRef.identifier "t.\"x y\"").columnName = some "\"x y\"" ∧
      ∀ schema, "\"x y\"" ∈ Edit.resolve schema q := by
  have hparse : Dialect.generic.parse "SELECT t.\"x y\" FROM t" =
      .ok (some (.new [.identifier "t.\"x y\""] (.table "t" none))) :=
    eq_ok_of_answersWith (by decide +kernel)
  have hwritten : (Dialect.generic.writtenItems "SELECT t.\"x y\" FROM t")[0]? =
      some (.expr (.column [.bare "t", ⟨"x y", some '"'⟩])) := by decide +kernel
  obtain ⟨front, last, hpath, -, hname, -, hresolve, -⟩ := lastPart_named_iff hparse hwritten
  have hparts : [Name.bare "t"] ++ [⟨"x y", some '"'⟩] = front ++ [last] := hpath
  obtain ⟨-, hlast⟩ := List.append_inj' hparts rfl
  obtain rfl := List.singleton_inj.mp hlast
  have hwhole : (⟨"x y", some '"'⟩ : Name).IsWhole := by decide +kernel
  exact ⟨_, hparse, hwritten, hname.mpr hwhole, hresolve.mpr (.inl hwhole)⟩

/-- The name of the column is `"a.b"`, quotes included, and it is known by `b"`. -/
theorem lastPart_cut_in_quotes :
    ∃ q, Dialect.generic.parse "SELECT \"a.b\" FROM t" = .ok (some q) ∧
      Dialect.generic.writtenItems "SELECT \"a.b\" FROM t" =
        [.expr (.column [⟨"a.b", some '"'⟩])] ∧
      q.items.map ColumnRef.columnName = [some "b\""] ∧
      Edit.resolve .flights q = ["b\""] ∧
      projectedName "\"a.b\"" = "b\"" := by
  refine ⟨.new [.identifier "\"a.b\""] (.table "t" none),
    eq_ok_of_answersWith (by decide +kernel), by decide +kernel, by decide +kernel,
    by decide +kernel, by decide +kernel⟩

end SelectTree
