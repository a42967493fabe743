import SelectTree.Proofs.TableTokens

namespace SelectTree

open Sql

/-! Queries as they are written: the answer to a text depends on its query only, if it holds nothing
but one, and not on the dialect in which the query is written. -/

/-- The query of a text that holds nothing else, as it is written. -/
def Sql.Dialect.written? (d : Dialect) (text : String) : Option Query :=
  if Text.isBlankText text then none
  else
    match readStatements d text.toList with
    | .ok [.query q] => some q
    | _ => none

/-- What is answered to a query: its tree, if it has one and that is well-formed. -/
def Sql.Query.answer (q : Query) : Except Error (Option Select) := do
  let tree ← q.select.mapError .unsupportedSql
  tree.validate
  return some tree

theorem Sql.Dialect.parse_written {d : Dialect} {text : String} {q : Query}
    (h : d.written? text = some q) : d.parse text = q.answer := by
  unfold Dialect.written? at h
  split at h
  · cases h
  · rename_i hblank
    split at h
    · rename_i q' hread
      obtain rfl := Option.some.inj h
      rw [Dialect.parse, if_neg hblank, Dialect.parseStatements, hread]
      cases hselect : q'.select with
      | error cause => simp [mapError_ok, mapError_error, treeOfStatements, hselect, Query.answer,
          Except.map, bind, Except.bind]
      | ok tree =>
        cases hvalid : tree.validate <;>
          simp [mapError_ok, treeOfStatements, hselect, hvalid, Query.answer, Except.map, bind,
            Except.bind, pure, Except.pure]
    · cases h

namespace Sql

/-- A tree is only checked if the text holds nothing but a query that has one. -/
theorem Dialect.parse_malformedTree_inv {d : Dialect} {text : String} {fault : Malformation}
    (h : d.parse text = .error (.malformedTree fault)) :
    ∃ q tree, d.written? text = some q ∧ q.select = .ok tree := by
  unfold Dialect.parse at h
  split at h
  · cases h
  · rename_i hblank
    unfold Dialect.parseStatements at h
    cases hread : readStatements d text.toList with
    | error cause => simp [hread, mapError_error, bind, Except.bind, Except.map] at h
    | ok statements =>
        cases htree : treeOfStatements statements with
        | error cause => simp [hread, htree, mapError_ok, mapError_error, bind, Except.bind,
            Except.map] at h
        | ok tree =>
            obtain ⟨q, rfl, hselect⟩ := treeOfStatements_eq_ok htree
            exact ⟨q, tree, by rw [Dialect.written?, if_neg hblank, hread], hselect⟩

/-! Queries of one table -/

/-- A query of nothing but columns of one table, in an order perhaps. -/
def Query.ofTable (items : List Item) (table : Factor) (keys : List OrderKey) : Query :=
  ⟨none, .selection ⟨.select, none, none, items, none, [⟨table, []⟩], [], none, none, .none, [],
    none, []⟩, keys, "", none, none, none, []⟩

/-- The columns, the name and the alias of the table, and the sort keys of such a query. -/
def Query.partsOfTable? : Query → Option (List Item × List Name × Option Alias × List OrderKey)
  | ⟨none, .selection ⟨.select, none, none, items, none,
      [⟨.table name [] none false asName [], []⟩], [], none, none, .keys [] [], [], none, []⟩, keys,
      "", none, none, none, []⟩ => some (items, name, asName, keys)
  | _ => none

theorem Query.eq_ofTable {q : Query} {items : List Item} {name : List Name}
    {asName : Option Alias} {keys : List OrderKey}
    (h : q.partsOfTable? = some (items, name, asName, keys)) :
    q = .ofTable items (.table name [] none false asName []) keys := by
  unfold partsOfTable? at h
  split at h
  · simp only [Option.some.injEq, Prod.mk.injEq] at h
    obtain ⟨rfl, rfl, rfl, rfl⟩ := h
    rfl
  · cases h

theorem Dialect.written?_ofTable {d : Dialect} {text : String} {items : List Item}
    {name : List Name} {asName : Option Alias} {keys : List OrderKey}
    (h : (d.written? text).bind Query.partsOfTable? = some (items, name, asName, keys)) :
    d.written? text = some (.ofTable items (.table name [] none false asName []) keys) := by
  obtain ⟨q, hq, hparts⟩ := Option.bind_eq_some_iff.mp h
  rw [hq, Query.eq_ofTable hparts]

end Sql

end SelectTree
