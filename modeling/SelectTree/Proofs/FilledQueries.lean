import SelectTree.Proofs.FilledSources

namespace SelectTree.Sql.Grammar

open Sql.Parser

-- A parser needs as many instances as it has steps.
set_option synthInstance.maxSize 1000

/-! Queries, whose selections hold the items, sources and groups that were read. -/

variable {d : Dialect} {n : Nested}

section

variable [n.Fills]

/-! Selections -/

instance fills_exclusion? : Fills exclusion? := by
  unfold exclusion?
  infer_instance

instance fills_exception? : Fills exception? := by
  unfold exception?
  infer_instance

instance fills_replacement : Fills (replacement n) := by
  unfold replacement
  infer_instance

instance fills_replacement? : Fills (replacement? n) := by
  unfold replacement?
  infer_instance

instance fills_renamedColumn : Fills renamedColumn := by
  unfold renamedColumn
  infer_instance

instance fills_renaming? : Fills renaming? := by
  unfold renaming?
  infer_instance

instance fills_wildcardOptions : Fills (wildcardOptions d n) := by
  unfold wildcardOptions
  infer_instance

instance fills_item : Fills (item d n) := by
  unfold item
  refine fills_bind inferInstance fun read hread => ?_
  split
  · infer_instance
  · have he := filled_operand.mp hread
    split
    all_goals infer_instance

instance fills_projection : Fills (projection d n) := by
  unfold projection
  infer_instance

instance fills_items : Fills (items d n) := by
  unfold items
  infer_instance

instance fills_distinction? : Fills (distinction? n) := by
  unfold distinction?
  refine fills_bind inferInstance fun _ _ => fills_bind inferInstance fun _ _ =>
    fills_bind inferInstance fun _ _ => fills_ite (fills_ite ?_ ?_) ?_
  all_goals infer_instance

instance fills_top? : Fills (top? n) := by
  unfold top?
  infer_instance

instance fills_into? : Fills into? := by
  unfold into?
  infer_instance

instance fills_viewColumn? : Fills viewColumn? := by
  unfold viewColumn?
  infer_instance

instance fills_views : Fills (views n) := by
  unfold views
  infer_instance

instance fills_tuple : Fills (tuple n) := by
  unfold tuple
  infer_instance

instance fills_tupleOrSingle : Fills (tupleOrSingle n) := by
  unfold tupleOrSingle
  infer_instance

instance fills_groupingSets (word : String) (liftsSingles : Bool) :
    Fills (groupingSets n word liftsSingles) := by
  unfold groupingSets
  infer_instance

instance fills_groupingKey : Fills (groupingKey d n) := by
  unfold groupingKey
  refine fills_ite (fills_bind inferInstance fun _ _ => fills_ite inferInstance ?_) inferInstance
  refine fills_bind inferInstance fun _ _ => fills_ite inferInstance (fills_bind inferInstance
    fun _ _ => fills_ite inferInstance (fills_bind inferInstance fun _ _ => ?_))
  split
  all_goals infer_instance

instance fills_groupingModifiers : Fills (groupingModifiers d n) := by
  unfold groupingModifiers
  infer_instance

instance fills_grouping : Fills (grouping d n) := by
  unfold grouping
  infer_instance

instance fills_clusterings : Fills (clusterings d n) := by
  unfold clusterings
  infer_instance

instance fills_namedWindow : Fills (namedWindow d n) := by
  unfold namedWindow
  infer_instance

instance fills_windows? : Fills (windows? d n) := by
  unfold windows?
  infer_instance

instance fills_qualification? : Fills (qualification? n) := by
  unfold qualification?
  infer_instance

instance fills_windowClauses : Fills (windowClauses d n) := by
  unfold windowClauses
  infer_instance

instance fills_hierarchy? : Fills (hierarchy? d n) := by
  unfold hierarchy?
  infer_instance

instance fills_selectionAfter {first : Option (List Joined)} [hfirst : Filled first] :
    Fills (selectionAfter d n first) := by
  unfold selectionAfter
  cases first with
  | none => infer_instance
  | some read =>
      have hread := filled_some.mp hfirst
      infer_instance

instance fills_selection : Fills (selection d n) := by
  unfold selection
  infer_instance

/-! Clauses of queries -/

instance fills_interpolatedColumn : Fills (interpolatedColumn n) := by
  unfold interpolatedColumn
  infer_instance

instance fills_interpolation : Fills (interpolation n) := by
  unfold interpolation
  infer_instance

instance fills_orderClause : Fills (orderClause d n) := by
  unfold orderClause
  infer_instance

instance fills_offset : Fills (offset n) := by
  unfold offset
  infer_instance

instance fills_limitBy : Fills (limitBy d n) := by
  unfold limitBy
  infer_instance

instance fills_limitClause : Fills (limitClause d n) := by
  unfold limitClause
  infer_instance

instance fills_fetch? : Fills (fetch? d) := by
  unfold fetch?
  infer_instance

instance fills_lock : Fills lock := by
  unfold lock
  infer_instance

instance fills_literalInParentheses : Fills literalInParentheses := by
  unfold literalInParentheses
  infer_instance

theorem fills_documentOptions {options : List (String × Parser String)}
    (h : ∀ option ∈ options, Fills option.2) : Fills (documentOptions options) := by
  have hdetail (phrase : String) : Fills ((options.lookup phrase).getD (pure "")) := by
    cases hfound : options.lookup phrase with
    | none => exact fills_pure _
    | some p =>
        obtain ⟨before, behind, rfl, -⟩ := List.lookup_eq_some_iff.mp hfound
        exact h (phrase, p) (by simp)
  unfold documentOptions
  infer_instance

instance fills_named (word : String) : Fills (named word) := by
  unfold named
  infer_instance

instance fills_xmlDocument : Fills xmlDocument := by
  have hoptions : Fills (documentOptions
      [("BINARY", do expectWord "BASE64"; return " BASE64"), ("TYPE", pure ""),
        ("ROOT", literalInParentheses), ("ELEMENTS", pure "")]) := by
    refine fills_documentOptions ?_
    simp only [List.forall_mem_cons]
    exact ⟨inferInstance, inferInstance, inferInstance, inferInstance, nofun⟩
  unfold xmlDocument
  dsimp only
  infer_instance

instance fills_jsonDocument : Fills jsonDocument := by
  have hoptions : Fills (documentOptions
      [("ROOT", literalInParentheses), ("INCLUDE_NULL_VALUES", pure ""),
        ("WITHOUT_ARRAY_WRAPPER", pure "")]) := by
    refine fills_documentOptions ?_
    simp only [List.forall_mem_cons]
    exact ⟨inferInstance, inferInstance, inferInstance, nofun⟩
  unfold jsonDocument
  infer_instance

instance fills_purposes : Fills purposes := by
  refine fills_iterate (fun read _ => fills_bind inferInstance fun _ _ => fills_ite ?_ ?_)
    inferInstance
  · refine fills_bind inferInstance fun _ _ => ?_
    split
    all_goals infer_instance
  · infer_instance

instance fills_format? : Fills (format? d) := by
  unfold format?
  infer_instance

/-! Changes of tables -/

instance fills_filterPart : Fills (filterPart n) := by
  unfold filterPart
  infer_instance

instance fills_itemsText : Fills (itemsText d n) := by
  unfold itemsText
  infer_instance

instance fills_returningPart : Fills (returningPart d n) := by
  unfold returningPart
  infer_instance

instance fills_assignmentTarget : Fills assignmentTarget := by
  unfold assignmentTarget
  infer_instance

instance fills_assignment : Fills (assignment n) := by
  unfold assignment
  infer_instance

instance fills_assignments : Fills (assignments n) := by
  unfold assignments
  infer_instance

instance fills_conflictRule? : Fills conflictRule? := by
  unfold conflictRule?
  refine fills_bind inferInstance fun _ _ => ?_
  split
  all_goals infer_instance

instance fills_columnNames? (emptyNames : Bool) : Fills (columnNames? emptyNames) := by
  unfold columnNames?
  infer_instance

instance fills_beginsParenthesizedQuery : Fills beginsParenthesizedQuery :=
  fills_ahead _

instance fills_insertedRows : Fills (insertedRows d n) := by
  unfold insertedRows
  infer_instance

instance fills_rowAlias : Fills (rowAlias d) := by
  unfold rowAlias
  infer_instance

instance fills_conflictTarget : Fills conflictTarget := by
  unfold conflictTarget
  infer_instance

instance fills_conflictPart : Fills (conflictPart n) := by
  unfold conflictPart
  infer_instance

instance fills_fileFormat : Fills fileFormat := by
  unfold fileFormat
  infer_instance

instance fills_exportedRows : Fills (exportedRows n) := by
  unfold exportedRows
  infer_instance

instance fills_insertion (word : String) : Fills (insertion d n word) := by
  unfold insertion
  infer_instance

instance fills_deletion : Fills (deletion d n) := by
  unfold deletion
  refine fills_bind inferInstance fun _ _ => ?_
  split
  all_goals infer_instance

instance fills_change : Fills (change d n) := by
  unfold change
  infer_instance

instance fills_matchKind : Fills matchKind := by
  unfold matchKind
  infer_instance

instance fills_mergedRow : Fills (mergedRow d n) := by
  unfold mergedRow
  infer_instance

instance fills_mergeAction (kind : MatchKind) : Fills (mergeAction d n kind) := by
  unfold mergeAction
  refine fills_bind inferInstance fun _ _ => ?_
  split
  all_goals infer_instance

instance fills_mergeBranch : Fills (mergeBranch d n) := by
  unfold mergeBranch
  infer_instance

instance fills_mergeOutput : Fills (mergeOutput d n) := by
  unfold mergeOutput
  infer_instance

instance fills_merging : Fills (merging d n) := by
  unfold merging
  infer_instance

instance fills_change? : Fills (change? d n) := by
  unfold change?
  refine fills_bind inferInstance fun _ _ => ?_
  split
  all_goals infer_instance

/-! Pipes -/

instance fills_setQuantifier : Fills setQuantifier := by
  unfold setQuantifier
  infer_instance

instance fills_distinctQuantifier (word : String) : Fills (distinctQuantifier word) := by
  unfold distinctQuantifier
  infer_instance

instance fills_pipedQueries : Fills (pipedQueries n) := by
  unfold pipedQueries
  infer_instance

instance fills_aggregatedItem : Fills (aggregatedItem n) := by
  unfold aggregatedItem
  infer_instance

instance fills_aggregation : Fills (aggregation n) := by
  unfold aggregation
  infer_instance

instance fills_renamedAs : Fills renamedAs := by
  unfold renamedAs
  infer_instance

instance fills_pipedName : Fills pipedName := by
  unfold pipedName
  infer_instance

instance fills_pipedPivot : Fills (pipedPivot d n) := by
  unfold pipedPivot
  infer_instance

instance fills_pipedUnpivot : Fills pipedUnpivot := by
  unfold pipedUnpivot
  infer_instance

instance fills_pipedJoin : Fills (pipedJoin d n) := by
  unfold pipedJoin
  refine fills_bind inferInstance fun _ _ => ?_
  split
  all_goals infer_instance

instance fills_pipeStep (word : String) : Fills (pipeStep d n word) := by
  unfold pipeStep
  split
  all_goals infer_instance

instance fills_pipes : Fills (pipes d n) := by
  unfold pipes
  infer_instance

/-! Queries -/

instance fills_wholeTable : Fills wholeTable := by
  have htoken : Fills (acceptToken some) :=
    fills_acceptToken fun t a ht h => Option.some.inj h ▸ ht
  have hword (what : String) (place : List Token) (t : Option Token) : Fills (match t with
      | some (.word w) => pure w.text
      | _ => fun _ => .error ⟨.expected (.phrase what), place⟩ : Parser String) := by
    rcases t with _ | (w | _)
    · exact fills_refused _
    · exact fills_pure _
    all_goals exact fills_refused _
  unfold wholeTable
  refine fills_bind inferInstance fun _ _ => fills_bind inferInstance fun _ _ =>
    fills_bind inferInstance fun _ _ => fills_bind inferInstance fun _ _ =>
    fills_bind inferInstance fun _ _ => fills_ite ?_ ?_
  · exact fills_bind (hword _ _ _) fun _ _ => fills_bind (hword _ _ _) fun _ _ => inferInstance
  · exact fills_bind (hword _ _ _) fun _ _ => inferInstance

instance fills_bodyHead : Fills (bodyHead d n) := by
  unfold bodyHead
  infer_instance

instance fills_combined {operand : Parser Body} (operators : List Keyword)
    [Fills operand] : Fills (combined operators operand) := by
  unfold combined
  infer_instance

instance fills_body : Fills (body d n) := by
  unfold body
  infer_instance

instance fills_materialization : Fills (materialization d) := by
  unfold materialization
  infer_instance

instance fills_commonTable : Fills (commonTable d n) := by
  unfold commonTable
  infer_instance

instance fills_withClause? : Fills (withClause? d n) := by
  unfold withClause?
  infer_instance

instance fills_query : Fills (query d n) := by
  unfold query
  refine fills_bind inferInstance fun _ _ => fills_bind inferInstance fun _ _ => ?_
  split
  · dsimp only [Query.ofBody]
    infer_instance
  · refine fills_bind inferInstance fun _ _ => fills_bind inferInstance fun order horder => ?_
    obtain ⟨hkeys, -⟩ := filled_pair.mp horder
    infer_instance

end

end SelectTree.Sql.Grammar
