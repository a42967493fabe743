import SelectTree.Proofs.FilledOperands

namespace SelectTree.Sql.Grammar

open Sql.Parser

-- A parser needs as many instances as it has steps.
set_option synthInstance.maxSize 1000

/-! Tables and joins. The name of a table is that of a word or of a quoted text. -/

variable {d : Dialect} {n : Nested}

section

variable [n.Fills]

/-! Pivots -/

instance fills_pivotedCall {interval : Parser Expr} [Fills interval] :
    Fills (pivotedCall d n interval) := by
  unfold pivotedCall
  refine fills_bind inferInstance fun _ _ => ?_
  split
  all_goals infer_instance

instance fills_namedExpr : Fills (namedExpr n) := by
  unfold namedExpr
  infer_instance

instance fills_pivotColumns : Fills (pivotColumns d n) := by
  unfold pivotColumns
  refine fills_bind inferInstance fun _ _ => fills_ite ?_ inferInstance
  refine fills_bind inferInstance fun _ _ => ?_
  split
  all_goals infer_instance

instance fills_pivotValues : Fills (pivotValues d n) := by
  unfold pivotValues
  infer_instance

instance fills_pivotParts {interval : Parser Expr} [Fills interval] :
    Fills (pivotParts d n interval) := by
  unfold pivotParts
  infer_instance

instance fills_unpivotParts : Fills (unpivotParts n) := by
  unfold unpivotParts
  refine fills_bind inferInstance fun _ _ => ?_
  split
  all_goals infer_instance

instance fills_pivoted {interval : Parser Expr} {factor : Factor}
    [Fills interval] [Filled factor] : Fills (pivoted d n interval factor) := by
  unfold pivoted
  infer_instance

/-! Patterns of rows -/

instance fills_repeatCount (start : List Token) (numeral : String) :
    Fills (repeatCount start numeral) := by
  refine fills_of_subset fun ts count rest h => ?_
  unfold repeatCount at h
  split at h
  · cases h
    exact List.Subset.refl _
  · cases h

instance fills_repeatRange : Fills repeatRange := by
  unfold repeatRange
  refine fills_bind inferInstance fun _ _ => fills_bind inferInstance fun _ _ => ?_
  split
  all_goals infer_instance

instance fills_repetition? : Fills repetition? := by
  unfold repetition?
  infer_instance

instance fills_basePattern {pattern : Parser String} [Fills pattern] :
    Fills (basePattern pattern) := by
  unfold basePattern
  refine fills_bind inferInstance fun _ _ => ?_
  split
  all_goals infer_instance

instance fills_repeatedPattern {pattern : Parser String} [Fills pattern] :
    Fills (repeatedPattern pattern) := by
  unfold repeatedPattern
  infer_instance

instance fills_patternRow {pattern : Parser String} [Fills pattern] :
    Fills (patternRow pattern) := by
  unfold patternRow
  infer_instance

instance fills_patternAt (fuel : Nat) : Fills (patternAt fuel) := by
  induction fuel with
  | zero => exact fills_fail _
  | succ fuel ih =>
      unfold patternAt
      infer_instance

instance fills_rowPattern : Fills rowPattern :=
  fills_withFuel patternAt

instance fills_measure : Fills (measure n) := by
  unfold measure
  infer_instance

instance fills_rowsPerMatch : Fills rowsPerMatch := by
  unfold rowsPerMatch
  infer_instance

instance fills_afterMatch : Fills afterMatch := by
  unfold afterMatch
  infer_instance

instance fills_symbolDefinition : Fills (symbolDefinition n) := by
  unfold symbolDefinition
  infer_instance

instance fills_matched (factor : Factor) : Fills (matched d n factor) := by
  unfold matched
  infer_instance

/-! Tables in documents -/

instance fills_missingValueRule? : Fills (missingValueRule? d) := by
  unfold missingValueRule?
  refine fills_bind inferInstance fun _ _ => ?_
  split
  all_goals infer_instance

instance fills_missingValueRules : Fills (missingValueRules d) := by
  unfold missingValueRules
  infer_instance

instance fills_jsonColumnAt (fuel : Nat) : Fills (jsonColumnAt d n fuel) := by
  induction fuel with
  | zero => exact fills_fail _
  | succ fuel ih =>
      unfold jsonColumnAt
      infer_instance

instance fills_jsonColumn : Fills (jsonColumn d n) :=
  fills_withFuel (jsonColumnAt d n)

instance fills_jsonTable : Fills (jsonTable d n) := by
  unfold jsonTable
  infer_instance

instance fills_openedColumn : Fills (openedColumn d n) := by
  unfold openedColumn
  infer_instance

instance fills_openedJson : Fills (openedJson d n) := by
  unfold openedJson
  infer_instance

instance fills_namespaces : Fills (namespaces n) := by
  unfold namespaces
  infer_instance

instance fills_passedDocument : Fills (passedDocument n) := by
  unfold passedDocument
  infer_instance

instance fills_xmlColumn : Fills (xmlColumn d n) := by
  unfold xmlColumn
  infer_instance

instance fills_xmlTable : Fills (xmlTable d n) := by
  unfold xmlTable
  infer_instance

instance fills_documentTable? : Fills (documentTable? d n) := by
  have hopened (factor : Parser Factor) [Fills factor] : Fills (documentTable?.opened factor) := by
    unfold documentTable?.opened
    infer_instance
  unfold documentTable?
  refine fills_bind fills_rest fun _ _ => ?_
  split
  · split
    all_goals infer_instance
  · infer_instance

/-! Samples -/

instance fills_bucket : Fills (bucket d n) := by
  unfold bucket
  infer_instance

instance fills_sampleSize : Fills (sampleSize n) := by
  unfold sampleSize
  dsimp only
  refine fills_bind inferInstance fun size _ => ?_
  split
  · infer_instance
  · refine fills_bind inferInstance fun following _ => ?_
    split
    all_goals infer_instance

instance fills_sampleSeed : Fills (sampleSeed d) := by
  unfold sampleSeed
  infer_instance

instance fills_sampleRows : Fills (sampleRows d n) := by
  unfold sampleRows
  infer_instance

instance fills_sampleAfter (word : String) : Fills (sampleAfter d n word) := by
  unfold sampleAfter
  infer_instance

instance fills_sample? : Fills (sample? d n) := by
  unfold sample?
  infer_instance

/-! Sources -/

instance fills_derived (lateral : Bool) : Fills (derived d n lateral) := by
  unfold derived
  infer_instance

instance fills_rows (emptyRows : Bool) : Fills (rows n emptyRows) := by
  unfold rows
  infer_instance

instance fills_optionalArguments : Fills (optionalArguments d n) := by
  unfold optionalArguments
  infer_instance

instance fills_lateralFactor : Fills (lateralFactor d n) := by
  unfold lateralFactor
  infer_instance

instance fills_functionFactor : Fills (functionFactor d n) := by
  unfold functionFactor
  infer_instance

instance fills_valuesFactor : Fills (valuesFactor d n) := by
  have hquery (values : String) : Filled (Query.ofBody (.other values)) :=
    ⟨trivial, filled_nil⟩
  unfold valuesFactor
  infer_instance

instance fills_unnestFactor : Fills (unnestFactor d n) := by
  unfold unnestFactor
  infer_instance

instance fills_setting : Fills (setting n) := by
  unfold setting
  infer_instance

instance fills_settings? : Fills (settings? d n) := by
  unfold settings?
  infer_instance

instance fills_tableArguments : Fills (tableArguments d n) := by
  unfold tableArguments
  infer_instance

instance fills_indexHint (word : String) : Fills (indexHint word) := by
  unfold indexHint
  infer_instance

instance fills_indexHints : Fills (indexHints d) := by
  unfold indexHints
  infer_instance

instance fills_tableHints : Fills (tableHints n) := by
  unfold tableHints
  refine fills_bind inferInstance fun _ _ => ?_
  split
  all_goals infer_instance

instance fills_tableFactor : Fills (tableFactor d n) := by
  unfold tableFactor
  infer_instance

instance fills_joinCondition (natural : Bool) : Fills (joinCondition n natural) := by
  unfold joinCondition
  infer_instance

instance fills_sidedWords (side : Keyword) (short : JoinKind) (long : JoinKind) :
    Fills (sidedWords side short long) := by
  unfold sidedWords
  refine fills_bind inferInstance fun _ _ => ?_
  split
  all_goals infer_instance

instance fills_joinWords? (natural : Bool) : Fills (joinWords? natural) := by
  unfold joinWords?
  refine fills_bind inferInstance fun _ _ => ?_
  split
  all_goals infer_instance

instance fills_crossJoin {factor : Parser Factor} (isGlobal : Bool) [Fills factor] : Fills
    (crossJoin d n factor isGlobal) := by
  unfold crossJoin
  infer_instance

instance fills_asOfJoin {factor : Parser Factor} (isGlobal : Bool) [Fills factor] : Fills
    (asOfJoin n factor isGlobal) := by
  unfold asOfJoin
  infer_instance

instance fills_join? {factor : Parser Factor} [Fills factor] : Fills (join? d n factor) := by
  unfold join?
  infer_instance

instance fills_joinedWith {factor : Parser Factor} [Fills factor] :
    Fills (joinedWith d n factor) := by
  unfold joinedWith
  infer_instance

instance filled_renamed {asName : Alias} {factor : Factor} [h : Filled factor] :
    Filled (renamed asName factor) := by
  cases factor
  all_goals exact ⟨h.holds⟩

instance fills_nestedFactor {joined : Parser Joined} [Fills joined] :
    Fills (nestedFactor d n joined) := by
  unfold nestedFactor
  refine fills_bind inferInstance fun inner hinner => ?_
  have hfirst : Filled inner.first := by
    cases inner
    exact (filled_joined.mp hinner).1
  refine fills_ite inferInstance (fills_ite ?_ inferInstance)
  refine fills_bind inferInstance fun _ _ => fills_bind inferInstance fun outer _ => ?_
  split
  all_goals infer_instance

instance fills_beginsValues : Fills beginsValues :=
  fills_ahead _

instance fills_factorAt (fuel : Nat) : Fills (factorAt d n fuel) := by
  induction fuel with
  | zero => exact fills_fail _
  | succ fuel ih =>
      unfold factorAt
      infer_instance

instance fills_factor : Fills (factor d n) :=
  fills_withFuel (factorAt d n)

instance fills_joined : Fills (joined d n) := by
  unfold joined
  infer_instance

instance fills_sources : Fills (sources d n) := by
  unfold sources
  infer_instance

instance fills_sourcesText : Fills (sourcesText d n) := by
  unfold sourcesText
  infer_instance

end

end SelectTree.Sql.Grammar
