import SelectTree.Proofs.FilledQueries
import SelectTree.Proofs.WrittenQueries

namespace SelectTree.Sql.Grammar

open Sql.Parser

-- A parser needs as many instances as it has steps.
set_option synthInstance.maxSize 1000

/-! Texts: the names in the queries of a text are those of words and of quoted texts, and none of
them is empty. -/

variable {d : Dialect} {n : Nested}

section

variable [n.Fills]

/-! Definitions of columns -/

instance fills_firstOf_nil : Fills (firstOf []) :=
  fills_pure none

instance fills_firstOf {p : Parser (Option String)} {ps : List (Parser (Option String))} [Fills p]
    [Fills (firstOf ps)] : Fills (firstOf (p :: ps)) := by
  unfold firstOf
  infer_instance

instance fills_opened (phrase : String) {p : Parser String} [Fills p] :
    Fills (opened phrase p) := by
  unfold opened
  infer_instance

instance fills_openedIf (allowed : Bool) (phrase : String) {p : Parser String} [Fills p] : Fills
    (openedIf allowed phrase p) := by
  unfold openedIf
  infer_instance

instance fills_leading (phrase : String) : Fills (leading phrase) := by
  unfold leading
  infer_instance

instance fills_spaced {p : Parser String} [Fills p] : Fills (spaced p) := by
  unfold spaced
  infer_instance

theorem fills_mapM {ps : List (Parser (Option String))} (h : ∀ p ∈ ps, Fills p) :
    Fills (ps.mapM id) := by
  have hloop (read : List (Option String)) : Fills (List.mapM.loop id ps read) := by
    induction ps generalizing read with
    | nil => exact fills_pure _
    | cons p ps ih =>
        obtain ⟨hp, hps⟩ := List.forall_mem_cons.mp h
        exact fills_bind hp fun text _ => ih hps _
  exact hloop []

instance fills_sequenceOptions : Fills (sequenceOptions d) := by
  unfold sequenceOptions
  dsimp only
  refine fills_bind (fills_mapM ?_) fun _ _ => inferInstance
  simp only [List.forall_mem_cons]
  exact ⟨inferInstance, inferInstance, inferInstance, inferInstance, inferInstance, inferInstance,
    nofun⟩

instance fills_checkTimes : Fills checkTimes := by
  have habsent (given : Option String) (phrases : List String) :
      Fills (checkTimes.absent given phrases) := by
    unfold checkTimes.absent
    infer_instance
  unfold checkTimes
  infer_instance

instance fills_referentialAction : Fills referentialAction := by
  unfold referentialAction
  infer_instance

instance fills_referentialRules : Fills referentialRules := by
  unfold referentialRules
  infer_instance

instance fills_reference (gap : String) : Fills (reference gap) := by
  unfold reference
  infer_instance

instance fills_comment : Fills comment := by
  unfold comment
  infer_instance

instance fills_commentText : Fills commentText := by
  unfold commentText
  infer_instance

instance fills_optionValue : Fills (optionValue d n) := by
  unfold optionValue
  infer_instance

instance fills_plainCondition : Fills (plainCondition n) := by
  unfold plainCondition
  infer_instance

instance fills_identity (whenGiven : String) : Fills (identity d whenGiven) := by
  unfold identity
  infer_instance

instance fills_generationMode : Fills (generationMode d) := by
  unfold generationMode
  infer_instance

instance fills_generated? : Fills (generated? d n) := by
  unfold generated?
  infer_instance

instance fills_computed : Fills (computed n) := by
  unfold computed
  infer_instance

instance fills_identityBounds : Fills (identityBounds d) := by
  unfold identityBounds
  infer_instance

instance fills_conflictAction : Fills conflictAction := by
  unfold conflictAction
  infer_instance

instance fills_columnOption? : Fills (columnOption? d n) := by
  unfold columnOption?
  infer_instance

instance fills_columnOptions : Fills (columnOptions d n) := by
  unfold columnOptions
  infer_instance

instance fills_isUntyped : Fills (isUntyped d) :=
  fills_ahead _

instance fills_columnDefinition : Fills (columnDefinition d n) := by
  unfold columnDefinition
  infer_instance

end

/-! Statements -/

/-- Every layer of the grammar reads filled names, since the layer below it does. -/
theorem fills_nestedAt (depth : Nat) : (nestedAt d depth).Fills := by
  induction depth with
  | zero => exact ⟨fun _ => ⟨fun _ => fills_fail _, fills_fail _, fills_fail _⟩⟩
  | succ depth ih =>
      exact ⟨fun context => ⟨fun strength => fills_operand strength, fills_query,
        fills_columnDefinition⟩⟩

theorem statement_query_eq_ok {ts rest : List Token} {q : Query}
    (h : statement d n ts = .ok (.query q, rest)) : n.query ts = .ok (q, rest) := by
  obtain ⟨opens, left, hopens, h⟩ := run_bind_eq_ok_iff.mp h
  obtain ⟨-, rfl⟩ := Prod.mk.inj (Except.ok.inj hopens)
  split at h
  · obtain ⟨q', left, hquery, h⟩ := run_bind_eq_ok_iff.mp h
    obtain ⟨heq, rfl⟩ := run_pure_eq_ok h
    rwa [← Statement.query.inj heq]
  · refine absurd rfl (Yields.of_ok (P := fun s => s ≠ .query q) ?_ h)
    refine yields_bind fun explains => ?_
    cases explains with
    | some word =>
        refine yields_bind fun detail => yields_bind fun explained => ?_
        split
        · exact yields_fail _
        · exact yields_pure nofun
        · exact yields_bind fun _ => yields_bind fun _ => yields_pure nofun
    | none =>
        refine yields_bind fun text => ?_
        cases text with
        | some text => exact yields_pure nofun
        | none =>
            refine yields_bind fun word => ?_
            cases word with
            | none => exact yields_fail _
            | some word => exact yields_bind fun text => yields_pure nofun

/-- Only semicolons stand before the first statement. -/
theorem filled_of_statementSteps {fuel : Nat} {ts rest : List Token} {q : Query}
    (hstatement : ∀ {us left}, Filled us → n.statement us = .ok (.query q, left) → Filled q)
    (hts : Filled ts)
    (h : iterateFrom (statementStep n) fuel ([], true) ts = .ok ([.query q], rest)) :
    Filled q := by
  induction fuel generalizing ts with
  | zero => cases h
  | succ fuel ih =>
      obtain ⟨outcome, left, hstep, h⟩ := run_bind_eq_ok_iff.mp h
      obtain ⟨separates, us, haccept, hstep⟩ := run_bind_eq_ok_iff.mp hstep
      have hus := ((fills_accept .semicolon).keeps ts _ _ hts haccept).2
      split at hstep
      · obtain ⟨rfl, rfl⟩ := run_pure_eq_ok hstep
        exact ih hus h
      · obtain ⟨next, vs, hpeek, hstep⟩ := run_bind_eq_ok_iff.mp hstep
        have hvs := (fills_peek.keeps us _ _ hus hpeek).2
        cases next with
        | none =>
            obtain ⟨rfl, rfl⟩ := run_pure_eq_ok hstep
            cases (run_pure_eq_ok h).1
        | some t =>
            obtain ⟨s, more, hs, hstep⟩ := run_bind_eq_ok_iff.mp hstep
            obtain ⟨rfl, rfl⟩ := run_pure_eq_ok hstep
            obtain ⟨others, heq⟩ :=
              (yields_iterateFrom (yields_statementStep s) fuel ⟨[], rfl⟩).of_ok h
            obtain ⟨rfl, -⟩ := List.cons.inj heq
            exact hstatement hvs hs

theorem filled_of_text {ts rest : List Token} {q : Query} (hts : Filled ts)
    (h : text d ts = .ok ([.query q], rest)) : Filled q := by
  rw [text, statements_eq] at h
  refine filled_of_statementSteps (fun {us left} hus hread => ?_) hts h
  have hn := fills_nestedAt (d := d) 49
  exact (Nested.fills_query.keeps us q left hus (statement_query_eq_ok hread)).1

end SelectTree.Sql.Grammar

namespace SelectTree.Sql

open Grammar

variable {d : Dialect}

/-! Tokens -/

theorem filled_of_lexFrom {fuel : Nat} {previous : Option Token} {cs : List Char}
    {lexemes : List Lexeme} (h : lexFrom d fuel previous cs = .ok lexemes) :
    Filled (lexemes.map Lexeme.token) := by
  induction fuel generalizing previous cs lexemes with
  | zero =>
      cases h
      exact filled_nil
  | succ fuel ih =>
      cases cs with
      | nil =>
          cases h
          exact filled_nil
      | cons c cs =>
          obtain ⟨read, rest, token, more, hscan, hmore, hmap, hread⟩ := lexFrom_cons_inv h
          rw [hmap, filled_append]
          refine ⟨filled_list.mpr fun t ht => ⟨fun name hname => filled_name.mpr ?_⟩, ih hmore⟩
          have htoken : token = some t := Option.mem_toList.mp ht
          have hpath : IsPathToken t := .inl (by simp [hname])
          have hscanned := read_of_isPathToken hread htoken hpath
          exact ((fits_scan previous c cs read rest hscan).2 t hscanned name hname).1

/-- The names in a query that a text holds are not empty. -/
theorem Dialect.filled_of_written? {text : String} {q : Query} (h : d.written? text = some q) :
    Filled q := by
  unfold Dialect.written? at h
  split at h
  · cases h
  · split at h
    · rename_i q' hread
      obtain rfl := Option.some.inj h
      obtain ⟨lexemes, rest, hlex, htext⟩ := readStatements_eq_ok hread
      exact filled_of_text (filled_of_lexFrom hlex) htext
    · cases h

end SelectTree.Sql
