import SelectTree.Proofs.FilledSyntax

namespace SelectTree.Sql.Grammar

open Sql.Parser

-- A parser needs as many instances as it has steps.
set_option synthInstance.maxSize 1000

/-! Names, constants and types. Each parser of the grammar has one lemma: if what is nested in it
fills names then so does the parser. That of a parser which calls others follows from theirs. -/

/-- What the layer reads has filled names. -/
structure Layer.Fills (l : Layer) : Prop where
  operand : ∀ strength, Parser.Fills (l.operand strength)
  query : Parser.Fills l.query
  column : Parser.Fills l.column

/-- What is nested, in every context, has filled names. -/
class Nested.Fills (n : Nested) : Prop where
  layer : ∀ context, (n.layer context).Fills

variable {d : Dialect} {n : Nested}

namespace Nested

variable [n.Fills]

instance fills_within (context : Context) : (n.within context).Fills :=
  ⟨Fills.layer (n := n)⟩

instance fills_operand (strength : Nat) : Parser.Fills (n.operand strength) :=
  (Fills.layer (n := n) n.context).operand strength

instance fills_query : Parser.Fills n.query :=
  (Fills.layer (n := n) n.context).query

instance fills_column : Parser.Fills n.column :=
  (Fills.layer (n := n) n.context).column

instance fills_expr : Parser.Fills n.expr :=
  n.fills_operand 0

instance fills_tighter (b : Binding) : Parser.Fills (n.tighter d b) :=
  n.fills_operand (b.strength d)

instance fills_exprs : Parser.Fills n.exprs := by
  unfold exprs
  infer_instance

instance fills_exprText : Parser.Fills n.exprText := by
  unfold exprText
  infer_instance

instance fills_exprsText : Parser.Fills n.exprsText := by
  unfold exprsText
  infer_instance

instance fills_queryText : Parser.Fills n.queryText := by
  unfold queryText
  infer_instance

end Nested

/-! Names -/

instance fills_name : Fills name :=
  fills_token fun _ _ ht h => filled_nameOfToken? ht h

theorem keeps_path : Keeps path FilledPath := by
  unfold path
  refine Keeps.bind fills_name.keeps fun first hfirst => ?_
  refine keeps_iterate (I := FilledPath) (fun read hread => ?_) inferInstance
  refine Keeps.bind (fills_accept _).keeps fun goesOn _ => ?_
  split
  · exact Keeps.bind fills_name.keeps fun _ _ => keeps_pure filledPath_cons
  · exact keeps_pure filledPath_reverse

/-- What follows a qualified name may rely on it that the name has parts. -/
instance fills_bind_path {β : Type} [HoldsNames β] {f : List Name → Parser β}
    [hf : ∀ path : { path : List Name // FilledPath path }, Fills (f path.val)] :
    Fills (path >>= f) :=
  ⟨keeps_path.bind fun read hread => (hf ⟨read, hread⟩).keeps⟩

instance fills_path : Fills path := by
  constructor
  intro ts names rest hts h
  exact (keeps_path ts names rest hts h).imp_left fun hnames => hnames.toFilled

instance fills_nameText : Fills nameText := by
  unfold nameText
  infer_instance

instance fills_givenName? (allowed : Option Keyword → Bool) : Fills (givenName? allowed) := by
  have hname : Fills (token .nameAfterAs nameOfToken?) :=
    fills_token fun _ _ ht h => filled_nameOfToken? ht h
  have hallowed : Fills (acceptToken (nameIfAllowed? allowed)) := by
    refine fills_acceptToken fun t given ht h => filled_nameOfToken? ht ?_
    unfold nameIfAllowed? at h
    split at h
    · cases h
    · exact h
  unfold givenName?
  infer_instance

instance fills_itemName? : Fills itemName? := by
  unfold itemName?
  infer_instance

instance fills_nameTuple : Fills nameTuple := by
  unfold nameTuple
  infer_instance

instance fills_nameTuple? : Fills nameTuple? := by
  unfold nameTuple?
  infer_instance

instance fills_requiredNameTuple : Fills requiredNameTuple := by
  unfold requiredNameTuple
  infer_instance

instance fills_acceptAssignment : Fills acceptAssignment := by
  unfold acceptAssignment
  infer_instance

instance fills_pathText : Fills pathText := by
  unfold pathText
  infer_instance

instance fills_columnList : Fills columnList := by
  unfold columnList
  infer_instance

instance fills_columnListText : Fills columnListText := by
  unfold columnListText
  infer_instance

instance fills_namesUntilEnd : Fills namesUntilEnd := by
  refine fills_iterate (fun read _ => fills_bind inferInstance fun t ht => ?_) filled_nil
  split
  · infer_instance
  · rename_i t
    have hword := filled_some.mp ht
    refine fills_ite inferInstance (fills_bind inferInstance fun _ _ => ?_)
    split
    all_goals infer_instance

/-! Constants -/

instance fills_joinedText (text : String) : Fills (joinedText d text) := by
  unfold joinedText
  infer_instance

instance fills_value : Fills (value d) := by
  unfold value
  refine fills_bind inferInstance fun _ _ => ?_
  split
  all_goals infer_instance

instance fills_valueText : Fills (valueText d) := by
  unfold valueText
  infer_instance

instance fills_literalText : Fills literalText := by
  unfold literalText
  infer_instance

instance fills_numberText : Fills (numberText d) := by
  constructor
  intro ts read rest hts h
  unfold numberText at h
  split at h
  · rename_i hvalue
    have hrest := (fills_value.keeps ts _ _ hts hvalue).2
    split at h
    all_goals cases h
    all_goals exact ⟨inferInstance, hrest⟩
  · cases h

instance fills_signedNumberText : Fills (signedNumberText d) := by
  unfold signedNumberText
  infer_instance

instance fills_bounded (what : Expectation) (type : String) (most : Nat) :
    Fills (bounded what type most) := by
  refine fills_of_subset fun ts n rest h => ?_
  unfold bounded at h
  split at h
  · split at h
    · cases h
      exact List.subset_cons_self _ _
    · cases h
  · cases h

instance fills_whole : Fills whole := by
  unfold whole
  infer_instance

instance fills_signedWhole : Fills signedWhole := by
  unfold signedWhole
  infer_instance

instance fills_wholeInParentheses? : Fills wholeInParentheses? := by
  unfold wholeInParentheses?
  infer_instance

section

variable [n.Fills]

/-! Nested expressions and queries -/

instance fills_beginsQuery : Fills beginsQuery := by
  unfold beginsQuery
  infer_instance

instance fills_direction? : Fills direction? := by
  unfold direction?
  refine fills_bind inferInstance fun _ _ => ?_
  split
  all_goals infer_instance

instance fills_fill? : Fills (fill? d n) := by
  unfold fill?
  infer_instance

instance fills_orderKeyAfter {expr : Expr} [Filled expr] : Fills (orderKeyAfter d n expr) := by
  unfold orderKeyAfter
  infer_instance

instance fills_orderKey : Fills (orderKey d n) := by
  unfold orderKey
  infer_instance

instance fills_orderKeys : Fills (orderKeys d n) := by
  unfold orderKeys
  infer_instance

instance fills_orderKeysText : Fills (orderKeysText d n) := by
  unfold orderKeysText
  infer_instance

/-! Types -/

instance fills_characterLength? : Fills characterLength? := by
  unfold characterLength?
  infer_instance

instance fills_binaryLength? : Fills binaryLength? := by
  unfold binaryLength?
  infer_instance

instance fills_precisionAndScale? : Fills precisionAndScale? := by
  unfold precisionAndScale?
  infer_instance

instance fills_timeZone : Fills timeZone := by
  unfold timeZone
  infer_instance

instance fills_wholeType (spelling : String) : Fills (wholeType d spelling) := by
  unfold wholeType
  infer_instance

instance fills_doubleType : Fills doubleType := by
  unfold doubleType
  infer_instance

instance fills_characterType (spelling : String) : Fills (characterType spelling) := by
  unfold characterType
  infer_instance

instance fills_intervalFields : Fills intervalFields := by
  unfold intervalFields
  refine fills_bind inferInstance fun first _ => ?_
  split
  · infer_instance
  · split
    · infer_instance
    · refine fills_bind inferInstance fun _ _ => fills_ite ?_ inferInstance
      split
      all_goals infer_instance

instance fills_intervalType : Fills (intervalType d) := by
  unfold intervalType
  infer_instance

instance fills_zonedMoment : Fills zonedMoment := by
  unfold zonedMoment
  infer_instance

instance fills_enumMember : Fills (enumMember d) := by
  unfold enumMember
  infer_instance

instance fills_setMembers : Fills setMembers := by
  unfold setMembers
  infer_instance

instance fills_modifiers? : Fills modifiers? := by
  unfold modifiers?
  refine fills_bind inferInstance fun _ _ => fills_ite inferInstance ?_
  refine fills_bind (fills_iterate (fun _ _ => ?_) inferInstance) fun _ _ => inferInstance
  refine fills_bind inferInstance fun _ _ => ?_
  split
  all_goals infer_instance

instance fills_closeAngle (closed : Bool) : Fills (closeAngle closed) := by
  unfold closeAngle
  infer_instance

instance fills_assignedOption : Fills (assignedOption n) := by
  unfold assignedOption
  infer_instance

instance fills_rangeOption : Fills (rangeOption n) := by
  unfold rangeOption
  infer_instance

instance fills_clusteredOption : Fills clusteredOption := by
  unfold clusteredOption
  refine fills_bind inferInstance fun _ _ => ?_
  split
  all_goals infer_instance

instance fills_sqlOption : Fills (sqlOption d n) := by
  unfold sqlOption
  refine fills_ite inferInstance (fills_bind inferInstance fun _ _ => ?_)
  split
  all_goals infer_instance

instance fills_options {option : Parser String} [Fills option] : Fills (options option) := by
  unfold options
  infer_instance

instance fills_optionsAfter (word : String) {option : Parser String} [Fills option] : Fills
    (optionsAfter word option) := by
  unfold optionsAfter
  infer_instance

instance fills_typeField {type : Parser DataType} [Fills type] : Fills (typeField d n type) := by
  unfold typeField
  infer_instance

instance fills_structFields {type : Parser DataType} [Fills type] :
    Fills (structFields d n type) := by
  unfold structFields
  infer_instance

instance fills_inBrackets {type : Parser DataType} [Fills type] : Fills (inBrackets type) := by
  unfold inBrackets
  infer_instance

instance fills_closedType {type : Parser DataType} [Fills type] : Fills (closedType type) := by
  unfold closedType
  infer_instance

instance offers_compoundType? {type : Parser DataType} (spelling : String) [Fills type] :
    Offers (compoundType? d n type spelling) := by
  have haround (word : String) : Fills (compoundType?.around type word) := by
    unfold compoundType?.around
    infer_instance
  unfold compoundType?
  split
  all_goals infer_instance

instance offers_knownType? (spelling : String) : Offers (knownType? d spelling) := by
  unfold knownType?
  split
  · infer_instance
  · refine offers_ite inferInstance <| offers_ite inferInstance <| offers_ite inferInstance <|
      offers_ite inferInstance ?_
    split
    all_goals infer_instance

instance fills_unknownType : Fills unknownType := by
  unfold unknownType
  infer_instance

instance fills_namedType {type : Parser DataType} [Fills type]
    (spelling : String) : Fills (namedType d n type spelling) := by
  unfold namedType
  split
  · rename_i known hknown
    have hp := Offers.fills known hknown
    infer_instance
  · split
    · rename_i compound hcompound
      have hp := Offers.fills compound hcompound
      infer_instance
    · split
      all_goals infer_instance

instance fills_elementType {type : Parser DataType} [Fills type] :
    Fills (elementType d n type) := by
  unfold elementType
  refine fills_bind inferInstance fun _ _ => ?_
  split
  · split
    all_goals infer_instance
  · infer_instance

instance fills_dataTypeAt (fuel : Nat) : Fills (dataTypeAt d n fuel) := by
  induction fuel with
  | zero => exact fills_fail _
  | succ fuel ih =>
      unfold dataTypeAt
      infer_instance

instance fills_openType : Fills (openType d n) :=
  fills_withFuel (dataTypeAt d n)

instance fills_dataType : Fills (dataType d n) := by
  unfold dataType
  infer_instance

instance fills_dataTypeText : Fills (dataTypeText d n) := by
  unfold dataTypeText
  infer_instance

/-! Dates and times -/

instance fills_fieldDetail (field : String) : Fills (fieldDetail d field) := by
  unfold fieldDetail
  infer_instance

instance fills_dateTimeField : Fills (dateTimeField d) := by
  unfold dateTimeField
  infer_instance

instance fills_extraction : Fills (extraction d n) := by
  unfold extraction
  infer_instance

instance fills_rounding (word : String) : Fills (rounding d n word) := by
  unfold rounding
  dsimp only
  refine fills_bind inferInstance fun _ _ => fills_bind inferInstance fun _ _ =>
    fills_bind inferInstance fun _ _ => fills_bind inferInstance fun _ _ =>
    fills_ite inferInstance (fills_ite (fills_bind inferInstance fun _ _ => ?_) inferInstance)
  split
  all_goals infer_instance

instance fills_interval {prefixExpr : Parser Expr} [Fills prefixExpr] :
    Fills (interval d n prefixExpr) := by
  unfold interval
  infer_instance

/-! Aliases -/

instance fills_aliasColumns : Fills (aliasColumns d n) := by
  unfold aliasColumns
  infer_instance

instance fills_tableAlias? : Fills (tableAlias? d n) := by
  unfold tableAlias?
  infer_instance

end

end SelectTree.Sql.Grammar
