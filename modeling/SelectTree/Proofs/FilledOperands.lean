import SelectTree.Proofs.FilledTypes

namespace SelectTree.Sql.Grammar

open Sql.Parser

-- A parser needs as many instances as it has steps.
set_option synthInstance.maxSize 1000

/-! Operands and the operators between them. The names of columns and calls are those of words and
of quoted texts. -/

instance : HoldsNames Operand where
  areFilled
    | .wildcard _ => True
    | .expr e => Filled e

instance (table : Option (List Name)) : Filled (Operand.wildcard table) := ⟨trivial⟩

theorem filled_operand {e : Expr} : Filled (Operand.expr e) ↔ Filled e := filled_iff

instance {e : Expr} [h : Filled e] : Filled (Operand.expr e) := filled_operand.mpr h

instance : HoldsNames Access where
  areFilled
    | .field e => Filled e
    | .element _ => True

theorem filled_field {e : Expr} : Filled (Access.field e) ↔ Filled e := filled_iff

instance {e : Expr} [h : Filled e] : Filled (Access.field e) := filled_field.mpr h

instance (index : String) : Filled (Access.element index) := ⟨trivial⟩

variable {d : Dialect} {n : Nested}

section

variable [n.Fills]

/-! Calls -/

theorem filled_qualifier? {t : Token} {name : Name} (ht : Filled t)
    (h : qualifier? t = some name) : Filled name := by
  refine filled_nameOfToken? ht ?_
  unfold qualifier? at h
  split at h
  · exact h
  · exact h
  · cases h

instance fills_wildcardPath {read : List Name} [Filled read] : Fills (wildcardPath read) := by
  have hnext : Fills (token .partOfQualifiedName qualifier?) :=
    fills_token fun _ _ ht h => filled_qualifier? ht h
  unfold wildcardPath
  infer_instance

instance fills_wildcard? : Fills wildcard? := by
  constructor
  intro ts read rest hts h
  unfold wildcard? at h
  split at h
  · cases h
    exact ⟨inferInstance, (filled_cons.mp hts).2⟩
  · rename_i t us _
    obtain ⟨ht, hus⟩ := filled_cons.mp hts
    split at h
    · cases h
      exact ⟨inferInstance, hts⟩
    · rename_i first hfirst
      have hname : Filled first := filled_qualifier? ht hfirst
      have hpath := Fills.keeps (p := wildcardPath [first]) (.symbol .period :: us)
      split at h
      · rename_i table left hread
        cases h
        obtain ⟨htable, hleft⟩ := hpath _ _ hus hread
        have htable := filled_some.mp htable
        exact ⟨inferInstance, hleft⟩
      · cases h
        exact ⟨inferInstance, hts⟩
      · cases h
  · cases h
    exact ⟨inferInstance, hts⟩

instance fills_wildcardOrExpr : Fills (wildcardOrExpr n) := by
  unfold wildcardOrExpr
  infer_instance

instance fills_argumentOperator : Fills (argumentOperator d) := by
  unfold argumentOperator
  infer_instance

instance fills_argumentOperand (given : String) : Fills (argumentOperand d n given) := by
  unfold argumentOperand
  infer_instance

instance fills_namedArgument : Fills (namedArgument d n) := by
  unfold namedArgument
  infer_instance

instance fills_computedArgument : Fills (computedArgument d n) := by
  unfold computedArgument
  infer_instance

instance fills_beginsWildcard : Fills beginsWildcard :=
  fills_ahead _

instance fills_argument : Fills (argument d n) := by
  unfold argument
  infer_instance

instance fills_quantifier? : Fills quantifier? := by
  unfold quantifier?
  refine fills_bind inferInstance fun _ _ => fills_bind inferInstance fun _ _ =>
    fills_bind inferInstance fun _ _ => ?_
  split
  all_goals infer_instance

instance fills_nullTreatment? : Fills nullTreatment? := by
  unfold nullTreatment?
  infer_instance

instance fills_documentClauses : Fills (documentClauses d n) := by
  unfold documentClauses
  infer_instance

instance fills_overflow? : Fills (overflow? n) := by
  unfold overflow?
  dsimp only
  refine fills_bind inferInstance fun _ _ => fills_ite inferInstance ?_
  infer_instance

instance fills_argumentClauses : Fills (argumentClauses d n) := by
  unfold argumentClauses
  infer_instance

instance fills_arguments : Fills (arguments d n) := by
  unfold arguments
  infer_instance

instance fills_frameBound {interval : Parser Expr} [Fills interval] :
    Fills (frameBound n interval) := by
  unfold frameBound
  infer_instance

instance fills_frame {interval : Parser Expr} [Fills interval] : Fills (frame n interval) := by
  unfold frame
  infer_instance

instance fills_window {interval : Parser Expr} [Fills interval] : Fills (window d n interval) := by
  unfold window
  infer_instance

instance fills_window? {interval : Parser Expr} [Fills interval] :
    Fills (window? d n interval) := by
  unfold window?
  infer_instance

instance fills_withinGroup? : Fills (withinGroup? d n) := by
  unfold withinGroup?
  infer_instance

instance fills_filter? : Fills (filter? d n) := by
  unfold filter?
  infer_instance

/-- A call has the name that it is read for. -/
theorem keeps_call {interval : Parser Expr} [Fills interval] (path : List Name) :
    Keeps (call d n interval path) fun c => c.path = path := by
  unfold call
  dsimp only
  refine Keeps.bind Fills.keeps fun _ _ => Keeps.bind Fills.keeps fun first _ => ?_
  refine keeps_branch fun second _ => ?_
  refine Keeps.bind Fills.keeps fun _ _ => Keeps.bind Fills.keeps fun _ _ => ?_
  refine keeps_branch fun _ _ => ?_
  refine Keeps.bind Fills.keeps fun _ _ => ?_
  split <;> exact keeps_pure rfl

/-- What follows a call that is kept as a text does not depend on its name. -/
instance fills_bind_call {β : Type} [HoldsNames β] {interval : Parser Expr} {path : List Name}
    {f : Call → Parser β} [Fills interval] [∀ c, Fills (f c)] :
    Fills (call d n interval path >>= f) :=
  ⟨(keeps_call path).bind fun _ _ => Fills.keeps⟩

instance fills_call {interval : Parser Expr} {path : List Name} [Fills interval]
    [hpath : FilledPath path] : Fills (call d n interval path) := by
  constructor
  intro ts c rest hts h
  obtain ⟨rfl, hrest⟩ := keeps_call path ts c rest hts h
  exact ⟨filled_call.mpr hpath, hrest⟩

/-! Arrays, maps and records -/

instance fills_array (word : String) : Fills (array n word) := by
  unfold array
  infer_instance

instance fills_structValue (isTyped : Bool) : Fills (structValue n isTyped) := by
  unfold structValue
  infer_instance

instance fills_structLiteral : Fills (structLiteral d n) := by
  unfold structLiteral
  infer_instance

instance fills_entry {key : Parser String} [Fills key] : Fills (entry n key) := by
  unfold entry
  infer_instance

instance fills_dictionary {key : Parser String} [Fills key] : Fills (dictionary n key) := by
  unfold dictionary
  infer_instance

instance fills_bracedCall {interval : Parser Expr} [Fills interval] :
    Fills (bracedCall d n interval) := by
  unfold bracedCall
  infer_instance

instance fills_bracedMoment : Fills (bracedMoment d) := by
  unfold bracedMoment
  infer_instance

instance fills_braced {interval : Parser Expr} [Fills interval] : Fills (braced d n interval) := by
  unfold braced
  split
  all_goals infer_instance

/-! Calls with a syntax of their own -/

instance fills_parenthesizedQuery : Fills (parenthesizedQuery n) := by
  unfold parenthesizedQuery
  infer_instance

instance fills_existence (negated : Bool) : Fills (existence n negated) := by
  unfold existence
  infer_instance

instance fills_negation : Fills (negation d n) := by
  unfold negation
  infer_instance

instance fills_prior : Fills (prior d n) := by
  unfold prior
  infer_instance

instance fills_whenBranch : Fills (whenBranch n) := by
  unfold whenBranch
  infer_instance

instance fills_caseExpr : Fills (caseExpr n) := by
  unfold caseExpr
  infer_instance

instance fills_castExpr (word : String) : Fills (castExpr d n word) := by
  unfold castExpr
  infer_instance

instance fills_conversion (word : String) : Fills (conversion d n word) := by
  unfold conversion
  infer_instance

instance fills_placement {interval : Parser Expr} {word : Name} [Fills interval] [Filled word] :
    Fills (placement d n interval word) := by
  unfold placement
  infer_instance

instance fills_substring (word : String) : Fills (substring n word) := by
  unfold substring
  infer_instance

instance fills_overlay : Fills (overlay n) := by
  unfold overlay
  infer_instance

instance fills_trimming : Fills (trimming d n) := by
  unfold trimming
  infer_instance

instance fills_textSearch : Fills (textSearch d) := by
  unfold textSearch
  infer_instance

instance fills_momentCall {word : Name} [Filled word] : Fills (momentCall d n word) := by
  unfold momentCall
  infer_instance

instance fills_arrayQuery {word : Name} [Filled word] : Fills (arrayQuery n word) := by
  unfold arrayQuery
  infer_instance

instance offers_shape? (w : Word) : Offers (shape? d w) := by
  unfold shape?
  split
  all_goals infer_instance

instance offers_special? {prefixExpr : Parser Expr} {w : Word} {following : Option Token}
    [Fills prefixExpr] [Filled (Token.word w)] : Offers (special? d n prefixExpr w following) := by
  unfold special?
  split
  all_goals infer_instance

/-! Operands -/

instance fills_plainWord {interval : Parser Expr} {w : Word} [Fills interval]
    [Filled (Token.word w)] : Fills (plainWord d n interval w) := by
  unfold plainWord
  infer_instance

omit [n.Fills] in
instance fills_collated {e : Expr} [Filled e] : Fills (collated n e) := by
  unfold collated
  infer_instance

instance fills_wordExpr {prefixExpr : Parser Expr} {w : Word} [Fills prefixExpr]
    [Filled (Token.word w)] : Fills (wordExpr d n prefixExpr w) := by
  constructor
  intro ts e rest hts h
  unfold wordExpr at h
  split at h
  · have hall : Fills (plainWord d n (interval d n prefixExpr) w >>= collated n) := inferInstance
    exact hall.keeps ts e rest hts h
  · rename_i opened hopened
    have hopens : Fills opened := Offers.fills opened hopened
    split at h
    · rename_i read left hread
      obtain ⟨he, hleft⟩ := hopens.keeps ts read left hts hread
      exact fills_collated.keeps left e rest hleft h
    · split at h
      · cases h
      · have hplain := fills_attempt (p := plainWord d n (interval d n prefixExpr) w)
        split at h
        · rename_i hread
          cases h
          exact (hplain.keeps ts _ _ hts hread).imp_left filled_some.mp
        · cases h
        · cases h

instance fills_typedValue {prefixExpr : Parser Expr} [Fills prefixExpr] :
    Fills (typedValue d n prefixExpr) := by
  unfold typedValue
  refine fills_bind inferInstance fun _ _ => ?_
  split
  all_goals infer_instance

instance fills_parenthesizedExpr : Fills (parenthesizedExpr n) := by
  have hexprs : Fills (do
      match ← n.exprs with
      | [e] => return .nested e
      | es => return .other (Text.parenthesized (Expr.listSql es)) : Parser Expr) := by
    refine fills_bind inferInstance fun es hes => ?_
    split
    · have he := (filled_cons.mp hes).1
      infer_instance
    · infer_instance
  unfold parenthesizedExpr
  infer_instance

instance filled_prefixed {s : Symbol} {e : Expr} [Filled e] : Filled (prefixed s e) := by
  unfold prefixed
  split
  all_goals infer_instance

instance fills_symbolExpr {interval : Parser Expr} [Fills interval] (s : Symbol) :
    Fills (symbolExpr d n interval s) := by
  unfold symbolExpr
  split
  · infer_instance
  · split
    all_goals infer_instance

instance fills_prefixAt (fuel : Nat) : Fills (prefixAt d n fuel) := by
  induction fuel with
  | zero => exact fills_fail _
  | succ fuel ih =>
      have hafter : Fills (do
          match ← peek with
          | some (.word w) =>
              skipToken
              wordExpr d n (prefixAt d n fuel) w
          | some (.symbol s) => symbolExpr d n (interval d n (prefixAt d n fuel)) s >>= collated n
          | some t =>
              if beginsValue t then
                let v ← value d
                collated n (.value v)
              else expected .expression
          | none => expected .expression : Parser Expr) := by
        refine fills_bind inferInstance fun following hfollowing => ?_
        split
        · have hw := filled_some.mp hfollowing
          infer_instance
        all_goals infer_instance
      unfold prefixAt
      infer_instance

instance fills_prefixExpr : Fills (prefixExpr d n) :=
  fills_withFuel (prefixAt d n)

instance fills_intervalExpr : Fills (intervalExpr d n) := by
  unfold intervalExpr
  infer_instance

instance fills_element : Fills (element n) := by
  unfold element
  dsimp only
  refine fills_bind inferInstance fun _ _ => fills_branch fun lower _ =>
    fills_bind inferInstance fun _ _ => fills_ite inferInstance (fills_ite ?_ ?_)
  all_goals infer_instance

theorem filled_accessPath {chain : List Access} (h : Filled chain) {path : List Name}
    (hpath : accessPath chain = some path) : Filled path := by
  induction chain generalizing path with
  | nil =>
      cases hpath
      infer_instance
  | cons access chain ih =>
      obtain ⟨haccess, hchain⟩ := filled_cons.mp h
      unfold accessPath at hpath
      split at hpath
      · rename_i heq
        cases heq
      · rename_i first rest heq
        cases heq
        obtain ⟨more, hmore, rfl⟩ := Option.map_eq_some_iff.mp hpath
        have hfirst := filled_column.mp (filled_field.mp haccess)
        exact filled_append.mpr ⟨hfirst.toFilled, ih hchain hmore⟩
      · cases hpath

theorem filled_accessCall {chain : List Access} (h : Filled chain) {c : Call}
    (hcall : accessCall chain = some c) : Filled c := by
  induction chain generalizing c with
  | nil => cases hcall
  | cons access chain ih =>
      obtain ⟨haccess, hchain⟩ := filled_cons.mp h
      unfold accessCall at hcall
      split at hcall
      · rename_i found heq
        cases heq
        cases hcall
        exact filled_callExpr.mp (filled_field.mp haccess)
      · rename_i path rest heq
        cases heq
        obtain ⟨found, hfound, rfl⟩ := Option.map_eq_some_iff.mp hcall
        have hpath := filled_column.mp (filled_field.mp haccess)
        have hmore := (filled_call.mp (ih hchain hfound)).toFilled
        exact filled_call.mpr filledPath_append
      · cases hcall

instance filled_accessed {root : Expr} {chain : List Access} [hroot : Filled root]
    [hchain : Filled chain] : Filled (accessed root chain) := by
  unfold accessed
  dsimp only
  split
  · exact hroot
  · have hpath := filled_column.mp hroot
    split
    · rename_i more hmore
      have hmore := filled_accessPath hchain hmore
      infer_instance
    · rename_i c _ hc
      have hmore := (filled_call.mp (filled_accessCall hchain hc)).toFilled
      infer_instance
    · infer_instance
  · infer_instance

instance fills_accesses {root : Expr} [Filled root] : Fills (accesses d n root) := by
  unfold accesses
  refine fills_iterate (fun chain hchain => fills_bind fills_rest fun ts hts => ?_) inferInstance
  split
  · refine fills_ite ?_ inferInstance
    refine fills_bind inferInstance fun _ _ => fills_bind inferInstance fun _ _ => ?_
    split
    all_goals infer_instance
  all_goals infer_instance

/-! Operators -/

instance fills_manyValues (strength : Nat) : Fills (manyValues n strength) := by
  unfold manyValues
  refine fills_bind inferInstance fun _ _ => fills_bind inferInstance fun _ _ =>
    fills_bind inferInstance fun _ _ => fills_ite ?_ ?_
  · exact fills_elsewhere (p := n.operand strength)
  · infer_instance

instance fills_rightSide {left : Expr} {operator : Parser Operator} [Filled left]
    [Fills operator] (strength : Nat) : Fills (rightSide n strength left operator) := by
  unfold rightSide
  refine fills_bind inferInstance fun _ _ => fills_bind inferInstance fun _ _ =>
    fills_bind inferInstance fun _ _ => ?_
  split
  · infer_instance
  · exact fills_bind inferInstance fun _ _ => fills_ite inferInstance (fills_refused _)

instance fills_isTest (left : Expr) : Fills (isTest n left) := by
  unfold isTest
  infer_instance

instance fills_inTest (left : Expr) (negated : Bool) : Fills (inTest d n left negated) := by
  unfold inTest
  infer_instance

instance fills_betweenTest (left : Expr) (negated : Bool) :
    Fills (betweenTest d n left negated) := by
  unfold betweenTest
  infer_instance

instance fills_escape? : Fills (escape? d) := by
  unfold escape?
  infer_instance

instance fills_likeTest {left : Expr} (negated : Bool) [Filled left] :
    Fills (likeTest d n left negated) := by
  unfold likeTest
  infer_instance

instance fills_caselessTest (left : Expr) (negated : Bool) :
    Fills (caselessTest d n left negated) := by
  unfold caselessTest
  infer_instance

instance fills_similarTest (left : Expr) (negated : Bool) :
    Fills (similarTest d n left negated) := by
  unfold similarTest
  infer_instance

instance fills_regexTest (left : Expr) (negated : Bool) (word : String) :
    Fills (regexTest d n left negated word) := by
  unfold regexTest
  infer_instance

instance fills_wordTest {left : Expr} [Filled left] : Fills (wordTest d n left) := by
  unfold wordTest
  refine fills_bind inferInstance fun _ _ => fills_bind inferInstance fun _ _ =>
    fills_bind inferInstance fun _ _ => ?_
  split
  all_goals infer_instance

instance fills_memberTest (left : Expr) : Fills (memberTest n left) := by
  unfold memberTest
  infer_instance

instance fills_operatorName : Fills operatorName := by
  unfold operatorName
  infer_instance

instance fills_keywordOperator (k : Keyword) (op : Operator) : Fills (keywordOperator k op) := by
  unfold keywordOperator
  infer_instance

instance fills_keywordStep {left : Expr} {unknown : Parser Expr} [Filled left] [Fills unknown]
    (strength : Nat) (k : Keyword) : Fills (keywordStep d n strength left k unknown) := by
  unfold keywordStep
  split
  · infer_instance
  · split
    all_goals infer_instance

instance fills_infixStep (strength : Nat) {left : Expr} [Filled left] :
    Fills (infixStep d n strength left) := by
  unfold infixStep
  refine fills_bind inferInstance fun _ _ => ?_
  split
  · refine fills_ite inferInstance (fills_ite inferInstance ?_)
    split
    all_goals infer_instance
  · infer_instance
  · split
    all_goals infer_instance
  · infer_instance

instance fills_infixSteps (strength : Nat) {left : Expr} [Filled left] :
    Fills (infixSteps d n strength left) := by
  unfold infixSteps
  infer_instance

instance fills_operand (strength : Nat) : Fills (operand d n strength) := by
  unfold operand
  infer_instance

end

end SelectTree.Sql.Grammar
