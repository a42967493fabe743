import SelectTree.Proofs.Parsing
import SelectTree.Sql.Grammar.Operand

namespace SelectTree.Sql.Grammar

open Sql.Parser

/-! Names that open nothing else where an operand begins. -/

def constantKeywords : List Keyword :=
  [.TRUE, .FALSE, .NULL]

/-- Keywords that are read as more than a name at the beginning of an operand, of an item in a
list, or of a source. -/
def openingKeywords : List Keyword :=
  [.CURRENT_CATALOG, .CURRENT_USER, .SESSION_USER, .USER, .CURRENT_DATE, .CURRENT_TIME,
    .CURRENT_TIMESTAMP, .LOCALTIME, .LOCALTIMESTAMP, .CASE, .CONVERT, .TRY_CONVERT, .CAST,
    .TRY_CAST, .SAFE_CAST, .EXISTS, .EXTRACT, .CEIL, .FLOOR, .POSITION, .SUBSTR, .SUBSTRING,
    .OVERLAY, .TRIM, .INTERVAL, .ARRAY, .NOT, .MATCH, .STRUCT, .PRIOR, .MAP, .ALL, .DISTINCT,
    .ANY, .SOME, .TABLE, .VALUES, .UNNEST, .GROUPING, .CUBE, .ROLLUP, .WITH, .EXPLAIN, .ANALYZE,
    .SELECT, .WHERE, .GROUP, .SORT, .HAVING, .ORDER, .TOP, .LATERAL, .VIEW, .LIMIT, .OFFSET,
    .FETCH, .UNION, .EXCEPT, .EXCLUDE, .INTERSECT, .MINUS, .CLUSTER, .DISTRIBUTE, .RETURNING,
    .FROM, .INTO, .END]

/-- Whether a word opens the name of a type that goes on after it. -/
def opensType (d : Dialect) (capitals : String) : Bool :=
  ((knownType? d capitals).isSome && (plainTypes.lookup capitals).isNone) ||
    ["STRUCT", "UNION", "NULLABLE", "LOWCARDINALITY", "MAP", "NESTED", "TUPLE", "INTERVAL", "ARRAY",
      "TABLE", "ANY"].contains capitals

/-- Whether a word without quotes is nothing but a name. -/
def opensNothing (d : Dialect) (text : String) : Bool :=
  (match Keyword.ofText? text with
    | none => true
    | some k => !(constantKeywords ++ openingKeywords).contains k) &&
    !opensType d (Keyword.capitals text) && !shapes.contains (Keyword.capitals text)

/-- Whether a name is one word that is read as that name at the beginning of an operand. -/
def isOperandName (d : Dialect) (name : Name) : Bool :=
  name.isWord d && (name.quote.isSome || opensNothing d name.text)

theorem opensNothing_iff {d : Dialect} {text : String} :
    opensNothing d text = true ↔
      (∀ k, Keyword.ofText? text = some k → k ∉ constantKeywords ++ openingKeywords) ∧
        opensType d (Keyword.capitals text) = false ∧ Keyword.capitals text ∉ shapes := by
  unfold opensNothing
  cases Keyword.ofText? text <;> simp [and_assoc]

theorem isWord_of_isOperandName {d : Dialect} {name : Name} (h : isOperandName d name = true) :
    name.isWord d = true := by
  simp only [isOperandName, Bool.and_eq_true] at h
  exact h.1

theorem opensNothing_of_isOperandName {d : Dialect} {text : String}
    (h : isOperandName d ⟨text, none⟩ = true) : opensNothing d text = true := by
  simp only [isOperandName, Bool.and_eq_true] at h
  exact h.2

theorem keyword_of_isOperandName {d : Dialect} {name : Name} (h : isOperandName d name = true)
    {k : Keyword} (hk : name.word.keyword = some k) : k ∉ constantKeywords ++ openingKeywords := by
  obtain ⟨text, quote⟩ := name
  cases quote with
  | none => exact (opensNothing_iff.mp (opensNothing_of_isOperandName h)).1 k hk
  | some quote => cases hk

theorem shape?_of_isOperandName {d : Dialect} {name : Name} (h : isOperandName d name = true) :
    shape? d name.word = none := by
  obtain ⟨text, quote⟩ := name
  have hcapitals : ∀ spelling, (Token.word (Name.mk text quote).word).capitals? = some spelling →
      spelling ∉ shapes := by
    intro spelling hspelling
    cases quote with
    | none =>
        obtain rfl := Option.some.inj hspelling
        exact (opensNothing_iff.mp (opensNothing_of_isOperandName h)).2.2
    | some quote => cases hspelling
  unfold shape?
  split
  · rename_i spelling _ heq
    rw [if_neg (hcapitals spelling heq)]
  · rfl

/-- A word that opens nothing is a column or the name of a call. -/
theorem special?_of_isOperandName {d : Dialect} {name : Name} (h : isOperandName d name = true)
    (n : Nested) (prefixExpr : Parser Expr) (following : Option Token) :
    special? d n prefixExpr name.word following = none := by
  unfold special?
  split
  all_goals first
    | exact shape?_of_isOperandName h
    | (rename_i heq
       exact absurd (by decide) (keyword_of_isOperandName h heq))

/-! What follows an operand -/

/-- The tokens between two operands. -/
def linkTokens : List Token :=
  [.symbol .eq, .symbol .ne, .symbol .lt, .symbol .le, .symbol .gt, .symbol .ge,
    Keyword.AND.token, Keyword.OR.token, Keyword.LIKE.token]

/-- The tokens after an expression in a printed query. -/
def exprEnds : List Token :=
  [.symbol .comma, .symbol .rparen, Keyword.FROM.token, Keyword.WHERE.token, Keyword.GROUP.token,
    Keyword.ORDER.token, Keyword.ASC.token, Keyword.DESC.token, Keyword.NATURAL.token,
    Keyword.JOIN.token, Keyword.INNER.token, Keyword.LEFT.token, Keyword.RIGHT.token,
    Keyword.FULL.token]

def operandEnds : List Token :=
  linkTokens ++ exprEnds

/-- The tokens after a word that begins an operand. -/
def nameEnds : List Token :=
  .symbol .period :: .symbol .lparen :: operandEnds

theorem fails_value {d : Dialect} {ts : List Token} (h : HeadIn nameEnds ts) :
    Fails (value d) ts := by
  have hends : ∀ t ∈ nameEnds, (∃ s, t = .symbol s ∧ s ≠ .colon ∧ s ≠ .atSign) ∨
      ∃ w, t = .word w ∧ valueOfToken? t = none := by
    have hall : nameEnds.all (fun t =>
        match t with
        | .symbol s => s ≠ .colon && s ≠ .atSign
        | .word w => (valueOfToken? (.word w)).isNone
        | _ => false) = true := by
      decide +kernel
    intro t hmem
    have ht := List.all_eq_true.mp hall t hmem
    cases t with
    | symbol s => exact .inl ⟨s, rfl, by simpa using ht⟩
    | word w => exact .inr ⟨w, rfl, by simpa using ht⟩
    | _ => cases ht
  cases ts with
  | nil => exact ⟨_, rfl, nofun⟩
  | cons t ts =>
      rcases hends t (h t rfl) with ⟨s, rfl, hcolon, hat⟩ | ⟨w, rfl, hnone⟩
      · exact ⟨⟨.expected .value, .symbol s :: ts⟩, by
          simp [value, peek, hcolon, hat, expected, fail], nofun⟩
      · exact ⟨⟨.expected (missingValue (.word w)), .word w :: ts⟩, by
          simp [value, peek, token, hnone], nofun⟩

/-! Names of types. Every word is tried as the name of a type first. -/

/-- Where no bracket opens, no array is read. -/
def NoBracket (ts : List Token) : Prop :=
  ts.head? ≠ some (.symbol .lbracket)

theorem accept_lbracket {ts : List Token} (h : NoBracket ts) :
    accept .lbracket ts = .ok (false, ts) := by
  cases ts with
  | nil => rfl
  | cons t ts =>
      have hne : t ≠ .symbol .lbracket := fun heq => h (by simp [heq])
      simp [accept, hne]

/-- What is read as the name of an unknown type ends before no bracket, or cannot be read. -/
def ReadsAsName (ts : List Token) : Prop :=
  Fails unknownType ts ∨
    ∃ given left, unknownType ts = .ok (⟨given, .named, false⟩, left) ∧ NoBracket left

variable {d : Dialect} {n : Nested}

theorem openType_of_elementType {type : DataType} {ts left : List Token}
    (h : ∀ inner, elementType d n inner ts = .ok (type, left)) (hleft : NoBracket left) :
    openType d n ts = .ok (type, left) := by
  unfold openType dataTypeAt
  cases hd : d.hasArrayTypes with
  | false => simp [h]
  | true =>
      simp only [run_bind, h, if_true]
      apply Runs.iterate
      apply Runs.stop
      simp [accept_lbracket hleft]

theorem fails_openType {ts : List Token} (h : ∀ inner, Fails (elementType d n inner) ts) :
    Fails (openType d n) ts := by
  obtain ⟨failure, hfailure, hcause⟩ := h (dataTypeAt d n ts.length)
  exact ⟨failure, by simp only [openType, dataTypeAt, run_bind, hfailure], hcause⟩

/-- A word that names a type by itself, before what is no constant. -/
theorem fails_typedValue_of_plain {type : DataType} {ts left : List Token} {p : Parser Expr}
    (h : ∀ inner, elementType d n inner ts = .ok (type, left)) (hkind : type.kind = .plain)
    (hcloses : type.closesOuter = false) (hleft : NoBracket left) (hvalue : Fails (value d) left) :
    Fails (typedValue d n p) ts := by
  have hopen := openType_of_elementType (n := n) h hleft
  have htype : dataType d n ts = .ok (type, left) := by
    simp [dataType, closedType, hopen, hcloses]
  unfold typedValue
  apply Fails.of_bind htype
  rw [hkind]
  exact hvalue.bind.bind

theorem fails_typedValue_of_named {ts : List Token} {p : Parser Expr}
    (h : ∀ inner, elementType d n inner ts = unknownType ts) (hname : ReadsAsName ts) :
    Fails (typedValue d n p) ts := by
  rcases hname with hfails | ⟨given, left, hread, hleft⟩
  · have hopen : Fails (openType d n) ts := by
      apply fails_openType
      intro inner
      obtain ⟨failure, hfailure, hcause⟩ := hfails
      exact ⟨failure, by rw [h, hfailure], hcause⟩
    unfold typedValue dataType closedType
    exact hopen.bind.bind
  · have hopen := openType_of_elementType (d := d) (n := n) (fun inner => (h inner).trans hread) hleft
    have htype : dataType d n ts = .ok (⟨given, .named, false⟩, left) := by
      simp [dataType, closedType, hopen]
    unfold typedValue
    exact Fails.of_bind htype ⟨_, rfl, nofun⟩

theorem compoundType?_eq_none {type : Parser DataType} {spelling : String}
    (h : spelling ∉ ["STRUCT", "UNION", "NULLABLE", "LOWCARDINALITY", "MAP", "NESTED", "TUPLE"]) :
    compoundType? d n type spelling = none := by
  unfold compoundType?
  split <;> first
    | rfl
    | exact absurd (by decide) h

theorem namedType_of_unknown {type : Parser DataType} {spelling : String}
    (hknown : knownType? d spelling = none)
    (h : spelling ∉ ["STRUCT", "UNION", "NULLABLE", "LOWCARDINALITY", "MAP", "NESTED", "TUPLE",
      "INTERVAL", "ARRAY", "TABLE", "ANY"]) :
    namedType d n type spelling = unknownType := by
  have hcompound : (if d.hasCompoundTypes then compoundType? d n type spelling else none) = none := by
    rw [compoundType?_eq_none fun hmem => h (List.mem_append_left _ hmem), ite_self]
  unfold namedType
  rw [hknown, hcompound]
  simp only
  split <;> first
    | rfl
    | exact absurd (by decide) h

theorem elementType_quoted {inner : Parser DataType} (text : String) (quote : Char)
    (ts : List Token) :
    elementType d n inner (.word (.quoted quote text) :: ts) =
      unknownType (.word (.quoted quote text) :: ts) :=
  rfl

theorem elementType_bare {inner : Parser DataType} (text : String) (ts : List Token) :
    elementType d n inner (.bare text :: ts) =
      namedType d n inner (Keyword.capitals text) (.bare text :: ts) :=
  rfl

/-- A name is no type with a constant after it. -/
theorem fails_typedValue_word (name : Name)
    (h : name.quote = none → opensType d (Keyword.capitals name.text) = false) {p : Parser Expr}
    {ts : List Token} (hts : HeadIn nameEnds ts) (hname : ReadsAsName (.word name.word :: ts)) :
    Fails (typedValue d n p) (.word name.word :: ts) := by
  obtain ⟨text, quote⟩ := name
  cases quote with
  | some quote => exact fails_typedValue_of_named (fun _ => elementType_quoted text quote ts) hname
  | none =>
      have hopens := h rfl
      simp only [opensType, Bool.or_eq_false_iff, Bool.and_eq_false_iff] at hopens
      obtain ⟨hknown, hlist⟩ := hopens
      cases hlookup : plainTypes.lookup (Keyword.capitals text) with
      | some printed =>
          have hplain : knownType? d (Keyword.capitals text) = some (pure printed) := by
            unfold knownType?
            rw [hlookup]
          have hread : ∀ inner, elementType d n inner (.bare text :: ts) =
              .ok (.plain printed, ts) := by
            intro inner
            rw [elementType_bare]
            unfold namedType
            rw [hplain]
            rfl
          have hbracket : NoBracket ts := fun heq => absurd (hts _ heq) (by decide)
          exact fails_typedValue_of_plain hread rfl rfl hbracket (fails_value hts)
      | none =>
          have hnone : knownType? d (Keyword.capitals text) = none := by
            simpa [hlookup] using hknown
          apply fails_typedValue_of_named _ hname
          intro inner
          exact (elementType_bare text ts).trans
            (congrFun (namedType_of_unknown hnone (by simpa using hlist)) _)

theorem fails_typedValue {name : Name} (h : isOperandName d name = true) {p : Parser Expr}
    {ts : List Token} (hts : HeadIn nameEnds ts) (hname : ReadsAsName (.word name.word :: ts)) :
    Fails (typedValue d n p) (.word name.word :: ts) := by
  apply fails_typedValue_word name _ hts hname
  obtain ⟨text, quote⟩ := name
  rintro rfl
  exact (opensNothing_iff.mp (opensNothing_of_isOperandName h)).2.1

/-! Qualified names -/

def pathStep (read : List Name) : Parser (List Name ⊕ List Name) := do
  if ← accept .period then
    let next ← name
    return .inl (next :: read)
  else return .inr read.reverse

theorem path_eq : path = (do iterate pathStep [← name]) :=
  rfl

theorem runs_pathStep {follow rest : List Token} (hperiod : .symbol .period ∉ follow)
    (hrest : HeadIn follow rest) (read : List Name) (next : Name) (more : List Name) :
    Runs pathStep read (.symbol .period :: (Name.pathTokens (next :: more) ++ rest))
      (read.reverse ++ next :: more) rest := by
  induction more generalizing read next with
  | nil =>
      have hstep : pathStep read (.symbol .period :: (Name.pathTokens [next] ++ rest)) =
          .ok (.inl (next :: read), rest) := by
        simp [pathStep, accept_symbol (noSpace_cons (t := .word next.word) rfl rest),
          Name.pathTokens]
      refine .more hstep (by simp only [List.length_cons, List.length_append]; omega) (.stop ?_)
      simp [pathStep, accept_of_headIn hrest .period hperiod]
  | cons third more ih =>
      have hspace := noSpace_cons (t := .word next.word) rfl
        (.symbol .period :: (Name.pathTokens (third :: more) ++ rest))
      have hstep : pathStep read
          (.symbol .period :: (Name.pathTokens (next :: third :: more) ++ rest)) =
            .ok (.inl (next :: read), .symbol .period ::
              (Name.pathTokens (third :: more) ++ rest)) := by
        simp [pathStep, accept_symbol hspace, Name.pathTokens]
      exact .more hstep (by simp [Name.pathTokens]) (by simpa using ih (next :: read) third)

theorem reads_path (follow : List Token) (hperiod : .symbol .period ∉ follow) {names : List Name}
    (hne : names ≠ []) : Reads path follow (Name.pathTokens names) names := by
  intro rest hrest
  obtain ⟨first, more, rfl⟩ := List.exists_cons_of_ne_nil hne
  rw [path_eq]
  cases more with
  | nil =>
      have hstop : Runs pathStep [first] rest [first] rest := by
        apply Runs.stop
        simp [pathStep, accept_of_headIn hrest .period hperiod]
      simp [Name.pathTokens, hstop.iterate]
  | cons next more =>
      have hruns := runs_pathStep hperiod hrest [first] next more
      simpa [Name.pathTokens] using hruns.iterate

/-! Modifiers of a type, as which the arguments of a call are tried -/

def modifierStep (read : List String) : Parser (List String ⊕ List String) := do
  match ← token (.phrase "type modifiers") modifier? with
  | .text t => return .inl (t :: read)
  | .comma => return .inl read
  | .done => return .inr read.reverse

theorem modifiers?_eq :
    modifiers? = (do
      if !(← accept .lparen) then return ""
      else
        let read ← iterate modifierStep []
        return if read.isEmpty then "" else Text.parenthesized (Text.listed read)) :=
  rfl

/-- Tokens among which are no brackets, and no spaces. -/
def Tame (ts : List Token) : Prop :=
  ∀ t ∈ ts, t ≠ .symbol .lbracket ∧ isSpace t = false

instance (ts : List Token) : Decidable (Tame ts) :=
  inferInstanceAs (Decidable (∀ t ∈ ts, t ≠ .symbol .lbracket ∧ isSpace t = false))

theorem Tame.append {ts us : List Token} (hts : Tame ts) (hus : Tame us) : Tame (ts ++ us) := by
  intro t ht
  rcases List.mem_append.mp ht with ht | ht
  · exact hts t ht
  · exact hus t ht

theorem tame_path (names : List Name) : Tame (Name.pathTokens names) := by
  fun_induction Name.pathTokens names with
  | case1 => exact nofun
  | case2 name => simp [Tame, isSpace]
  | case3 name next rest ih =>
      have hhead : Tame [.word name.word, .symbol .period] := by
        simp [Tame, isSpace]
      exact hhead.append ih

theorem tame_separated {pieces : List (List Token)} (h : ∀ ts ∈ pieces, Tame ts) :
    Tame (separated pieces) := by
  cases pieces with
  | nil => exact nofun
  | cons first more =>
      rw [separated_cons]
      apply (h first (by simp)).append
      intro t ht
      obtain ⟨ts, hts, ht⟩ := List.mem_flatMap.mp ht
      rcases List.mem_cons.mp ht with rfl | ht
      · decide
      · exact h ts (List.mem_cons_of_mem _ hts) t ht

theorem noSpace_tame {body : List Token} (hbody : Tame body) (rest : List Token) :
    NoSpace (body ++ .symbol .rparen :: rest) := by
  cases body with
  | nil => exact noSpace_cons rfl rest
  | cons t body => exact noSpace_cons (hbody t (by simp)).2 _

theorem modifiers_outcome {body rest : List Token} (hbody : Tame body) (hspace : NoSpace rest)
    (hrest : NoBracket rest) (read : List String) {fuel : Nat}
    (hfuel : (body ++ .symbol .rparen :: rest).length < fuel) :
    Fails (iterateFrom modifierStep fuel read) (body ++ .symbol .rparen :: rest) ∨
      ∃ texts left, iterateFrom modifierStep fuel read (body ++ .symbol .rparen :: rest) =
        .ok (texts, left) ∧ NoBracket left := by
  induction body generalizing read fuel with
  | nil =>
      cases fuel with
      | zero => cases hfuel
      | succ fuel =>
          refine .inr ⟨read.reverse, rest, ?_, hrest⟩
          simp [iterateFrom, modifierStep, token, modifier?, after_eq_self hspace]
  | cons t body ih =>
      have hbody' : Tame body := fun u hu => hbody u (List.mem_cons_of_mem _ hu)
      have hafter : after t (body ++ .symbol .rparen :: rest) = body ++ .symbol .rparen :: rest := by
        exact after_eq_self (noSpace_tame hbody' _) t
      have hbracket : NoBracket (body ++ .symbol .rparen :: rest) := by
        intro heq
        cases body with
        | nil => cases heq
        | cons u body => exact (hbody' u (by simp)).1 (Option.some.inj heq)
      cases fuel with
      | zero => cases hfuel
      | succ fuel =>
          simp only [List.cons_append, List.length_cons, Nat.add_lt_add_iff_right] at hfuel
          cases hmodifier : modifier? t with
          | none =>
              refine .inl ⟨⟨.expected (.phrase "type modifiers"),
                t :: (body ++ .symbol .rparen :: rest)⟩, ?_, by simp⟩
              simp [iterateFrom, modifierStep, token, hmodifier]
          | some modifier =>
              cases modifier with
              | text text =>
                  simpa [Fails, iterateFrom, modifierStep, token, hmodifier, hafter] using
                    ih hbody' (text :: read) hfuel
              | comma =>
                  simpa [Fails, iterateFrom, modifierStep, token, hmodifier, hafter] using
                    ih hbody' read hfuel
              | done =>
                  refine .inr ⟨read.reverse, _, ?_, hbracket⟩
                  simp [iterateFrom, modifierStep, token, hmodifier, hafter]

theorem readsAsName_column (names : List Name) (hne : names ≠ []) {rest : List Token}
    (hrest : HeadIn operandEnds rest) : ReadsAsName (Name.pathTokens names ++ rest) := by
  have hpath := reads_path operandEnds (by decide) hne rest hrest
  refine .inr ⟨Name.pathSql names, rest, ?_, fun heq => absurd (hrest _ heq) (by decide)⟩
  have hmodifiers : modifiers? rest = .ok ("", rest) := by
    simp [modifiers?, accept_of_headIn hrest .lparen (by decide)]
  simp [unknownType, pathText, hpath, hmodifiers]

theorem readsAsName_call {names : List Name} (hne : names ≠ []) {body rest : List Token}
    (hbody : Tame body) (hrest : HeadIn operandEnds rest) :
    ReadsAsName (Name.pathTokens names ++ .symbol .lparen :: (body ++ .symbol .rparen :: rest)) := by
  have hpath := reads_path [.symbol .lparen] (by decide) hne
    (.symbol .lparen :: (body ++ .symbol .rparen :: rest)) (headIn_cons (by simp) _)
  have hbracket : NoBracket rest := fun heq => absurd (hrest _ heq) (by decide)
  have hopen := accept_symbol (s := .lparen) (noSpace_tame hbody rest)
  rcases modifiers_outcome hbody (hrest.noSpace (by decide)) hbracket [] (Nat.lt_succ_self _) with
    ⟨failure, hfailure, hcause⟩ | ⟨texts, left, hread, hleft⟩
  · refine .inl ⟨failure, ?_, hcause⟩
    simp only [unknownType, pathText, run_bind, run_map, hpath, modifiers?_eq, hopen, Bool.not_true,
      Bool.false_eq_true, if_false, iterate, hfailure]
  · refine .inr ⟨Name.pathSql names ++
      if texts.isEmpty then "" else Text.parenthesized (Text.listed texts), left, ?_, hleft⟩
    simp only [unknownType, pathText, run_bind, run_map, hpath, modifiers?_eq, hopen, Bool.not_true,
      Bool.false_eq_true, if_false, iterate, hread, run_pure]

end SelectTree.Sql.Grammar
