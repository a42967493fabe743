import SelectTree.Proofs.OperandNames
import SelectTree.Sql.Grammar.Statement

namespace SelectTree.Sql.Grammar

open Sql.Parser

/-! Columns and calls, read as operands. Every part of a qualified name is an operand one layer
further in. -/

variable {d : Dialect} {n : Nested}

/-- An operand before the operators after it. -/
def primary (d : Dialect) (n : Nested) : Parser Expr := do
  accesses d n (← prefixExpr d n)

theorem operand_eq (strength : Nat) :
    operand d n strength = (do infixSteps d n strength (← primary d n)) := by
  funext ts
  simp only [operand, primary, run_bind]
  cases prefixExpr d n ts <;> rfl

@[simp] theorem nestedAt_context (m : Nat) : (nestedAt d m).context = .plain := by
  cases m <;> rfl

theorem within_plain (m : Nat) : (nestedAt d m).within .plain = nestedAt d m := by
  cases m <;> rfl

theorem nestedAt_operand (m strength : Nat) :
    (nestedAt d (m + 1)).operand strength = operand d (nestedAt d m) strength := by
  have h : (nestedAt d (m + 1)).operand strength =
      operand d ((nestedAt d m).within .plain) strength :=
    rfl
  rw [h, within_plain]

theorem nestedAt_query (m : Nat) : (nestedAt d (m + 1)).query = query d (nestedAt d m) := by
  have h : (nestedAt d (m + 1)).query = query d ((nestedAt d m).within .plain) := rfl
  rw [h, within_plain]

/-! Operators after an operand -/

theorem strength_le_period (b : Binding) : b.strength d ≤ Binding.period.strength d := by
  cases d <;> cases b <;> decide

/-- What an operand of a strength reads on with: an operator that binds more tightly. -/
def infixLoop (d : Dialect) (n : Nested) (strength : Nat) (left : Expr) :
    Parser (Expr ⊕ Expr) := do
  let binding := nextBinding d n.context (← rest)
  if binding.strength d ≤ strength || binding = .period then return .inr left
  else return .inl (← infixStep d n (binding.strength d) left)

theorem infixLoop_stop (strength : Nat) (left : Expr) {ts : List Token}
    (h : (nextBinding d n.context ts).strength d ≤ strength) :
    Runs (infixLoop d n strength) left ts left ts := by
  apply Runs.stop
  simp [infixLoop, Parser.rest, h]

/-! Fields -/

def accessStep (d : Dialect) (n : Nested) (root : Expr) (chain : List Access) :
    Parser (List Access ⊕ Expr) := do
  match ← rest with
  | .symbol .period :: .symbol .star :: _ =>
      if d = .postgres then
        expect .period
        expect .star
        match accessed root chain.reverse with
        | .column path => return .inr (.other (Name.pathSql path ++ ".*"))
        | _ => expected .partOfQualifiedName
      else return .inr (accessed root chain.reverse)
  | .symbol .period :: .string text :: _ =>
      expect .period
      skipToken
      return .inl (.field (.column [⟨text, some '\''⟩]) :: chain)
  | .symbol .period :: _ =>
      expect .period
      let e ← n.tighter d .period
      return .inl (.field e :: chain)
  | .symbol .lbracket :: _ =>
      expect .lbracket
      let index ← element n
      return .inl (.element index :: chain)
  | _ => return .inr (accessed root chain.reverse)

theorem accesses_eq (root : Expr) : accesses d n root = iterate (accessStep d n root) [] :=
  rfl

theorem accessStep_stop (root : Expr) (chain : List Access) {ts : List Token}
    (h : HeadIn operandEnds ts) :
    Runs (accessStep d n root) chain ts (accessed root chain.reverse) ts := by
  apply Runs.stop
  have hperiod : ∀ rest, ts ≠ .symbol .period :: rest := by
    rintro rest rfl
    exact absurd (h _ rfl) (by decide)
  have hbracket : ∀ rest, ts ≠ .symbol .lbracket :: rest := by
    rintro rest rfl
    exact absurd (h _ rfl) (by decide)
  unfold accessStep
  simp only [run_bind, Parser.rest]
  split
  · exact absurd rfl (hperiod _)
  · exact absurd rfl (hperiod _)
  · exact absurd rfl (hperiod _)
  · exact absurd rfl (hbracket _)
  · rfl

/-- A part of a qualified name after the period. -/
theorem accessStep_field (root : Expr) (chain : List Access) {w : Word} {e : Expr}
    {ts left : List Token} (h : n.tighter d .period (.word w :: ts) = .ok (e, left)) :
    accessStep d n root chain (.symbol .period :: .word w :: ts) =
      .ok (.inl (.field e :: chain), left) := by
  have hperiod := expect_symbol (s := .period) (noSpace_cons (t := .word w) rfl ts)
  simp only [accessStep, run_bind, Parser.rest, hperiod, h, run_pure]

/-! Words -/

theorem collated_of_headIn (e : Expr) {ts : List Token} (h : HeadIn nameEnds ts) :
    collated n e ts = .ok (e, ts) := by
  by_cases hcontext : n.context ≠ .columnDefinition <;>
    simp [collated, whenever, hcontext, acceptKeyword_of_headIn h .COLLATE (by decide)]

/-- A name goes on as a column or a call. -/
theorem prefixExpr_name {name : Name} (h : isOperandName d name = true) {ts : List Token}
    (hts : HeadIn nameEnds ts) (hname : ReadsAsName (.word name.word :: ts)) :
    ∃ inner, prefixExpr d n (.word name.word :: ts) =
      (do collated n (← plainWord d n (interval d n inner) name.word)) ts := by
  refine ⟨prefixAt d n (ts.length + 1), ?_⟩
  have hattempt := attempt_of_fails (fails_typedValue (n := n) (p := prefixAt d n (ts.length + 1)) h
    hts hname)
  have hspecial := special?_of_isOperandName h n (prefixAt d n (ts.length + 1)) ts.head?
  have hword : prefixExpr d n (.word name.word :: ts) =
      wordExpr d n (prefixAt d n (ts.length + 1)) name.word ts := by
    simp only [prefixExpr, List.length_cons]
    rw [prefixAt, run_bind, hattempt]
    rfl
  rw [hword]
  simp only [wordExpr, hspecial]

theorem plainWord_column (interval : Parser Expr) (name : Name) {ts : List Token}
    (hts : HeadIn (.symbol .period :: operandEnds) ts) :
    plainWord d n interval name.word ts = .ok (.column [name], ts) := by
  have hparen := peekSymbol_of_headIn hts .lparen (by decide)
  have hintroduced := acceptToken_of_headIn hts introducedValue? (by decide +kernel)
  by_cases hunderscore : name.word.text.startsWith "_"
  · simp [plainWord, hparen, hunderscore, hintroduced]
  · simp [plainWord, hparen, hunderscore]

theorem headIn_nameEnds {ts : List Token} (h : HeadIn (.symbol .period :: operandEnds) ts) :
    HeadIn nameEnds ts :=
  h.mono (by decide)

theorem prefixExpr_column {name : Name} (h : isOperandName d name = true) {ts : List Token}
    (hts : HeadIn (.symbol .period :: operandEnds) ts)
    (hname : ReadsAsName (.word name.word :: ts)) :
    prefixExpr d n (.word name.word :: ts) = .ok (.column [name], ts) := by
  obtain ⟨inner, hopening⟩ := prefixExpr_name (n := n) h (headIn_nameEnds hts) hname
  rw [hopening]
  simp [plainWord_column _ name hts, collated_of_headIn _ (headIn_nameEnds hts)]

/-- An operand that is read as a whole, with nothing after it that binds more tightly. -/
theorem operand_of_primary {strength : Nat} {e : Expr} {ts rest : List Token}
    (h : primary d n ts = .ok (e, rest))
    (hstrength : (nextBinding d n.context rest).strength d ≤ strength) :
    operand d n strength ts = .ok (e, rest) := by
  rw [operand_eq, run_bind, h]
  exact (infixLoop_stop strength e hstrength).iterate

/-- What is read after the first part of a qualified name. -/
theorem primary_qualified {name : Name} (h : isOperandName d name = true) {e whole : Expr}
    {w : Word} {ts left : List Token}
    (hname : ReadsAsName (.word name.word :: .symbol .period :: .word w :: ts))
    (hfield : n.tighter d .period (.word w :: ts) = .ok (e, left)) (hlength : left.length ≤ ts.length)
    (hleft : HeadIn operandEnds left) (hwhole : accessed (.column [name]) [.field e] = whole) :
    primary d n (.word name.word :: .symbol .period :: .word w :: ts) = .ok (whole, left) := by
  have hopening := prefixExpr_column (n := n) h (headIn_cons (by simp) _) hname
  have hstop := accessStep_stop (d := d) (n := n) (.column [name]) [.field e] hleft
  rw [List.reverse_singleton, hwhole] at hstop
  have hruns := Runs.more (accessStep_field (.column [name]) [] hfield) (by simp; omega) hstop
  simp only [primary, run_bind, hopening, accesses_eq]
  exact hruns.iterate

theorem primary_column {names : List Name} (hne : names ≠ [])
    (hnames : ∀ name ∈ names, isOperandName d name = true) {m : Nat} (hm : names.length ≤ m + 1) :
    Reads (primary d (nestedAt d m)) operandEnds (Name.pathTokens names) (.column names) := by
  obtain ⟨first, more, rfl⟩ := List.exists_cons_of_ne_nil hne
  induction more generalizing first m with
  | nil =>
      intro rest hrest
      have hname : ReadsAsName (Name.pathTokens [first] ++ rest) := readsAsName_column _ hne hrest
      have hopening := prefixExpr_column (n := nestedAt d m) (hnames first (by simp))
        (hrest.mono fun t ht => List.mem_cons_of_mem _ ht) hname
      simp only [Name.pathTokens, List.cons_append, List.nil_append, primary, run_bind, hopening,
        accesses_eq]
      exact (accessStep_stop (.column [first]) [] hrest).iterate
  | cons next more ih =>
      intro rest hrest
      have hname := readsAsName_column _ hne hrest
      cases m with
      | zero => simp at hm
      | succ m =>
          have hnext := ih next (by simp) (fun name hmem => hnames name (List.mem_cons_of_mem _ hmem))
            (m := m) (by simpa using hm)
          have hfield := operand_of_primary (hnext rest hrest) (strength_le_period _)
          have hwhole : accessed (.column [first]) [.field (.column (next :: more))] =
              .column (first :: next :: more) := by
            simp [accessed, accessPath]
          rw [← nestedAt_operand] at hfield
          obtain ⟨ts, hts⟩ : ∃ ts, Name.pathTokens (next :: more) = .word next.word :: ts := by
            cases more <;> exact ⟨_, rfl⟩
          simp only [Name.pathTokens, hts, List.cons_append] at hname hfield ⊢
          exact primary_qualified (hnames first (by simp)) hname hfield (by simp) hrest hwhole

/-! Calls -/

/-- A call with a list of arguments and nothing after it. -/
def plainCall (path : List Name) (args : List Argument) : Call :=
  ⟨path, none, .list ⟨none, args, []⟩, none, none, none, none, false⟩

theorem call_plain {args : List Argument} {body rest : List Token} (inner : Parser Expr)
    (hbody : Tame body) (path : List Name)
    (hargs : arguments d n (body ++ .symbol .rparen :: rest) = .ok (⟨none, args, []⟩, rest))
    (hrest : HeadIn operandEnds rest) :
    call d n inner path (.symbol .lparen :: (body ++ .symbol .rparen :: rest)) =
      .ok (plainCall path args, rest) := by
  have hparen := expect_symbol (s := .lparen) (noSpace_tame hbody rest)
  have hsecond : optionally (accept .lparen) (arguments d n) rest = .ok (none, rest) := by
    simp [optionally, accept_of_headIn hrest .lparen (by decide)]
  have hgroup : withinGroup? d n rest = .ok (none, rest) := by
    simp [withinGroup?, acceptKeywords_of_headIn hrest .WITHIN [.GROUP] (by decide)]
  have hfilter : filter? d n rest = .ok (none, rest) := by
    cases hd : d.hasAggregateFilter <;>
      simp [filter?, hd, acceptKeyword_of_headIn hrest .FILTER (by decide)]
  have hnulls : nullTreatment? rest = .ok (none, rest) := by
    simp [nullTreatment?, acceptOneOf_of_headIn hrest [.RESPECT, .IGNORE] (by decide)]
  have hwindow : window? d n inner rest = .ok (none, rest) := by
    simp [window?, acceptKeyword_of_headIn hrest .OVER (by decide)]
  cases hd : d.hasCallParameters <;>
    simp [call, hparen, hargs, hd, hsecond, hgroup, hfilter, hnulls, hwindow, plainCall]

theorem primary_call_name {name : Name} (h : isOperandName d name = true) {args : List Argument}
    {body rest : List Token} (hbody : Tame body)
    (hargs : arguments d n (body ++ .symbol .rparen :: rest) = .ok (⟨none, args, []⟩, rest))
    (hrest : HeadIn operandEnds rest) :
    primary d n (.word name.word :: .symbol .lparen :: (body ++ .symbol .rparen :: rest)) =
      .ok (.call (plainCall [name] args), rest) := by
  have hname := readsAsName_call (List.cons_ne_nil name []) hbody hrest
  obtain ⟨inner, hopening⟩ := prefixExpr_name (n := n) h (headIn_cons (by decide) _) hname
  have hcall := call_plain (interval d n inner) hbody [name] hargs hrest
  have hword : plainWord d n (interval d n inner) name.word
      (.symbol .lparen :: (body ++ .symbol .rparen :: rest)) =
      .ok (.call (plainCall [name] args), rest) := by
    simp [plainWord, peekSymbol, hcall]
  have hends : HeadIn nameEnds rest := headIn_nameEnds (hrest.mono fun t ht =>
    List.mem_cons_of_mem _ ht)
  simp only [primary, run_bind, hopening, hword, collated_of_headIn _ hends, accesses_eq]
  exact (accessStep_stop (.call (plainCall [name] args)) [] hrest).iterate

theorem primary_call {names : List Name} (hne : names ≠ [])
    (hnames : ∀ name ∈ names, isOperandName d name = true) {args : List Argument}
    {body rest : List Token} (hbody : Tame body) {k : Nat}
    (hargs : arguments d (nestedAt d k) (body ++ .symbol .rparen :: rest) =
      .ok (⟨none, args, []⟩, rest))
    (hrest : HeadIn operandEnds rest) {m : Nat} (hm : m + 1 = names.length + k) :
    primary d (nestedAt d m)
        (Name.pathTokens names ++ .symbol .lparen :: (body ++ .symbol .rparen :: rest)) =
      .ok (.call (plainCall names args), rest) := by
  obtain ⟨first, more, rfl⟩ := List.exists_cons_of_ne_nil hne
  induction more generalizing first m with
  | nil =>
      obtain rfl : m = k := by
        simp at hm
        omega
      exact primary_call_name (hnames first (by simp)) hbody hargs hrest
  | cons next more ih =>
      have hname := readsAsName_call hne hbody hrest
      cases m with
      | zero => simp at hm; omega
      | succ m =>
          have hnext := ih next (by simp) (fun name hmem => hnames name (List.mem_cons_of_mem _ hmem))
            (m := m) (by simp at hm ⊢; omega)
          have hfield := operand_of_primary hnext (strength_le_period _)
          have hwhole : accessed (.column [first]) [.field (.call (plainCall (next :: more) args))] =
              .call (plainCall (first :: next :: more) args) := by
            simp [accessed, accessPath, accessCall, plainCall]
          rw [← nestedAt_operand] at hfield
          obtain ⟨ts, hts⟩ : ∃ ts, Name.pathTokens (next :: more) = .word next.word :: ts := by
            cases more <;> exact ⟨_, rfl⟩
          simp only [Name.pathTokens, hts, List.cons_append] at hname hfield ⊢
          exact primary_qualified (hnames first (by simp)) hname hfield (by simp; omega) hrest hwhole

end SelectTree.Sql.Grammar
