import SelectTree.Proofs.Numerals
import SelectTree.Proofs.Operands

namespace SelectTree.Sql.Grammar

open Sql.Parser

/-! Expressions in plain words: columns, constants, calls, parentheses, and the operators that a
query tree can hold between them. -/

variable {d : Dialect}

/-! Operators between operands -/

inductive Link
  | and
  | or
  | compare (op : Comparison)
  | like

namespace Link

def binding : Link → Binding
  | .and => .and
  | .or => .or
  | .compare _ => .equality
  | .like => .like

def sql : Link → String
  | .and => "AND"
  | .or => "OR"
  | .compare op => op.sql
  | .like => "LIKE"

def token : Link → Token
  | .and => Keyword.AND.token
  | .or => Keyword.OR.token
  | .compare op => .symbol (comparisonSymbol op)
  | .like => Keyword.LIKE.token

def join (left right : Expr) : Link → Expr
  | .and => .binary left .and right
  | .or => .binary left .or right
  | .compare op => .binary left (.compare op) right
  | .like => .like left right

theorem spells (link : Link) : Spells d link.sql [link.token] := by
  cases link with
  | and => exact Keyword.spells (k := .AND) (by decide)
  | or => exact Keyword.spells (k := .OR) (by decide)
  | compare op => exact spells_comparison op
  | like => exact Keyword.spells (k := .LIKE) (by decide)

theorem token_mem (link : Link) : link.token ∈ linkTokens := by
  cases link with
  | compare op => cases op <;> decide
  | _ => decide

theorem nextBinding_token (link : Link) (context : Context) (ts : List Token) :
    nextBinding d context (link.token :: ts) = link.binding := by
  cases link with
  | compare op => cases op <;> rfl
  | _ => rfl

theorem strength_pos (link : Link) : 0 < link.binding.strength d := by
  cases link <;> cases d <;> simp [binding, Binding.strength]

end Link

/-! Where operands begin -/

/-- Constants that are words, and what they say. -/
def wordConstants : List (String × Value) :=
  [("TRUE", .boolean true), ("true", .boolean true), ("FALSE", .boolean false),
    ("false", .boolean false), ("NULL", .null)]

/-- The tokens that begin an operand. -/
inductive StartsOperand (d : Dialect) : Token → Prop
  | name {name : Name} (h : isOperandName d name = true) : StartsOperand d (.word name.word)
  | constant {text : String} {v : Value} (h : (text, v) ∈ wordConstants) :
      StartsOperand d (.bare text)
  | number (text : String) : StartsOperand d (.number text false)
  | string (text : String) : StartsOperand d (.string text)
  | minus : StartsOperand d (.symbol .minus)
  | plus : StartsOperand d (.symbol .plus)
  | lparen : StartsOperand d (.symbol .lparen)

theorem keyword_of_wordConstants {text : String} {v : Value} (h : (text, v) ∈ wordConstants) :
    ∃ k ∈ constantKeywords, (Token.bare text).keyword = some k := by
  have hall : ∀ constant ∈ wordConstants, ((Token.bare constant.1).keyword.any
      constantKeywords.contains) = true := by
    decide +kernel
  have hany := hall _ h
  rw [Option.any_eq_true] at hany
  obtain ⟨k, hk, hmem⟩ := hany
  exact ⟨k, by simpa using hmem, hk⟩

namespace StartsOperand

theorem keyword_ne {t : Token} (h : StartsOperand d t) :
    ∀ k ∈ openingKeywords, t.keyword ≠ some k := by
  intro k hk hkeyword
  cases h with
  | name h =>
      exact keyword_of_isOperandName h hkeyword (List.mem_append_right _ hk)
  | constant h =>
      obtain ⟨k', hk', hkeyword'⟩ := keyword_of_wordConstants h
      obtain rfl : k = k' := Option.some.inj (hkeyword.symm.trans hkeyword')
      revert hk hk'
      cases k <;> decide
  | _ => cases hkeyword

theorem isSpace {t : Token} (h : StartsOperand d t) : isSpace t = false := by
  cases h <;> rfl

theorem sign (negative : Bool) : StartsOperand d (.symbol (signSymbol negative)) := by
  cases negative with
  | false => exact .plus
  | true => exact .minus

end StartsOperand

/-! Phrases -/

/-- A text, the tokens it is cut into, and the expression it says. -/
structure Piece where
  text : String
  tokens : List Token
  expr : Expr

/-- A text in plain words that is cut into the tokens and says the expression. It is read within
`depth` layers, and its operators bind more tightly than `strength`. -/
inductive Phrase (d : Dialect) :
    (depth strength : Nat) → String → List Token → Expr → Prop
  | column {m strength : Nat} {names : List Name} (hne : names ≠ [])
      (hnames : ∀ name ∈ names, isOperandName d name = true) (hdepth : names.length ≤ m + 1) :
      Phrase d (m + 1) strength (Name.pathSql names) (Name.pathTokens names) (.column names)
  | call {m k strength : Nat} {names : List Name} {pieces : List Piece} (hne : names ≠ [])
      (hnames : ∀ name ∈ names, isOperandName d name = true) (hdepth : m + 1 = names.length + k)
      (hargs : ∀ piece ∈ pieces, Phrase d k 0 piece.text piece.tokens piece.expr) :
      Phrase d (m + 1) strength
        (Name.pathSql names ++ Text.parenthesized (Text.listed (pieces.map Piece.text)))
        (Name.pathTokens names ++ .symbol .lparen ::
          (separated (pieces.map Piece.tokens) ++ [.symbol .rparen]))
        (.call (plainCall names (pieces.map fun piece => .plain piece.expr.sql)))
  | callOfAll {m k strength : Nat} {names : List Name} (hne : names ≠ [])
      (hnames : ∀ name ∈ names, isOperandName d name = true) (hdepth : m = names.length + k) :
      Phrase d (m + 1) strength (Name.pathSql names ++ Text.parenthesized "*")
        (Name.pathTokens names ++ [.symbol .lparen, .symbol .star, .symbol .rparen])
        (.call (plainCall names [.plain "*"]))
  | number {m strength : Nat} {text : String} (h : isNumberText text = true) :
      Phrase d (m + 1) strength text [.number text false] (.value (.number text false))
  | negative {m strength : Nat} {text : String} (h : isNumberText text = true) :
      Phrase d (m + 2) strength ("-" ++ text) [.symbol .minus, .number text false]
        (.signed true (.value (.number text false)))
  | string {m strength : Nat} {text : String} (h : isPlainText d text = true) :
      Phrase d (m + 1) strength (Literal.string text).sql [.string text] (.value (.string text))
  | constant {m strength : Nat} {text : String} {v : Value} (h : (text, v) ∈ wordConstants) :
      Phrase d (m + 1) strength text [.bare text] (.value v)
  | nested {m strength : Nat} {text : String} {ts : List Token} {e : Expr}
      (inner : Phrase d m 0 text ts e) :
      Phrase d (m + 1) strength (Text.parenthesized text)
        (.symbol .lparen :: ts ++ [.symbol .rparen]) (.nested e)
  | link {m strength : Nat} {link : Link} {text text' : String} {ts us : List Token}
      {left right : Expr} (hstrength : strength < link.binding.strength d)
      (hleft : Phrase d (m + 1) (link.binding.strength d - 1) text ts left)
      (hright : Phrase d m (link.binding.strength d) text' us right) :
      Phrase d (m + 1) strength (text ++ " " ++ (link.sql ++ " " ++ text'))
        (ts ++ link.token :: us) (link.join left right)

theorem isWordText_of_wordConstants {text : String} {v : Value} (h : (text, v) ∈ wordConstants) :
    isWordText d text = true := by
  have hall : ∀ constant ∈ wordConstants, isWordText d constant.1 = true := by
    cases d <;> decide +kernel
  exact hall _ h

theorem spells_call {names : List Name} (hne : names ≠ [])
    (hnames : ∀ name ∈ names, isOperandName d name = true) {text : String} {ts : List Token}
    (h : Spells d text ts) :
    Spells d (Name.pathSql names ++ Text.parenthesized text)
      (Name.pathTokens names ++ .symbol .lparen :: (ts ++ [.symbol .rparen])) := by
  intro previous rest hcalm hgap
  obtain ⟨first, more, rfl⟩ := List.exists_cons_of_ne_nil hne
  have hparen : AtWordEnd ((Text.parenthesized text).toList ++ rest) := by
    intro c hc
    have hhead : c = '(' := by
      simpa [Text.parenthesized, eq_comm] using hc
    simp [hhead]
  obtain ⟨w, hcuts⟩ := Name.cuts_path previous
    (fun name hmem => isWord_of_isOperandName (hnames name hmem)) hparen
  obtain ⟨last, hlast, hcuts'⟩ := h.parenthesized _ rest (isCalm_word w) hgap
  refine ⟨last, hlast, ?_⟩
  simpa using hcuts.append hcuts'

theorem starts_path {names : List Name} (hne : names ≠ [])
    (hnames : ∀ name ∈ names, isOperandName d name = true) :
    ∃ t us, Name.pathTokens names = t :: us ∧ StartsOperand d t := by
  obtain ⟨first, more, rfl⟩ := List.exists_cons_of_ne_nil hne
  have hstart := StartsOperand.name (hnames first (by simp))
  cases more with
  | nil => exact ⟨_, _, rfl, hstart⟩
  | cons next more => exact ⟨_, _, rfl, hstart⟩

theorem tail_path {names : List Name} (hne : names ≠ []) {rest : List Token}
    (hrest : HeadIn nameEnds rest) :
    ∃ t us, Name.pathTokens names = t :: us ∧ HeadIn nameEnds (us ++ rest) := by
  obtain ⟨first, more, rfl⟩ := List.exists_cons_of_ne_nil hne
  cases more with
  | nil => exact ⟨_, _, rfl, hrest⟩
  | cons next more => exact ⟨_, _, rfl, headIn_cons (by decide) _⟩

/-! Wildcards -/

def wildcardStep (read : List Name) : Parser (List Name ⊕ Option (List Name)) := do
  if ← accept .period then
    if ← accept .star then return .inr (some read.reverse)
    else
      let next ← token .partOfQualifiedName qualifier?
      return .inl (next :: read)
  else return .inr none

theorem wildcardPath_eq (read : List Name) : wildcardPath read = iterate wildcardStep read :=
  rfl

theorem wildcardStep_stop (read : List Name) {follow rest : List Token}
    (hperiod : .symbol .period ∉ follow) (hrest : HeadIn follow rest) :
    Runs wildcardStep read rest none rest := by
  apply Runs.stop
  simp [wildcardStep, accept_of_headIn hrest .period hperiod]

theorem wildcardStep_name (read : List Name) (next : Name) (ts : List Token) :
    wildcardStep read (.symbol .period :: .word next.word :: ts) = .ok (.inl (next :: read), ts) := by
  simp [wildcardStep, accept, token, qualifier?, after]

theorem runs_wildcardStep {follow rest : List Token} (hperiod : .symbol .period ∉ follow)
    (hrest : HeadIn follow rest) (read : List Name) (next : Name) (more : List Name) :
    Runs wildcardStep read (.symbol .period :: (Name.pathTokens (next :: more) ++ rest)) none rest := by
  induction more generalizing read next with
  | nil =>
      have hlength : rest.length < (Token.symbol .period :: .word next.word :: rest).length := by
        simp only [List.length_cons]
        omega
      exact .more (wildcardStep_name read next rest) hlength (wildcardStep_stop _ hperiod hrest)
  | cons third more ih =>
      exact .more (wildcardStep_name read next _) (by simp [Name.pathTokens])
        (ih (next :: read) third)

theorem wildcard?_of_headIn {t : Token} (ht : t ≠ .symbol .star) {follow ts : List Token}
    (hperiod : .symbol .period ∉ follow) (hts : HeadIn follow ts) :
    wildcard? (t :: ts) = .ok (none, t :: ts) := by
  unfold wildcard?
  split
  · rename_i heq
    exact absurd (List.cons.inj heq).1 ht
  · rename_i heq
    obtain ⟨rfl, rfl⟩ := List.cons.inj heq
    exact absurd (hts _ rfl) hperiod
  · rfl

/-- No star ends a qualified name. -/
theorem wildcard?_path (follow : List Token) {names : List Name} (hne : names ≠ [])
    {rest : List Token} (hperiod : .symbol .period ∉ follow) (hrest : HeadIn follow rest) :
    wildcard? (Name.pathTokens names ++ rest) = .ok (none, Name.pathTokens names ++ rest) := by
  obtain ⟨first, more, rfl⟩ := List.exists_cons_of_ne_nil hne
  cases more with
  | nil =>
      apply wildcard?_of_headIn _ hperiod hrest
      exact nofun
  | cons next more =>
      have hruns := (runs_wildcardStep hperiod hrest [first] next more).iterate
      rw [← wildcardPath_eq] at hruns
      simp [wildcard?, Name.pathTokens, qualifier?, hruns]

namespace Phrase

variable {m strength : Nat} {text : String} {ts : List Token} {e : Expr}

theorem mono (h : Phrase d m strength text ts e) {m' strength' : Nat} (hm : m ≤ m')
    (hstrength : strength' ≤ strength) : Phrase d m' strength' text ts e := by
  induction h generalizing m' strength' with
  | @column m strength names hne hnames hdepth =>
      obtain ⟨j, rfl⟩ := Nat.exists_eq_add_of_le' hm
      exact column (m := j + m) hne hnames (by omega)
  | @call m k strength names pieces hne hnames hdepth _ ih =>
      obtain ⟨j, rfl⟩ := Nat.exists_eq_add_of_le' hm
      exact call (m := j + m) (k := j + k) hne hnames (by omega)
        fun piece hpiece => ih piece hpiece (Nat.le_add_left k j) (Nat.le_refl 0)
  | @callOfAll m k strength names hne hnames hdepth =>
      obtain ⟨j, rfl⟩ := Nat.exists_eq_add_of_le' hm
      exact callOfAll (m := j + m) (k := j + k) hne hnames (by omega)
  | @number m strength text h =>
      obtain ⟨j, rfl⟩ := Nat.exists_eq_add_of_le' hm
      exact number (m := j + m) h
  | @negative m strength text h =>
      obtain ⟨j, rfl⟩ := Nat.exists_eq_add_of_le' hm
      exact negative (m := j + m) h
  | @string m strength text h =>
      obtain ⟨j, rfl⟩ := Nat.exists_eq_add_of_le' hm
      exact string (m := j + m) h
  | @constant m strength text v h =>
      obtain ⟨j, rfl⟩ := Nat.exists_eq_add_of_le' hm
      exact constant (m := j + m) h
  | @nested m strength text ts e _ ih =>
      obtain ⟨j, rfl⟩ := Nat.exists_eq_add_of_le' hm
      exact nested (m := j + m) (ih (Nat.le_add_left m j) (Nat.le_refl 0))
  | @link m strength link text text' ts us left right hstrength' _ _ ihLeft ihRight =>
      obtain ⟨j, rfl⟩ := Nat.exists_eq_add_of_le' hm
      exact Phrase.link (m := j + m) (by omega) (ihLeft hm (Nat.le_refl _))
        (ihRight (Nat.le_add_left m j) (Nat.le_refl _))

theorem spells (h : Phrase d m strength text ts e) : Spells d text ts := by
  induction h with
  | column hne hnames _ =>
      exact Name.spells_path hne fun name hmem => isWord_of_isOperandName (hnames name hmem)
  | @call m k strength names pieces hne hnames _ _ ih =>
      apply spells_call hne hnames
      have hlisted := spells_listed (d := d)
        (pieces.map fun piece => (piece.text, piece.tokens)) (by simpa using ih)
      simpa [Function.comp_def] using hlisted
  | callOfAll hne hnames _ => exact spells_call hne hnames spells_star
  | number h => exact spells_number h
  | negative h => exact spells_negative h
  | string h => exact spells_string (isKeptText_of_isPlainText h)
  | constant h => exact spells_word (isWordText_of_wordConstants h)
  | nested _ ih => exact ih.parenthesized
  | link _ _ _ ihLeft ihRight => exact ihLeft.space ((Link.spells _).space ihRight)

theorem starts (h : Phrase d m strength text ts e) : ∃ t us, ts = t :: us ∧ StartsOperand d t := by
  induction h with
  | column hne hnames _ =>
      exact starts_path hne hnames
  | call hne hnames _ _ _ =>
      obtain ⟨t, us, hts, hstart⟩ := starts_path hne hnames
      exact ⟨t, _, by rw [hts]; rfl, hstart⟩
  | callOfAll hne hnames _ =>
      obtain ⟨t, us, hts, hstart⟩ := starts_path hne hnames
      exact ⟨t, _, by rw [hts]; rfl, hstart⟩
  | number => exact ⟨_, _, rfl, .number _⟩
  | negative => exact ⟨_, _, rfl, .minus⟩
  | string => exact ⟨_, _, rfl, .string _⟩
  | constant h => exact ⟨_, _, rfl, .constant h⟩
  | nested => exact ⟨_, _, rfl, .lparen⟩
  | link _ _ _ ihLeft _ =>
      obtain ⟨t, us, rfl, hstart⟩ := ihLeft
      exact ⟨t, _, rfl, hstart⟩

theorem solid (h : Phrase d m strength text ts e) : Solid ts := by
  obtain ⟨t, us, rfl, hstart⟩ := h.starts
  exact ⟨nofun, noSpace_cons hstart.isSpace us⟩

theorem tame (h : Phrase d m strength text ts e) : Tame ts := by
  induction h with
  | column hne hnames _ => exact tame_path _
  | @call m k strength names pieces hne hnames _ _ ih =>
      have hargs : Tame (separated (pieces.map Piece.tokens)) := by
        apply tame_separated
        intro ts hts
        obtain ⟨piece, hpiece, rfl⟩ := List.mem_map.mp hts
        exact ih piece hpiece
      have hparen : Tame [.symbol .lparen] := by decide
      exact (tame_path _).append (hparen.append (hargs.append (by decide)))
  | callOfAll hne hnames _ => exact (tame_path _).append (by decide)
  | nested _ ih =>
      have hparen : Tame [.symbol .lparen] := by decide
      exact (hparen.append ih).append (by decide)
  | @link m strength link _ _ _ _ _ _ _ _ _ ihLeft ihRight =>
      have hlink : Tame [link.token] := by
        intro t ht
        obtain rfl := List.mem_singleton.mp ht
        have hlinks : Tame linkTokens := by decide
        exact hlinks _ link.token_mem
      exact ihLeft.append (hlink.append ihRight)
  | _ => simp [Tame, Parser.isSpace, Token.bare]

/-- What stands after the first token, where that could be a name. -/
theorem tail_headIn (h : Phrase d m strength text ts e) {rest : List Token}
    (hrest : HeadIn operandEnds rest) :
    ∃ t us, ts = t :: us ∧ (nameOfToken? t = none ∨ HeadIn nameEnds (us ++ rest)) := by
  have hends : ∀ {ts}, HeadIn operandEnds ts → HeadIn nameEnds ts := fun h => h.mono (by decide)
  induction h generalizing rest with
  | column hne _ _ =>
      obtain ⟨t, us, hts, hus⟩ := tail_path hne (hends hrest)
      exact ⟨t, us, hts, .inr hus⟩
  | call hne _ _ _ _ =>
      obtain ⟨t, us, hts, hus⟩ := tail_path hne (headIn_cons (t := .symbol .lparen) (by decide) _)
      exact ⟨t, _, by rw [hts]; rfl, .inr (by simpa using hus)⟩
  | callOfAll hne _ _ =>
      obtain ⟨t, us, hts, hus⟩ := tail_path hne (headIn_cons (t := .symbol .lparen) (by decide) _)
      exact ⟨t, _, by rw [hts]; rfl, .inr (by simpa using hus)⟩
  | negative => exact ⟨_, _, rfl, .inl rfl⟩
  | nested => exact ⟨_, _, rfl, .inl rfl⟩
  | @link m strength link _ _ _ us _ _ _ _ _ ihLeft _ =>
      have hlink : HeadIn operandEnds (link.token :: (us ++ rest)) :=
        headIn_cons (List.mem_append_left _ link.token_mem) _
      obtain ⟨t, us', rfl, htail⟩ := ihLeft hlink
      exact ⟨t, _, rfl, htail.imp_right fun h => by simpa using h⟩
  | _ => exact ⟨_, _, rfl, .inr (hends hrest)⟩

theorem wildcard?_eq (h : Phrase d m strength text ts e) {rest : List Token}
    (hrest : HeadIn operandEnds rest) : wildcard? (ts ++ rest) = .ok (none, ts ++ rest) := by
  induction h generalizing rest with
  | column hne _ _ => exact wildcard?_path operandEnds hne (by decide) hrest
  | call hne _ _ _ _ =>
      simpa using wildcard?_path [.symbol .lparen] hne (by decide) (headIn_cons (by decide) _)
  | callOfAll hne _ _ =>
      simpa using wildcard?_path [.symbol .lparen] hne (by decide) (headIn_cons (by decide) _)
  | negative => rfl
  | nested inner _ =>
      obtain ⟨t, us, rfl, hstart⟩ := inner.starts
      have hperiod : .symbol .period ∉ [t] := by
        intro hmem
        rw [← List.mem_singleton.mp hmem] at hstart
        cases hstart
      apply wildcard?_of_headIn _ hperiod (headIn_cons (by simp) _)
      exact nofun
  | @link m strength link _ _ _ us _ _ _ _ _ ihLeft _ =>
      have hlink : HeadIn operandEnds (link.token :: (us ++ rest)) :=
        headIn_cons (List.mem_append_left _ link.token_mem) _
      simpa using ihLeft hlink
  | _ =>
      apply wildcard?_of_headIn _ (by decide) hrest
      exact nofun

end Phrase

end SelectTree.Sql.Grammar
