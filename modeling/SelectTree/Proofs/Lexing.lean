import SelectTree.Query.Predicate
import SelectTree.Sql.Lexer
import SelectTree.Sql.Name

namespace SelectTree.Sql

/-! Texts that are cut into the tokens they were put together from. A piece of text is judged with
the characters after it, since a word or a number goes on as far as it can. -/

/-- A statement about listed characters is decided along the list, not over all characters. -/
instance (priority := 1100) decidableForallMemChar (cs : List Char) (p : Char → Prop)
    [DecidablePred p] : Decidable (∀ c ∈ cs, p c) :=
  List.decidableBAll p cs

/-- Holds of a token after which space says nothing. -/
def IsCalm (previous : Option Token) : Prop :=
  previous ≠ some (.symbol .colon) ∧ previous ≠ some (.symbol .atSign)

theorem isCalm_none : IsCalm none :=
  ⟨nofun, nofun⟩

theorem isCalm_word (w : Word) : IsCalm (some (.word w)) :=
  ⟨nofun, nofun⟩

theorem isCalm_string (text : String) : IsCalm (some (.string text)) :=
  ⟨nofun, nofun⟩

theorem spaceAfter?_of_isCalm {previous : Option Token} (h : IsCalm previous)
    (skipped : List Char) : spaceAfter? previous skipped = none := by
  rw [spaceAfter?, if_neg (by simp [h.1, h.2])]

/-- The tokens that scans cut off a text, up to the last of them and the rest of the text. -/
inductive Cuts (d : Dialect) :
    Option Token → List Char → List Token → Option Token → List Char → Prop
  | done {previous : Option Token} {cs : List Char} : Cuts d previous cs [] previous cs
  | token {previous last : Option Token} {c : Char} {cs rest tail : List Char} {t : Token}
      {ts : List Token} (hscan : scan d previous c cs = emit t rest)
      (hlength : rest.length ≤ cs.length) (htail : Cuts d (some t) rest ts last tail) :
      Cuts d previous (c :: cs) (t :: ts) last tail
  | skip {previous last : Option Token} {c : Char} {cs rest tail : List Char}
      {ts : List Token} (hscan : scan d previous c cs = skipTo rest)
      (hlength : rest.length ≤ cs.length) (hcalm : IsCalm previous)
      (htail : Cuts d none rest ts last tail) :
      Cuts d previous (c :: cs) ts last tail

variable {d : Dialect} {previous last : Option Token}

theorem Cuts.append {middle : Option Token} {cs between rest : List Char} {ts us : List Token}
    (first : Cuts d previous cs ts middle between) (second : Cuts d middle between us last rest) :
    Cuts d previous cs (ts ++ us) last rest := by
  induction first with
  | done => exact second
  | token hscan hlength _ ih => exact .token hscan hlength (ih second)
  | skip hscan hlength hcalm _ ih => exact .skip hscan hlength hcalm (ih second)

theorem Cuts.lexFrom {cs : List Char} {ts : List Token} (h : Cuts d previous cs ts last [])
    {fuel : Nat} (hfuel : cs.length ≤ fuel) :
    ∃ lexemes, lexFrom d fuel previous cs = .ok lexemes ∧ lexemes.map Lexeme.token = ts := by
  generalize hrest : ([] : List Char) = rest at h
  induction h generalizing fuel with
  | done =>
      subst hrest
      exact ⟨[], by cases fuel <;> rfl, rfl⟩
  | @token previous last c cs rest tail t ts hscan hlength _ ih =>
      cases fuel with
      | zero => simp at hfuel
      | succ fuel =>
          simp only [List.length_cons] at hfuel
          obtain ⟨lexemes, hlex, hmap⟩ := @ih fuel (by omega) hrest
          refine ⟨⟨t, cs.length + 1⟩ :: lexemes, ?_, by simp [hmap]⟩
          simp only [Sql.lexFrom, hscan, emit, bind, Except.bind, hlex]
          rfl
  | @skip previous last c cs rest tail ts hscan hlength hcalm _ ih =>
      cases fuel with
      | zero => simp at hfuel
      | succ fuel =>
          simp only [List.length_cons] at hfuel
          obtain ⟨lexemes, hlex, hmap⟩ := @ih fuel (by omega) hrest
          refine ⟨lexemes, ?_, hmap⟩
          simp only [Sql.lexFrom, hscan, skipTo, bind, Except.bind, spaceAfter?_of_isCalm hcalm,
            hlex]
          rfl

/-! Pieces of text -/

/-- Holds where no word, number or quoted text goes on. -/
def AtGap (rest : List Char) : Prop :=
  ∀ c ∈ rest.head?, c ∈ [' ', ',', ')']

theorem atGap_nil : AtGap [] :=
  nofun

theorem atGap_cons {c : Char} (h : c ∈ [' ', ',', ')']) (rest : List Char) :
    AtGap (c :: rest) := by
  intro x hx
  obtain rfl := Option.some.inj hx
  exact h

/-- The text is cut into the tokens, whatever it stands between. -/
def Spells (d : Dialect) (text : String) (ts : List Token) : Prop :=
  ∀ (previous : Option Token) (rest : List Char), IsCalm previous → AtGap rest →
    ∃ last, IsCalm last ∧ Cuts d previous (text.toList ++ rest) ts last rest

theorem Spells.lex {text : String} {ts : List Token} (h : Spells d text ts) :
    ∃ lexemes, lex d text.toList = .ok lexemes ∧ lexemes.map Lexeme.token = ts := by
  obtain ⟨last, -, hcuts⟩ := h none [] isCalm_none atGap_nil
  rw [List.append_nil] at hcuts
  exact hcuts.lexFrom (Nat.le_refl _)

theorem cuts_space {cs : List Char} {ts : List Token} {rest : List Char}
    (hcalm : IsCalm previous) (h : Cuts d none cs ts last rest) :
    Cuts d previous (' ' :: cs) ts last rest :=
  .skip rfl (Nat.le_refl _) hcalm h

/-- Two pieces with a blank between them. -/
theorem Spells.space {first second : String} {ts us : List Token} (hfirst : Spells d first ts)
    (hsecond : Spells d second us) : Spells d (first ++ " " ++ second) (ts ++ us) := by
  intro previous rest hcalm hgap
  obtain ⟨middle, hmiddle, hcuts⟩ := hfirst previous (' ' :: (second.toList ++ rest)) hcalm
    (atGap_cons (by decide) _)
  obtain ⟨last, hlast, hcuts'⟩ := hsecond none rest isCalm_none hgap
  refine ⟨last, hlast, ?_⟩
  simpa using hcuts.append (cuts_space hmiddle hcuts')

theorem isAlpha_eq (c : Char) : c.isAlpha = (c.isUpper || c.isLower) := rfl

theorem isUpper_eq (c : Char) : c.isUpper = decide (65 ≤ c.val ∧ c.val ≤ 90) := rfl

theorem isLower_eq (c : Char) : c.isLower = (decide (97 ≤ c.val) && decide (c.val ≤ 122)) := rfl

theorem toLower_eq_self {c : Char} (h : c.isAlpha = false) : c.toLower = c := by
  simp only [isAlpha_eq, Bool.or_eq_false_iff] at h
  unfold Char.toLower
  rw [dif_neg]
  intro hupper
  have := h.1
  simp [isUpper_eq] at this
  exact absurd hupper.2 (by simpa using this hupper.1)

theorem scanTagged?_of_not_alpha {c : Char} (h : c.isAlpha = false) (cs : List Char) :
    scanTagged? d (c :: cs) = none := by
  have hlower : c.toLower ∉ ['u', 'n', 'x', 'b', 'r', 'e'] := by
    rw [toLower_eq_self h]
    intro hmem
    simp only [List.mem_cons, List.not_mem_nil, or_false] at hmem
    rcases hmem with rfl | rfl | rfl | rfl | rfl | rfl <;> cases h
  simp only [List.mem_cons, List.not_mem_nil, or_false, not_or] at hlower
  unfold scanTagged?
  split
  · rename_i heq
    obtain rfl := (List.cons.inj heq).1
    simp [hlower]
  · rename_i heq
    obtain rfl := (List.cons.inj heq).1
    split <;> simp_all
  · rename_i heq
    obtain rfl := (List.cons.inj heq).1
    split <;> simp_all
  · rfl

theorem scanTagged?_of_not_quote {c next : Char} (hnext : next ∉ ['&', '\'', '"'])
    (cs : List Char) : scanTagged? d (c :: next :: cs) = none := by
  simp only [List.mem_cons, List.not_mem_nil, or_false, not_or] at hnext
  unfold scanTagged?
  split <;> simp_all

/-! Words -/

/-- Characters that open a word and nothing else. -/
def opensWord (d : Dialect) (c : Char) : Bool :=
  c.isAlpha || c = '_' || (0x80 ≤ c.toNat && d.isWordStart c)

/-- Whether a text is one word, without quotes. -/
def isWordText (d : Dialect) (text : String) : Bool :=
  match text.toList with
  | [] => false
  | c :: cs => opensWord d c && cs.all d.isWordPart

/-- Holds where a word ends. -/
def AtWordEnd (rest : List Char) : Prop :=
  ∀ c ∈ rest.head?, c ∈ [' ', ',', ')', '(', '.']

theorem AtGap.atWordEnd {rest : List Char} (h : AtGap rest) : AtWordEnd rest := by
  intro c hc
  have hmem := h c hc
  simp only [List.mem_cons, List.not_mem_nil, or_false] at hmem
  rcases hmem with rfl | rfl | rfl <;> decide

theorem isWordPart_of_mem_ends {c : Char} (h : c ∈ [' ', ',', ')', '(', '.']) :
    d.isWordPart c = false := by
  simp only [List.mem_cons, List.not_mem_nil, or_false] at h
  rcases h with rfl | rfl | rfl | rfl | rfl <;> cases d <;> decide

theorem isWordPart_quotes : ∀ c ∈ ['&', '\'', '"'], d.isWordPart c = false := by
  cases d <;> decide +kernel

/-- What stands before a character that is not `p` is all that is. -/
theorem takeWhile_all {p : Char → Bool} {cs rest : List Char} (hcs : cs.all p = true)
    (hrest : ∀ c ∈ rest.head?, p c = false) :
    (cs ++ rest).takeWhile p = cs ∧ (cs ++ rest).dropWhile p = rest := by
  have hcs' := List.all_eq_true.mp hcs
  have hnone : rest.takeWhile p = [] ∧ rest.dropWhile p = rest := by
    cases rest with
    | nil => exact ⟨rfl, rfl⟩
    | cons c rest => simp [hrest c rfl]
  rw [List.takeWhile_append_of_pos hcs', List.dropWhile_append_of_pos hcs']
  simp [hnone]

/-- What stands before the end of a word is the word. -/
theorem takeWhile_isWordPart {cs rest : List Char} (hparts : cs.all d.isWordPart = true)
    (hend : AtWordEnd rest) :
    (cs ++ rest).takeWhile d.isWordPart = cs ∧ (cs ++ rest).dropWhile d.isWordPart = rest :=
  takeWhile_all hparts fun c hc => isWordPart_of_mem_ends (hend c hc)

theorem scanOperator?_of_opensWord {c : Char} (hopens : opensWord d c = true)
    (halpha : c.isAlpha = false) (cs : List Char) : scanOperator? d (c :: cs) = none := by
  simp only [scanOperator?]
  split <;> first
    | rfl
    | simp [opensWord] at hopens

theorem ne_of_opensWord {c other : Char} (hopens : opensWord d c = true)
    (hother : opensWord d other = false) : c ≠ other := by
  rintro rfl
  rw [hopens] at hother
  cases hother

theorem isDigit_of_opensWord {c : Char} (hopens : opensWord d c = true) : c.isDigit = false := by
  cases hdigit : c.isDigit with
  | false => rfl
  | true =>
      simp only [Char.isDigit, Bool.and_eq_true, decide_eq_true_eq, UInt32.le_iff_toNat_le] at hdigit
      have hval : c.val.toNat = c.toNat := rfl
      have halpha : c.isAlpha = false := by
        simp [isAlpha_eq, isUpper_eq, isLower_eq, UInt32.le_iff_toNat_le, hval] at hdigit ⊢
        omega
      have hne : c ≠ '_' := by
        rintro rfl
        simp at hdigit
      simp [opensWord, halpha, hne] at hopens
      simp [hval] at hdigit
      omega

theorem isPlainSpace_of_opensWord {c : Char} (hopens : opensWord d c = true) :
    isPlainSpace c = false := by
  have hspaces : ∀ other ∈ [' ', '\t', '\n', '\r'], opensWord d other = false := by
    cases d <;> decide +kernel
  simp only [isPlainSpace, Bool.or_eq_false_iff, decide_eq_false_iff_not]
  refine ⟨⟨⟨?_, ?_⟩, ?_⟩, ?_⟩ <;> exact ne_of_opensWord hopens (hspaces _ (by decide))

/-- No quote stands after the first letter of a word. -/
theorem scanTagged?_of_word (c : Char) {cs rest : List Char}
    (hparts : cs.all d.isWordPart = true) (hend : AtWordEnd rest) :
    scanTagged? d (c :: (cs ++ rest)) = none := by
  cases cs with
  | nil =>
      cases rest with
      | nil => rfl
      | cons next rest =>
          have hnext : next ∉ ['&', '\'', '"'] := by
            intro hmem
            have hends := hend next rfl
            simp only [List.mem_cons, List.not_mem_nil, or_false] at hmem
            rcases hmem with rfl | rfl | rfl <;> revert hends <;> decide
          exact scanTagged?_of_not_quote hnext rest
  | cons next cs =>
      have hnext : next ∉ ['&', '\'', '"'] := by
        intro hmem
        have hpart := List.all_eq_true.mp hparts next (by simp)
        rw [isWordPart_quotes next hmem] at hpart
        cases hpart
      exact scanTagged?_of_not_quote hnext (cs ++ rest)

variable (previous) in
theorem scan_word {c : Char} {cs rest : List Char} (hopens : opensWord d c = true)
    (hparts : cs.all d.isWordPart = true) (hend : AtWordEnd rest) :
    scan d previous c (cs ++ rest) = emit (.bare (String.ofList (c :: cs))) rest := by
  have hword : scanWord d [c] (cs ++ rest) = emit (.bare (String.ofList (c :: cs))) rest := by
    obtain ⟨htake, hdrop⟩ := takeWhile_isWordPart hparts hend
    simp [scanWord, htake, hdrop]
  have hspace := isPlainSpace_of_opensWord hopens
  by_cases halpha : c.isAlpha = true
  · simp [scan, hspace, scanTagged?_of_word c hparts hend, halpha, hword]
  · have halpha := Bool.eq_false_iff.mpr halpha
    have hothers : ∀ other ∈ ['\'', '"', '\x60', '[', '.'], opensWord d other = false := by
      cases d <;> decide +kernel
    have hne : ∀ other ∈ ['\'', '"', '\x60', '[', '.'], c ≠ other :=
      fun other hmem => ne_of_opensWord hopens (hothers other hmem)
    have hquotes : c ∉ d.identifierQuotes := by
      intro hmem
      have hsubset : ∀ quote ∈ d.identifierQuotes, quote ∈ ['\'', '"', '\x60', '[', '.'] := by
        cases d <;> decide +kernel
      exact hne c (hsubset c hmem) rfl
    have hstart : d.isWordStart c = true := by
      simp only [opensWord, halpha, Bool.false_or, Bool.or_eq_true, decide_eq_true_eq,
        Bool.and_eq_true] at hopens
      rcases hopens with rfl | hopens
      · cases d <;> rfl
      · exact hopens.2
    simp [scan, hspace, scanTagged?_of_not_alpha halpha, halpha, hne '\'' (by decide), hquotes,
      hne '"' (by decide), isDigit_of_opensWord hopens, hne '.' (by decide),
      scanOperator?_of_opensWord hopens halpha, hstart, hword]

theorem cuts_word {text : String} {rest : List Char} (h : isWordText d text = true)
    (hend : AtWordEnd rest) :
    Cuts d previous (text.toList ++ rest) [.bare text] (some (.bare text)) rest := by
  unfold isWordText at h
  split at h
  · cases h
  · rename_i c cs hchars
    simp only [Bool.and_eq_true] at h
    have hscan := scan_word previous h.1 h.2 hend
    rw [← hchars, String.ofList_toList] at hscan
    rw [hchars]
    exact .token hscan (by simp) .done

theorem spells_word {text : String} (h : isWordText d text = true) :
    Spells d text [.bare text] :=
  fun _ _ _ hgap => ⟨_, isCalm_word _, cuts_word h hgap.atWordEnd⟩

/-! Quoted texts -/

/-- Every quote is written twice. -/
def doubled (quote : Char) (cs : List Char) : List Char :=
  cs.flatMap fun c => if c = quote then [c, c] else [c]

theorem doubled_eq_self {quote : Char} {cs : List Char} (h : quote ∉ cs) :
    doubled quote cs = cs := by
  induction cs with
  | nil => rfl
  | cons c cs ih =>
      simp only [List.mem_cons, not_or] at h
      simpa [doubled, Ne.symm h.1] using ih h.2

theorem doubled_eq_doubleQuotes (cs : List Char) : doubled '\'' cs = doubleQuotes cs := by
  induction cs with
  | nil => rfl
  | cons c cs ih =>
      by_cases h : c = '\''
      · simpa [doubled, doubleQuotes, h] using ih
      · simpa [doubled, doubleQuotes, h] using ih

theorem readQuoted_nil {quote : Char} (escape : Option (Char → List Char)) {rest : List Char}
    (hrest : rest.head? ≠ some quote) : readQuoted quote escape (quote :: rest) = some ([], rest) := by
  cases rest with
  | nil => simp [readQuoted]
  | cons next rest =>
      have hnext : next ≠ quote := fun heq => hrest (by simp [heq])
      simp [readQuoted, hnext]

theorem readQuoted_doubled {quote : Char} {escape : Option (Char → List Char)}
    {cs rest : List Char} (hescape : escape = none ∨ '\\' ∉ cs)
    (hrest : rest.head? ≠ some quote) :
    readQuoted quote escape (doubled quote cs ++ quote :: rest) = some (cs, rest) := by
  induction cs with
  | nil => exact readQuoted_nil escape hrest
  | cons c cs ih =>
      have hescape' : escape = none ∨ '\\' ∉ cs :=
        hescape.imp_right fun h hmem => h (List.mem_cons_of_mem c hmem)
      have htail := ih hescape'
      by_cases hquote : c = quote
      · have hstart : doubled quote (c :: cs) ++ quote :: rest =
            quote :: quote :: (doubled quote cs ++ quote :: rest) := by
          simp [doubled, hquote]
        rw [hstart]
        simp [readQuoted, htail, hquote]
      · have hstart : doubled quote (c :: cs) ++ quote :: rest =
            c :: (doubled quote cs ++ quote :: rest) := by
          simp [doubled, hquote]
        rw [hstart]
        obtain ⟨next, more, hmore⟩ : ∃ next more, doubled quote cs ++ quote :: rest = next :: more :=
          List.exists_cons_of_ne_nil (by simp)
        rw [hmore] at htail ⊢
        have hslash : escape.isSome → c ≠ '\\' := by
          intro hsome heq
          rcases hescape with rfl | hmem
          · cases hsome
          · exact hmem (by simp [heq])
        cases escape with
        | none => simp [readQuoted, hquote, htail]
        | some unescape => simp [readQuoted, hquote, hslash rfl, htail]

variable (previous) in
theorem scan_identifier {quote : Char} {cs rest : List Char} (hquote : quote ∈ d.identifierQuotes)
    (hcs : closingQuote quote ∉ cs) (hend : AtWordEnd rest) :
    scan d previous quote (cs ++ closingQuote quote :: rest) =
      emit (.word (.quoted quote (String.ofList cs))) rest := by
  have hkinds : ∀ q ∈ d.identifierQuotes, isPlainSpace q = false ∧ q.isAlpha = false ∧ q ≠ '\'' ∧
      closingQuote q ∉ [' ', ',', ')', '(', '.'] := by
    cases d <;> decide +kernel
  obtain ⟨hspace, halpha, hne, hclosing⟩ := hkinds quote hquote
  have hrest : rest.head? ≠ some (closingQuote quote) := fun h => hclosing (hend _ h)
  have hread := readQuoted_doubled (.inl rfl : none = none ∨ '\\' ∉ cs) hrest
  rw [doubled_eq_self hcs] at hread
  simp [scan, hspace, scanTagged?_of_not_alpha halpha, halpha, hne, hquote, scanIdentifier, hread]

/-- Nothing in a constant is changed where it is read again. -/
def isPlainText (d : Dialect) (text : String) : Bool :=
  !d.escapesWithBackslash || !text.toList.contains '\\'

/-- Whether every backslash stands before a sign of a pattern. -/
def keepsBackslashes : List Char → Bool
  | [] => true
  | [c] => c ≠ '\\'
  | c :: next :: cs =>
      if c = '\\' then (next = '%' || next = '_') && keepsBackslashes cs
      else keepsBackslashes (next :: cs)

/-- A constant is read as it was where no backslash is taken for an escape. -/
def isKeptText (d : Dialect) (text : String) : Bool :=
  !d.escapesWithBackslash || keepsBackslashes text.toList

theorem keepsBackslashes_of_not_mem {cs : List Char} (h : '\\' ∉ cs) :
    keepsBackslashes cs = true := by
  fun_induction keepsBackslashes cs with
  | case1 => rfl
  | case2 c =>
      rw [List.mem_singleton] at h
      exact decide_eq_true (Ne.symm h)
  | case3 next cs ih => exact absurd List.mem_cons_self h
  | case4 c next cs hc ih => exact ih fun hmem => h (List.mem_cons_of_mem c hmem)

theorem isKeptText_of_isPlainText {text : String} (h : isPlainText d text = true) :
    isKeptText d text = true := by
  simp only [isPlainText, isKeptText, Bool.or_eq_true, Bool.not_eq_true'] at h ⊢
  exact h.imp_right fun hmem => keepsBackslashes_of_not_mem (by simpa using hmem)

theorem unescaped_pattern (hescapes : d.escapesWithBackslash = true) {c : Char}
    (h : c = '%' ∨ c = '_') : unescaped d c = ['\\', c] := by
  rw [unescaped, if_pos]
  simp [hescapes, h]

theorem doubleQuotes_cons_of_ne {c : Char} (h : c ≠ '\'') (cs : List Char) :
    doubleQuotes (c :: cs) = c :: doubleQuotes cs :=
  if_neg h

section Escapes

variable {c : Char} {cs rest : List Char}

theorem readQuoted_doubleQuotes_cons (hc : c ≠ '\\') :
    readQuoted '\'' (some (unescaped d)) (doubleQuotes (c :: cs) ++ '\'' :: rest) =
      (readQuoted '\'' (some (unescaped d)) (doubleQuotes cs ++ '\'' :: rest)).map
        fun (text, left) => (c :: text, left) := by
  obtain ⟨next, more, hmore⟩ : ∃ next more, doubleQuotes cs ++ '\'' :: rest = next :: more :=
    List.exists_cons_of_ne_nil (by simp)
  by_cases hquote : c = '\''
  · simp [doubleQuotes, hquote, readQuoted]
  · rw [doubleQuotes_cons_of_ne hquote, List.cons_append, hmore]
    simp [readQuoted, hquote, hc]

theorem readQuoted_backslash (next : Char) (cs : List Char) :
    readQuoted '\'' (some (unescaped d)) ('\\' :: next :: cs) =
      (readQuoted '\'' (some (unescaped d)) cs).map
        fun (text, left) => (unescaped d next ++ text, left) := by
  simp [readQuoted]

/-- A backslash escapes the character after it, unless that one is a quote, which is doubled. -/
theorem doubleQuotes_backslash {next : Char} (hnext : next ≠ '\'') (cs rest : List Char) :
    doubleQuotes ('\\' :: next :: cs) ++ '\'' :: rest =
      '\\' :: next :: (doubleQuotes cs ++ '\'' :: rest) := by
  rw [doubleQuotes_cons_of_ne (by decide), doubleQuotes_cons_of_ne hnext]
  rfl

theorem readQuoted_keepsBackslashes (hescapes : d.escapesWithBackslash = true)
    (h : keepsBackslashes cs = true) (hrest : rest.head? ≠ some '\'') :
    readQuoted '\'' (some (unescaped d)) (doubleQuotes cs ++ '\'' :: rest) = some (cs, rest) := by
  have hend : readQuoted '\'' (some (unescaped d)) ('\'' :: rest) = some ([], rest) :=
    readQuoted_nil (some (unescaped d)) hrest
  fun_induction keepsBackslashes cs with
  | case1 => exact hend
  | case2 c =>
      rw [readQuoted_doubleQuotes_cons (by simpa using h)]
      simp [doubleQuotes, hend]
  | case3 next cs ih =>
      simp only [Bool.and_eq_true, Bool.or_eq_true, decide_eq_true_eq] at h
      have hnext : next ≠ '\'' := by
        rintro rfl
        simp at h
      rw [doubleQuotes_backslash hnext, readQuoted_backslash, ih h.2,
        unescaped_pattern hescapes h.1]
      rfl
  | case4 c next cs hc ih =>
      rw [readQuoted_doubleQuotes_cons hc, ih h]
      rfl

end Escapes

variable (previous) in
theorem scan_quote (cs : List Char) :
    scan d previous '\'' cs = scanString '\'' (stringEscape d) .string cs := by
  simp [scan, isPlainSpace, scanTagged?_of_not_alpha (c := '\'') rfl]

theorem scan_string {text : String} {rest : List Char} (h : isKeptText d text = true)
    (hgap : AtGap rest) :
    scan d previous '\'' (doubleQuotes text.toList ++ '\'' :: rest) = emit (.string text) rest := by
  have hrest : rest.head? ≠ some '\'' := fun hhead => by
    have := hgap _ hhead
    revert this
    decide
  have hread : readQuoted '\'' (stringEscape d) (doubleQuotes text.toList ++ '\'' :: rest) =
      some (text.toList, rest) := by
    unfold stringEscape
    cases hescapes : d.escapesWithBackslash with
    | false => exact doubled_eq_doubleQuotes _ ▸ readQuoted_doubled (.inl rfl) hrest
    | true =>
        rw [isKeptText, hescapes] at h
        exact readQuoted_keepsBackslashes hescapes h hrest
  simp [scan_quote, scanString, hread]

theorem spells_string {text : String} (h : isKeptText d text = true) :
    Spells d (Literal.string text).sql [.string text] := by
  intro previous rest hcalm hgap
  refine ⟨some (.string text), isCalm_string text, ?_⟩
  have hchars : (Literal.string text).sql.toList ++ rest =
      '\'' :: (doubleQuotes text.toList ++ '\'' :: rest) := by
    simp [Literal.sql]
  rw [hchars]
  exact .token (scan_string h hgap) (by simp; omega) .done

/-! Names -/

namespace Name

/-- The word that a name is read from. -/
def word (name : Name) : Word :=
  match name.quote with
  | none => .bare name.text
  | some quote => .quoted quote name.text

/-- Whether the text of a name is one word, in the quotes that the dialect has for names. -/
def isWord (d : Dialect) (name : Name) : Bool :=
  match name.quote with
  | none => isWordText d name.text
  | some quote => d.identifierQuotes.contains quote && !name.text.toList.contains (closingQuote quote)

@[simp] theorem ofWord_word (name : Name) : ofWord name.word = name := by
  obtain ⟨text, quote⟩ := name
  cases quote <;> rfl

theorem escapedQuotes_eq_self {quote : Char} {cs : List Char} (h : quote ∉ cs)
    (afterBackslash : Bool) : escapedQuotes quote afterBackslash cs = cs := by
  fun_induction escapedQuotes quote afterBackslash cs <;> simp_all

theorem sql_quoted {quote : Char} {text : String} (h : closingQuote quote ∉ text.toList) :
    (Name.mk text (some quote)).sql = enclosed quote text := by
  by_cases hbracket : quote = '['
  · subst hbracket
    rfl
  · have hquote : quote ∉ text.toList := by
      simpa [closingQuote, hbracket] using h
    have hsql : (Name.mk text (some quote)).sql = quotedText quote text := by
      simp only [sql]
    rw [hsql, quotedText, escapedQuotes_eq_self hquote, String.ofList_toList]

variable (previous) in
theorem cuts {name : Name} {rest : List Char} (h : name.isWord d = true)
    (hend : AtWordEnd rest) :
    Cuts d previous (name.sql.toList ++ rest) [.word name.word] (some (.word name.word)) rest := by
  obtain ⟨text, quote⟩ := name
  cases quote with
  | none => exact cuts_word h hend
  | some quote =>
      simp only [isWord, Bool.and_eq_true, Bool.not_eq_true', List.contains_iff_mem] at h
      obtain ⟨hquote, htext⟩ := h
      have htext' : closingQuote quote ∉ text.toList := by
        simpa using htext
      have hscan := scan_identifier previous hquote htext' hend
      rw [String.ofList_toList] at hscan
      rw [sql_quoted htext']
      have hchars : (enclosed quote text).toList ++ rest =
          quote :: (text.toList ++ closingQuote quote :: rest) := by
        simp [enclosed]
      rw [hchars]
      exact .token hscan (by simp; omega) .done

/-- The first character of a name is no digit. -/
theorem isDigit_head {name : Name} (h : name.isWord d = true) (rest : List Char) :
    ∀ c ∈ (name.sql.toList ++ rest).head?, c.isDigit = false := by
  obtain ⟨text, quote⟩ := name
  cases quote with
  | none =>
      simp only [isWord, isWordText] at h
      simp only [sql]
      cases hchars : text.toList with
      | nil => simp [hchars] at h
      | cons c cs =>
          simp only [hchars, Bool.and_eq_true] at h
          simpa using isDigit_of_opensWord h.1
  | some quote =>
      simp only [isWord, Bool.and_eq_true, Bool.not_eq_true', List.contains_iff_mem] at h
      obtain ⟨hquote, htext⟩ := h
      have hquotes : ∀ quote ∈ d.identifierQuotes, quote.isDigit = false := by
        cases d <;> decide +kernel
      rw [sql_quoted (by simpa using htext)]
      simpa [enclosed] using hquotes quote hquote

/-- The tokens of a qualified name. -/
def pathTokens : List Name → List Token
  | [] => []
  | [name] => [.word name.word]
  | name :: next :: rest => .word name.word :: .symbol .period :: pathTokens (next :: rest)

end Name

theorem takeDigits_of_not_digit {rest : List Char} (h : ∀ c ∈ rest.head?, c.isDigit = false)
    (hunderscore : rest.head? ≠ some '_') : takeDigits d Char.isDigit rest = ([], rest) := by
  cases rest with
  | nil => rfl
  | cons c cs =>
      have hc := h c rfl
      have hne : c ≠ '_' := fun heq => hunderscore (by simp [heq])
      cases cs with
      | nil => simp [takeDigits, hc]
      | cons next cs => simp [takeDigits, hc, hne]

variable (previous) in
theorem scan_point (cs : List Char) : scan d previous '.' cs = scanNumber d previous ('.' :: cs) := by
  have hquotes : '.' ∉ d.identifierQuotes := by
    cases d <;> decide
  simp [scan, isPlainSpace, scanTagged?_of_not_alpha (c := '.') rfl, hquotes]

/-- A period after a word, before anything but a digit. -/
theorem scan_period (w : Word) {rest : List Char} (h : ∀ c ∈ rest.head?, c.isDigit = false) :
    scan d (some (.word w)) '.' rest = emit (.symbol .period) rest := by
  rw [scan_point]
  by_cases hunderscore : rest.head? = some '_'
  · obtain ⟨cs, rfl⟩ : ∃ cs, rest = '_' :: cs := by
      cases rest with
      | nil => cases hunderscore
      | cons c cs => exact ⟨cs, by simpa using hunderscore⟩
    rfl
  · have hfraction := takeDigits_of_not_digit (d := d) h hunderscore
    have hwhole : takeDigits d Char.isDigit ('.' :: rest) = ([], '.' :: rest) :=
      takeDigits_of_not_digit (by simp) (by simp)
    unfold scanNumber
    split
    · rename_i heq
      simp at heq
      simp [heq] at hunderscore
    · rw [hwhole]
      simp [hfraction, emitSymbol]

namespace Name

variable (previous) in
theorem cuts_path {first : Name} {more : List Name} {rest : List Char}
    (hwords : ∀ name ∈ first :: more, name.isWord d = true) (hend : AtWordEnd rest) :
    ∃ w, Cuts d previous ((pathSql (first :: more)).toList ++ rest) (pathTokens (first :: more))
      (some (.word w)) rest := by
  induction more generalizing first previous with
  | nil => exact ⟨_, cuts previous (hwords first (by simp)) hend⟩
  | cons next more ih =>
      obtain ⟨w, htail⟩ := @ih (some (.symbol .period)) next
        (fun name hmem => hwords name (List.mem_cons_of_mem _ hmem))
      refine ⟨w, ?_⟩
      have hperiod : AtWordEnd ('.' :: ((pathSql (next :: more)).toList ++ rest)) := by
        intro c hc
        obtain rfl := Option.some.inj hc
        decide
      have hdigit : ∀ c ∈ ((pathSql (next :: more)).toList ++ rest).head?, c.isDigit = false := by
        have hnext := hwords next (by simp)
        cases more with
        | nil => exact isDigit_head hnext rest
        | cons third more =>
            have hchars : (pathSql (next :: third :: more)).toList ++ rest =
                next.sql.toList ++ ("." ++ pathSql (third :: more)).toList ++ rest := by
              simp [pathSql]
            rw [hchars, List.append_assoc]
            exact isDigit_head hnext _
      have hchars : (pathSql (first :: next :: more)).toList ++ rest =
          first.sql.toList ++ '.' :: ((pathSql (next :: more)).toList ++ rest) := by
        simp [pathSql]
      rw [hchars]
      have hhead := cuts previous (hwords first (by simp)) hperiod
      exact hhead.append (.token (scan_period _ hdigit) (Nat.le_refl _) htail)

theorem spells_path {path : List Name} (hne : path ≠ [])
    (hwords : ∀ name ∈ path, name.isWord d = true) :
    Spells d (pathSql path) (pathTokens path) := by
  intro previous rest _ hgap
  obtain ⟨first, more, rfl⟩ := List.exists_cons_of_ne_nil hne
  obtain ⟨w, hcuts⟩ := cuts_path previous hwords hgap.atWordEnd
  exact ⟨_, isCalm_word w, hcuts⟩

end Name

/-! Symbols -/

theorem scan_of_scanOperator? {c : Char} {cs : List Char} {result : Scan}
    (hc : c ∈ ['(', ')', ',', '*', '+', '-', '=', '<', '>'])
    (h : scanOperator? d (c :: cs) = some result) : scan d previous c cs = result := by
  have hplain : ∀ c ∈ ['(', ')', ',', '*', '+', '-', '=', '<', '>'],
      isPlainSpace c = false ∧ c.isAlpha = false ∧ c ≠ '\'' ∧ c ∉ d.identifierQuotes ∧
        c ≠ '"' ∧ c.isDigit = false ∧ c ≠ '.' := by
    cases d <;> decide +kernel
  obtain ⟨hspace, halpha, hstring, hquote, hdouble, hdigit, hperiod⟩ := hplain c hc
  simp [scan, hspace, scanTagged?_of_not_alpha halpha, halpha, hstring, hquote, hdouble, hdigit,
    hperiod, h]

/-- A symbol that no character after it changes. -/
theorem cuts_symbol {c : Char} {cs rest : List Char} {s : Symbol} {ts : List Token}
    (hc : c ∈ ['(', ')', ',', '*', '+', '-', '=', '<', '>'])
    (h : scanOperator? d (c :: cs) = some (emitSymbol s cs))
    (htail : Cuts d (some (.symbol s)) cs ts last rest) :
    Cuts d previous (c :: cs) (.symbol s :: ts) last rest :=
  .token (scan_of_scanOperator? hc h) (Nat.le_refl _) htail

theorem Spells.parenthesized {text : String} {ts : List Token} (h : Spells d text ts) :
    Spells d (Text.parenthesized text) (.symbol .lparen :: ts ++ [.symbol .rparen]) := by
  intro previous rest hcalm hgap
  obtain ⟨last, hlast, hcuts⟩ := h (some (.symbol .lparen)) (')' :: rest) ⟨nofun, nofun⟩
    (atGap_cons (by decide) rest)
  have hchars : (Text.parenthesized text).toList ++ rest = '(' :: (text.toList ++ ')' :: rest) := by
    simp [Text.parenthesized]
  refine ⟨some (.symbol .rparen), ⟨nofun, nofun⟩, ?_⟩
  rw [hchars]
  exact cuts_symbol (by decide) rfl (hcuts.append (cuts_symbol (by decide) rfl .done))

theorem Spells.comma {first second : String} {ts us : List Token} (hfirst : Spells d first ts)
    (hsecond : Spells d second us) :
    Spells d (first ++ ", " ++ second) (ts ++ .symbol .comma :: us) := by
  intro previous rest hcalm hgap
  obtain ⟨middle, hmiddle, hcuts⟩ := hfirst previous (',' :: ' ' :: (second.toList ++ rest)) hcalm
    (atGap_cons (by decide) _)
  obtain ⟨last, hlast, hcuts'⟩ := hsecond none rest isCalm_none hgap
  refine ⟨last, hlast, ?_⟩
  have hcomma : Cuts d middle (',' :: ' ' :: (second.toList ++ rest)) (.symbol .comma :: us) last
      rest :=
    cuts_symbol (by decide) rfl (cuts_space ⟨nofun, nofun⟩ hcuts')
  simpa using hcuts.append hcomma

/-- Pieces of tokens with commas between them. -/
def separated : List (List Token) → List Token
  | [] => []
  | [ts] => ts
  | ts :: next :: rest => ts ++ .symbol .comma :: separated (next :: rest)

theorem spells_nil : Spells d "" [] :=
  fun previous _ hcalm _ => ⟨previous, hcalm, .done⟩

theorem spells_listed (pieces : List (String × List Token))
    (h : ∀ piece ∈ pieces, Spells d piece.1 piece.2) :
    Spells d (Text.listed (pieces.map Prod.fst)) (separated (pieces.map Prod.snd)) := by
  induction pieces with
  | nil => exact spells_nil
  | cons piece rest ih =>
      have htail := ih fun piece hmem => h piece (List.mem_cons_of_mem _ hmem)
      cases rest with
      | nil => exact h piece (by simp)
      | cons next rest => exact (h piece (by simp)).comma htail

/-! Operators -/

def comparisonSymbol : Comparison → Symbol
  | .lt => .lt
  | .le => .le
  | .eq => .eq
  | .ge => .ge
  | .gt => .gt
  | .ne => .ne

/-- What stands at a gap goes on no operator. -/
theorem scanOperator?_comparison (op : Comparison) {c : Char} {cs rest : List Char}
    (hop : op.sql.toList = c :: cs) (hgap : AtGap rest) :
    c ∈ ['(', ')', ',', '*', '+', '-', '=', '<', '>'] ∧
      scanOperator? d (c :: (cs ++ rest)) = some (emitSymbol (comparisonSymbol op) rest) := by
  have hrest : rest = [] ∨ ∃ c tail, c ∈ [' ', ',', ')'] ∧ rest = c :: tail := by
    cases rest with
    | nil => exact .inl rfl
    | cons c tail => exact .inr ⟨c, tail, hgap c rfl, rfl⟩
  cases op <;> obtain ⟨rfl, rfl⟩ := List.cons.inj hop <;> refine ⟨by decide, ?_⟩ <;>
    rcases hrest with rfl | ⟨c, tail, hc, rfl⟩ <;>
    first
    | cases d <;> rfl
    | (simp only [List.mem_cons, List.not_mem_nil, or_false] at hc
       rcases hc with rfl | rfl | rfl <;> cases d <;> rfl)

theorem spells_comparison (op : Comparison) : Spells d op.sql [.symbol (comparisonSymbol op)] := by
  intro previous rest hcalm hgap
  obtain ⟨c, cs, hop⟩ : ∃ c cs, op.sql.toList = c :: cs := by
    cases op <;> exact ⟨_, _, rfl⟩
  obtain ⟨hc, hscan⟩ := scanOperator?_comparison (d := d) op hop hgap
  refine ⟨some (.symbol (comparisonSymbol op)), by cases op <;> exact ⟨nofun, nofun⟩, ?_⟩
  rw [hop]
  exact .token (scan_of_scanOperator? hc hscan) (by simp) .done

/-- A star for the columns of a table. -/
theorem spells_wildcard {path : List Name} (hne : path ≠ [])
    (hwords : ∀ name ∈ path, name.isWord d = true) :
    Spells d (Name.pathSql path ++ ".*") (Name.pathTokens path ++ [.symbol .period, .symbol .star]) := by
  intro previous rest _ _
  obtain ⟨first, more, rfl⟩ := List.exists_cons_of_ne_nil hne
  have hend : AtWordEnd ('.' :: '*' :: rest) := by
    intro c hc
    obtain rfl := Option.some.inj hc
    decide
  obtain ⟨w, hcuts⟩ := Name.cuts_path previous hwords hend
  have hstar : Cuts d (some (.symbol .period)) ('*' :: rest) [.symbol .star]
      (some (.symbol .star)) rest :=
    cuts_symbol (by decide) rfl .done
  have hperiod : Cuts d (some (.word w)) ('.' :: '*' :: rest) [.symbol .period, .symbol .star]
      (some (.symbol .star)) rest :=
    .token (scan_period w (by simp)) (Nat.le_refl _) hstar
  refine ⟨some (.symbol .star), ⟨nofun, nofun⟩, ?_⟩
  simpa using hcuts.append hperiod

theorem spells_star : Spells d "*" [.symbol .star] :=
  fun _ _ _ _ => ⟨some (.symbol .star), ⟨nofun, nofun⟩, cuts_symbol (by decide) rfl .done⟩

/-! Keywords -/

namespace Keyword

/-- The word of a keyword, in capitals. -/
def token (k : Keyword) : Token :=
  .word ⟨k.spelling, none, some k⟩

/-- The keywords of a printed query. -/
def printed : List Keyword :=
  [.SELECT, .FROM, .WHERE, .GROUP, .BY, .ORDER, .ASC, .DESC, .AS, .AND, .OR, .LIKE, .TRUE, .FALSE,
    .NULL, .NATURAL, .JOIN, .INNER, .LEFT, .RIGHT, .FULL, .OUTER, .ON, .USING]

theorem bare_spelling : ∀ k ∈ printed, Token.bare k.spelling = k.token := by
  decide +kernel

theorem isWordText_spelling : ∀ k ∈ printed, isWordText d k.spelling = true := by
  cases d <;> decide +kernel

theorem spells {k : Keyword} (hk : k ∈ printed) : Spells d k.spelling [k.token] := by
  rw [← bare_spelling k hk]
  exact spells_word (isWordText_spelling k hk)

end Keyword

end SelectTree.Sql
