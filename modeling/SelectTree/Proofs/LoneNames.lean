import SelectTree.Proofs.Scanning

namespace SelectTree.Sql

open Grammar

/-! Qualified names that take up a text from end to end. The same tokens are read where the text
goes on at a gap. -/

variable {d : Dialect} {previous : Option Token} {cs rest : List Char}

/-! Tokens of a text -/

/-- One scan, and the scans after it. -/
theorem lexFrom_cons_inv {fuel : Nat} {c : Char} {lexemes : List Lexeme}
    (h : lexFrom d (fuel + 1) previous (c :: cs) = .ok lexemes) :
    ∃ read rest token more, scan d previous c cs = .ok (read, rest) ∧
      lexFrom d fuel token rest = .ok more ∧
      lexemes.map Lexeme.token = token.toList ++ more.map Lexeme.token ∧
      (token = read ∨ read = none ∧ ∃ skipped, token = spaceAfter? previous skipped) := by
  obtain ⟨⟨read, rest⟩, hscan, h⟩ := bind_eq_ok_iff.mp h
  obtain ⟨more, hmore, h⟩ := bind_eq_ok_iff.mp h
  refine ⟨read, rest, _, more, hscan, hmore, ?_, ?_⟩
  · split at h
    · rename_i t htoken
      rw [← Except.ok.inj h, htoken]
      rfl
    · rename_i htoken
      rw [← Except.ok.inj h, htoken]
      rfl
  · cases read with
    | none => exact .inr ⟨rfl, _, rfl⟩
    | some t => exact .inl rfl

/-- Space is no name. -/
theorem name_spaceAfter? {skipped : List Char} :
    ∀ t ∈ spaceAfter? previous skipped, nameOfToken? t = none := by
  intro t ht
  unfold spaceAfter? at ht
  split at ht
  · obtain rfl := Option.some.inj ht
    rfl
  · cases ht

/-! Widths -/

/-- A token of a qualified name: one of the names in it, or a period. -/
def IsPathToken (t : Token) : Prop :=
  nameOfToken? t ≠ none ∨ t = .symbol .period

theorem read_of_isPathToken {read token : Option Token} {t : Token}
    (hread : token = read ∨ read = none ∧ ∃ skipped, token = spaceAfter? previous skipped)
    (ht : token = some t) (hpath : IsPathToken t) : read = some t := by
  rcases hread with rfl | ⟨-, skipped, rfl⟩
  · exact ht
  · rcases hpath with hname | rfl
    · exact absurd (name_spaceAfter? t ht) hname
    · unfold spaceAfter? at ht
      split at ht <;> cases ht

/-- What is printed of a token of a qualified name. -/
def shown (t : Token) : List Char :=
  match nameOfToken? t with
  | some name => name.sql.toList
  | none => ['.']

/-- How many characters a token takes up at least. -/
def width (t : Token) : Nat :=
  max 1 (shown t).length

def widths : List Token → Nat
  | [] => 0
  | t :: ts => width t + widths ts

theorem widths_cons (t : Token) (ts : List Token) : widths (t :: ts) = width t + widths ts :=
  rfl

theorem one_le_width (t : Token) : 1 ≤ width t :=
  Nat.le_max_left 1 _

theorem length_shown_le_width (t : Token) : (shown t).length ≤ width t :=
  Nat.le_max_right 1 _

theorem width_of_no_name {t : Token} (h : nameOfToken? t = none) : width t = 1 := by
  simp [width, shown, h]

theorem length_flatMap_shown_le (ts : List Token) : (ts.flatMap shown).length ≤ widths ts := by
  induction ts with
  | nil => exact Nat.le_refl 0
  | cons t ts ih =>
      rw [List.flatMap_cons, List.length_append, widths_cons]
      exact Nat.add_le_add (length_shown_le_width t) ih

theorem widths_le_of_sublist {ts us : List Token} (h : ts.Sublist us) : widths ts ≤ widths us := by
  induction h with
  | slnil => exact Nat.le_refl 0
  | cons t _ ih => exact Nat.le_trans ih (Nat.le_add_left _ _)
  | cons_cons t _ ih => exact Nat.add_le_add_left ih _

theorem eq_of_widths_le {ts us : List Token} (hsub : ts.Sublist us) (h : widths us ≤ widths ts) :
    ts = us := by
  induction hsub with
  | slnil => rfl
  | cons t hsub _ =>
      have hpos := one_le_width t
      have hless := widths_le_of_sublist hsub
      rw [widths_cons] at h
      omega
  | cons_cons t _ ih =>
      rw [widths_cons, widths_cons] at h
      rw [ih (Nat.le_of_add_le_add_left h)]

theorem width_le_of_scan {c : Char} {t : Token} (h : scan d previous c cs = .ok (some t, rest)) :
    width t + rest.length ≤ cs.length + 1 := by
  obtain ⟨hrest, hfits⟩ := fits_scan previous c cs (some t) rest h
  cases hname : nameOfToken? t with
  | none =>
      rw [width_of_no_name hname]
      omega
  | some name =>
      have hlength := (hfits t rfl name hname).2
      simp only [width, shown, hname, String.length_toList]
      omega

/-- A text is at least as long as its tokens are wide. -/
theorem widths_le {fuel : Nat} {lexemes : List Lexeme}
    (h : lexFrom d fuel previous cs = .ok lexemes) :
    widths (lexemes.map Lexeme.token) ≤ cs.length := by
  induction fuel generalizing previous cs lexemes with
  | zero =>
      cases h
      exact Nat.zero_le _
  | succ fuel ih =>
      cases cs with
      | nil =>
          cases h
          exact Nat.zero_le _
      | cons c cs =>
          obtain ⟨read, rest, token, more, hscan, hmore, hmap, hread⟩ := lexFrom_cons_inv h
          have hrest := (fits_scan previous c cs read rest hscan).1
          have hwidths := ih hmore
          rw [hmap, List.length_cons]
          cases token with
          | none =>
              rw [Option.toList_none, List.nil_append]
              omega
          | some t =>
              have hwidth : width t + rest.length ≤ cs.length + 1 := by
                rcases hread with rfl | ⟨-, skipped, hspace⟩
                · exact width_le_of_scan hscan
                · rw [width_of_no_name (name_spaceAfter? t hspace.symm)]
                  omega
              rw [Option.toList_some, List.singleton_append, widths_cons]
              omega

/-- Scans go on from where cuts end. -/
theorem lexFrom_of_cuts {last : Option Token} {ts : List Token}
    (h : Cuts d previous cs ts last rest) {fuel : Nat} (hfuel : cs.length ≤ fuel)
    {lexemes : List Lexeme} (hlex : lexFrom d fuel previous cs = .ok lexemes) :
    ∃ fuel more, rest.length ≤ fuel ∧ lexFrom d fuel last rest = .ok more ∧
      lexemes.map Lexeme.token = ts ++ more.map Lexeme.token := by
  induction h generalizing fuel lexemes with
  | done => exact ⟨fuel, lexemes, hfuel, hlex, rfl⟩
  | @token previous last c cs rest tail t ts hscan hlength _ ih =>
      rw [List.length_cons] at hfuel
      obtain ⟨fuel, rfl⟩ : ∃ k, fuel = k + 1 := ⟨fuel - 1, by omega⟩
      obtain ⟨read, left, token, more, hscan', hmore, hmap, hread⟩ := lexFrom_cons_inv hlex
      obtain ⟨rfl, rfl⟩ := Prod.mk.inj (Except.ok.inj (hscan.symm.trans hscan'))
      obtain rfl := hread.resolve_right nofun
      obtain ⟨fuel, after, hrest, hafter, heq⟩ := ih (by omega) hmore
      exact ⟨fuel, after, hrest, hafter, by rw [hmap, heq]; rfl⟩
  | @skip previous last c cs rest tail ts hscan hlength hcalm _ ih =>
      rw [List.length_cons] at hfuel
      obtain ⟨fuel, rfl⟩ : ∃ k, fuel = k + 1 := ⟨fuel - 1, by omega⟩
      obtain ⟨read, left, token, more, hscan', hmore, hmap, hread⟩ := lexFrom_cons_inv hlex
      obtain ⟨rfl, rfl⟩ := Prod.mk.inj (Except.ok.inj (hscan.symm.trans hscan'))
      obtain rfl : token = none := by
        rcases hread with rfl | ⟨-, skipped, rfl⟩
        · rfl
        · exact spaceAfter?_of_isCalm hcalm skipped
      obtain ⟨fuel, after, hrest, hafter, heq⟩ := ih (by omega) hmore
      exact ⟨fuel, after, hrest, hafter, by rw [hmap, heq]; rfl⟩

/-! Scans of a longer text -/

/-- A name that the first scan reads from a text is read by the second one with the rest behind
what is left. -/
def Lasts (cs rest : List Char) (s s' : Scan) : Prop :=
  ∀ t left, s = emit t left → nameOfToken? t ≠ none → left <:+ cs ∧ s' = emit t (left ++ rest)

theorem Lasts.mono {s s' : Scan} {more : List Char} (h : Lasts cs rest s s') (hsuffix : cs <:+ more) :
    Lasts more rest s s' := by
  intro t left hscan hname
  obtain ⟨hleft, hscan'⟩ := h t left hscan hname
  exact ⟨hleft.trans hsuffix, hscan'⟩

theorem Passes.ne_emit {n : Nat} {s : Scan} (h : Passes n s) {t : Token} {left : List Char}
    (hname : nameOfToken? t ≠ none) : s ≠ emit t left :=
  fun hscan => hname ((h (some t) left hscan).2 t rfl)

theorem Passes.lasts {n : Nat} {s s' : Scan} (h : Passes n s) : Lasts cs rest s s' :=
  fun _ _ hscan hname => absurd hscan (h.ne_emit hname)

theorem takeWhile_at_gap (cs : List Char) {p : Char → Bool}
    (hp : ∀ c ∈ [' ', ',', ')'], p c = false) (hgap : AtGap rest) :
    (cs ++ rest).takeWhile p = cs.takeWhile p ∧ (cs ++ rest).dropWhile p = cs.dropWhile p ++ rest := by
  induction cs with
  | nil =>
      cases rest with
      | nil => exact ⟨rfl, rfl⟩
      | cons c rest => simp [hp c (hgap c rfl)]
  | cons c cs ih =>
      by_cases hc : p c = true
      · simp [hc, ih]
      · simp [hc]

theorem isWordPart_at_gap : ∀ c ∈ [' ', ',', ')'], d.isWordPart c = false := by
  cases d <;> decide

theorem lasts_word (start : List Char) (hgap : AtGap rest) :
    Lasts cs rest (scanWord d start cs) (scanWord d start (cs ++ rest)) := by
  intro t left hscan _
  obtain ⟨htake, hdrop⟩ := takeWhile_at_gap cs (isWordPart_at_gap (d := d)) hgap
  obtain ⟨htoken, rfl⟩ := Prod.mk.inj (Except.ok.inj hscan)
  refine ⟨List.dropWhile_suffix _, ?_⟩
  rw [scanWord, htake, hdrop, Option.some.inj htoken]

/-! Quotes -/

theorem readQuoted_append {quote : Char} {escape : Option (Char → List Char)} {text tail : List Char}
    (hrest : rest.head? ≠ some quote) (h : readQuoted quote escape cs = some (text, tail)) :
    readQuoted quote escape (cs ++ rest) = some (text, tail ++ rest) := by
  fun_induction readQuoted quote escape cs generalizing text tail
  case case2 =>
    cases h
    cases rest with
    | nil => simp [readQuoted]
    | cons next rest =>
        have hnext : next ≠ quote := fun heq => hrest (by simp [heq])
        simp [readQuoted, hnext]
  case case5 =>
    cases h
    rename_i hnext
    simp [readQuoted, hnext]
  case case1 | case3 => cases h
  all_goals
    rename_i ih
    subst_vars
    obtain ⟨⟨more, left⟩, hread, heq⟩ := Option.map_eq_some_iff.mp h
    cases heq
    have hmore := ih hread
    simp_all [readQuoted]

theorem readQuoted_suffix {quote : Char} {escape : Option (Char → List Char)}
    {text tail : List Char} (h : readQuoted quote escape cs = some (text, tail)) : tail <:+ cs := by
  fun_induction readQuoted quote escape cs generalizing text tail
  case case2 | case5 =>
    cases h
    exact List.suffix_cons _ _
  case case1 | case3 => cases h
  all_goals
    rename_i ih
    subst_vars
    obtain ⟨⟨more, left⟩, hread, heq⟩ := Option.map_eq_some_iff.mp h
    cases heq
    have hmore := ih hread
    grind [List.IsSuffix.trans, List.suffix_cons]

theorem lasts_string {quote : Char} {escape : Option (Char → List Char)} {token : String → Token}
    (hrest : rest.head? ≠ some quote) :
    Lasts cs rest (scanString quote escape token cs)
      (scanString quote escape token (cs ++ rest)) := by
  intro t left hscan _
  unfold scanString at hscan ⊢
  split at hscan
  · rename_i text tail hread
    obtain ⟨htoken, rfl⟩ := Prod.mk.inj (Except.ok.inj hscan)
    refine ⟨readQuoted_suffix hread, ?_⟩
    simp [readQuoted_append hrest hread, Option.some.inj htoken]
  · cases hscan

theorem lasts_identifier {quote : Char} (hrest : rest.head? ≠ some (closingQuote quote)) :
    Lasts cs rest (scanIdentifier quote cs) (scanIdentifier quote (cs ++ rest)) := by
  intro t left hscan _
  unfold scanIdentifier at hscan ⊢
  split at hscan
  · rename_i text tail hread
    obtain ⟨htoken, rfl⟩ := Prod.mk.inj (Except.ok.inj hscan)
    refine ⟨readQuoted_suffix hread, ?_⟩
    simp [readQuoted_append hrest hread, Option.some.inj htoken]
  · cases hscan

theorem head_ne_of_atGap {c : Char} (hc : c ∉ [' ', ',', ')']) (hgap : AtGap rest) :
    rest.head? ≠ some c :=
  fun hhead => hc (hgap c hhead)

/-! Numbers -/

/-- What stands at a gap is no part of a number. -/
theorem eq_nil_or_cons_of_atGap (hgap : AtGap rest) :
    rest = [] ∨ ∃ c tail, (c = ' ' ∨ c = ',' ∨ c = ')') ∧ rest = c :: tail := by
  cases rest with
  | nil => exact .inl rfl
  | cons c tail => exact .inr ⟨c, tail, by simpa using hgap c rfl, rfl⟩

theorem takeDigits_at_gap (cs : List Char) (hgap : AtGap rest) :
    takeDigits d Char.isDigit (cs ++ rest) =
      ((takeDigits d Char.isDigit cs).1, (takeDigits d Char.isDigit cs).2 ++ rest) := by
  have hnil : takeDigits d Char.isDigit rest = ([], rest) := by
    rcases eq_nil_or_cons_of_atGap hgap with rfl | ⟨c, tail, rfl | rfl | rfl, rfl⟩
    · rfl
    all_goals exact takeDigits_of_not_digit (by simp) (by simp)
  fun_induction takeDigits d Char.isDigit cs with
  | case1 => exact hnil
  | case2 c hc =>
      rcases eq_nil_or_cons_of_atGap hgap with rfl | ⟨next, tail, -, rfl⟩
      · simp [takeDigits, hc]
      · simp [takeDigits, hc, hnil]
  | case3 c hc =>
      rcases eq_nil_or_cons_of_atGap hgap with rfl | ⟨next, tail, rfl | rfl | rfl, rfl⟩ <;>
        simp [takeDigits, hc, isHexDigit]
  | case4 c next cs hc digits tail heq ih => simp_all [takeDigits]
  | case5 c next cs hc => simp_all [takeDigits]

theorem takeExponent_at_gap (hgap : AtGap rest) :
    takeExponent (cs ++ rest) = ((takeExponent cs).1, (takeExponent cs).2 ++ rest) := by
  have hdigits : ∀ unsigned : List Char,
      (unsigned ++ rest).takeWhile Char.isDigit = unsigned.takeWhile Char.isDigit ∧
        (unsigned ++ rest).dropWhile Char.isDigit = unsigned.dropWhile Char.isDigit ++ rest :=
    fun unsigned => takeWhile_at_gap unsigned (by decide) hgap
  cases cs with
  | nil =>
      rcases eq_nil_or_cons_of_atGap hgap with rfl | ⟨c, tail, rfl | rfl | rfl, rfl⟩ <;> rfl
  | cons c cs =>
      simp only [takeExponent, List.cons_append]
      split
      · cases cs with
        | nil =>
            rcases eq_nil_or_cons_of_atGap hgap with rfl | ⟨c, tail, rfl | rfl | rfl, rfl⟩ <;> rfl
        | cons sign cs =>
            by_cases hplus : sign = '+'
            · subst hplus
              by_cases hnone : cs.takeWhile Char.isDigit = [] <;> simp [hdigits cs, hnone]
            · by_cases hminus : sign = '-'
              · subst hminus
                by_cases hnone : cs.takeWhile Char.isDigit = [] <;> simp [hdigits cs, hnone]
              · have hsigned := hdigits (sign :: cs)
                rw [List.cons_append] at hsigned
                by_cases hnone : (sign :: cs).takeWhile Char.isDigit = [] <;>
                  simp [hplus, hminus, hsigned, hnone]
      · rfl

theorem marksExponent_at_gap (hgap : AtGap rest) : marksExponent (cs ++ rest) = marksExponent cs := by
  cases cs with
  | nil => rcases eq_nil_or_cons_of_atGap hgap with rfl | ⟨c, tail, rfl | rfl | rfl, rfl⟩ <;> rfl
  | cons c cs => rfl

theorem lasts_finishNumber (mantissa : List Char) (hgap : AtGap rest) :
    Lasts cs rest (finishNumber d previous mantissa cs)
      (finishNumber d previous mantissa (cs ++ rest)) := by
  intro t left hscan hname
  have hexponent : (takeExponent cs).2 <:+ cs := ⟨_, takeExponent_fst_append cs⟩
  obtain ⟨htake, hdrop⟩ :=
    takeWhile_at_gap (takeExponent cs).2 (isWordPart_at_gap (d := d)) hgap
  unfold finishNumber at hscan ⊢
  simp only [takeExponent_at_gap hgap, marksExponent_at_gap hgap, htake, hdrop]
  dsimp only at hscan
  split at hscan
  · rename_i hword
    obtain ⟨htoken, rfl⟩ := Prod.mk.inj (Except.ok.inj hscan)
    refine ⟨(List.dropWhile_suffix _).trans hexponent, ?_⟩
    rw [if_pos hword, Option.some.inj htoken]
  · rename_i hword
    rw [if_neg hword]
    split at hscan
    · rename_i hperiod
      obtain ⟨htoken, rfl⟩ := Prod.mk.inj (Except.ok.inj hscan)
      refine ⟨hexponent, ?_⟩
      rw [if_pos hperiod, Option.some.inj htoken]
    · split at hscan <;>
      · obtain ⟨htoken, -⟩ := Prod.mk.inj (Except.ok.inj hscan)
        exact absurd (by rw [← Option.some.inj htoken]; rfl) hname

/-- A number, from its digits on. -/
def scanDigits (d : Dialect) (previous : Option Token) : List Char × List Char → Scan
  | (['0'], 'x' :: rest) =>
      emit (.tagged "X" '\'' (String.ofList (takeDigits d isHexDigit rest).1))
        (takeDigits d isHexDigit rest).2
  | (whole, '.' :: rest) =>
      if whole.isEmpty && ((takeDigits d Char.isDigit rest).1.isEmpty ||
          (d.hasNumericWords && previousIsWord previous)) then
        emitSymbol .period rest
      else
        finishNumber d previous (whole ++ '.' :: (takeDigits d Char.isDigit rest).1)
          (takeDigits d Char.isDigit rest).2
  | (whole, rest) => finishNumber d previous whole rest

theorem scanNumber_eq (h : ∀ tail, cs ≠ '.' :: '_' :: tail) :
    scanNumber d previous cs = scanDigits d previous (takeDigits d Char.isDigit cs) := by
  unfold scanNumber
  split
  · rename_i tail
    exact absurd rfl (h tail)
  · rfl

theorem scanDigits_plain {whole tail : List Char} (hx : whole = ['0'] → tail.head? ≠ some 'x')
    (hperiod : tail.head? ≠ some '.') :
    scanDigits d previous (whole, tail) = finishNumber d previous whole tail := by
  unfold scanDigits
  split
  · rename_i heq
    cases heq
    exact absurd rfl (hx rfl)
  · rename_i heq
    cases heq
    exact absurd rfl hperiod
  · rename_i heq
    cases heq
    rfl

theorem lasts_digits (whole : List Char) (hgap : AtGap rest) :
    Lasts cs rest (scanDigits d previous (whole, cs)) (scanDigits d previous (whole, cs ++ rest)) := by
  cases cs with
  | nil =>
      have hx : rest.head? ≠ some 'x' := head_ne_of_atGap (by decide) hgap
      have hperiod : rest.head? ≠ some '.' := head_ne_of_atGap (by decide) hgap
      have hwhole : scanDigits d previous (whole, []) = finishNumber d previous whole [] :=
        scanDigits_plain (by simp) (by simp)
      rw [List.nil_append, hwhole, scanDigits_plain (fun _ => hx) hperiod]
      exact lasts_finishNumber whole hgap
  | cons c cs =>
      by_cases hperiod : c = '.'
      · subst hperiod
        intro t left hscan hname
        simp only [scanDigits, List.cons_append, takeDigits_at_gap cs hgap] at hscan ⊢
        split at hscan
        · exact absurd hscan ((passes_symbol .period (Nat.le_refl _)).ne_emit hname)
        · rename_i hfraction
          rw [if_neg hfraction]
          have htail : (takeDigits d Char.isDigit cs).2 <:+ cs := ⟨_, takeDigits_fst_append _ cs⟩
          exact (lasts_finishNumber _ hgap).mono (htail.trans (List.suffix_cons _ _)) t left hscan hname
      · by_cases hhex : whole = ['0'] ∧ c = 'x'
        · obtain ⟨rfl, rfl⟩ := hhex
          exact (passes_emit rfl (Nat.le_refl _)).lasts
        · have hplain : ∀ tail, scanDigits d previous (whole, c :: tail) =
              finishNumber d previous whole (c :: tail) := by
            intro tail
            apply scanDigits_plain
            · exact fun hwhole heq => hhex ⟨hwhole, Option.some.inj heq⟩
            · exact fun heq => hperiod (Option.some.inj heq)
          rw [List.cons_append, hplain, hplain]
          exact lasts_finishNumber whole hgap

/-- An underscore after a period is seen in the text itself. -/
theorem append_ne_underscore (h : ∀ tail, cs ≠ '.' :: '_' :: tail) (hne : cs ≠ [])
    (hgap : AtGap rest) : ∀ tail, cs ++ rest ≠ '.' :: '_' :: tail := by
  intro tail heq
  rcases cs with _ | ⟨c, _ | ⟨next, cs⟩⟩
  · exact hne rfl
  · obtain ⟨-, rfl⟩ := List.cons.inj heq
    exact head_ne_of_atGap (by decide) hgap rfl
  · simp only [List.cons_append, List.cons.injEq] at heq
    exact h cs (by rw [heq.1, heq.2.1])

theorem scanNumber_underscore (tail : List Char) :
    scanNumber d previous ('.' :: '_' :: tail) =
      if previousIsWord previous then emitSymbol .period ('_' :: tail)
      else .error ⟨.misplacedUnderscore, '.' :: '_' :: tail⟩ :=
  rfl

theorem lasts_number (hne : cs ≠ []) (hgap : AtGap rest) :
    Lasts cs rest (scanNumber d previous cs) (scanNumber d previous (cs ++ rest)) := by
  by_cases hunderscore : ∃ tail, cs = '.' :: '_' :: tail
  · obtain ⟨tail, rfl⟩ := hunderscore
    intro t left hscan hname
    have hpasses : Passes (tail.length + 1) (scanNumber d previous ('.' :: '_' :: tail)) := by
      rw [scanNumber_underscore]
      split
      · exact passes_symbol .period (Nat.le_refl _)
      · exact passes_error _
    exact absurd hscan (hpasses.ne_emit hname)
  · have hnot := not_exists.mp hunderscore
    rw [scanNumber_eq hnot, scanNumber_eq (append_ne_underscore hnot hne hgap),
      takeDigits_at_gap cs hgap]
    exact (lasts_digits _ hgap).mono ⟨_, takeDigits_fst_append _ cs⟩

theorem finishNumber_ne_period {mantissa left : List Char} :
    finishNumber d previous mantissa cs ≠ emitSymbol .period left := by
  unfold finishNumber
  dsimp only
  split
  · nofun
  · split
    · nofun
    · split <;> nofun

/-- A period stays one. -/
theorem scanNumber_period {left : List Char} (hgap : AtGap rest)
    (hscan : scanNumber d previous ('.' :: cs) = emitSymbol .period left) :
    left = cs ∧ scanNumber d previous ('.' :: (cs ++ rest)) = emitSymbol .period (cs ++ rest) := by
  have hsame : ∀ {tail : List Char}, emitSymbol .period tail = emitSymbol .period left →
      left = tail :=
    fun h => (Prod.mk.inj (Except.ok.inj h)).2.symm
  have hdigits : ∀ tail : List Char, takeDigits d Char.isDigit ('.' :: tail) = ([], '.' :: tail) :=
    fun tail => takeDigits_of_not_digit (by simp) (by simp)
  by_cases hunderscore : ∃ tail, '.' :: cs = '.' :: '_' :: tail
  · obtain ⟨tail, heq⟩ := hunderscore
    obtain ⟨-, rfl⟩ := List.cons.inj heq
    rw [scanNumber_underscore] at hscan
    split at hscan
    · rename_i hword
      rw [List.cons_append, scanNumber_underscore, if_pos hword]
      exact ⟨hsame hscan, rfl⟩
    · cases hscan
  · have hnot := not_exists.mp hunderscore
    have hnot' := append_ne_underscore hnot (List.cons_ne_nil _ _) hgap
    rw [List.cons_append] at hnot'
    rw [scanNumber_eq hnot, hdigits] at hscan
    rw [scanNumber_eq hnot', hdigits]
    simp only [scanDigits, takeDigits_at_gap cs hgap] at hscan ⊢
    split at hscan
    · rename_i hfraction
      rw [if_pos hfraction]
      exact ⟨hsame hscan, rfl⟩
    · exact absurd hscan finishNumber_ne_period

/-! Signs that open words -/

theorem lasts_sharp (hgap : AtGap rest) :
    Lasts cs rest (scanSharp d cs) (scanSharp d (cs ++ rest)) := by
  intro t left hscan hname
  obtain ⟨n, hlength⟩ : ∃ n, cs.length ≤ n := ⟨_, Nat.le_refl _⟩
  have hpasses : ∀ {s : Scan}, Passes n s → s ≠ emit t left := fun h => h.ne_emit hname
  unfold scanSharp at hscan
  split at hscan
  · exact absurd hscan (hpasses (by grind))
  · rename_i hcomments
    split at hscan
    case h_5 c cs hminus hlong harrow hspace =>
      split at hscan
      · exact absurd hscan (hpasses (by grind))
      · rename_i hgeometry
        split at hscan
        · rename_i hstart
          obtain ⟨hleft, hword⟩ := lasts_word ['#', c] hgap t left hscan hname
          have hplain : c ≠ '-' ∧ c ≠ '>' ∧ c ≠ ' ' := by
            refine ⟨?_, ?_, ?_⟩ <;> rintro rfl <;> simp at hminus harrow hspace
          refine ⟨hleft.trans (List.suffix_cons c cs), ?_⟩
          simpa [scanSharp, hcomments, hplain, hgeometry, hstart] using hword
        · exact absurd hscan (hpasses (by grind))
    all_goals exact absurd hscan (hpasses (by grind))

theorem lasts_at (hgap : AtGap rest) : Lasts cs rest (scanAt d cs) (scanAt d (cs ++ rest)) := by
  intro t left hscan hname
  obtain ⟨n, hlength⟩ : ∃ n, cs.length ≤ n := ⟨_, Nat.le_refl _⟩
  have hpasses : ∀ {s : Scan}, Passes n s → s ≠ emit t left := fun h => h.ne_emit hname
  unfold scanAt at hscan
  split at hscan
  case h_3 cs =>
    split at hscan
    · split at hscan
      · rename_i c more hstart
        obtain ⟨hleft, hword⟩ := lasts_word ['@', '@', c] hgap t left hscan hname
        refine ⟨hleft.trans ((List.suffix_cons c more).trans (List.suffix_cons _ _)), ?_⟩
        simp only [List.cons_append]
        unfold scanAt
        simp only
        rw [if_pos hstart]
        exact hword
      · exact absurd hscan (hpasses (by grind))
    · exact absurd hscan (hpasses (by grind))
  case h_4 c more hgreater hquestion hat =>
    split at hscan
    · split at hscan <;> exact absurd hscan (hpasses (by grind))
    · rename_i hgeometry
      split at hscan
      · rename_i hstart
        obtain ⟨hleft, hword⟩ := lasts_word ['@', c] hgap t left hscan hname
        refine ⟨hleft.trans (List.suffix_cons c more), ?_⟩
        simp only [List.cons_append]
        unfold scanAt
        simp only
        rw [if_neg hgeometry, if_pos hstart]
        exact hword
      · exact absurd hscan (hpasses (by grind))
  all_goals exact absurd hscan (hpasses (by grind))

theorem scanOperator?_isSome (c : Char) (cs more : List Char) :
    (scanOperator? d (c :: cs)).isSome = (scanOperator? d (c :: more)).isSome := by
  simp only [scanOperator?]
  split <;> rfl

theorem lasts_operator {c : Char} {s s' : Scan} (hscan : scanOperator? d (c :: cs) = some s)
    (hscan' : scanOperator? d (c :: (cs ++ rest)) = some s') (hgap : AtGap rest) :
    Lasts cs rest s s' := by
  by_cases hsharp : c = '#'
  · subst hsharp
    obtain rfl := Option.some.inj hscan
    obtain rfl := Option.some.inj hscan'
    exact lasts_sharp hgap
  · by_cases hat : c = '@'
    · subst hat
      obtain rfl := Option.some.inj hscan
      obtain rfl := Option.some.inj hscan'
      exact lasts_at hgap
    · have hpasses : Passes cs.length s := by
        clear hscan'
        simp only [scanOperator?] at hscan
        split at hscan <;> first
          | exact absurd rfl hsharp
          | exact absurd rfl hat
          | (cases hscan <;> grind)
      exact hpasses.lasts

/-! Texts of one name -/

/-- Whether letters stand in front of a quote is seen up to the quote. -/
theorem scanTagged?_isSome {quote : Char} (hquote : quote = '\'' ∨ quote = '"') (c : Char)
    (cs more : List Char) :
    (scanTagged? d (c :: quote :: cs)).isSome = (scanTagged? d (c :: quote :: more)).isSome := by
  rcases hquote with rfl | rfl <;>
  · simp only [scanTagged?]
    split <;> first | rfl | (split <;> rfl)

theorem scanTagged?_at_gap {c : Char} (hgap : AtGap rest) (h : scanTagged? d (c :: cs) = none) :
    scanTagged? d (c :: (cs ++ rest)) = none := by
  cases cs with
  | nil =>
      rcases eq_nil_or_cons_of_atGap hgap with rfl | ⟨next, tail, hnext, rfl⟩
      · rfl
      · exact scanTagged?_of_not_quote (by rcases hnext with rfl | rfl | rfl <;> decide) tail
  | cons next cs =>
      by_cases hquote : next = '\'' ∨ next = '"'
      · have hsome := scanTagged?_isSome (d := d) hquote c cs (cs ++ rest)
        rw [h] at hsome
        exact Option.isNone_iff_eq_none.mp (Option.isSome_eq_false_iff.mp hsome.symm)
      · by_cases hampersand : next = '&'
        · subst hampersand
          cases cs with
          | nil =>
              rcases eq_nil_or_cons_of_atGap hgap with rfl | ⟨third, tail, rfl | rfl | rfl, rfl⟩ <;>
                simp [scanTagged?]
          | cons third cs =>
              by_cases hthird : third = '\''
              · subst hthird
                simpa [scanTagged?] using h
              · simp [scanTagged?, hthird]
        · exact scanTagged?_of_not_quote (by simp_all) (cs ++ rest)

theorem lasts_scan {c : Char} (hgap : AtGap rest) :
    Lasts (c :: cs) rest (scan d previous c cs) (scan d previous c (cs ++ rest)) := by
  have h := Nat.le_refl cs.length
  have hcons := List.suffix_cons c cs
  cases htagged : scanTagged? d (c :: cs) with
  | some result =>
      unfold scan
      rw [htagged]
      split
      · exact (passes_skip h).lasts
      · exact (passes_tagged htagged h).lasts
  | none =>
      unfold scan
      rw [htagged, scanTagged?_at_gap hgap htagged]
      dsimp only
      split
      · exact (passes_skip h).lasts
      · split
        · exact (lasts_word _ hgap).mono hcons
        · split
          · exact (lasts_string (head_ne_of_atGap (by decide) hgap)).mono hcons
          · split
            · rename_i hquote
              have hclosings : ∀ quote ∈ d.identifierQuotes, closingQuote quote ∉ [' ', ',', ')'] := by
                cases d <;> decide
              exact (lasts_identifier (head_ne_of_atGap (hclosings c hquote) hgap)).mono hcons
            · split
              · exact (lasts_string (head_ne_of_atGap (by decide) hgap)).mono hcons
              · split
                · exact lasts_number (List.cons_ne_nil c cs) hgap
                · have hsome := scanOperator?_isSome (d := d) c cs (cs ++ rest)
                  cases hoperator : scanOperator? d (c :: cs) with
                  | some s =>
                      rw [hoperator] at hsome
                      obtain ⟨s', hs'⟩ := Option.isSome_iff_exists.mp hsome.symm
                      rw [hs']
                      exact (lasts_operator hoperator hs' hgap).mono hcons
                  | none =>
                      rw [hoperator] at hsome
                      rw [Option.isSome_eq_false_iff.mp hsome.symm |> Option.isNone_iff_eq_none.mp]
                      dsimp only
                      split
                      · exact (lasts_word _ hgap).mono hcons
                      · split
                        · exact (passes_dollar h).lasts
                        · split
                          · exact (passes_skip h).lasts
                          · exact (passes_emit rfl h).lasts

theorem scan_point_eq (cs : List Char) :
    scan d previous '.' cs = scanNumber d previous ('.' :: cs) := by
  have htagged : scanTagged? d ('.' :: cs) = none := scanTagged?_of_not_alpha (by decide) cs
  have hquote : '.' ∉ d.identifierQuotes := by
    cases d <;> decide
  simp [scan, htagged, hquote, isPlainSpace]

theorem lasts_period {left : List Char} (hgap : AtGap rest)
    (hscan : scan d previous '.' cs = emit (.symbol .period) left) :
    left = cs ∧ scan d previous '.' (cs ++ rest) = emit (.symbol .period) (cs ++ rest) := by
  rw [scan_point_eq] at hscan ⊢
  exact scanNumber_period hgap hscan

theorem isCalm_of_isPathToken {t : Token} (h : IsPathToken t) : IsCalm (some t) := by
  constructor <;>
  · intro heq
    obtain rfl := Option.some.inj heq
    rcases h with hname | hperiod
    · exact hname rfl
    · cases hperiod

/-! Texts of qualified names -/

/-- A text that shows all of its tokens, and nothing else, is cut into them in front of any gap. -/
theorem cuts_of_lexFrom {fuel : Nat} {lexemes : List Lexeme}
    (h : lexFrom d fuel previous cs = .ok lexemes) (hcalm : IsCalm previous)
    (hpath : ∀ t ∈ lexemes.map Lexeme.token, IsPathToken t)
    (htext : cs = (lexemes.map Lexeme.token).flatMap shown) (hgap : AtGap rest) :
    ∃ last, IsCalm last ∧ Cuts d previous (cs ++ rest) (lexemes.map Lexeme.token) last rest := by
  induction fuel generalizing previous cs lexemes with
  | zero =>
      cases h
      subst htext
      exact ⟨previous, hcalm, .done⟩
  | succ fuel ih =>
      cases cs with
      | nil =>
          cases h
          exact ⟨previous, hcalm, .done⟩
      | cons c cs =>
          obtain ⟨read, left, token, more, hscan, hmore, hmap, hread⟩ := lexFrom_cons_inv h
          have hleft := (fits_scan previous c cs read left hscan).1
          have hshown := length_flatMap_shown_le (more.map Lexeme.token)
          have hwidths := widths_le hmore
          rw [hmap] at hpath htext ⊢
          have hlength := congrArg List.length htext
          cases token with
          | none =>
              -- What shows nothing leaves too few characters for the tokens after it.
              rw [Option.toList_none, List.nil_append, List.length_cons] at hlength
              omega
          | some t =>
              simp only [Option.toList_some, List.singleton_append, List.flatMap_cons,
                List.length_cons, List.length_append, List.forall_mem_cons] at hpath htext hlength ⊢
              obtain rfl := read_of_isPathToken hread rfl hpath.1
              have hwidth := width_le_of_scan hscan
              have hshownFirst := length_shown_le_width t
              have hall : left.length = ((more.map Lexeme.token).flatMap shown).length := by omega
              obtain ⟨hrest, hscan'⟩ : left = (more.map Lexeme.token).flatMap shown ∧
                  scan d previous c (cs ++ rest) = emit t (left ++ rest) := by
                rcases hpath.1 with hname | rfl
                · obtain ⟨hsuffix, hscan'⟩ := lasts_scan hgap t left hscan hname
                  rw [htext] at hsuffix
                  have hsuffix' := List.suffix_of_suffix_length_le hsuffix
                    (List.suffix_append (shown t) _) (Nat.le_of_eq hall)
                  exact ⟨hsuffix'.eq_of_length hall, hscan'⟩
                · obtain ⟨rfl, hrest⟩ := List.cons.inj htext
                  obtain ⟨rfl, hscan'⟩ := lasts_period hgap hscan
                  exact ⟨hrest, hscan'⟩
              obtain ⟨last, hlast, hcuts⟩ := ih hmore (isCalm_of_isPathToken hpath.1) hpath.2 hrest
              exact ⟨last, hlast, .token hscan' (by simpa using hleft) hcuts⟩

end SelectTree.Sql
