import SelectTree.Proofs.Lexing
import SelectTree.Proofs.WellFormed
import SelectTree.Sql.Grammar.Name

namespace SelectTree.Sql

open Grammar

/-! Scans move on: each of them hands on fewer characters than it is given, and a name takes no
more characters in print than it was read from. -/

variable {d : Dialect} {n : Nat} {cs rest : List Char} {previous : Option Token}

/-- A scan that reads no name, and hands on `n` characters at most. -/
def Passes (n : Nat) (s : Scan) : Prop :=
  ∀ read rest, s = .ok (read, rest) → rest.length ≤ n ∧ ∀ t ∈ read, nameOfToken? t = none

@[grind ←] theorem passes_emit {t : Token} (ht : nameOfToken? t = none) (h : rest.length ≤ n) :
    Passes n (emit t rest) := by
  rintro _ _ ⟨⟩
  refine ⟨h, ?_⟩
  rintro _ ⟨⟩
  exact ht

@[grind ←] theorem passes_symbol (symbol : Symbol) (h : rest.length ≤ n) :
    Passes n (emitSymbol symbol rest) :=
  passes_emit rfl h

@[grind ←] theorem passes_skip (h : rest.length ≤ n) : Passes n (skipTo rest) := by
  rintro _ _ ⟨⟩
  exact ⟨h, fun _ ht => by cases ht⟩

@[grind .] theorem passes_error (e : LexError) : Passes n (.error e) := by
  rintro _ _ ⟨⟩

attribute [grind =] nameOfToken?

@[simp, grind =] theorem nameOfToken?_tagged (tag : String) (quote : Char) (text : String) :
    nameOfToken? (.tagged tag quote text) = none :=
  rfl

@[simp, grind =] theorem nameOfToken?_tripled (tag : String) (quote : Char) (text : String) :
    nameOfToken? (.tripled tag quote text) = none :=
  rfl

@[grind ←] theorem length_dropWhile_le (p : Char → Bool) (h : cs.length ≤ n) :
    (cs.dropWhile p).length ≤ n :=
  Nat.le_trans (List.dropWhile_sublist p).length_le h

/-! Operators -/

@[grind ←] theorem length_afterLine_le (h : cs.length ≤ n) : (afterLine d cs).length ≤ n := by
  rw [afterLine, List.length_drop]
  exact Nat.le_trans (Nat.sub_le _ 1) (length_dropWhile_le _ h)

@[grind →] theorem length_afterComment_le {nests : Bool} {depth : Nat}
    (h : afterComment nests depth cs = some rest) : rest.length ≤ cs.length := by
  fun_induction afterComment nests depth cs <;> grind

@[grind ←] theorem passes_longer {start : String} {default : Option Token}
    (hdefault : ∀ t ∈ default, nameOfToken? t = none) (h : cs.length ≤ n) :
    Passes n (scanLonger d start default cs) := by
  unfold scanLonger
  dsimp only
  split
  · exact passes_emit rfl (length_dropWhile_le _ h)
  · split
    · exact passes_emit (hdefault _ rfl) h
    · exact passes_error _

@[grind ←] theorem passes_binary (symbol : Symbol) (h : cs.length ≤ n) :
    Passes n (scanBinary d symbol cs) :=
  passes_longer (by simp [nameOfToken?]) h

@[grind ←] theorem passes_custom (text : String) (h : cs.length ≤ n) :
    Passes n (scanCustom d text cs) :=
  passes_longer (by simp [nameOfToken?]) h

@[grind ←] theorem passes_minus (h : cs.length ≤ n) : Passes n (scanMinus d cs) := by
  unfold scanMinus
  split <;> grind

@[grind ←] theorem passes_slash (h : cs.length ≤ n) : Passes n (scanSlash d cs) := by
  unfold scanSlash
  split <;> grind

@[grind ←] theorem passes_bang (h : cs.length ≤ n) : Passes n (scanBang cs) := by
  unfold scanBang
  split <;> grind

@[grind ←] theorem passes_less (h : cs.length ≤ n) : Passes n (scanLess d cs) := by
  unfold scanLess
  split <;> grind

@[grind ←] theorem passes_greater (h : cs.length ≤ n) : Passes n (scanGreater d cs) := by
  unfold scanGreater
  split <;> grind

@[grind ←] theorem passes_pipe (h : cs.length ≤ n) : Passes n (scanPipe d cs) := by
  unfold scanPipe
  split <;> grind

@[grind ←] theorem passes_ampersand (h : cs.length ≤ n) : Passes n (scanAmpersand d cs) := by
  unfold scanAmpersand
  split <;> grind

@[grind ←] theorem passes_tilde (h : cs.length ≤ n) : Passes n (scanTilde d cs) := by
  unfold scanTilde
  split <;> grind

@[grind ←] theorem passes_question (h : cs.length ≤ n) : Passes n (scanQuestion d cs) := by
  unfold scanQuestion
  split <;> grind

@[grind →] theorem length_splitAtText_le {text before : List Char}
    (h : splitAtText text cs = some (before, rest)) : rest.length ≤ cs.length := by
  fun_induction splitAtText text cs generalizing before <;>
    grind [Option.map_eq_some_iff, Text.stripPrefix?_eq_some_iff]

@[grind ←] theorem passes_dollar (h : cs.length ≤ n) : Passes n (scanDollar d cs) := by
  have hdrop := length_dropWhile_le (isPlaceholderPart d) h
  unfold scanDollar
  dsimp only
  split
  · split <;> grind
  · exact passes_emit rfl hdrop

/-! Quoted texts -/

@[grind →] theorem length_readQuoted_lt {quote : Char} {escape : Option (Char → List Char)}
    {text : List Char} (h : readQuoted quote escape cs = some (text, rest)) :
    rest.length < cs.length := by
  fun_induction readQuoted quote escape cs generalizing text <;> grind [Option.map_eq_some_iff]

@[grind ←] theorem passes_string {quote : Char} {escape : Option (Char → List Char)}
    {token : String → Token} (htoken : ∀ text, nameOfToken? (token text) = none)
    (h : cs.length ≤ n) : Passes n (scanString quote escape token cs) := by
  unfold scanString
  split
  · rename_i text rest hread
    exact passes_emit (htoken _) (by grind)
  · exact passes_error _

@[grind →] theorem length_readEscapeString_le {fuel : Nat} {text : List Char}
    (h : readEscapeString fuel cs = some (text, rest)) : rest.length ≤ cs.length := by
  fun_induction readEscapeString fuel cs generalizing text <;> grind [Option.map_eq_some_iff]

@[grind →] theorem length_readHexDigits_le {count code : Nat} {c : Char}
    (h : readHexDigits count code cs = .ok (c, rest)) : rest.length ≤ cs.length := by
  fun_induction readHexDigits count code cs <;> grind

theorem length_readUnicodeString_le {fuel : Nat} {text : List Char}
    (h : readUnicodeString fuel cs = .ok (text, rest)) : rest.length ≤ cs.length := by
  induction fuel generalizing cs text with
  | zero => cases h
  | succ fuel ih =>
      cases cs with
      | nil => cases h
      | cons c cs =>
          have hmore : ∀ {named : Char} {cs' : List Char},
              (readUnicodeString fuel cs' >>= fun read => return (named :: read.1, read.2)) =
                .ok (text, rest) → rest.length ≤ cs'.length := by
            intro named cs' h
            obtain ⟨⟨text', tail⟩, hread, heq⟩ := bind_eq_ok_iff.mp h
            cases heq
            exact ih hread
          unfold readUnicodeString at h
          dsimp only at h
          split at h
          · exact Nat.le_trans (hmore h) (by simp; omega)
          · cases h
            simp
          · exact Nat.le_trans (hmore h) (by simp; omega)
          · obtain ⟨⟨named, rest'⟩, hhex, h⟩ := bind_eq_ok_iff.mp h
            have := length_readHexDigits_le hhex
            exact Nat.le_trans (hmore h) (by simp; omega)
          · obtain ⟨⟨named, rest'⟩, hhex, h⟩ := bind_eq_ok_iff.mp h
            have := length_readHexDigits_le hhex
            exact Nat.le_trans (hmore h) (by simp; omega)
          · exact Nat.le_trans (hmore h) (by simp)

theorem passes_unicode (h : cs.length ≤ n) : Passes n (scanUnicodeString cs) := by
  intro read rest' hscan
  obtain ⟨⟨text, tail⟩, hread, heq⟩ := bind_eq_ok_iff.mp hscan
  have := length_readUnicodeString_le hread
  exact passes_emit rfl (by omega) _ _ heq

@[grind ←] theorem passes_single {quote : Char} (h : cs.length ≤ n) :
    Passes n (scanRaw.single quote cs) := by
  unfold scanRaw.single
  split <;> grind

@[grind ←] theorem passes_raw {quote : Char} (h : cs.length ≤ n + 1) :
    Passes n (scanRaw quote cs) := by
  unfold scanRaw
  split <;> grind

theorem passes_tagged {c : Char} {s : Scan} (hscan : scanTagged? d (c :: cs) = some s)
    (h : cs.length ≤ n) : Passes n s := by
  unfold scanTagged? at hscan
  split at hscan
  · grind [passes_unicode]
  · split at hscan <;> grind
  · split at hscan <;> grind
  · cases hscan

/-! Names -/

/-- A scan that hands on `n` characters at most. A name that it reads is not empty in print, and no
longer than what it was read from: the first character, and those that are not handed on. -/
def Fits (n : Nat) (s : Scan) : Prop :=
  ∀ read rest, s = .ok (read, rest) → rest.length ≤ n ∧
    ∀ t ∈ read, ∀ name ∈ nameOfToken? t,
      name.sql ≠ "" ∧ name.sql.length + rest.length ≤ n + 1

theorem Passes.fits {s : Scan} (h : Passes n s) : Fits n s := by
  intro read rest hscan
  obtain ⟨hlength, hnone⟩ := h read rest hscan
  refine ⟨hlength, ?_⟩
  intro t ht name hname
  rw [hnone t ht] at hname
  cases hname

theorem fits_emit {t : Token} {name : Name} (ht : nameOfToken? t = some name)
    (hname : name.sql ≠ "") (h : name.sql.length + rest.length ≤ n + 1) (hrest : rest.length ≤ n) :
    Fits n (emit t rest) := by
  rintro _ _ ⟨⟩
  refine ⟨hrest, ?_⟩
  rintro _ ⟨⟩ other hother
  obtain rfl := Option.some.inj (ht.symm.trans hother)
  exact ⟨hname, h⟩

theorem fits_bare {text : List Char} (h : text.length + rest.length ≤ n + 1) (htext : text ≠ []) :
    Fits n (emit (.bare (String.ofList text)) rest) := by
  have hpos := List.length_pos_iff.mpr htext
  have hname : nameOfToken? (.bare (String.ofList text)) = some (.bare (String.ofList text)) := rfl
  exact fits_emit hname (by simpa using htext) (by simpa using h) (by omega)

theorem fits_word {start : List Char} (h : start.length + cs.length ≤ n + 1) (hstart : start ≠ []) :
    Fits n (scanWord d start cs) := by
  have hsplit := congrArg List.length (List.takeWhile_append_dropWhile (p := d.isWordPart) (l := cs))
  rw [List.length_append] at hsplit
  apply fits_bare
  · rw [List.length_append]
    omega
  · simp [hstart]

theorem fits_sharp (h : cs.length ≤ n) : Fits n (scanSharp d cs) := by
  unfold scanSharp
  split
  · exact (passes_skip (length_afterLine_le h)).fits
  · split
    · exact Passes.fits (by grind)
    · exact Passes.fits (by grind)
    · exact Passes.fits (by grind)
    · exact Passes.fits (by grind)
    · rename_i c cs _ _ _ _
      split
      · exact Passes.fits (by grind)
      · split
        · exact fits_word (by simp at h ⊢; omega) (List.cons_ne_nil _ _)
        · exact Passes.fits (by grind)
    · exact Passes.fits (by grind)

theorem fits_at (h : cs.length ≤ n) : Fits n (scanAt d cs) := by
  unfold scanAt
  split
  · exact Passes.fits (by grind)
  · exact Passes.fits (by grind)
  · split
    · split
      · exact fits_word (by simp at h ⊢; omega) (List.cons_ne_nil _ _)
      · exact Passes.fits (by grind)
    · exact Passes.fits (by grind)
  · split
    · split
      · exact Passes.fits (by grind)
      · exact Passes.fits (by grind)
    · split
      · exact fits_word (by simp at h ⊢; omega) (List.cons_ne_nil _ _)
      · exact Passes.fits (by grind)
  · exact Passes.fits (by grind)

theorem fits_operator {c : Char} {s : Scan} (hscan : scanOperator? d (c :: cs) = some s)
    (h : cs.length ≤ n) : Fits n s := by
  simp only [scanOperator?] at hscan
  split at hscan <;> cases hscan
  all_goals first
    | exact fits_sharp h
    | exact fits_at h
    | exact Passes.fits (by grind)

/-! Quotes -/

theorem length_escapedQuotes_le (quote : Char) (afterBackslash : Bool) (cs : List Char) :
    (escapedQuotes quote afterBackslash cs).length ≤ cs.length + cs.count quote := by
  fun_induction escapedQuotes quote afterBackslash cs <;> grind

theorem length_quotedText_le (quote : Char) (text : List Char) :
    (quotedText quote (String.ofList text)).length ≤ text.length + text.count quote + 2 := by
  have hescaped := length_escapedQuotes_le quote false text
  simp [quotedText, enclosed]
  omega

/-- An escape writes no more characters than the two that it stands for, even if its quotes are
written twice. -/
def IsShort (quote : Char) (escape : Option (Char → List Char)) : Prop :=
  ∀ unescape ∈ escape, ∀ c, (unescape c).length + (unescape c).count quote ≤ 2

theorem length_readQuoted {quote : Char} {escape : Option (Char → List Char)} {text : List Char}
    (hescape : IsShort quote escape) (h : readQuoted quote escape cs = some (text, rest)) :
    text.length + text.count quote + rest.length + 1 ≤ cs.length := by
  fun_induction readQuoted quote escape cs generalizing text
  case case6 next cs unescape hsome hquote ih =>
    subst hsome
    obtain ⟨⟨more, tail⟩, hread, heq⟩ := Option.map_eq_some_iff.mp h
    cases heq
    have hmore := ih hread
    have hshort := hescape unescape rfl next
    simp only [List.length_append, List.count_append, List.length_cons]
    omega
  all_goals grind [Option.map_eq_some_iff]

theorem isShort_none (quote : Char) : IsShort quote none :=
  nofun

theorem isShort_stringEscape {quote : Char} (hquote : quote ∈ ['\'', '"']) :
    IsShort quote (stringEscape d) := by
  intro unescape hsome c
  unfold stringEscape at hsome
  split at hsome
  · obtain rfl := Option.some.inj hsome
    unfold unescaped
    split
    · rename_i hpattern
      have hne : quote ≠ '\\' ∧ quote ≠ '%' ∧ quote ≠ '_' := by
        simp only [List.mem_cons, List.not_mem_nil, or_false] at hquote
        rcases hquote with rfl | rfl <;> decide
      grind
    · have hcount := List.count_le_length (l := [controlCharacter c]) (a := quote)
      simp only [List.length_singleton] at hcount ⊢
      omega
  · cases hsome

theorem sql_quoted_ne (quote : Char) (text : String) :
    (Name.mk text (some quote)).sql ≠ "" := by
  have henclosed : ∀ quote text, enclosed quote text ≠ "" := fun _ _ h => by
    simpa [enclosed] using congrArg String.toList h
  unfold Name.sql
  split
  · rename_i hquote
    cases hquote
  · exact henclosed _ _
  · exact henclosed _ _

theorem length_sql_quoted_le (quote : Char) (text : List Char) :
    (Name.mk (String.ofList text) (some quote)).sql.length ≤
      text.length + text.count (closingQuote quote) + 2 := by
  by_cases hbracket : quote = '['
  · subst hbracket
    have hsql : (Name.mk (String.ofList text) (some '[')).sql = enclosed '[' (String.ofList text) :=
      rfl
    simp only [hsql, enclosed, String.toList_ofList, String.length_ofList, List.length_cons,
      List.length_append, List.length_nil]
    omega
  · have hsql : (Name.mk (String.ofList text) (some quote)).sql =
        quotedText quote (String.ofList text) := by
      simp only [Name.sql]
    rw [hsql, closingQuote, if_neg hbracket]
    exact length_quotedText_le quote text

theorem fits_identifier (quote : Char) (h : cs.length ≤ n) : Fits n (scanIdentifier quote cs) := by
  unfold scanIdentifier
  split
  · rename_i text rest hread
    have hlength := length_readQuoted (isShort_none _) hread
    have hsql := length_sql_quoted_le quote text
    exact fits_emit rfl (sql_quoted_ne _ _)
      (Nat.le_trans (Nat.add_le_add_right hsql _) (by omega)) (by omega)
  · exact (passes_error _).fits

theorem fits_string {quote : Char} {token : String → Token} (hquote : quote ∈ ['\'', '"'])
    (htoken : ∀ text, nameOfToken? (token text) = some ⟨text, some quote⟩) (h : cs.length ≤ n) :
    Fits n (scanString quote (stringEscape d) token cs) := by
  have hclosing : closingQuote quote = quote := by
    simp only [List.mem_cons, List.not_mem_nil, or_false] at hquote
    rcases hquote with rfl | rfl <;> rfl
  unfold scanString
  split
  · rename_i text rest hread
    have hlength := length_readQuoted (isShort_stringEscape hquote) hread
    have hsql := length_sql_quoted_le quote text
    rw [hclosing] at hsql
    exact fits_emit (htoken _) (sql_quoted_ne _ _)
      (Nat.le_trans (Nat.add_le_add_right hsql _) (by omega)) (by omega)
  · exact (passes_error _).fits

/-! Numbers -/

theorem takeDigits_fst_append (p : Char → Bool) (cs : List Char) :
    (takeDigits d p cs).1 ++ (takeDigits d p cs).2 = cs := by
  fun_induction takeDigits d p cs <;> simp_all

theorem takeExponent_fst_append (cs : List Char) : (takeExponent cs).1 ++ (takeExponent cs).2 = cs := by
  unfold takeExponent
  split
  · rfl
  · split
    · dsimp only
      split <;> (split <;> simp)
    · rfl

theorem fits_finishNumber {mantissa : List Char} (hmantissa : mantissa ≠ [])
    (h : mantissa.length + cs.length ≤ n + 1) : Fits n (finishNumber d previous mantissa cs) := by
  have hpos := List.length_pos_iff.mpr hmantissa
  have hexponent := congrArg List.length (takeExponent_fst_append cs)
  rw [List.length_append] at hexponent
  have hword := congrArg List.length
    (List.takeWhile_append_dropWhile (p := d.isWordPart) (l := (takeExponent cs).2))
  rw [List.length_append] at hword
  unfold finishNumber
  dsimp only
  split
  · apply fits_bare
    · simp only [List.length_append]
      omega
    · simp [hmantissa]
  · split
    · apply fits_bare
      · simp only [List.length_append]
        omega
      · simp [hmantissa]
    · split
      · rename_i tail htail
        rw [htail, List.length_cons] at hexponent
        exact (passes_emit rfl (by omega)).fits
      · exact (passes_emit rfl (by omega)).fits

theorem takeDigits_digit {p : Char → Bool} {c : Char} (hc : p c = true) (cs : List Char) :
    (takeDigits d p (c :: cs)).1 ≠ [] := by
  cases cs <;> simp [takeDigits, hc]

theorem fits_number {c : Char} (hc : c.isDigit = true ∨ c = '.') (h : cs.length ≤ n) :
    Fits n (scanNumber d previous (c :: cs)) := by
  have hsplit := takeDigits_fst_append (d := d) Char.isDigit (c :: cs)
  have hlength := congrArg List.length hsplit
  rw [List.length_append, List.length_cons] at hlength
  unfold scanNumber
  split
  · rename_i rest heq
    obtain ⟨-, rfl⟩ := List.cons.inj heq
    split
    · exact (passes_symbol _ h).fits
    · exact (passes_error _).fits
  · split
    · rename_i rest heq
      have hdigits := congrArg List.length (takeDigits_fst_append (d := d) isHexDigit rest)
      rw [heq] at hlength
      simp only [List.length_append, List.length_cons] at hlength hdigits
      exact (passes_emit rfl (by omega)).fits
    · rename_i whole rest heq
      have hfraction := congrArg List.length (takeDigits_fst_append (d := d) Char.isDigit rest)
      rw [heq] at hlength
      simp only [List.length_append, List.length_cons] at hlength hfraction
      dsimp only
      split
      · exact (passes_symbol _ (by omega)).fits
      · apply fits_finishNumber
        · simp
        · simp only [List.length_append, List.length_cons]
          omega
    · rename_i whole rest _ hperiod heq
      rw [heq] at hlength hsplit
      dsimp only at hlength
      apply fits_finishNumber
      · rintro rfl
        have hrest : rest = c :: cs := hsplit
        rcases hc with hc | rfl
        · have hne := takeDigits_digit (d := d) hc cs
          rw [heq] at hne
          exact hne rfl
        · exact hperiod cs hrest
      · omega

/-! Scans -/

theorem fits_scan (previous : Option Token) (c : Char) (cs : List Char) :
    Fits cs.length (scan d previous c cs) := by
  have h := Nat.le_refl cs.length
  unfold scan
  split
  · exact (passes_skip h).fits
  · split
    · rename_i result htagged
      exact (passes_tagged htagged h).fits
    · split
      · exact fits_word (by simp; omega) (List.cons_ne_nil _ _)
      · split
        · exact fits_string (by decide) (fun _ => rfl) h
        · split
          · exact fits_identifier c h
          · split
            · exact fits_string (by decide) (fun _ => rfl) h
            · split
              · rename_i hdigit
                exact fits_number (by simpa using hdigit) h
              · split
                · rename_i result hoperator
                  exact fits_operator hoperator h
                · split
                  · exact fits_word (by simp; omega) (List.cons_ne_nil _ _)
                  · split
                    · exact (passes_dollar h).fits
                    · split
                      · exact (passes_skip h).fits
                      · exact (passes_emit rfl h).fits

end SelectTree.Sql
