import SelectTree.Proofs.Numerals
import SelectTree.Proofs.ShownFilters
import SelectTree.Sql.Position

namespace SelectTree.Sql

/-! Places that messages name. Whatever a message says, it points between two characters of the
text; the place printed behind it points where the reading of the text had come to. -/

variable {cs before rest : List Char}

/-! Byte sizes -/

theorem byteSize_toList (text : String) : byteSize text.toList = text.utf8ByteSize := by
  rw [← String.ofList_toList (s := text), String.toList_ofList]
  induction text.toList with
  | nil => rfl
  | cons c cs ih => rw [byteSize_cons, ih, String.ofList_cons, String.utf8ByteSize_append,
      String.utf8ByteSize_singleton]

theorem length_le_byteSize (cs : List Char) : cs.length ≤ byteSize cs := by
  induction cs with
  | nil => exact Nat.le_refl 0
  | cons c cs ih =>
      have hpos : 0 < c.utf8Size := c.utf8Size_pos
      rw [List.length_cons, byteSize_cons]
      omega

/-! Lines -/

theorem dropLines_suffix (n : Nat) (cs : List Char) : dropLines n cs <:+ cs := by
  induction cs generalizing n with
  | nil => cases n <;> exact List.suffix_refl []
  | cons c cs ih =>
      cases n with
      | zero => exact List.suffix_refl _
      | succ n =>
          rw [dropLines]
          split
          · exact (ih n).trans (List.suffix_cons c cs)
          · exact (ih (n + 1)).trans (List.suffix_cons c cs)

theorem firstLine_begins (cs : List Char) : firstLine cs <+: cs := by
  have hline : cs.takeWhile (· ≠ '\n') <+: cs := List.takeWhile_prefix _
  rw [firstLine]
  split
  · have hbreak : (cs.takeWhile (· ≠ '\n')).dropLast <+: cs.takeWhile (· ≠ '\n') :=
      List.dropLast_prefix _
    exact hbreak.trans hline
  · exact hline

/-- A place ends some part of the text it is looked up in. -/
theorem Position.exists_offset_eq (p : Position) (cs : List Char) :
    ∃ before rest, cs = before ++ rest ∧ p.offset cs = byteSize before := by
  obtain ⟨lines, hlines⟩ := dropLines_suffix (p.line - 1) cs
  obtain ⟨after, hafter⟩ := firstLine_begins (dropLines (p.line - 1) cs)
  refine ⟨lines ++ (firstLine (dropLines (p.line - 1) cs)).take (p.column - 1),
    (firstLine (dropLines (p.line - 1) cs)).drop (p.column - 1) ++ after, ?_, ?_⟩
  · rw [List.append_assoc, ← List.append_assoc (List.take _ _), List.take_append_drop, hafter,
      hlines]
  · have hsize := congrArg byteSize hlines
    rw [byteSize_append] at hsize
    rw [Position.offset, byteSize_append]
    omega

/-! The place reached -/

theorem Position.eq_mk {p : Position} {line column : Nat} (hline : p.line = line)
    (hcolumn : p.column = column) : p = ⟨line, column⟩ := by
  subst hline hcolumn
  rfl

@[simp] theorem Position.line_foldl (p : Position) (cs : List Char) :
    (cs.foldl after p).line = p.line + cs.count '\n' := by
  induction cs generalizing p with
  | nil => rfl
  | cons c cs ih =>
      rw [List.foldl_cons, ih, List.count_cons, after]
      by_cases hc : c = '\n'
      · simp [hc]
        omega
      · simp [hc]

theorem Position.column_foldl (p : Position) (h : '\n' ∉ cs) :
    (cs.foldl after p).column = p.column + cs.length := by
  induction cs generalizing p with
  | nil => rfl
  | cons c cs ih =>
      obtain ⟨hc, hcs⟩ := List.ne_and_not_mem_of_not_mem_cons h
      rw [List.foldl_cons, ih _ hcs, after, if_neg (Ne.symm hc), List.length_cons]
      simp only
      omega

@[simp] theorem dropLines_zero (cs : List Char) : dropLines 0 cs = cs := by
  cases cs <;> rfl

theorem dropLines_newline (cs rest : List Char) :
    dropLines (cs.count '\n' + 1) (cs ++ '\n' :: rest) = rest := by
  induction cs with
  | nil => simp [dropLines]
  | cons c cs ih =>
      rw [List.cons_append, dropLines, List.count_cons]
      by_cases hc : c = '\n'
      · simpa [hc] using ih
      · simpa [hc] using ih

/-- What has been read is whole lines and a part of the next one. -/
theorem exists_lines (before : List Char) :
    ∃ lines part, before = lines ++ part ∧ '\n' ∉ part ∧
      (∀ rest, dropLines (lines.count '\n') (lines ++ rest) = rest) ∧
      Position.ofRead before = ⟨lines.count '\n' + 1, part.length + 1⟩ := by
  cases hsplit : Text.splitLast '\n' before with
  | none =>
      have hpart := Text.splitLast_eq_none_iff.mp hsplit
      refine ⟨[], before, rfl, hpart, dropLines_zero, ?_⟩
      have hline := Position.line_foldl .start before
      have hcolumn := Position.column_foldl .start hpart
      rw [List.count_eq_zero_of_not_mem hpart] at hline
      exact Position.eq_mk (hline.trans (Nat.add_comm 1 _)) (hcolumn.trans (Nat.add_comm 1 _))
  | some pair =>
      obtain ⟨front, part⟩ := pair
      obtain ⟨rfl, hpart⟩ := Text.eq_append_of_splitLast hsplit
      refine ⟨front ++ ['\n'], part, by simp, hpart, ?_, ?_⟩
      · intro rest
        rw [List.count_append, List.append_assoc]
        exact dropLines_newline front rest
      · have hline := Position.line_foldl .start (front ++ '\n' :: part)
        have hcolumn : (Position.ofRead (front ++ '\n' :: part)).column = 1 + part.length := by
          rw [Position.ofRead, List.foldl_append, List.foldl_cons, Position.column_foldl _ hpart]
          rfl
        have hcount : (front ++ '\n' :: part).count '\n' = (front ++ ['\n']).count '\n' := by
          simp [List.count_eq_zero_of_not_mem hpart]
        rw [hcount] at hline
        exact Position.eq_mk (hline.trans (Nat.add_comm 1 _))
          (hcolumn.trans (Nat.add_comm 1 _))

/-! Line breaks -/

/-- The text is cut between the two characters of a line break. -/
def CutsLineBreak (before rest : List Char) : Prop :=
  before.getLast? = some '\r' ∧ rest.head? = some '\n'

instance : Decidable (CutsLineBreak before rest) :=
  inferInstanceAs (Decidable (_ ∧ _))

/-- A line without its break holds all of it that was read, unless the reading stopped within the
break. -/
theorem take_firstLine (hpart : '\n' ∉ cs) (hcut : ¬ CutsLineBreak cs rest) :
    (firstLine (cs ++ rest)).take cs.length = cs := by
  have hline : (cs ++ rest).takeWhile (· ≠ '\n') = cs ++ rest.takeWhile (· ≠ '\n') := by
    apply List.takeWhile_append_of_pos
    rintro c hc
    simpa using ne_of_mem_of_not_mem hc hpart
  rw [firstLine, hline]
  split
  · rename_i hreturn
    simp only [Bool.and_eq_true, decide_eq_true_eq, List.length_append] at hreturn
    obtain ⟨hshorter, hlast⟩ := hreturn
    cases rest with
    | nil => simp at hshorter
    | cons c rest =>
        by_cases hc : c = '\n'
        · subst hc
          rw [List.takeWhile_cons_of_neg (by simp), List.append_nil] at hlast
          exact absurd ⟨hlast, rfl⟩ hcut
        · rw [List.takeWhile_cons_of_pos (by simpa using hc),
            List.dropLast_append_of_ne_nil (List.cons_ne_nil _ _), List.take_left]
  · rw [List.take_left]

theorem CutsLineBreak.of_part {lines part : List Char} (h : CutsLineBreak part rest) :
    CutsLineBreak (lines ++ part) rest :=
  ⟨by rw [List.getLast?_append, h.1]; rfl, h.2⟩

theorem Position.offset_ofRead (hcut : ¬ CutsLineBreak before rest) :
    (ofRead before).offset (before ++ rest) = byteSize before := by
  obtain ⟨lines, part, rfl, hpart, hdrop, hread⟩ := exists_lines before
  have hcutPart : ¬ CutsLineBreak part rest := fun h => hcut h.of_part
  rw [hread, Position.offset, List.append_assoc]
  simp only [Nat.add_sub_cancel, hdrop, byteSize_append, take_firstLine hpart hcutPart]

/-- Lines and columns count from one, and each takes at least a byte. -/
theorem Position.ofRead_bounds (cs : List Char) :
    ((ofRead cs).line ≠ 0 ∧ (ofRead cs).column ≠ 0) ∧
      (ofRead cs).line ≤ byteSize cs + 1 ∧ (ofRead cs).column ≤ byteSize cs + 1 := by
  obtain ⟨lines, part, rfl, -, -, hread⟩ := exists_lines cs
  have hcount : lines.count '\n' ≤ lines.length := List.count_le_length
  have hlength := length_le_byteSize (lines ++ part)
  rw [List.length_append] at hlength
  rw [hread]
  refine ⟨⟨Nat.succ_ne_zero _, Nat.succ_ne_zero _⟩, ?_, ?_⟩
  · exact Nat.succ_le_succ (by omega)
  · exact Nat.succ_le_succ (by omega)

/-! Printed places -/

theorem isDigit_of_mem_toDigits {n : Nat} {c : Char} (h : c ∈ Nat.toDigits 10 n) :
    c.isDigit = true :=
  Nat.isDigit_of_mem_toDigits (by decide) (by decide) h

theorem not_mem_toDigits {c : Char} (h : c.isDigit = false) (n : Nat) :
    c ∉ Nat.toDigits 10 n :=
  fun hmem => ne_of_isDigit (isDigit_of_mem_toDigits hmem) h rfl

theorem all_isDigit_toDigits (n : Nat) : (Nat.toDigits 10 n).all Char.isDigit = true :=
  List.all_eq_true.mpr fun _ => isDigit_of_mem_toDigits

theorem isBlank_of_isDigit {c : Char} (h : c.isDigit = true) : Text.isBlank c = false := by
  simp only [Char.isDigit, Bool.and_eq_true, decide_eq_true_eq] at h
  have hlow : 48 ≤ c.toNat := h.1
  have hhigh : c.toNat ≤ 57 := h.2
  simp only [Text.isBlank, Bool.or_eq_false_iff, Bool.and_eq_false_iff, decide_eq_false_iff_not,
    beq_eq_false_iff_ne]
  omega

theorem isTrimmed_toDigits (n : Nat) : Text.IsTrimmed (Nat.toDigits 10 n) where
  head _ hc := isBlank_of_isDigit (isDigit_of_mem_toDigits (List.mem_of_mem_head? hc))
  last _ hc := isBlank_of_isDigit (isDigit_of_mem_toDigits (List.mem_of_getLast? hc))

theorem readIndex?_toDigits {n : Nat} (h : n < Nat.pow 2 64) :
    readIndex? (Nat.toDigits 10 n) = some n := by
  have hall := all_isDigit_toDigits n
  have hvalue : (Nat.toDigits 10 n).foldl (fun total c => 10 * total + (c.toNat - '0'.toNat)) 0
      = n := by
    rw [← Nat.ofDigitChars_eq_foldl, Nat.ofDigitChars_ten_toDigits]
  obtain ⟨c, digits, hdigits⟩ := List.exists_cons_of_ne_nil (Nat.toDigits_ne_nil (n := n) (b := 10))
  have hsign : c ≠ '+' := by
    rintro rfl
    have hplus : '+' ∉ Nat.toDigits 10 n := not_mem_toDigits (by decide) n
    exact hplus (by simp [hdigits])
  rw [hdigits] at hall hvalue ⊢
  unfold readIndex?
  split
  · rename_i heq
    exact absurd (List.cons.inj heq).1 hsign
  · simp only [hall, hvalue, List.isEmpty_cons, Bool.not_false, Bool.and_self, if_true]
    exact if_pos h

theorem afterLast?_eq_none {c : Char} {pattern : List Char} (h : c ∉ cs) :
    afterLast? (c :: pattern) cs = none := by
  induction cs with
  | nil => rfl
  | cons d cs ih =>
      obtain ⟨hd, hcs⟩ := List.ne_and_not_mem_of_not_mem_cons h
      simp [afterLast?, ih hcs, Text.stripPrefix?, hd]

/-- An occurrence is the last one if its first character does not come again. -/
theorem afterLast?_append {c : Char} {pattern : List Char} (lead : List Char)
    (h : c ∉ pattern ++ rest) :
    afterLast? (c :: pattern) (lead ++ c :: (pattern ++ rest)) = some rest := by
  induction lead with
  | nil =>
      have hstrip : Text.stripPrefix? (c :: pattern) (c :: (pattern ++ rest)) = some rest :=
        Text.stripPrefix?_eq_some_iff.mpr rfl
      simp only [List.nil_append, afterLast?, afterLast?_eq_none h, hstrip]
  | cons d lead ih => simp only [List.cons_append, afterLast?, ih]

theorem afterLast?_toText (lead : String) (p : Position) :
    afterLast? "Line: ".toList (lead ++ p.toText).toList =
      some (Nat.toDigits 10 p.line ++ ',' :: (" Column: ".toList ++ Nat.toDigits 10 p.column)) := by
  have htext : (lead ++ p.toText).toList = (lead.toList ++ " at ".toList) ++ 'L' ::
      ("ine: ".toList ++ (Nat.toDigits 10 p.line ++
        ',' :: (" Column: ".toList ++ Nat.toDigits 10 p.column))) := by
    simp [Position.toText]
  have hpattern : "Line: ".toList = 'L' :: "ine: ".toList := by simp
  have hdigits : ∀ n : Nat, 'L' ∉ Nat.toDigits 10 n := not_mem_toDigits (by decide)
  rw [htext, hpattern]
  apply afterLast?_append
  simp [hdigits]

/-- A printed place is read back, whatever stands before it. -/
theorem readPosition?_toText (lead : String) {p : Position} (hline : p.line < Nat.pow 2 64)
    (hcolumn : p.column < Nat.pow 2 64) (hne : p.line ≠ 0 ∧ p.column ≠ 0) :
    readPosition? (lead ++ p.toText).toList = some p := by
  have hcomma : (Nat.toDigits 10 p.line).all (fun c => decide (c ≠ ',')) = true := by
    apply List.all_eq_true.mpr
    intro c hc
    simpa using ne_of_mem_of_not_mem hc (not_mem_toDigits (by decide) p.line)
  obtain ⟨hlineText, hlater⟩ := takeWhile_all hcomma
    (show ∀ c ∈ (',' :: (" Column: ".toList ++ Nat.toDigits 10 p.column)).head?, _ by simp)
  have htrim : Text.trimEnd (Text.trimStart (Nat.toDigits 10 p.line ++ [])) =
      Nat.toDigits 10 p.line :=
    (Text.trimEnd_append_eq_iff Nat.toDigits_ne_nil (isTrimmed_toDigits p.line)).mpr rfl
  have hstrip : Text.stripPrefix? "Column:".toList
      (Text.trimStart (" Column: ".toList ++ Nat.toDigits 10 p.column)) =
      some (' ' :: Nat.toDigits 10 p.column) := by
    rw [Text.stripPrefix?_eq_some_iff]
    simp [Text.trimStart, Text.isBlank]
  have hcolumnTrim : Text.trimStart (' ' :: Nat.toDigits 10 p.column) =
      Nat.toDigits 10 p.column :=
    Text.trimStart_of_head (isTrimmed_toDigits p.column).head
  obtain ⟨hcolumnText, -⟩ := takeWhile_all (all_isDigit_toDigits p.column)
    (show ∀ c ∈ ([] : List Char).head?, _ by simp)
  rw [List.append_nil] at htrim hcolumnText
  simp only [readPosition?, afterLast?_toText, hlineText, hlater, Option.bind_eq_bind,
    Option.bind_some, List.tail?_cons, hstrip, hcolumnTrim, htrim, readIndex?_toDigits hline,
    readIndex?_toDigits hcolumn, hcolumnText]
  simp [hne]

/-! Offsets -/

theorem exists_errorOffset_eq (text message : String) :
    ∃ before rest, text = before ++ rest ∧ errorOffset text message = before.utf8ByteSize := by
  cases hread : readPosition? message.toList with
  | none =>
      refine ⟨text, "", String.append_empty.symm, ?_⟩
      simp only [errorOffset, hread, byteSize_toList]
  | some p =>
      obtain ⟨before, rest, htext, hoffset⟩ := p.exists_offset_eq text.toList
      refine ⟨String.ofList before, String.ofList rest, ?_, ?_⟩
      · rw [← String.ofList_append, ← htext, String.ofList_toList]
      · simp only [errorOffset, hread, hoffset]
        rw [← byteSize_toList, String.toList_ofList]

theorem errorOffset_toText {before rest : String} (lead : String)
    (hsize : before.utf8ByteSize + 1 < Nat.pow 2 64)
    (hcut : ¬ CutsLineBreak before.toList rest.toList) :
    errorOffset (before ++ rest) (lead ++ (Position.ofRead before.toList).toText) =
      before.utf8ByteSize := by
  obtain ⟨hne, hline, hcolumn⟩ := Position.ofRead_bounds before.toList
  rw [byteSize_toList] at hline hcolumn
  have hread := readPosition?_toText lead (Nat.lt_of_le_of_lt hline hsize)
    (Nat.lt_of_le_of_lt hcolumn hsize) hne
  simp only [errorOffset, hread]
  rw [String.toList_append, Position.offset_ofRead hcut, byteSize_toList]

/-- Every message points at most at the end of the text and never into a character. The place of a
character, or of the end, is found again behind any message about it; only the newline of a line
break of two characters has no place of its own. No text in memory has `2 ^ 63` bytes. -/
theorem errorOffset_locates (text : String) :
    (∀ message, errorOffset text message ≤ text.utf8ByteSize ∧
      String.Pos.Raw.IsValid text ⟨errorOffset text message⟩) ∧
    (text.utf8ByteSize < Nat.pow 2 63 → ∀ before rest lead : String, text = before ++ rest →
      ¬ CutsLineBreak before.toList rest.toList →
      errorOffset text (lead ++ (Position.ofRead before.toList).toText) =
        before.utf8ByteSize) := by
  refine ⟨fun message => ?_, fun hsize => ?_⟩
  · obtain ⟨before, rest, htext, hoffset⟩ := exists_errorOffset_eq text message
    have hvalid : String.Pos.Raw.IsValid text ⟨errorOffset text message⟩ :=
      String.Pos.Raw.isValid_iff_exists_append.mpr
        ⟨before, rest, htext, congrArg String.Pos.Raw.mk hoffset⟩
    exact ⟨hvalid.le_utf8ByteSize, hvalid⟩
  · rintro before rest lead rfl hcut
    rw [String.utf8ByteSize_append] at hsize
    have hword : Nat.pow 2 63 < Nat.pow 2 64 := by decide
    exact errorOffset_toText lead (by omega) hcut

theorem errorOffset_locates_secondLine :
    "é\r\nü x".utf8ByteSize < Nat.pow 2 63 ∧ ¬ CutsLineBreak "é\r\nü ".toList "x".toList ∧
      errorOffset "é\r\nü x" "Expected: Line: 1, found: x at Line: 2, Column: 3" = 7 := by
  have hsize : "é\r\nü x".utf8ByteSize < Nat.pow 2 63 := by decide
  have hcut : ¬ CutsLineBreak "é\r\nü ".toList "x".toList := by simp [CutsLineBreak]
  refine ⟨hsize, hcut, ?_⟩
  exact (errorOffset_locates "é\r\nü x").2 hsize "é\r\nü " "x" "Expected: Line: 1, found: x"
    rfl hcut

end SelectTree.Sql
