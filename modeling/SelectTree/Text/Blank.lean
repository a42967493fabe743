namespace SelectTree.Text

/-! Whitespace by the Unicode property White_Space, and texts stripped of it. -/

def isBlank (c : Char) : Bool :=
  let n := c.toNat
  (0x09 ≤ n && n ≤ 0x0d) || n == 0x20 || n == 0x85 || n == 0xa0 || n == 0x1680 ||
    (0x2000 ≤ n && n ≤ 0x200a) || n == 0x2028 || n == 0x2029 || n == 0x202f ||
    n == 0x205f || n == 0x3000

theorem isBlank_of_isWhitespace {c : Char} (h : c.isWhitespace = true) :
    isBlank c = true := by
  simp only [Char.isWhitespace, Bool.or_eq_true, decide_eq_true_eq] at h
  rcases h with ((rfl | rfl) | rfl) | rfl <;> decide

def trimStart (cs : List Char) : List Char :=
  cs.dropWhile isBlank

def trimEnd (cs : List Char) : List Char :=
  (trimStart cs.reverse).reverse

def trim (text : String) : String :=
  String.ofList (trimEnd (trimStart text.toList))

def isBlankText (text : String) : Bool :=
  text.toList.all isBlank

theorem trimStart_eq_nil_iff {cs : List Char} :
    trimStart cs = [] ↔ cs.all isBlank = true := by
  induction cs with
  | nil => simp [trimStart]
  | cons c cs ih =>
      cases h : isBlank c with
      | false => simp [trimStart, h]
      | true => simpa [trimStart, h] using ih

theorem trimStart_all_iff {cs : List Char} :
    (trimStart cs).all isBlank = true ↔ cs.all isBlank = true := by
  induction cs with
  | nil => simp [trimStart]
  | cons c cs ih =>
      cases h : isBlank c with
      | false => simp [trimStart, h]
      | true => simpa [trimStart, h] using ih

theorem isEmpty_trim (text : String) : (trim text).isEmpty = isBlankText text := by
  have hblank : trim text = "" ↔ isBlankText text = true := by
    rw [trim, String.ofList_eq_empty_iff, trimEnd, List.reverse_eq_nil_iff, trimStart_eq_nil_iff,
      List.all_reverse, trimStart_all_iff, isBlankText]
  rw [Bool.eq_iff_iff, String.isEmpty_iff, hblank]

end SelectTree.Text
