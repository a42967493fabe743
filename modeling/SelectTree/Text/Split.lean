namespace SelectTree.Text

/-! Cutting a text at a separator, and joining texts with one. -/

def splitLast (sep : Char) : List Char → Option (List Char × List Char)
  | [] => none
  | c :: cs =>
      match splitLast sep cs with
      | some (before, after) => some (c :: before, after)
      | none => if c = sep then some ([], cs) else none

def segments (sep : Char) : List Char → List (List Char)
  | [] => [[]]
  | c :: cs =>
      if c = sep then [] :: segments sep cs
      else
        match segments sep cs with
        | first :: rest => (c :: first) :: rest
        | [] => [[c]]

/-- The words of a phrase with single blanks between them. -/
def words (phrase : String) : List String :=
  (segments ' ' phrase.toList).map String.ofList

theorem splitLast_eq_none_iff {sep : Char} {cs : List Char} :
    splitLast sep cs = none ↔ sep ∉ cs := by
  induction cs with
  | nil => simp [splitLast]
  | cons c cs ih =>
      cases h : splitLast sep cs with
      | none =>
          have hmem := ih.mp h
          by_cases hc : c = sep <;> simp [splitLast, h, hc, hmem, Ne.symm]
      | some pair =>
          have hmem : sep ∈ cs := by
            apply Decidable.byContradiction
            intro hno
            rw [ih.mpr hno] at h
            cases h
          simp [splitLast, h, hmem]

theorem eq_append_of_splitLast {sep : Char} {cs before after : List Char}
    (h : splitLast sep cs = some (before, after)) :
    cs = before ++ sep :: after ∧ sep ∉ after := by
  induction cs generalizing before with
  | nil => simp [splitLast] at h
  | cons c cs ih =>
      cases hrest : splitLast sep cs with
      | none =>
          simp only [splitLast, hrest] at h
          split at h
          · rename_i hc
            obtain ⟨rfl, rfl⟩ := Prod.mk.inj (Option.some.inj h)
            exact ⟨by simp [hc], splitLast_eq_none_iff.mp hrest⟩
          · cases h
      | some pair =>
          obtain ⟨front, back⟩ := pair
          simp only [splitLast, hrest] at h
          obtain ⟨rfl, rfl⟩ := Prod.mk.inj (Option.some.inj h)
          obtain ⟨heq, hback⟩ := ih hrest
          exact ⟨by simp [heq], hback⟩

theorem splitLast_append {sep : Char} (before : List Char) {after : List Char}
    (h : sep ∉ after) : splitLast sep (before ++ sep :: after) = some (before, after) := by
  induction before with
  | nil => simp [splitLast, splitLast_eq_none_iff.mpr h]
  | cons c before ih => simp [splitLast, ih]

theorem segments_ne_nil (sep : Char) (cs : List Char) : segments sep cs ≠ [] := by
  cases cs with
  | nil => simp [segments]
  | cons c cs =>
      unfold segments
      split
      · simp
      · split <;> simp

theorem segments_append (sep : Char) (before after : List Char) :
    segments sep (before ++ sep :: after) = segments sep before ++ segments sep after := by
  induction before with
  | nil => simp [segments]
  | cons c before ih =>
      by_cases h : c = sep
      · simp [segments, h, ih]
      · cases hbefore : segments sep before with
        | nil => exact absurd hbefore (segments_ne_nil sep before)
        | cons first rest => simp [segments, h, ih, hbefore]

theorem segments_of_not_mem {sep : Char} {cs : List Char} (h : sep ∉ cs) :
    segments sep cs = [cs] := by
  induction cs with
  | nil => rfl
  | cons c cs ih =>
      simp only [List.mem_cons, not_or] at h
      simp [segments, Ne.symm h.1, ih h.2]

def stripPrefix? : List Char → List Char → Option (List Char)
  | [], cs => some cs
  | _ :: _, [] => none
  | p :: ps, c :: cs => if p = c then stripPrefix? ps cs else none

theorem stripPrefix?_eq_some_iff {start cs rest : List Char} :
    stripPrefix? start cs = some rest ↔ cs = start ++ rest := by
  induction start generalizing cs with
  | nil => simp [stripPrefix?]
  | cons p ps ih =>
      cases cs with
      | nil => simp [stripPrefix?]
      | cons c cs =>
          by_cases h : p = c
          · simp [stripPrefix?, h, ih]
          · simp [stripPrefix?, h, Ne.symm h]

def endsWith (ending cs : List Char) : Bool :=
  (stripPrefix? ending.reverse cs.reverse).isSome

theorem endsWith_iff {ending cs : List Char} :
    endsWith ending cs = true ↔ ∃ front, cs = front ++ ending := by
  rw [endsWith, Option.isSome_iff_exists]
  constructor
  · rintro ⟨rest, h⟩
    refine ⟨rest.reverse, ?_⟩
    have hreverse := congrArg List.reverse (stripPrefix?_eq_some_iff.mp h)
    simpa using hreverse
  · rintro ⟨front, rfl⟩
    exact ⟨front.reverse, stripPrefix?_eq_some_iff.mpr (by simp)⟩

def joined (sep : String) : List String → String
  | [] => ""
  | [text] => text
  | text :: rest => text ++ sep ++ joined sep rest

def listed (texts : List String) : String :=
  joined ", " texts

def parenthesized (text : String) : String :=
  "(" ++ text ++ ")"

@[simp] theorem joined_nil (sep : String) : joined sep [] = "" := rfl

@[simp] theorem joined_singleton (sep text : String) : joined sep [text] = text := rfl

@[simp] theorem joined_cons_cons (sep text next : String) (rest : List String) :
    joined sep (text :: next :: rest) = text ++ sep ++ joined sep (next :: rest) := rfl

theorem joined_append (sep : String) {first second : List String} (hfirst : first ≠ [])
    (hsecond : second ≠ []) :
    joined sep (first ++ second) = joined sep first ++ sep ++ joined sep second := by
  induction first with
  | nil => exact absurd rfl hfirst
  | cons text rest ih =>
      cases rest with
      | nil =>
          obtain ⟨next, more, rfl⟩ := List.exists_cons_of_ne_nil hsecond
          rfl
      | cons next rest =>
          have htail := ih (List.cons_ne_nil next rest)
          simp only [List.cons_append, joined_cons_cons] at htail ⊢
          rw [htail]
          simp only [String.append_assoc]

end SelectTree.Text
