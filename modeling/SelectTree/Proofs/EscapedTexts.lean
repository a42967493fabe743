import SelectTree.Proofs.Lexing

namespace SelectTree.Sql

/-! Quoted texts of a dialect in which a backslash is an escape: which ones are read as they were
before their quotes were doubled. -/

variable {d : Dialect} {c next : Char} {cs target text rest left : List Char}

/-- A text that is read in place of another one gives itself away: it is no beginning of the other
one, or the quotes around it are the right ones and it is too short or too long. -/
def Betrays (target rest text left : List Char) : Prop :=
  ¬text <+: target ∨ left = rest ∧ text ≠ target

theorem Betrays.ne (h : Betrays target rest text left) : (text, left) ≠ (target, rest) := by
  intro heq
  obtain ⟨rfl, rfl⟩ := Prod.mk.inj heq
  rcases h with h | ⟨-, h⟩
  · exact h (List.prefix_refl _)
  · exact h rfl

theorem Betrays.append (h : Betrays target rest text left) (front : List Char) :
    Betrays (front ++ target) rest (front ++ text) left := by
  rcases h with h | ⟨rfl, h⟩
  · exact .inl fun hprefix => h ((List.prefix_append_right_inj front).mp hprefix)
  · exact .inr ⟨rfl, fun heq => h (List.append_cancel_left heq)⟩

theorem Betrays.of_head_ne (h : c ≠ next) : Betrays (next :: target) rest (c :: text) left :=
  .inl fun hprefix => h (List.cons_prefix_cons.mp hprefix).1

theorem ne_of_pattern (hnext : next = '%' ∨ next = '_') (hc : ¬(c = '%' ∨ c = '_')) : next ≠ c :=
  fun heq => hc (heq ▸ hnext)

theorem unescaped_of_not_pattern (h : ¬(next = '%' ∨ next = '_')) :
    unescaped d next = [controlCharacter next] := by
  rw [unescaped, if_neg]
  simp only [Bool.and_eq_true, Bool.or_eq_true, decide_eq_true_eq]
  exact fun hand => h hand.2

/-- Only a backslash stands for a backslash. -/
theorem controlCharacter_ne (h : next ≠ '\\') : controlCharacter next ≠ '\\' := by
  unfold controlCharacter
  split <;> first | decide | exact h

/-- What is read from a backslash on, where the character after it is no sign of a pattern. -/
theorem exists_of_readQuoted_backslash (hnext : ¬(next = '%' ∨ next = '_'))
    (h : readQuoted '\'' (some (unescaped d)) ('\\' :: next :: cs) = some (text, left)) :
    ∃ more, text = controlCharacter next :: more ∧
      readQuoted '\'' (some (unescaped d)) cs = some (more, left) := by
  rw [readQuoted_backslash, Option.map_eq_some_iff] at h
  obtain ⟨⟨more, left'⟩, hmore, heq⟩ := h
  obtain ⟨rfl, rfl⟩ := Prod.mk.inj heq
  exact ⟨more, by rw [unescaped_of_not_pattern hnext]; rfl, hmore⟩

/-- A backslash that ends a text, or stands before a quote, takes the quote for its own. -/
theorem betrays_of_backslash_quote
    (h : readQuoted '\'' (some (unescaped d)) ('\\' :: '\'' :: cs) = some (text, left)) :
    Betrays ('\\' :: target) rest text left := by
  obtain ⟨more, rfl, -⟩ := exists_of_readQuoted_backslash (by decide) h
  exact .of_head_ne (by decide)

theorem append_replicate_cons (n : Nat) (c : Char) (cs : List Char) :
    List.replicate n c ++ c :: cs = c :: (List.replicate n c ++ cs) := by
  rw [List.append_cons, ← List.replicate_succ', List.replicate_succ]
  rfl

/-- Once a backslash is lost, no text makes up for it. -/
theorem betrays_replicate (hescapes : d.escapesWithBackslash = true) (lost : Nat)
    (h : readQuoted '\'' (some (unescaped d)) (doubleQuotes cs ++ '\'' :: rest) = some (text, left))
    (hrest : rest.head? ≠ some '\'') :
    Betrays ('\\' :: (List.replicate lost '\\' ++ cs)) rest text left := by
  fun_induction keepsBackslashes cs generalizing lost text with
  | case1 =>
      have hend : readQuoted '\'' (some (unescaped d)) ('\'' :: rest) = some ([], rest) :=
        readQuoted_nil (some (unescaped d)) hrest
      obtain ⟨rfl, rfl⟩ := Prod.mk.inj (Option.some.inj (hend.symm.trans h))
      exact .inr ⟨rfl, (List.cons_ne_nil _ _).symm⟩
  | case2 c =>
      by_cases hc : c = '\\'
      · subst hc
        exact betrays_of_backslash_quote h
      · rw [readQuoted_doubleQuotes_cons hc, Option.map_eq_some_iff] at h
        obtain ⟨_, -, heq⟩ := h
        obtain ⟨rfl, -⟩ := Prod.mk.inj heq
        exact .of_head_ne hc
  | case3 next cs ih =>
      by_cases hquote : next = '\''
      · subst hquote
        exact betrays_of_backslash_quote h
      · rw [doubleQuotes_backslash hquote] at h
        by_cases hpattern : next = '%' ∨ next = '_'
        · -- The target goes on with a backslash, the text with a sign of a pattern.
          rw [readQuoted_backslash, unescaped_pattern hescapes hpattern, Option.map_eq_some_iff] at h
          obtain ⟨⟨more, left'⟩, -, heq⟩ := h
          obtain ⟨rfl, rfl⟩ := Prod.mk.inj heq
          have hne : next ≠ '\\' := ne_of_pattern hpattern (by decide)
          rw [append_replicate_cons]
          exact (Betrays.of_head_ne hne).append ['\\']
        · obtain ⟨more, rfl, hmore⟩ := exists_of_readQuoted_backslash hpattern h
          by_cases hne : next = '\\'
          · subst hne
            have hlonger := (ih (lost + 1) hmore).append ['\\']
            rw [append_replicate_cons, append_replicate_cons]
            exact hlonger
          · exact .of_head_ne (controlCharacter_ne hne)
  | case4 c next cs hc ih =>
      rw [readQuoted_doubleQuotes_cons hc, Option.map_eq_some_iff] at h
      obtain ⟨_, -, heq⟩ := h
      obtain ⟨rfl, -⟩ := Prod.mk.inj heq
      exact .of_head_ne hc

theorem betrays_of_not_keepsBackslashes (hescapes : d.escapesWithBackslash = true)
    (hlost : keepsBackslashes cs = false)
    (h : readQuoted '\'' (some (unescaped d)) (doubleQuotes cs ++ '\'' :: rest) = some (text, left))
    (hrest : rest.head? ≠ some '\'') : Betrays cs rest text left := by
  -- What stands before the first backslash that is lost is read as it is.
  fun_induction keepsBackslashes cs generalizing text with
  | case1 => cases hlost
  | case2 c =>
      obtain rfl : c = '\\' := by simpa using hlost
      exact betrays_of_backslash_quote h
  | case3 next cs ih =>
      by_cases hpattern : next = '%' ∨ next = '_'
      · have hkept : keepsBackslashes cs = false := by
          rcases hpattern with rfl | rfl <;> simpa using hlost
        have hquote : next ≠ '\'' := ne_of_pattern hpattern (by decide)
        rw [doubleQuotes_backslash hquote, readQuoted_backslash,
          unescaped_pattern hescapes hpattern, Option.map_eq_some_iff] at h
        obtain ⟨⟨more, left'⟩, hmore, heq⟩ := h
        obtain ⟨rfl, rfl⟩ := Prod.mk.inj heq
        exact (ih hkept hmore).append ['\\', next]
      · by_cases hquote : next = '\''
        · subst hquote
          exact betrays_of_backslash_quote h
        · rw [doubleQuotes_backslash hquote] at h
          obtain ⟨more, rfl, hmore⟩ := exists_of_readQuoted_backslash hpattern h
          by_cases hne : next = '\\'
          · subst hne
            exact (betrays_replicate hescapes 0 hmore hrest).append ['\\']
          · exact .of_head_ne (controlCharacter_ne hne)
  | case4 c next cs hc ih =>
      rw [readQuoted_doubleQuotes_cons hc, Option.map_eq_some_iff] at h
      obtain ⟨⟨more, left'⟩, hmore, heq⟩ := h
      obtain ⟨rfl, rfl⟩ := Prod.mk.inj heq
      exact (ih hlost hmore).append [c]

/-- A text with its quotes doubled is read as the text exactly if all its backslashes stand before
signs of patterns. -/
theorem readQuoted_doubleQuotes_iff (hescapes : d.escapesWithBackslash = true)
    (hrest : rest.head? ≠ some '\'') :
    readQuoted '\'' (some (unescaped d)) (doubleQuotes cs ++ '\'' :: rest) = some (cs, rest) ↔
      keepsBackslashes cs = true := by
  refine ⟨?_, fun h => readQuoted_keepsBackslashes hescapes h hrest⟩
  intro hread
  cases hlost : keepsBackslashes cs with
  | true => rfl
  | false => exact absurd rfl (betrays_of_not_keepsBackslashes hescapes hlost hread hrest).ne

end SelectTree.Sql
