import SelectTree.Proofs.PlainIdentifiers

namespace SelectTree

open Sql Sql.Grammar

/-! Rebuilt chains: the names of tables, joined naturally in one text and read back, become the
chain of the tables so named. Any identifiers in ASCII are such names, but for the reserved
words. -/

variable {d : Dialect} {name : String}

/-! Free words -/

/-- Characters after the first letter of an identifier. -/
def isIdentifierPart (c : Char) : Bool :=
  c.isAlpha || c.isDigit || c = '_'

/-- An ASCII letter, and after it ASCII letters, digits and underscores. -/
def isAsciiIdentifier (name : String) : Bool :=
  match name.toList with
  | [] => false
  | c :: cs => c.isAlpha && cs.all isIdentifierPart

/-- An identifier in ASCII that is no reserved word. The other keywords, such as `YEAR` or `NAME`,
name tables as any identifier does. -/
structure IsFreeWord (name : String) : Prop where
  identifier : isAsciiIdentifier name = true
  unreserved : Keyword.capitals name ∉ reservedWords

theorem isFreeWord_iff :
    IsFreeWord name ↔ isAsciiIdentifier name = true ∧ Keyword.capitals name ∉ reservedWords :=
  ⟨fun ⟨hname, hfree⟩ => ⟨hname, hfree⟩, fun ⟨hname, hfree⟩ => ⟨hname, hfree⟩⟩

instance (name : String) : Decidable (IsFreeWord name) :=
  decidable_of_iff' _ isFreeWord_iff

theorem isWordPart_of_isIdentifierPart {c : Char} (h : isIdentifierPart c = true) :
    d.isWordPart c = true := by
  simp only [isIdentifierPart, Bool.or_eq_true, decide_eq_true_eq] at h
  obtain (halpha | hdigit) | rfl := h
  · exact d.isWordPart_of_isAlpha halpha
  · exact d.isWordPart_of_isDigit hdigit
  · exact d.isWordPart_underscore

theorem isWordText_of_isAsciiIdentifier (h : isAsciiIdentifier name = true) :
    isWordText d name = true := by
  unfold isAsciiIdentifier at h
  unfold isWordText
  cases hchars : name.toList with
  | nil => simp [hchars] at h
  | cons c cs =>
      simp only [hchars, Bool.and_eq_true, List.all_eq_true] at h ⊢
      refine ⟨by simp [opensWord, h.1], ?_⟩
      exact fun c hc => isWordPart_of_isIdentifierPart (h.2 c hc)

theorem IsFreeWord.isPlainIdentifier (h : IsFreeWord name) : IsPlainIdentifier d name where
  word := isWordText_of_isAsciiIdentifier h.identifier
  unreserved := h.unreserved

/-! Chains as folds -/

theorem Source.IsLeftChain.chain {first : Source} {names : List String}
    (h : first.IsLeftChain names) (more : List String) :
    (Source.chain first (more.map .bare)).IsLeftChain (names ++ more) := by
  induction more generalizing first names with
  | nil => simpa [Source.chain] using h
  | cons name more ih =>
      have hjoined := ih (h.join name)
      rwa [List.append_assoc] at hjoined

theorem Source.isLeftChain_chain (first : String) (more : List String) :
    (Source.chain (.bare first) (more.map .bare)).IsLeftChain (first :: more) :=
  (IsLeftChain.single first).chain more

/-! Read chains -/

namespace Edit

theorem readChain_eq_chain {first : String} {more : List String}
    (h : ∀ name ∈ first :: more, ∃ ts f, Source.IsTableFactor d name ts f)
    (hfilled : ∀ name ∈ first :: more, name ≠ "") :
    readChain d (first :: more) = .ok (Source.chain (.bare first) (more.map .bare)) := by
  have hread := parseSelect_chain (d := d) (Source.isLeftChain_chain first more) hfilled h
  rw [readChain, if_neg (by simp), hread]
  rfl

end Edit

end SelectTree
