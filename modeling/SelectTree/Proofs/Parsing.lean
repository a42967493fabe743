import SelectTree.Proofs.Lexing
import SelectTree.Sql.Parser

namespace SelectTree.Sql.Parser

/-! How parsers go on, by the token that stands next. -/

/-- Holds at the end of the tokens, and before the tokens of a list. -/
def HeadIn (follow ts : List Token) : Prop :=
  ∀ t ∈ ts.head?, t ∈ follow

theorem headIn_nil (follow : List Token) : HeadIn follow [] :=
  nofun

theorem headIn_cons {follow : List Token} {t : Token} (h : t ∈ follow) (ts : List Token) :
    HeadIn follow (t :: ts) := by
  intro x hx
  obtain rfl := Option.some.inj hx
  exact h

theorem headIn_head (t : Token) (ts : List Token) : HeadIn [t] (t :: ts) :=
  headIn_cons (List.mem_singleton_self t) ts

theorem HeadIn.mono {follow more ts : List Token} (h : HeadIn follow ts)
    (hsubset : ∀ t ∈ follow, t ∈ more) : HeadIn more ts :=
  fun t ht => hsubset t (h t ht)

theorem HeadIn.append {follow ts rest : List Token} (h : HeadIn follow ts)
    (hrest : HeadIn follow rest) : HeadIn follow (ts ++ rest) := by
  cases ts with
  | nil => exact hrest
  | cons t ts => exact h

@[simp] theorem run_map (f : α → β) (p : Parser α) (ts : List Token) :
    (f <$> p) ts =
      match p ts with
      | .ok (a, rest) => .ok (f a, rest)
      | .error failure => .error failure :=
  rfl

section Refused

variable {follow ts : List Token}

theorem accept_of_headIn (h : HeadIn follow ts) (s : Symbol) (hs : .symbol s ∉ follow) :
    accept s ts = .ok (false, ts) := by
  cases ts with
  | nil => rfl
  | cons t ts =>
      have hne : t ≠ .symbol s := fun heq => hs (heq ▸ h t rfl)
      simp [accept, hne]

theorem acceptKeyword_of_headIn (h : HeadIn follow ts) (k : Keyword)
    (hk : ∀ t ∈ follow, t.keyword ≠ some k) : acceptKeyword k ts = .ok (false, ts) := by
  cases ts with
  | nil => rfl
  | cons t ts => simp [acceptKeyword, hk t (h t rfl)]

theorem acceptKeywords_of_headIn (h : HeadIn follow ts) (k : Keyword) (ks : List Keyword)
    (hk : ∀ t ∈ follow, t.keyword ≠ some k) : acceptKeywords (k :: ks) ts = .ok (false, ts) := by
  cases ts with
  | nil => rfl
  | cons t ts => simp [acceptKeywords, stripKeywords?, hk t (h t rfl)]

theorem acceptOneOf_of_headIn (h : HeadIn follow ts) (ks : List Keyword)
    (hks : ∀ t ∈ follow, ∀ k ∈ ks, t.keyword ≠ some k) : acceptOneOf ks ts = .ok (none, ts) := by
  cases ts with
  | nil => rfl
  | cons t ts =>
      cases hkeyword : t.keyword with
      | none => simp [acceptOneOf, hkeyword]
      | some k =>
          have hmem : k ∉ ks := fun hmem => hks t (h t rfl) k hmem hkeyword
          simp [acceptOneOf, hkeyword, hmem]

theorem peekKeyword_of_headIn (h : HeadIn follow ts) (k : Keyword)
    (hk : ∀ t ∈ follow, t.keyword ≠ some k) : peekKeyword k ts = .ok (false, ts) := by
  cases ts with
  | nil => rfl
  | cons t ts => simp [peekKeyword, hk t (h t rfl)]

theorem peekSymbol_of_headIn (h : HeadIn follow ts) (s : Symbol) (hs : .symbol s ∉ follow) :
    peekSymbol s ts = .ok (false, ts) := by
  cases ts with
  | nil => rfl
  | cons t ts =>
      have hne : t ≠ .symbol s := fun heq => hs (heq ▸ h t rfl)
      simp [peekSymbol, hne]

theorem peekAny_of_headIn (h : HeadIn follow ts) (p : Token → Bool)
    (hp : ∀ t ∈ follow, p t = false) : peekAny p ts = .ok (false, ts) := by
  cases ts with
  | nil => rfl
  | cons t ts => simp [peekAny, hp t (h t rfl)]

theorem acceptToken_of_headIn {α : Type} (h : HeadIn follow ts) (f : Token → Option α)
    (hf : ∀ t ∈ follow, f t = none) : acceptToken f ts = .ok (none, ts) := by
  cases ts with
  | nil => rfl
  | cons t ts => simp [acceptToken, hf t (h t rfl)]

theorem acceptWord_of_headIn (h : HeadIn follow ts) (spelling : String)
    (hword : ∀ t ∈ follow, t.capitals? ≠ some spelling) :
    acceptWord spelling ts = .ok (false, ts) := by
  cases ts with
  | nil => rfl
  | cons t ts => simp [acceptWord, hword t (h t rfl)]

theorem acceptAnyOf_of_headIn (h : HeadIn follow ts) (spellings : List String)
    (hwords : ∀ t ∈ follow, ∀ spelling ∈ spellings, t.capitals? ≠ some spelling) :
    acceptAnyOf spellings ts = .ok (none, ts) := by
  cases ts with
  | nil => rfl
  | cons t ts =>
      cases hcapitals : t.capitals? with
      | none => simp [acceptAnyOf, hcapitals]
      | some spelling =>
          have hmem : spelling ∉ spellings := fun hmem =>
            hwords t (h t rfl) spelling hmem hcapitals
          simp [acceptAnyOf, hcapitals, hmem]

theorem acceptPhrase_of_headIn (h : HeadIn follow ts) (phrase : String) {first : String}
    {more : List String} (hwords : Text.words phrase = first :: more)
    (hfirst : ∀ t ∈ follow, t.capitals? ≠ some first) : acceptPhrase phrase ts = .ok (false, ts) := by
  cases ts with
  | nil => simp [acceptPhrase, hwords, stripWords?]
  | cons t ts => simp [acceptPhrase, hwords, stripWords?, hfirst t (h t rfl)]

theorem whenever_of_refused {p : Parser Bool} (h : p ts = .ok (false, ts)) (allowed : Bool) :
    whenever allowed p ts = .ok (false, ts) := by
  cases allowed with
  | false => rfl
  | true => exact h

theorem optionally_of_refused {α : Type} {condition : Parser Bool}
    (h : condition ts = .ok (false, ts)) (p : Parser α) :
    optionally condition p ts = .ok (none, ts) := by
  simp [optionally, h]

end Refused

/-! Spaces -/

def isSpace : Token → Bool
  | .space _ => true
  | _ => false

/-- Holds where no space was kept. -/
def NoSpace (ts : List Token) : Prop :=
  ∀ t ∈ ts.head?, isSpace t = false

theorem after_eq_self {ts : List Token} (h : NoSpace ts) (t : Token) : after t ts = ts := by
  unfold after
  split
  · cases h _ rfl
  · rfl

theorem noSpace_cons {t : Token} (h : isSpace t = false) (ts : List Token) : NoSpace (t :: ts) := by
  intro x hx
  obtain rfl := Option.some.inj hx
  exact h

theorem HeadIn.noSpace {follow ts : List Token} (h : HeadIn follow ts)
    (hfollow : ∀ t ∈ follow, isSpace t = false) : NoSpace ts :=
  fun t ht => hfollow t (h t ht)

theorem accept_symbol {s : Symbol} {ts : List Token} (h : NoSpace ts) :
    accept s (.symbol s :: ts) = .ok (true, ts) := by
  simp [accept, after_eq_self h]

theorem expect_symbol {s : Symbol} {ts : List Token} (h : NoSpace ts) :
    expect s (.symbol s :: ts) = .ok ((), ts) := by
  simp [expect, accept_symbol h]

/-! Failures -/

/-- A failure from which an attempt goes back. -/
def Fails (p : Parser α) (ts : List Token) : Prop :=
  ∃ failure, p ts = .error failure ∧ failure.cause ≠ .nestingLimit

theorem attempt_of_ok {p : Parser α} {a : α} {ts rest : List Token} (h : p ts = .ok (a, rest)) :
    attempt p ts = .ok (some a, rest) := by
  unfold attempt
  rw [h]

theorem attempt_of_fails {p : Parser α} {ts : List Token} (h : Fails p ts) :
    attempt p ts = .ok (none, ts) := by
  obtain ⟨⟨cause, rest⟩, hp, hcause⟩ := h
  unfold attempt
  rw [hp]
  split
  · rename_i heq
    cases heq
  · rename_i heq
    cases heq
    exact absurd rfl hcause
  · rfl

theorem Fails.bind {p : Parser α} {f : α → Parser β} {ts : List Token} (h : Fails p ts) :
    Fails (p >>= f) ts := by
  obtain ⟨failure, hp, hcause⟩ := h
  exact ⟨failure, by rw [run_bind, hp], hcause⟩

theorem Fails.of_bind {p : Parser α} {f : α → Parser β} {a : α} {ts rest : List Token}
    (hp : p ts = .ok (a, rest)) (h : Fails (f a) rest) : Fails (p >>= f) ts := by
  obtain ⟨failure, hf, hcause⟩ := h
  exact ⟨failure, by rw [run_bind, hp]; exact hf, hcause⟩

/-! Loops -/

/-- What a loop reads, step by step. Every step but the last reads a token. -/
inductive Runs {α β : Type} (step : α → Parser (α ⊕ β)) : α → List Token → β → List Token → Prop
  | stop {a : α} {b : β} {ts rest : List Token} (hstep : step a ts = .ok (.inr b, rest)) :
      Runs step a ts b rest
  | more {a next : α} {b : β} {ts left rest : List Token} (hstep : step a ts = .ok (.inl next, left))
      (hlength : left.length < ts.length) (hnext : Runs step next left b rest) :
      Runs step a ts b rest

theorem Runs.iterateFrom {α β : Type} {step : α → Parser (α ⊕ β)} {a : α} {b : β}
    {ts rest : List Token} (h : Runs step a ts b rest) {fuel : Nat} (hfuel : ts.length < fuel) :
    iterateFrom step fuel a ts = .ok (b, rest) := by
  induction h generalizing fuel with
  | stop hstep =>
      cases fuel with
      | zero => cases hfuel
      | succ fuel => simp [Parser.iterateFrom, hstep]
  | more hstep hlength _ ih =>
      cases fuel with
      | zero => cases hfuel
      | succ fuel =>
          have htail := @ih fuel (by omega)
          simp [Parser.iterateFrom, hstep, htail]

theorem Runs.iterate {α β : Type} {step : α → Parser (α ⊕ β)} {a : α} {b : β}
    {ts rest : List Token} (h : Runs step a ts b rest) : iterate step a ts = .ok (b, rest) :=
  h.iterateFrom (Nat.lt_succ_self _)

/-- The steps that lead a loop from one place to another. -/
inductive Reaches {α β : Type} (step : α → Parser (α ⊕ β)) : α → List Token → α → List Token → Prop
  | here {a : α} {ts : List Token} : Reaches step a ts a ts
  | more {a next b : α} {ts left rest : List Token} (hstep : step a ts = .ok (.inl next, left))
      (hlength : left.length < ts.length) (hnext : Reaches step next left b rest) :
      Reaches step a ts b rest

theorem Reaches.runs {α β : Type} {step : α → Parser (α ⊕ β)} {a b : α} {c : β}
    {ts middle rest : List Token} (h : Reaches step a ts b middle) (hruns : Runs step b middle c rest) :
    Runs step a ts c rest := by
  induction h with
  | here => exact hruns
  | more hstep hlength _ ih => exact .more hstep hlength (ih hruns)

theorem Reaches.trans {α β : Type} {step : α → Parser (α ⊕ β)} {a b c : α}
    {ts middle rest : List Token} (h : Reaches step a ts b middle) (h' : Reaches step b middle c rest) :
    Reaches step a ts c rest := by
  induction h with
  | here => exact h'
  | more hstep hlength _ ih => exact .more hstep hlength (ih h')

/-- A loop that ends well does so from every place on its way. -/
theorem Reaches.iterateFrom {α β : Type} {step : α → Parser (α ⊕ β)} {a b : α} {c : β}
    {ts middle rest : List Token} (h : Reaches step a ts b middle) {fuel : Nat}
    (hread : iterateFrom step fuel a ts = .ok (c, rest)) :
    ∃ fuel, iterateFrom step fuel b middle = .ok (c, rest) := by
  induction h generalizing fuel with
  | here => exact ⟨fuel, hread⟩
  | more hstep _ _ ih =>
      cases fuel with
      | zero => cases hread
      | succ fuel =>
          rw [Parser.iterateFrom, run_bind, hstep] at hread
          exact ih hread

theorem many_of_none {α : Type} {p : Parser (Option α)} {ts : List Token}
    (h : p ts = .ok (none, ts)) : many p ts = .ok ([], ts) := by
  apply Runs.iterate
  apply Runs.stop
  simp [h]

/-! Lists -/

/-- A parser reads the tokens and stops before the tokens that may follow. -/
def Reads (p : Parser α) (follow ts : List Token) (a : α) : Prop :=
  ∀ rest, HeadIn follow rest → p (ts ++ rest) = .ok (a, rest)

/-- The tokens of a piece are some, and no space stands before them. -/
def Solid (ts : List Token) : Prop :=
  ts ≠ [] ∧ NoSpace ts

theorem Solid.noSpace_append {ts : List Token} (h : Solid ts) (rest : List Token) :
    NoSpace (ts ++ rest) := by
  obtain ⟨hne, hspace⟩ := h
  cases ts with
  | nil => exact absurd rfl hne
  | cons t ts => exact hspace

/-- What a list reads after its first piece: a comma and the next piece. -/
def listStep (atEnd : List Token → Bool) (p : Parser α) (read : List α) :
    Parser (List α ⊕ List α) := do
  if ← accept .comma then
    if atEnd (← rest) then return .inr read.reverse
    else
      let a ← p
      return .inl (a :: read)
  else return .inr read.reverse

theorem commaSeparatedUntil_eq (atEnd : List Token → Bool) (p : Parser α) :
    commaSeparatedUntil atEnd p = (do iterate (listStep atEnd p) [← p]) :=
  rfl

theorem commaSeparated_eq (p : Parser α) :
    commaSeparated p = commaSeparatedUntil (fun _ => false) p :=
  rfl

theorem separated_cons (first : List Token) (more : List (List Token)) :
    separated (first :: more) = first ++ more.flatMap (.symbol .comma :: ·) := by
  induction more generalizing first with
  | nil => simp [separated]
  | cons next more ih => simp [separated, ih]

section Lists

variable {α : Type} {atEnd : List Token → Bool} {p : Parser α} {follow : List Token}
  {pieces : List (List Token × α)}

theorem runs_listStep (hcomma : .symbol .comma ∉ follow)
    (hreads : ∀ piece ∈ pieces, Reads p (.symbol .comma :: follow) piece.1 piece.2)
    (hsolid : ∀ piece ∈ pieces, Solid piece.1)
    (hatEnd : ∀ piece ∈ pieces, ∀ rest, atEnd (piece.1 ++ rest) = false)
    (read : List α) {rest : List Token} (hrest : HeadIn follow rest) :
    Runs (listStep atEnd p) read ((pieces.map Prod.fst).flatMap (.symbol .comma :: ·) ++ rest)
      (read.reverse ++ pieces.map Prod.snd) rest := by
  induction pieces generalizing read with
  | nil =>
      apply Runs.stop
      simp [listStep, accept_of_headIn hrest .comma hcomma]
  | cons piece pieces ih =>
      obtain ⟨ts, a⟩ := piece
      have htail := ih (fun piece hmem => hreads piece (List.mem_cons_of_mem _ hmem))
        (fun piece hmem => hsolid piece (List.mem_cons_of_mem _ hmem))
        (fun piece hmem => hatEnd piece (List.mem_cons_of_mem _ hmem)) (a :: read)
      have hleft : HeadIn (.symbol .comma :: follow)
          ((pieces.map Prod.fst).flatMap (.symbol .comma :: ·) ++ rest) := by
        cases pieces with
        | nil => exact hrest.mono fun t ht => List.mem_cons_of_mem _ ht
        | cons next pieces => exact headIn_cons (by simp) _
      have hread := hreads (ts, a) (by simp) _ hleft
      have hspace := (hsolid (ts, a) (by simp)).noSpace_append
        ((pieces.map Prod.fst).flatMap (.symbol .comma :: ·) ++ rest)
      simp only [List.map_cons, List.flatMap_cons, List.cons_append, List.append_assoc]
      refine .more ?_ ?_ (by simpa using htail)
      · simp [listStep, accept_symbol hspace, Parser.rest, hatEnd (ts, a) (by simp), hread]
      · simp only [List.length_cons, List.length_append]
        omega

variable (atEnd follow pieces) in
theorem reads_commaSeparatedUntil (hne : pieces ≠ []) (hcomma : .symbol .comma ∉ follow)
    (hreads : ∀ piece ∈ pieces, Reads p (.symbol .comma :: follow) piece.1 piece.2)
    (hsolid : ∀ piece ∈ pieces, Solid piece.1)
    (hatEnd : ∀ piece ∈ pieces, ∀ rest, atEnd (piece.1 ++ rest) = false) :
    Reads (commaSeparatedUntil atEnd p) follow (separated (pieces.map Prod.fst))
      (pieces.map Prod.snd) := by
  intro rest hrest
  obtain ⟨⟨ts, a⟩, pieces, rfl⟩ := List.exists_cons_of_ne_nil hne
  have hleft : HeadIn (.symbol .comma :: follow)
      ((pieces.map Prod.fst).flatMap (.symbol .comma :: ·) ++ rest) := by
    cases pieces with
    | nil => exact hrest.mono fun t ht => List.mem_cons_of_mem _ ht
    | cons next pieces => exact headIn_cons (by simp) _
  have hfirst := hreads (ts, a) (by simp) _ hleft
  have hmore := runs_listStep hcomma (fun piece hmem => hreads piece (List.mem_cons_of_mem _ hmem))
    (fun piece hmem => hsolid piece (List.mem_cons_of_mem _ hmem))
    (fun piece hmem => hatEnd piece (List.mem_cons_of_mem _ hmem)) [a] hrest
  rw [commaSeparatedUntil_eq, List.map_cons, separated_cons, List.append_assoc, run_bind, hfirst]
  simpa using hmore.iterate

variable (follow pieces) in
theorem reads_commaSeparated (hne : pieces ≠ []) (hcomma : .symbol .comma ∉ follow)
    (hreads : ∀ piece ∈ pieces, Reads p (.symbol .comma :: follow) piece.1 piece.2)
    (hsolid : ∀ piece ∈ pieces, Solid piece.1) :
    Reads (commaSeparated p) follow (separated (pieces.map Prod.fst)) (pieces.map Prod.snd) := by
  rw [commaSeparated_eq]
  exact reads_commaSeparatedUntil _ follow pieces hne hcomma hreads hsolid fun _ _ _ => rfl

/-- A list that is over after its first piece. -/
theorem commaSeparated_single {a : α} {ts rest : List Token} (h : p ts = .ok (a, rest))
    (hrest : HeadIn follow rest) (hcomma : .symbol .comma ∉ follow) :
    commaSeparated p ts = .ok ([a], rest) := by
  have hstop : Runs (listStep (fun _ => false) p) [a] rest [a] rest := by
    apply Runs.stop
    simp [listStep, accept_of_headIn hrest .comma hcomma]
  rw [commaSeparated_eq, commaSeparatedUntil_eq, run_bind, h]
  exact hstop.iterate

end Lists

end SelectTree.Sql.Parser
