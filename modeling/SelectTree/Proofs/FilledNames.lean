import SelectTree.Proofs.TableTokens

namespace SelectTree.Sql

/-! Names with a text. Nowhere in what the grammar reads is a name empty, since no token is a word
without letters. -/

/-! Things that hold names -/

/-- How names are held by the things of a type, if none of the names may be empty. -/
class HoldsNames (α : Type) where
  areFilled : α → Prop

/-- Texts and the like hold no names. -/
instance (priority := low) noNames {α : Type} : HoldsNames α := ⟨fun _ => True⟩

/-- No name in it is empty. That of a thing made of others follows by instances. -/
class Filled {α : Type} [HoldsNames α] (a : α) : Prop where
  holds : HoldsNames.areFilled a

/-- What is known to be filled is. -/
instance filled_val {α : Type} [HoldsNames α] (a : { a : α // Filled a }) : Filled a.val :=
  a.property

theorem filled_iff {α : Type} [HoldsNames α] {a : α} : Filled a ↔ HoldsNames.areFilled a :=
  ⟨fun h => h.holds, fun h => ⟨h⟩⟩

/-- None of the things of the type holds a name. -/
class Nameless (α : Type) [HoldsNames α] : Prop where
  filled : ∀ a : α, Filled a

instance filled_of_nameless {α : Type} [HoldsNames α] [Nameless α] (a : α) : Filled a :=
  Nameless.filled a

instance nameless_of_noNames {α : Type} : @Nameless α noNames :=
  @Nameless.mk α noNames fun _ => @Filled.mk α noNames _ trivial

instance {α : Type} [HoldsNames α] {c : Prop} [Decidable c] {a b : α} [Filled a] [Filled b] :
    Filled (if c then a else b) := by
  split
  all_goals infer_instance

section Containers

variable {α β : Type} [HoldsNames α] [HoldsNames β] {a : α} {b : β} {as more : List α}

instance : HoldsNames (Option α) := ⟨fun read => ∀ a ∈ read, Filled a⟩

instance : HoldsNames (List α) := ⟨fun as => ∀ a ∈ as, Filled a⟩

instance : HoldsNames (α × β) := ⟨fun pair => Filled pair.1 ∧ Filled pair.2⟩

instance : HoldsNames (α ⊕ β) := ⟨Sum.elim Filled Filled⟩

theorem filled_list : Filled as ↔ ∀ a ∈ as, Filled a := filled_iff

theorem filled_some : Filled (some a) ↔ Filled a := by
  simp [filled_iff, HoldsNames.areFilled]

theorem filled_cons : Filled (a :: as) ↔ Filled a ∧ Filled as := by
  simp only [filled_list, List.forall_mem_cons]

theorem filled_append : Filled (as ++ more) ↔ Filled as ∧ Filled more := by
  simp only [filled_list, List.forall_mem_append]

theorem filled_pair : Filled (a, b) ↔ Filled a ∧ Filled b := filled_iff

instance filled_none : Filled (none : Option α) :=
  ⟨fun a h => absurd h (Option.not_mem_none a)⟩

instance [h : Filled a] : Filled (some a) := filled_some.mpr h

instance {read : Option α} [h : Filled read] [Filled a] : Filled (read.getD a) := by
  cases read with
  | none => assumption
  | some b => exact filled_some.mp h

instance filled_nil : Filled ([] : List α) := ⟨nofun⟩

instance [ha : Filled a] [has : Filled as] : Filled (a :: as) := filled_cons.mpr ⟨ha, has⟩

instance [has : Filled as] [hmore : Filled more] : Filled (as ++ more) :=
  filled_append.mpr ⟨has, hmore⟩

instance [h : Filled as] : Filled as.reverse :=
  filled_list.mpr fun a ha => filled_list.mp h a (List.mem_reverse.mp ha)

instance [ha : Filled a] [hb : Filled b] : Filled (a, b) := filled_pair.mpr ⟨ha, hb⟩

instance [h : Filled a] : Filled (.inl a : α ⊕ β) := ⟨h⟩

instance [h : Filled b] : Filled (.inr b : α ⊕ β) := ⟨h⟩

instance [Nameless α] : Nameless (Option α) := ⟨fun _ => ⟨fun _ _ => inferInstance⟩⟩

instance [Nameless α] : Nameless (List α) := ⟨fun _ => ⟨fun _ _ => inferInstance⟩⟩

instance [Nameless α] [Nameless β] : Nameless (α × β) :=
  ⟨fun _ => ⟨inferInstance, inferInstance⟩⟩

instance [Nameless α] [Nameless β] : Nameless (α ⊕ β) where
  filled
    | .inl _ => inferInstance
    | .inr _ => inferInstance

end Containers

instance : HoldsNames Name := ⟨fun name => name.sql ≠ ""⟩

instance : HoldsNames Token := ⟨fun t => ∀ name, Grammar.nameOfToken? t = some name → Filled name⟩

theorem filled_name {name : Name} : Filled name ↔ name.sql ≠ "" := filled_iff

instance filled_quoted (quote : Char) (text : String) : Filled (⟨text, some quote⟩ : Name) :=
  filled_name.mpr (sql_quoted_ne quote text)

theorem filled_nameOfToken? {t : Token} {name : Name} (ht : Filled t)
    (h : Grammar.nameOfToken? t = some name) : Filled name :=
  ht.holds name h

instance filled_ofWord {w : Word} [h : Filled (Token.word w)] : Filled (Name.ofWord w) :=
  filled_nameOfToken? h rfl

end SelectTree.Sql

namespace SelectTree.Sql.Parser

/-! Parsers that keep names filled -/

section

variable {α β : Type} [HoldsNames α] [HoldsNames β] {p q : Parser α} {f : α → Parser β}

/-- Of filled tokens, the parser reads things of a kind, and what it leaves is filled too. -/
def Keeps {α : Type} (p : Parser α) (P : α → Prop) : Prop :=
  ∀ ts a rest, Filled ts → p ts = .ok (a, rest) → P a ∧ Filled rest

/-- What the parser reads of filled tokens is filled. That of a parser which is made of others
follows by instances. -/
class Fills (p : Parser α) : Prop where
  keeps : Keeps p Filled

theorem Keeps.bind {α β : Type} {p : Parser α} {f : α → Parser β} {P : α → Prop} {Q : β → Prop}
    (hp : Keeps p P) (hf : ∀ a, P a → Keeps (f a) Q) : Keeps (p >>= f) Q := by
  intro ts b rest hts h
  obtain ⟨a, left, ha, hb⟩ := run_bind_eq_ok_iff.mp h
  obtain ⟨hread, hleft⟩ := hp ts a left hts ha
  exact hf a hread left b rest hleft hb

theorem keeps_pure {α : Type} {a : α} {P : α → Prop} (h : P a) : Keeps (pure a : Parser α) P := by
  rintro ts _ _ hts ⟨⟩
  exact ⟨h, hts⟩

theorem fills_bind (hp : Fills p) (hf : ∀ a, Filled a → Fills (f a)) : Fills (p >>= f) :=
  ⟨hp.keeps.bind fun a ha => (hf a ha).keeps⟩

instance [Fills p] [hf : ∀ a : { a : α // Filled a }, Fills (f a.val)] : Fills (p >>= f) :=
  fills_bind inferInstance fun a ha => hf ⟨a, ha⟩

/-- What follows may depend on whether something was read. -/
instance (priority := low) {p : Parser (Option α)} {f : Option α → Parser β} [Fills p]
    [hsome : ∀ a : { a : α // Filled a }, Fills (f (some a.val))] [hnone : Fills (f none)] :
    Fills (p >>= f) := by
  refine fills_bind inferInstance fun read hread => ?_
  cases read with
  | some a => exact hsome ⟨a, filled_some.mp hread⟩
  | none => exact hnone

instance fills_pure (a : α) [h : Filled a] : Fills (pure a : Parser α) :=
  ⟨keeps_pure h⟩

theorem fills_ite {c : Prop} [Decidable c] (hp : Fills p) (hq : Fills q) :
    Fills (if c then p else q) := by
  split
  · exact hp
  · exact hq

instance {c : Prop} [Decidable c] [Fills p] [Fills q] : Fills (if c then p else q) :=
  fills_ite inferInstance inferInstance

/-- Both branches may go on in the same way. -/
theorem keeps_branch {β : Type} {f : α → Parser β} {c : Prop} [Decidable c] {Q : β → Prop}
    [Fills p] [Fills q] (hf : ∀ a, Filled a → Keeps (f a) Q) :
    Keeps (if c then p >>= f else q >>= f) Q := by
  split
  · exact Keeps.bind Fills.keeps hf
  · exact Keeps.bind Fills.keeps hf

theorem fills_branch {c : Prop} [Decidable c] [Fills p] [Fills q]
    (hf : ∀ a, Filled a → Fills (f a)) : Fills (if c then p >>= f else q >>= f) :=
  ⟨keeps_branch fun a ha => (hf a ha).keeps⟩

instance (priority := high) {c : Prop} [Decidable c] [Fills p] [Fills q]
    [hf : ∀ a : { a : α // Filled a }, Fills (f a.val)] :
    Fills (if c then p >>= f else q >>= f) :=
  fills_branch fun a ha => hf ⟨a, ha⟩

instance fills_fail (cause : Cause) : Fills (fail cause : Parser α) := by
  constructor
  rintro ts _ _ - ⟨⟩

instance fills_expected (what : Expectation) : Fills (expected what : Parser α) :=
  fills_fail _

instance {f : α → β} [Fills p] [hf : ∀ a : { a : α // Filled a }, Filled (f a.val)] :
    Fills (f <$> p) :=
  fills_bind inferInstance fun a ha => @fills_pure _ _ (f a) (hf ⟨a, ha⟩)

instance {q : Unit → Parser β} [Fills p] [hq : Fills (q ())] : Fills (SeqRight.seqRight p q) :=
  fills_bind inferInstance fun _ _ => hq

/-- The parser that is offered, if there is one, reads what is filled. -/
class Offers (offered : Option (Parser α)) : Prop where
  fills : ∀ p, offered = some p → Fills p

instance : Offers (none : Option (Parser α)) := ⟨nofun⟩

instance [hp : Fills p] : Offers (some p) := ⟨fun _ h => Option.some.inj h ▸ hp⟩

theorem offers_ite {c : Prop} [Decidable c] {offered others : Option (Parser α)}
    (h : Offers offered) (hothers : Offers others) : Offers (if c then offered else others) := by
  split
  · exact h
  · exact hothers

instance {c : Prop} [Decidable c] {offered others : Option (Parser α)} [Offers offered]
    [Offers others] : Offers (if c then offered else others) :=
  offers_ite inferInstance inferInstance

/-! Tokens -/

theorem filled_after {t : Token} {ts : List Token} (h : Filled ts) : Filled (after t ts) :=
  filled_list.mpr fun u hu => filled_list.mp h u ((after_sublist t ts).mem hu)

instance fills_peek : Fills peek := by
  constructor
  rintro ts _ _ hts ⟨⟩
  refine ⟨?_, hts⟩
  cases ts with
  | nil => exact filled_none
  | cons t ts => exact filled_some.mpr (filled_cons.mp hts).1

instance fills_rest : Fills rest := by
  constructor
  rintro ts _ _ hts ⟨⟩
  exact ⟨hts, hts⟩

/-- A parser may be run on other tokens, such as those that were read before. -/
instance fills_elsewhere {start : List Token} [hp : Fills p] [h : Filled start] :
    Fills fun _ => p start :=
  ⟨fun _ a rest _ hread => hp.keeps start a rest h hread⟩

/-- A parser may have as much fuel as there are tokens. -/
theorem fills_withFuel (f : Nat → Parser α) [∀ fuel, Fills (f fuel)] :
    Fills fun ts => f (ts.length + 1) ts :=
  ⟨fun ts => (inferInstance : Fills (f (ts.length + 1))).keeps ts⟩

instance fills_refused (failure : List Token → Failure) :
    Fills (fun ts => .error (failure ts) : Parser α) := by
  constructor
  rintro ts _ _ - ⟨⟩

instance fills_next (what : Expectation) : Fills (next what) := by
  constructor
  intro ts t rest hts h
  cases ts with
  | nil => cases h
  | cons t ts =>
      cases h
      exact ⟨(filled_cons.mp hts).1, filled_after (filled_cons.mp hts).2⟩

theorem fills_token {what : Expectation} {f : Token → Option α}
    (hf : ∀ t a, Filled t → f t = some a → Filled a) : Fills (token what f) := by
  constructor
  intro ts a rest hts h
  obtain ⟨t, us, rfl, ha, rfl⟩ := token_eq_ok h
  obtain ⟨ht, hus⟩ := filled_cons.mp hts
  exact ⟨hf t a ht ha, filled_after hus⟩

instance [Nameless α] (what : Expectation) (f : Token → Option α) : Fills (token what f) :=
  fills_token fun _ _ _ _ => inferInstance

theorem fills_acceptToken {f : Token → Option α}
    (hf : ∀ t a, Filled t → f t = some a → Filled a) : Fills (acceptToken f) := by
  constructor
  intro ts read rest hts h
  cases ts with
  | nil =>
      cases h
      exact ⟨filled_none, hts⟩
  | cons t us =>
      obtain ⟨ht, hus⟩ := filled_cons.mp hts
      cases hread : f t with
      | some a =>
          simp only [acceptToken, hread, Except.ok.injEq, Prod.mk.injEq] at h
          obtain ⟨rfl, rfl⟩ := h
          exact ⟨filled_some.mpr (hf t a ht hread), filled_after hus⟩
      | none =>
          simp only [acceptToken, hread, Except.ok.injEq, Prod.mk.injEq] at h
          obtain ⟨rfl, rfl⟩ := h
          exact ⟨filled_none, hts⟩

instance [Nameless α] (f : Token → Option α) : Fills (acceptToken f) :=
  fills_acceptToken fun _ _ _ _ => inferInstance

/-- Parsers that read no names at all leave some of the tokens. -/
theorem fills_of_subset [Nameless α] (hp : ∀ ts a rest, p ts = .ok (a, rest) → rest ⊆ ts) :
    Fills p :=
  ⟨fun ts a rest hts h =>
    ⟨inferInstance, filled_list.mpr fun t ht => filled_list.mp hts t (hp ts a rest h ht)⟩⟩

end

section Words

instance fills_skipToken : Fills skipToken := by
  refine fills_of_subset ?_
  rintro ts _ _ ⟨⟩
  exact fun t ht => List.mem_of_mem_tail ht

theorem after_subset (t : Token) (ts : List Token) : after t ts ⊆ t :: ts :=
  List.subset_cons_of_subset t (after_sublist t ts).subset

instance fills_accept (s : Symbol) : Fills (accept s) := by
  refine fills_of_subset fun ts a rest h => ?_
  unfold accept at h
  split at h
  · cases h
    exact List.Subset.refl _
  · split at h
    · cases h
      exact after_subset _ _
    · cases h
      exact List.Subset.refl _

theorem stripKeywords?_subset {ks : List Keyword} {ts rest : List Token}
    (h : stripKeywords? ks ts = some rest) : rest ⊆ ts := by
  induction ks generalizing ts with
  | nil =>
      obtain rfl := Option.some.inj h
      exact List.Subset.refl _
  | cons k ks ih =>
      cases ts with
      | nil => cases h
      | cons t ts =>
          unfold stripKeywords? at h
          split at h
          · exact List.subset_cons_of_subset t (ih h)
          · cases h

theorem stripWords?_subset {ws : List String} {ts rest : List Token}
    (h : stripWords? ws ts = some rest) : rest ⊆ ts := by
  induction ws generalizing ts with
  | nil =>
      obtain rfl := Option.some.inj h
      exact List.Subset.refl _
  | cons w ws ih =>
      cases ts with
      | nil => cases h
      | cons t ts =>
          unfold stripWords? at h
          split at h
          · exact List.subset_cons_of_subset t (ih h)
          · cases h

instance fills_acceptKeyword (k : Keyword) : Fills (acceptKeyword k) := by
  refine fills_of_subset fun ts a rest h => ?_
  unfold acceptKeyword at h
  split at h
  · cases h
    exact List.Subset.refl _
  · split at h
    · cases h
      exact List.subset_cons_self _ _
    · cases h
      exact List.Subset.refl _

instance fills_acceptKeywords (ks : List Keyword) : Fills (acceptKeywords ks) := by
  refine fills_of_subset fun ts a rest h => ?_
  unfold acceptKeywords at h
  split at h
  · rename_i hstrip
    cases h
    exact stripKeywords?_subset hstrip
  · cases h
    exact List.Subset.refl _

instance fills_acceptOneOf (ks : List Keyword) : Fills (acceptOneOf ks) := by
  refine fills_of_subset fun ts a rest h => ?_
  unfold acceptOneOf at h
  split at h
  · cases h
    exact List.Subset.refl _
  · split at h
    · split at h
      · cases h
        exact List.subset_cons_self _ _
      · cases h
        exact List.Subset.refl _
    · cases h
      exact List.Subset.refl _

instance fills_acceptWord (spelling : String) : Fills (acceptWord spelling) := by
  refine fills_of_subset fun ts a rest h => ?_
  unfold acceptWord at h
  split at h
  · cases h
    exact List.Subset.refl _
  · split at h
    · cases h
      exact List.subset_cons_self _ _
    · cases h
      exact List.Subset.refl _

instance fills_acceptAnyOf (spellings : List String) : Fills (acceptAnyOf spellings) := by
  refine fills_of_subset fun ts a rest h => ?_
  unfold acceptAnyOf at h
  split at h
  · cases h
    exact List.Subset.refl _
  · split at h
    · split at h
      · cases h
        exact List.subset_cons_self _ _
      · cases h
        exact List.Subset.refl _
    · cases h
      exact List.Subset.refl _

instance fills_acceptPhrase (phrase : String) : Fills (acceptPhrase phrase) := by
  refine fills_of_subset fun ts a rest h => ?_
  unfold acceptPhrase at h
  split at h
  · rename_i hstrip
    cases h
    exact stripWords?_subset hstrip
  · cases h
    exact List.Subset.refl _

theorem fills_ahead (f : List Token → Bool) : Fills fun ts => .ok (f ts, ts) := by
  constructor
  rintro ts _ _ hts ⟨⟩
  exact ⟨inferInstance, hts⟩

instance fills_peekKeyword (k : Keyword) : Fills (peekKeyword k) :=
  fills_ahead _

instance fills_peekSymbol (s : Symbol) : Fills (peekSymbol s) :=
  fills_ahead _

instance fills_peekAny (f : Token → Bool) : Fills (peekAny f) :=
  fills_ahead _

instance fills_peekWord (spelling : String) : Fills (peekWord spelling) :=
  fills_ahead _

instance fills_peekPhrase (phrase : String) : Fills (peekPhrase phrase) :=
  fills_ahead _

end Words

-- A parser needs as many instances as it has steps.
set_option synthInstance.maxSize 1000

section Loops

variable {α β : Type} [HoldsNames α] [HoldsNames β] {p q : Parser α}

theorem keeps_iterate {α β : Type} {step : α → Parser (α ⊕ β)} {I : α → Prop} {Q : β → Prop}
    (hstep : ∀ a, I a → Keeps (step a) (Sum.elim I Q)) {a : α} (ha : I a) :
    Keeps (iterate step a) Q := by
  have hloop : ∀ fuel a, I a → Keeps (iterateFrom step fuel a) Q := by
    intro fuel
    induction fuel with
    | zero => rintro a - ts _ _ - ⟨⟩
    | succ fuel ih =>
        intro a ha
        unfold iterateFrom
        refine Keeps.bind (hstep a ha) fun outcome houtcome => ?_
        cases outcome with
        | inl next => exact ih next houtcome
        | inr b => exact keeps_pure houtcome
  exact fun ts => hloop (ts.length + 1) a ha ts

theorem fills_iterate {step : α → Parser (α ⊕ β)} {a : α}
    (hstep : ∀ a, Filled a → Fills (step a)) (ha : Filled a) : Fills (iterate step a) := by
  refine ⟨keeps_iterate (fun a ha ts read rest hts h => ?_) ha⟩
  obtain ⟨hread, hrest⟩ := (hstep a ha).keeps ts read rest hts h
  exact ⟨hread.holds, hrest⟩

instance {step : α → Parser (α ⊕ β)} (a : α) [Filled a]
    [hstep : ∀ a : { a : α // Filled a }, Fills (step a.val)] : Fills (iterate step a) :=
  fills_iterate (fun a ha => hstep ⟨a, ha⟩) inferInstance

instance fills_attempt [Fills p] : Fills (attempt p) := by
  constructor
  intro ts read rest hts h
  rcases attempt_eq_ok h with ⟨a, rfl, hread⟩ | ⟨rfl, rfl⟩
  · exact (Fills.keeps ts a rest hts hread).imp_left filled_some.mpr
  · exact ⟨filled_none, hts⟩

instance fills_optionally {condition : Parser Bool} [Fills condition] [Fills p] :
    Fills (optionally condition p) := by
  unfold optionally
  infer_instance

instance fills_whenever {condition : Parser Bool} (allowed : Bool) [Fills condition] :
    Fills (whenever allowed condition) := by
  unfold whenever
  infer_instance

instance fills_expect (s : Symbol) : Fills (expect s) := by
  unfold expect
  infer_instance

instance fills_expectKeyword (k : Keyword) : Fills (expectKeyword k) := by
  unfold expectKeyword
  infer_instance

instance fills_expectKeywords (ks : List Keyword) : Fills (expectKeywords ks) := by
  induction ks with
  | nil => exact fills_pure _
  | cons k ks ih =>
      unfold expectKeywords
      infer_instance

instance fills_expectOneOf (ks : List Keyword) : Fills (expectOneOf ks) := by
  unfold expectOneOf
  infer_instance

instance fills_expectWord (spelling : String) : Fills (expectWord spelling) := by
  unfold expectWord
  infer_instance

instance fills_expectAnyOf (spellings : List String) : Fills (expectAnyOf spellings) := by
  unfold expectAnyOf
  infer_instance

instance fills_expectPhrase (phrase : String) : Fills (expectPhrase phrase) := by
  unfold expectPhrase
  induction Text.words phrase with
  | nil => exact fills_pure _
  | cons word words ih => exact fills_bind (fills_expectWord word) fun _ _ => ih

instance fills_phrasePart (phrase : String) : Fills (phrasePart phrase) := by
  unfold phrasePart
  infer_instance

instance fills_acceptPhraseOf (phrases : List String) : Fills (acceptPhraseOf phrases) := by
  induction phrases with
  | nil => exact fills_pure _
  | cons phrase phrases ih =>
      unfold acceptPhraseOf
      infer_instance

instance fills_expectPhraseOf (what : Expectation) (phrases : List String) :
    Fills (expectPhraseOf what phrases) := by
  unfold expectPhraseOf
  infer_instance

instance fills_clauseAfter {p : Parser String} (phrase : String) [Fills p] :
    Fills (clauseAfter phrase p) := by
  unfold clauseAfter
  infer_instance

instance fills_commaSeparatedUntil (atEnd : List Token → Bool) [Fills p] :
    Fills (commaSeparatedUntil atEnd p) := by
  unfold commaSeparatedUntil
  infer_instance

instance fills_commaSeparated [Fills p] : Fills (commaSeparated p) := by
  unfold commaSeparated
  infer_instance

instance fills_commaSeparatedBefore (closing : Symbol) [Fills p] :
    Fills (commaSeparatedBefore closing p) := by
  unfold commaSeparatedBefore
  infer_instance

instance fills_listedTexts {p : Parser String} [Fills p] : Fills (listedTexts p) := by
  unfold listedTexts
  infer_instance

instance fills_parenthesized [Fills p] : Fills (parenthesized p) := by
  unfold parenthesized
  infer_instance

instance fills_tupleText {p : Parser String} [Fills p] : Fills (tupleText p) := by
  unfold tupleText
  infer_instance

instance fills_many {p : Parser (Option α)} [Fills p] : Fills (many p) := by
  unfold many
  infer_instance

end Loops

end SelectTree.Sql.Parser
