import SelectTree.Proofs.QueryReading

namespace SelectTree.Sql.Grammar

open Sql.Parser

/-! Chains of joins, from which a query takes its rows. -/

variable {d : Dialect} {n : Nested}

/-! Factors and the joins after them -/

/-- Reads every factor that is read from at most `length` tokens. -/
def ReadsFactors (d : Dialect) (n : Nested) (length : Nat) (p : Parser Factor) : Prop :=
  ∀ ts f, ts.length ≤ length → ReadsFactor d n ts f → Reads p factorEnds ts f

theorem readsFactors_factorAt {length fuel : Nat} (h : length < fuel) :
    ReadsFactors d n length (factorAt d n fuel) :=
  fun _ _ hlength hread => hread fuel (Nat.lt_of_le_of_lt hlength h)

theorem readsFactors_factor (length : Nat) : ReadsFactors d n length (factor d n) := by
  intro ts f _ hread rest hrest
  exact hread _ (by simp only [List.length_append]; omega) rest hrest

def joinStep (d : Dialect) (n : Nested) (factor : Parser Factor) (first : Factor)
    (read : List Join) : Parser (List Join ⊕ Joined) := do
  match ← join? d n factor with
  | some join => return .inl (join :: read)
  | none => return .inr ⟨first, read.reverse⟩

theorem joinedWith_eq (p : Parser Factor) :
    joinedWith d n p = (do
      let first ← p
      iterate (joinStep d n p first) []) :=
  rfl

/-- The joins are read from the tokens one after another. -/
def Extends (step : List Join → Parser (List Join ⊕ Joined)) (us : List Token)
    (joins : List Join) : Prop :=
  ∀ read rest, HeadIn joinEnds rest → Reaches step read (us ++ rest) (joins.reverse ++ read) rest

theorem extends_nil (step : List Join → Parser (List Join ⊕ Joined)) : Extends step [] [] :=
  fun _ _ _ => .here

theorem Extends.concat {p : Parser Factor} {first : Factor} {us vs : List Token}
    {joins : List Join} {join : Join} (h : Extends (joinStep d n p first) us joins)
    (hread : Reads (join? d n p) joinEnds vs (some join))
    (hvs : vs ≠ []) (hstart : HeadIn joinStarts vs) :
    Extends (joinStep d n p first) (us ++ vs) (joins ++ [join]) := by
  intro read rest hrest
  have hreaches := h read (vs ++ rest) ((hstart.mono (by decide)).append hrest)
  have hpos := List.length_pos_iff.mpr hvs
  have hstep : joinStep d n p first (joins.reverse ++ read) (vs ++ rest) =
      .ok (.inl (join :: (joins.reverse ++ read)), rest) := by
    simp [joinStep, hread rest hrest]
  rw [List.append_assoc, List.reverse_append]
  exact hreaches.trans (.more hstep (by simp; omega) .here)

/-- The tokens of a factor and of the joins after it. -/
structure ReadsJoined (d : Dialect) (depth : Nat) (ts us : List Token) (j : Joined) : Prop where
  solid : Solid ts
  headIn : HeadIn joinStarts us
  first : ∀ m, depth ≤ m → ReadsFactor d (nestedAt d m) ts j.first
  joins : ∀ m, depth ≤ m → ∀ p, ReadsFactors d (nestedAt d m) us.length p →
    Extends (joinStep d (nestedAt d m) p j.first) us j.joins

namespace ReadsJoined

variable {depth : Nat} {ts us vs : List Token} {j : Joined} {f : Factor}

theorem reads (h : ReadsJoined d depth ts us j) {m : Nat} (hm : depth ≤ m) {p : Parser Factor}
    (hp : ReadsFactors d (nestedAt d m) (ts ++ us).length p) :
    Reads (joinedWith d (nestedAt d m) p) sourceEnds (ts ++ us) j := by
  intro rest hrest
  have hends := headIn_joinEnds_of_sourceEnds hrest
  have hus : HeadIn joinEnds (us ++ rest) := (h.headIn.mono (by decide)).append hends
  have hfirst := hp ts j.first (by simp) (h.first m hm) (us ++ rest) (hus.mono (by decide))
  have hjoins := h.joins m hm p fun vs f hlength => hp vs f (by simp; omega)
  have hstop : Runs (joinStep d (nestedAt d m) p j.first) (j.joins.reverse ++ []) rest j rest := by
    apply Runs.stop
    cases j
    simp [joinStep, join?_of_headIn hrest]
  have hiterate := ((hjoins [] rest hends).runs hstop).iterate
  rw [joinedWith_eq, List.append_assoc, run_bind, hfirst]
  exact hiterate

theorem single (hsolid : Solid ts) (hreads : ∀ m, depth ≤ m → ReadsFactor d (nestedAt d m) ts f) :
    ReadsJoined d depth ts [] ⟨f, []⟩ where
  solid := hsolid
  headIn := headIn_nil joinStarts
  first := hreads
  joins := fun m _ p _ => extends_nil (joinStep d (nestedAt d m) p f)

/-- A chain with one more join at its end. -/
theorem concat (h : ReadsJoined d depth ts us j) {join : Join} (hstart : HeadIn joinStarts vs)
    (hvs : vs ≠ [])
    (hread : ∀ m, depth ≤ m → ∀ p, ReadsFactors d (nestedAt d m) (us ++ vs).length p →
      Reads (join? d (nestedAt d m) p) joinEnds vs (some join)) :
    ReadsJoined d depth ts (us ++ vs) ⟨j.first, j.joins ++ [join]⟩ where
  solid := h.solid
  headIn := h.headIn.append hstart
  first := h.first
  joins := by
    intro m hm p hp
    have hjoins := h.joins m hm p fun ts f hlength => hp ts f (by simp; omega)
    exact hjoins.concat (hread m hm p hp) hvs hstart

theorem natural (h : ReadsJoined d depth ts us j)
    (hright : ∀ m, depth ≤ m → ReadsFactor d (nestedAt d m) vs f) :
    ReadsJoined d depth ts (us ++ Keyword.NATURAL.token :: Keyword.JOIN.token :: vs)
      ⟨j.first, j.joins ++ [⟨false, .kind .plain, f, .natural⟩]⟩ := by
  apply h.concat (headIn_cons (by decide) _) (List.cons_ne_nil _ _)
  intro m hm p hp
  have hread := hp vs f (by simp; omega) (hright m hm)
  apply join?_natural
  intro rest hrest
  exact hread rest (hrest.mono (by decide))

theorem solid_append (h : ReadsJoined d depth ts us j) : Solid (ts ++ us) :=
  ⟨by simp [h.solid.1], h.solid.noSpace_append us⟩

end ReadsJoined

/-! Texts of chains -/

/-- A text is cut into the tokens of a factor. -/
structure IsFactor (d : Dialect) (depth : Nat) (text : String) (ts : List Token) (f : Factor) :
    Prop where
  spells : Spells d text ts
  solid : Solid ts
  reads : ∀ m, depth ≤ m → ReadsFactor d (nestedAt d m) ts f

theorem IsFactor.mono {depth : Nat} {text : String} {ts : List Token} {f : Factor}
    (h : IsFactor d depth text ts f) {depth' : Nat} (hdepth : depth ≤ depth') :
    IsFactor d depth' text ts f :=
  ⟨h.spells, h.solid, fun m hm => h.reads m (Nat.le_trans hdepth hm)⟩

/-- A text that goes on after a join is cut into the tokens of a condition. -/
structure IsCondition (d : Dialect) (depth : Nat) (text : String) (us : List Token)
    (condition : Condition) : Prop where
  spells : ∀ {before ts}, Spells d before ts → Spells d (before ++ text) (ts ++ us)
  headIn : HeadIn [Keyword.ON.token, Keyword.USING.token] us
  reads : ∀ m, depth ≤ m → Reads (joinCondition (nestedAt d m) false) joinEnds us condition

/-- A text is cut into the tokens of a factor and of the joins after it. -/
structure IsJoined (d : Dialect) (depth : Nat) (text : String) (ts us : List Token) (j : Joined) :
    Prop where
  spells : Spells d text (ts ++ us)
  solid : Solid ts
  headIn : HeadIn joinStarts us
  first : ∀ m, depth ≤ m → ReadsFactor d (nestedAt d m) ts j.first
  joins : ∀ m, depth ≤ m → ∀ p, ReadsFactors d (nestedAt d m) us.length p →
    Extends (joinStep d (nestedAt d m) p j.first) us j.joins

/-- A chain that may stand in parentheses: no query is read from its tokens. -/
structure IsChain (d : Dialect) (depth : Nat) (text : String) (ts us : List Token) (j : Joined) :
    Prop extends IsJoined d depth text ts us j where
  noQuery : ∀ m, depth < m → ∀ rest, HeadIn joinStarts rest ∨ isNestedFactor j.first = true →
    NoQuery (nestedAt d m) (ts ++ rest)

theorem spells_natural {text text' : String} {ts us : List Token} (h : Spells d text ts)
    (h' : Spells d text' us) : Spells d (text ++ " NATURAL JOIN " ++ text')
      (ts ++ Keyword.NATURAL.token :: Keyword.JOIN.token :: us) := by
  have hwords : Spells d "NATURAL JOIN" [Keyword.NATURAL.token, Keyword.JOIN.token] :=
    spells_keywords .NATURAL [.JOIN] (by decide)
  have hjoin : " NATURAL JOIN " = " " ++ "NATURAL JOIN" ++ " " := rfl
  have hspells := h.space (hwords.space h')
  rw [hjoin]
  simp only [String.append_assoc, List.cons_append, List.nil_append] at hspells ⊢
  exact hspells

namespace IsJoined

variable {depth : Nat} {text text' : String} {ts us vs : List Token} {j : Joined} {f : Factor}

theorem readsJoined (h : IsJoined d depth text ts us j) : ReadsJoined d depth ts us j :=
  ⟨h.solid, h.headIn, h.first, h.joins⟩

theorem reads (h : IsJoined d depth text ts us j) {m : Nat} (hm : depth ≤ m) {p : Parser Factor}
    (hp : ReadsFactors d (nestedAt d m) (ts ++ us).length p) :
    Reads (joinedWith d (nestedAt d m) p) sourceEnds (ts ++ us) j :=
  h.readsJoined.reads hm hp

theorem single (h : IsFactor d depth text ts f) : IsJoined d depth text ts [] ⟨f, []⟩ where
  spells := by simpa using h.spells
  solid := h.solid
  headIn := headIn_nil joinStarts
  first := h.reads
  joins := fun m _ p _ => extends_nil (joinStep d (nestedAt d m) p f)

/-- A chain with one more join at its end. -/
theorem concat (h : IsJoined d depth text ts us j) {whole : String} {join : Join}
    (hspells : Spells d whole (ts ++ (us ++ vs))) (hstart : HeadIn joinStarts vs) (hvs : vs ≠ [])
    (hread : ∀ m, depth ≤ m → ∀ p, ReadsFactors d (nestedAt d m) (us ++ vs).length p →
      Reads (join? d (nestedAt d m) p) joinEnds vs (some join)) :
    IsJoined d depth whole ts (us ++ vs) ⟨j.first, j.joins ++ [join]⟩ := by
  obtain ⟨hsolid, hheadIn, hfirst, hjoins⟩ := h.readsJoined.concat hstart hvs hread
  exact ⟨hspells, hsolid, hheadIn, hfirst, hjoins⟩

theorem natural (h : IsJoined d depth text ts us j) (hright : IsFactor d depth text' vs f) :
    IsJoined d depth (text ++ " NATURAL JOIN " ++ text') ts
      (us ++ Keyword.NATURAL.token :: Keyword.JOIN.token :: vs)
      ⟨j.first, j.joins ++ [⟨false, .kind .plain, f, .natural⟩]⟩ := by
  obtain ⟨hsolid, hheadIn, hfirst, hjoins⟩ := h.readsJoined.natural hright.reads
  refine ⟨?_, hsolid, hheadIn, hfirst, hjoins⟩
  have hspells := spells_natural h.spells hright.spells
  rwa [List.append_assoc] at hspells

theorem join (h : IsJoined d depth text ts us j) (kind : JoinKind)
    (hright : IsFactor d depth text' vs f) {constraint : String} {ws : List Token}
    {condition : Condition} (hcondition : IsCondition d depth constraint ws condition) :
    IsJoined d depth (text ++ " " ++ kind.sql ++ " " ++ text' ++ constraint) ts
      (us ++ (kindTokens kind ++ (vs ++ ws)))
      ⟨j.first, j.joins ++ [⟨false, .kind kind, f, condition⟩]⟩ := by
  apply h.concat
  · have hspells := hcondition.spells (h.spells.space ((spells_kind kind).space hright.spells))
    simp only [String.append_assoc, List.append_assoc] at hspells ⊢
    exact hspells
  · have hkind := headIn_kindTokens kind (vs ++ ws)
    exact hkind.mono (by decide)
  · have hne : kindTokens kind ≠ [] := by cases kind <;> exact nofun
    simp [hne]
  · intro m hm p hp
    have hread := hp vs f (by simp; omega) (hright.reads m hm)
    apply join?_kind kind hread _ (hcondition.reads m hm)
    intro rest hrest
    exact (hcondition.headIn.mono (by decide)).append (hrest.mono (by decide))

theorem solid_append (h : IsJoined d depth text ts us j) : Solid (ts ++ us) :=
  h.readsJoined.solid_append

end IsJoined

namespace IsChain

variable {depth : Nat} {text text' : String} {ts us vs : List Token} {j : Joined} {f : Factor}

theorem single (h : IsFactor d depth text ts f)
    (hquery : ∀ m, depth < m → ∀ rest, HeadIn joinStarts rest ∨ isNestedFactor f = true →
      NoQuery (nestedAt d m) (ts ++ rest)) :
    IsChain d depth text ts [] ⟨f, []⟩ :=
  ⟨.single h, hquery⟩

theorem natural (h : IsChain d depth text ts us j) (hright : IsFactor d depth text' vs f) :
    IsChain d depth (text ++ " NATURAL JOIN " ++ text') ts
      (us ++ Keyword.NATURAL.token :: Keyword.JOIN.token :: vs)
      ⟨j.first, j.joins ++ [⟨false, .kind .plain, f, .natural⟩]⟩ :=
  ⟨h.toIsJoined.natural hright, h.noQuery⟩

theorem join (h : IsChain d depth text ts us j) (kind : JoinKind)
    (hright : IsFactor d depth text' vs f) {constraint : String} {ws : List Token}
    {condition : Condition} (hcondition : IsCondition d depth constraint ws condition) :
    IsChain d depth (text ++ " " ++ kind.sql ++ " " ++ text' ++ constraint) ts
      (us ++ (kindTokens kind ++ (vs ++ ws)))
      ⟨j.first, j.joins ++ [⟨false, .kind kind, f, condition⟩]⟩ :=
  ⟨h.toIsJoined.join kind hright hcondition, h.noQuery⟩

/-- Parentheses hold a chain with a join, or one that begins with parentheses. -/
def Nests (us : List Token) (j : Joined) : Prop :=
  (us ≠ [] ∧ j.joins ≠ []) ∨ isNestedFactor j.first = true

theorem noQuery_of_nests (h : IsChain d depth text ts us j) (hnests : Nests us j) {m : Nat}
    (hm : depth < m) (rest : List Token) : NoQuery (nestedAt d m) (ts ++ us ++ rest) := by
  rw [List.append_assoc]
  apply h.noQuery m hm
  rcases hnests with ⟨hne, -⟩ | hnested
  · obtain ⟨t, us, rfl⟩ := List.exists_cons_of_ne_nil hne
    exact .inl h.headIn
  · exact .inr hnested

/-- A chain in parentheses is a factor. -/
theorem parenthesized (h : IsChain d depth text ts us j) (hnests : Nests us j) :
    IsFactor d (depth + 1) (Text.parenthesized text)
      (.symbol .lparen :: (ts ++ us ++ [.symbol .rparen])) (.nested j none) where
  spells := h.spells.parenthesized
  solid := ⟨List.cons_ne_nil _ _, noSpace_cons rfl _⟩
  reads := by
    intro m hm
    apply readsFactor_nested h.solid_append (h.noQuery_of_nests hnests (by omega))
    · intro fuel hfuel
      exact h.reads (by omega) (readsFactors_factorAt hfuel)
    · rcases hnests with ⟨-, hne⟩ | hnested
      · exact .inl hne
      · exact .inr hnested

/-- Parentheses in parentheses. -/
theorem nested (h : IsChain d depth text ts us j) (hnests : Nests us j) :
    IsChain d (depth + 1) (Text.parenthesized text)
      (.symbol .lparen :: (ts ++ us ++ [.symbol .rparen])) [] ⟨.nested j none, []⟩ := by
  apply single (h.parenthesized hnests)
  intro m hm rest _
  obtain ⟨m, rfl⟩ : ∃ k, m = k + 1 := ⟨m - 1, by omega⟩
  have hspace := h.solid_append.noSpace_append ([.symbol .rparen] ++ rest)
  rw [List.cons_append, List.append_assoc]
  exact noQuery_lparen hspace (h.noQuery_of_nests hnests (by omega) _)

end IsChain

end SelectTree.Sql.Grammar
