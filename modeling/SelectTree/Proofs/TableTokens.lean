import SelectTree.Proofs.NameTokens
import SelectTree.Proofs.Readback

namespace SelectTree.Sql.Parser

/-! What holds of everything that a parser reads. -/

section

variable {α β : Type} {p : Parser α} {f : α → Parser β} {ts rest : List Token}

theorem run_bind_eq_ok_iff {b : β} :
    (p >>= f) ts = .ok (b, rest) ↔ ∃ a left, p ts = .ok (a, left) ∧ f a left = .ok (b, rest) := by
  rw [run_bind]
  cases p ts with
  | error failure => exact ⟨nofun, nofun⟩
  | ok read =>
      obtain ⟨a, left⟩ := read
      exact ⟨fun h => ⟨a, left, rfl, h⟩, fun ⟨_, _, ha, h⟩ => by cases ha; exact h⟩

theorem run_pure_eq_ok {a b : α} (h : (pure a : Parser α) ts = .ok (b, rest)) :
    a = b ∧ ts = rest :=
  Prod.mk.inj (Except.ok.inj h)

theorem run_bind_of_ok {a : α} {b : β} {left : List Token} (hp : p ts = .ok (a, left))
    (h : (p >>= f) ts = .ok (b, rest)) : f a left = .ok (b, rest) := by
  rwa [run_bind, hp] at h

/-- Holds of whatever the parser reads, from any tokens. -/
def Yields (p : Parser α) (P : α → Prop) : Prop :=
  ∀ ts a rest, p ts = .ok (a, rest) → P a

variable {P : β → Prop}

theorem Yields.of_ok {p : Parser α} {P : α → Prop} {a : α} (hp : Yields p P)
    (h : p ts = .ok (a, rest)) : P a :=
  hp ts a rest h

theorem yields_pure {b : β} (h : P b) : Yields (pure b : Parser β) P := by
  rintro ts _ _ ⟨⟩
  exact h

theorem yields_fail (cause : Cause) : Yields (fail cause : Parser β) P := by
  rintro ts _ _ ⟨⟩

theorem Yields.bind {Q : α → Prop} (hp : Yields p Q) (h : ∀ a, Q a → Yields (f a) P) :
    Yields (p >>= f) P := by
  intro ts b rest hread
  obtain ⟨a, left, ha, hb⟩ := run_bind_eq_ok_iff.mp hread
  exact h a (hp ts a left ha) left b rest hb

theorem yields_bind (h : ∀ a, Yields (f a) P) : Yields (p >>= f) P :=
  Yields.bind (Q := fun _ => True) (fun _ _ _ _ => trivial) fun a _ => h a

theorem yields_ite {c : Prop} [Decidable c] {p q : Parser β} (hp : Yields p P) (hq : Yields q P) :
    Yields (if c then p else q) P := by
  split
  · exact hp
  · exact hq

/-- What a step keeps, a loop keeps. -/
theorem yields_iterateFrom {step : α → Parser (α ⊕ β)} {I : α → Prop}
    (hstep : ∀ a, I a → Yields (step a) (Sum.elim I P)) (fuel : Nat) {a : α} (ha : I a) :
    Yields (iterateFrom step fuel a) P := by
  induction fuel generalizing a with
  | zero => exact yields_fail .nestingLimit
  | succ fuel ih =>
      refine (hstep a ha).bind ?_
      rintro (next | b) hnext
      · exact ih hnext
      · exact yields_pure hnext

theorem yields_iterate {step : α → Parser (α ⊕ β)} {I : α → Prop}
    (hstep : ∀ a, I a → Yields (step a) (Sum.elim I P)) {a : α} (ha : I a) :
    Yields (iterate step a) P :=
  fun ts => yields_iterateFrom hstep (ts.length + 1) ha ts

/-- A loop that puts each thing that it reads in front answers with all of them in order. -/
theorem yields_gathered {step : List α → Parser (List α ⊕ List α)}
    (hstep : ∀ read, Yields (step read)
      (Sum.elim (fun longer => ∃ next, longer = next :: read) (· = read.reverse))) (first : α) :
    Yields (iterate step [first]) fun as => ∃ more, as = first :: more := by
  refine yields_iterate (I := fun read => ∃ more, read.reverse = first :: more) ?_ ⟨[], rfl⟩
  rintro read ⟨more, hread⟩ ts (longer | as) rest h
  · obtain ⟨next, rfl⟩ := (hstep read).of_ok h
    exact ⟨more ++ [next], by simp [hread]⟩
  · exact ⟨more, ((hstep read).of_ok h).trans hread⟩

theorem commaSeparated_eq_ok {as : List α} (h : commaSeparated p ts = .ok (as, rest)) :
    ∃ a left more, p ts = .ok (a, left) ∧ as = a :: more := by
  rw [commaSeparated_eq, commaSeparatedUntil_eq] at h
  obtain ⟨a, left, ha, hmore⟩ := run_bind_eq_ok_iff.mp h
  have hstep : ∀ read, Yields (listStep (fun _ => false) p read)
      (Sum.elim (fun longer => ∃ next, longer = next :: read) (· = read.reverse)) := by
    refine fun read => yields_bind fun goesOn => ?_
    split
    · exact yields_bind fun _ => yields_bind fun next => yields_pure ⟨next, rfl⟩
    · exact yields_pure rfl
  obtain ⟨more, has⟩ := (yields_gathered hstep a).of_ok hmore
  exact ⟨a, left, more, ha, has⟩

theorem token_eq_ok {what : Expectation} {f : Token → Option α} {a : α}
    (h : token what f ts = .ok (a, rest)) :
    ∃ t us, ts = t :: us ∧ f t = some a ∧ rest = after t us := by
  cases ts with
  | nil => cases h
  | cons t us =>
      refine ⟨t, us, rfl, ?_⟩
      cases hf : f t with
      | none => simp [token, hf] at h
      | some b =>
          simp only [token, hf, Except.ok.injEq, Prod.mk.injEq] at h
          exact ⟨by rw [h.1], h.2.symm⟩

theorem after_sublist (t : Token) (ts : List Token) : (after t ts).Sublist ts := by
  unfold after
  split
  · exact List.sublist_cons_self _ _
  · exact List.Sublist.refl _

/-- A choice by the next word goes on after it, or where another word stands. -/
theorem acceptKeyword_cases {k : Keyword} {p q : Parser α} {a : α}
    (h : (do if ← acceptKeyword k then p else q) ts = .ok (a, rest)) :
    (∃ left, p left = .ok (a, rest)) ∨
      (∀ t ∈ ts.head?, t.keyword ≠ some k) ∧ q ts = .ok (a, rest) := by
  cases ts with
  | nil => exact .inr ⟨nofun, h⟩
  | cons t us =>
      by_cases hk : t.keyword = some k
      · left
        refine ⟨us, ?_⟩
        simpa [acceptKeyword, hk] using h
      · right
        refine ⟨?_, by simpa [acceptKeyword, hk] using h⟩
        rintro _ ⟨⟩
        exact hk

theorem accept_cases {s : Symbol} {p q : Parser α} {a : α}
    (h : (do if ← accept s then p else q) ts = .ok (a, rest)) :
    (∃ us, ts = .symbol s :: us ∧ p (after (.symbol s) us) = .ok (a, rest)) ∨
      q ts = .ok (a, rest) := by
  cases ts with
  | nil => exact .inr h
  | cons t us =>
      by_cases ht : t = .symbol s
      · subst ht
        exact .inl ⟨us, rfl, by simpa [accept] using h⟩
      · exact .inr (by simpa [accept, ht] using h)

/-- As `acceptKeyword_cases`, of a word that says something in some dialects only. -/
theorem whenever_cases {allowed : Bool} {k : Keyword} {p q : Parser α} {a : α}
    (h : (do if ← whenever allowed (acceptKeyword k) then p else q) ts = .ok (a, rest)) :
    (∃ left, p left = .ok (a, rest)) ∨
      (allowed = true → ∀ t ∈ ts.head?, t.keyword ≠ some k) ∧ q ts = .ok (a, rest) := by
  cases allowed with
  | false => exact .inr ⟨nofun, h⟩
  | true => exact (acceptKeyword_cases h).imp_right fun ⟨hkeyword, h⟩ => ⟨fun _ => hkeyword, h⟩

theorem attempt_eq_ok {read : Option α} (h : attempt p ts = .ok (read, rest)) :
    (∃ a, read = some a ∧ p ts = .ok (a, rest)) ∨ read = none ∧ rest = ts := by
  unfold attempt at h
  split at h
  · rename_i a left hp
    cases h
    exact .inl ⟨a, rfl, hp⟩
  · cases h
  · cases h
    exact .inr ⟨rfl, rfl⟩

end

end SelectTree.Sql.Parser

namespace SelectTree.Sql.Grammar

open Sql.Parser

/-! Tables that stand alone. The tokens of such a table are those of its name. -/

variable {d : Dialect} {n : Nested} {name : String} {ts rest : List Token}

/-! Factors -/

/-- A table that goes by its own name only. -/
def IsLoneTable (name : String) (f : Factor) : Prop :=
  f.source = .ok (.table name none)

theorem IsLoneTable.eq_table {f : Factor} (h : IsLoneTable name f) :
    ∃ path partitions ordinality hints,
      f = .table path partitions none ordinality none hints ∧ Name.pathSql path = name := by
  unfold IsLoneTable Factor.source at h
  split at h
  · rename_i path partitions ordinality asName hints
    obtain ⟨hpath, halias⟩ := Source.table.inj (Except.ok.inj h)
    obtain rfl := Option.map_eq_none_iff.mp halias
    exact ⟨path, partitions, ordinality, hints, rfl, hpath⟩
  · obtain ⟨tree, -, heq⟩ := bind_eq_ok_iff.mp h
    cases heq
  · obtain ⟨tree, -, heq⟩ := bind_eq_ok_iff.mp h
    cases heq
  · cases h

theorem not_isLoneTable {f : Factor}
    (h : ∀ path partitions ordinality hints, f ≠ .table path partitions none ordinality none hints) :
    ¬ IsLoneTable name f := by
  intro hlone
  obtain ⟨path, partitions, ordinality, hints, heq, -⟩ := hlone.eq_table
  exact h path partitions ordinality hints heq

theorem yields_derived (lateral : Bool) : Yields (derived d n lateral) (¬ IsLoneTable name ·) :=
  yields_bind fun _ => yields_bind fun _ => yields_bind fun _ =>
    yields_pure (not_isLoneTable nofun)

/-- No tree holds what is said by a factor. -/
def Treeless (f : Factor) : Prop :=
  ∀ tree, f.source ≠ .ok tree

theorem treeless_other (before : String) (asName : Option Alias) (after : String) :
    Treeless (.other before asName after) :=
  nofun

theorem treeless_lateral (query : Query) (asName : Option Alias) :
    Treeless (.derived true query asName) :=
  nofun

theorem yields_lateralFactor : Yields (lateralFactor d n) Treeless := by
  refine yields_bind fun isQuery => ?_
  split
  · exact yields_bind fun _ => yields_bind fun _ => yields_bind fun _ =>
      yields_pure (treeless_lateral _ _)
  · exact yields_bind fun _ => yields_bind fun _ => yields_bind fun _ => yields_bind fun _ =>
      yields_pure (treeless_other _ _ _)

theorem yields_functionFactor : Yields (functionFactor d n) Treeless :=
  yields_bind fun _ => yields_bind fun _ => yields_pure (treeless_other _ _ _)

/-- Rows are no selection. -/
theorem yields_valuesFactor : Yields (valuesFactor d n) Treeless := by
  refine yields_bind fun _ => yields_bind fun _ => yields_pure ?_
  intro tree h
  obtain ⟨select, hselect, -⟩ := bind_eq_ok_iff.mp h
  cases hselect

theorem yields_unnestFactor : Yields (unnestFactor d n) Treeless := by
  refine yields_bind fun _ => yields_bind fun _ => yields_bind fun _ => yields_bind fun _ => ?_
  split <;>
  · refine yields_bind fun _ => ?_
    dsimp only
    split <;> exact yields_bind fun _ => yields_pure (treeless_other _ _ _)

theorem yields_jsonTable : Yields (jsonTable d n) Treeless :=
  yields_bind fun _ => yields_bind fun _ => yields_bind fun _ => yields_bind fun _ =>
    yields_bind fun _ => yields_bind fun _ => yields_bind fun _ =>
      yields_pure (treeless_other _ _ _)

theorem yields_openedJson : Yields (openedJson d n) Treeless :=
  yields_bind fun _ => yields_bind fun _ => yields_bind fun _ => yields_bind fun _ =>
    yields_bind fun _ => yields_pure (treeless_other _ _ _)

theorem yields_xmlTable : Yields (xmlTable d n) Treeless :=
  yields_bind fun _ => yields_bind fun _ => yields_bind fun _ => yields_bind fun _ =>
    yields_bind fun _ => yields_bind fun _ => yields_bind fun _ =>
      yields_pure (treeless_other _ _ _)

theorem yields_documentTable? : Yields (documentTable? d n) fun read => ∀ f ∈ read, Treeless f := by
  have hopened : ∀ {p : Parser Factor}, Yields p Treeless →
      Yields (documentTable?.opened p) fun read => ∀ f ∈ read, Treeless f := by
    intro p hp
    refine yields_bind fun _ => yields_bind fun _ => hp.bind fun f hf => yields_pure ?_
    rintro _ ⟨⟩
    exact hf
  refine yields_bind fun ts => ?_
  split
  · split
    · exact hopened yields_jsonTable
    · exact hopened yields_openedJson
    · exact hopened yields_xmlTable
    · exact yields_pure nofun
  · exact yields_pure nofun

/-! Tables -/

/-- No tree holds a pivot. -/
theorem yields_pivoted (interval : Parser Expr) (f : Factor) :
    Yields (pivoted d n interval f) fun read => Treeless read ∨ read = f := by
  refine yields_iterate (I := fun read => Treeless read ∨ read = f) ?_ (.inr rfl)
  intro read hread
  refine yields_bind fun k => ?_
  dsimp only
  split
  · exact yields_pure hread
  · split <;>
      exact yields_bind fun _ => yields_bind fun _ => yields_pure (.inl (treeless_other _ _ _))

theorem yields_matched (f : Factor) : Yields (matched d n f) Treeless :=
  yields_bind fun _ => yields_bind fun _ => yields_pure (treeless_other _ _ _)

/-- What is read of a qualified name after its first part stands in the tokens in this order. -/
theorem pathSteps_eq_ok {fuel : Nat} {read names : List Name}
    (h : iterateFrom pathStep fuel read ts = .ok (names, rest)) :
    ∃ us more, Continues us more ∧ us.Sublist ts ∧ names = read.reverse ++ more := by
  induction fuel generalizing read ts with
  | zero => cases h
  | succ fuel ih =>
      obtain ⟨outcome, left, hstep, h⟩ := run_bind_eq_ok_iff.mp h
      rcases accept_cases hstep with ⟨us, rfl, hpart⟩ | hstop
      · obtain ⟨next, left', hname, hpart⟩ := run_bind_eq_ok_iff.mp hpart
        obtain ⟨rfl, rfl⟩ := run_pure_eq_ok hpart
        obtain ⟨t, ts, hafter, htoken, rfl⟩ := token_eq_ok hname
        rw [after_of_name htoken] at h
        obtain ⟨vs, more, hmore, hsub, rfl⟩ := ih h
        refine ⟨_, next :: more, .part htoken hmore, ?_, by simp⟩
        have hpart := (hsub.cons_cons t).trans (hafter ▸ after_sublist (.symbol .period) us)
        exact hpart.cons_cons _
      · obtain ⟨rfl, rfl⟩ := run_pure_eq_ok hstop
        obtain ⟨rfl, -⟩ := run_pure_eq_ok h
        exact ⟨[], [], .done, List.nil_sublist _, by simp⟩

/-- The tokens of a qualified name stand in those that it is read from in this order. -/
theorem path_eq_ok {names : List Name} (h : path ts = .ok (names, rest)) :
    ∃ ps, IsPath ps names ∧ ps.Sublist ts := by
  rw [path_eq] at h
  obtain ⟨first, left, hfirst, hmore⟩ := run_bind_eq_ok_iff.mp h
  obtain ⟨t, us, rfl, htoken, rfl⟩ := token_eq_ok hfirst
  rw [after_of_name htoken] at hmore
  obtain ⟨vs, more, hcontinues, hsub, rfl⟩ := pathSteps_eq_ok hmore
  exact ⟨_, .mk htoken hcontinues, hsub.cons_cons t⟩

theorem tableFactor_eq_ok {f : Factor} (h : tableFactor d n ts = .ok (f, rest))
    (hlone : IsLoneTable name f) :
    ∃ ps names, IsPath ps names ∧ ps.Sublist ts ∧ Name.pathSql names = name := by
  obtain ⟨names, left, hpath, h⟩ := run_bind_eq_ok_iff.mp h
  obtain ⟨ps, hps, hsub⟩ := path_eq_ok hpath
  refine ⟨ps, names, hps, hsub, ?_⟩
  obtain ⟨partitions, left, -, h⟩ := run_bind_eq_ok_iff.mp h
  obtain ⟨items, left, -, h⟩ := run_bind_eq_ok_iff.mp h
  obtain ⟨ordinality, left, -, h⟩ := run_bind_eq_ok_iff.mp h
  obtain ⟨asName, left, -, h⟩ := run_bind_eq_ok_iff.mp h
  obtain ⟨hints, left, -, h⟩ := run_bind_eq_ok_iff.mp h
  obtain ⟨more', left, -, h⟩ := run_bind_eq_ok_iff.mp h
  obtain ⟨sample, left, -, h⟩ := run_bind_eq_ok_iff.mp h
  obtain ⟨table, left, hpivoted, h⟩ := run_bind_eq_ok_iff.mp h
  obtain ⟨isPattern, left, -, h⟩ := run_bind_eq_ok_iff.mp h
  split at h
  · exact absurd hlone ((yields_matched table).of_ok h _)
  · obtain ⟨rfl, -⟩ := run_pure_eq_ok h
    have htable := ((yields_pivoted _ _).of_ok hpivoted).resolve_left (· _ hlone)
    rw [htable] at hlone
    obtain ⟨path, partitions, ordinality, hints, heq, hsql⟩ := hlone.eq_table
    rw [← hsql]
    cases heq
    rfl

/-! Joins -/

/-- The first factor of a chain is read first. -/
theorem joinedWith_eq_ok {p : Parser Factor} {j : Joined}
    (h : joinedWith d n p ts = .ok (j, rest)) : ∃ left, p ts = .ok (j.first, left) := by
  rw [joinedWith_eq] at h
  obtain ⟨first, left, hfirst, hjoins⟩ := run_bind_eq_ok_iff.mp h
  have hloop : Yields (iterate (joinStep d n p first) []) fun j => j.first = first := by
    refine yields_iterate (I := fun _ => True) ?_ trivial
    intro read _
    refine yields_bind fun join => ?_
    split
    · exact yields_pure trivial
    · exact yields_pure rfl
  exact ⟨left, by rw [hfirst, hloop.of_ok hjoins]⟩

theorem renamed_ne_table (asName : Alias) (f : Factor) (path partitions : List Name)
    (ordinality : Bool) (hints : List String) :
    renamed asName f ≠ .table path partitions none ordinality none hints := by
  cases f <;> nofun

theorem nestedFactor_eq_ok {joined : Parser Joined} {f : Factor}
    (h : nestedFactor d n joined ts = .ok (f, rest)) (hlone : IsLoneTable name f) :
    ∃ inner left, joined ts = .ok (inner, left) ∧ inner.first = f := by
  obtain ⟨inner, left, hinner, h⟩ := run_bind_eq_ok_iff.mp h
  refine ⟨inner, left, hinner, ?_⟩
  split at h
  · obtain ⟨_, _, -, h⟩ := run_bind_eq_ok_iff.mp h
    obtain ⟨asName, _, -, h⟩ := run_bind_eq_ok_iff.mp h
    obtain ⟨rfl, -⟩ := run_pure_eq_ok h
    exact absurd hlone (not_isLoneTable nofun)
  · split at h
    · obtain ⟨_, _, -, h⟩ := run_bind_eq_ok_iff.mp h
      obtain ⟨asName, _, -, h⟩ := run_bind_eq_ok_iff.mp h
      cases asName with
      | none => exact (run_pure_eq_ok h).1
      | some outer =>
          cases hinner : innerAlias inner.first with
          | none =>
              rw [hinner] at h
              obtain ⟨rfl, -⟩ := run_pure_eq_ok h
              exact absurd hlone (not_isLoneTable (renamed_ne_table outer inner.first))
          | some asName =>
              rw [hinner] at h
              cases h
    · cases h

/-! Parentheses -/

/-- The tokens hold those of the name of a table in order. Where they hold no others, the first of
them opens a table. -/
def NamesTable (d : Dialect) (name : String) (ts : List Token) : Prop :=
  ∃ ps names, IsPath ps names ∧ Name.pathSql names = name ∧ ps.Sublist ts ∧
    (ps = ts → ∀ t ∈ ts.head?, opensTable d t = true)

theorem NamesTable.inside {us : List Token} (h : NamesTable d name (after (.symbol .lparen) us)) :
    NamesTable d name (.symbol .lparen :: us) := by
  obtain ⟨ps, names, hps, hname, hsub, -⟩ := h
  have hinner := hsub.trans (after_sublist (.symbol .lparen) us)
  refine ⟨ps, names, hps, hname, hinner.cons _, ?_⟩
  rintro rfl
  exact absurd hinner.length_le (Nat.not_succ_le_self _)

theorem opensTable_of_ne {t : Token} (hlateral : t.keyword ≠ some .LATERAL)
    (hfunction : t.keyword ≠ some .TABLE)
    (hunnest : d.allowsUnnest = true → t.keyword ≠ some .UNNEST) : opensTable d t = true := by
  cases hallowed : d.allowsUnnest with
  | false => simp [opensTable, hlateral, hfunction, hallowed]
  | true => simp [opensTable, hlateral, hfunction, hallowed, hunnest hallowed]

/-- Where nothing is read, no token is. -/
def Peeks (p : Parser (Option α)) : Prop :=
  ∀ ts rest, p ts = .ok (none, rest) → rest = ts

theorem Peeks.eq {p : Parser (Option α)} (hp : Peeks p) (h : p ts = .ok (none, rest)) : rest = ts :=
  hp ts rest h

theorem peeks_documentTable? : Peeks (documentTable? d n) := by
  have hopened : ∀ {p : Parser Factor}, Peeks (documentTable?.opened p) := by
    intro p ts rest h
    obtain ⟨_, _, -, h⟩ := run_bind_eq_ok_iff.mp h
    obtain ⟨_, _, -, h⟩ := run_bind_eq_ok_iff.mp h
    obtain ⟨f, _, -, h⟩ := run_bind_eq_ok_iff.mp h
    cases h
  have hnone : Peeks (pure none : Parser (Option Factor)) := by
    rintro ts _ ⟨⟩
    rfl
  intro ts rest h
  obtain ⟨us, left, hrest, h⟩ := run_bind_eq_ok_iff.mp h
  obtain ⟨-, rfl⟩ := run_pure_eq_ok hrest
  refine Peeks.eq ?_ h
  split
  · split
    · exact hopened
    · exact hopened
    · exact hopened
    · exact hnone
  · exact hnone

theorem factorAt_eq_ok {fuel : Nat} {f : Factor} (h : factorAt d n fuel ts = .ok (f, rest))
    (hlone : IsLoneTable name f) : NamesTable d name ts := by
  induction fuel generalizing ts rest f with
  | zero => cases h
  | succ fuel ih =>
      rcases acceptKeyword_cases h with ⟨left, h⟩ | ⟨hlateral, h⟩
      · exact absurd hlone (yields_lateralFactor.of_ok h _)
      rcases acceptKeyword_cases h with ⟨left, h⟩ | ⟨hfunction, h⟩
      · exact absurd hlone (yields_functionFactor.of_ok h _)
      rcases accept_cases h with ⟨us, rfl, hinside⟩ | h
      · obtain ⟨read, left, hread, hinside⟩ := run_bind_eq_ok_iff.mp hinside
        rcases attempt_eq_ok hread with ⟨factor, rfl, hderived⟩ | ⟨rfl, rfl⟩
        · have heq := ((yields_pivoted _ _).of_ok hinside).resolve_left (· _ hlone)
          rw [heq] at hlone
          exact absurd hlone ((yields_derived false).of_ok hderived)
        · obtain ⟨inner, left, hinner, hfirst⟩ := nestedFactor_eq_ok hinside hlone
          obtain ⟨left, hfactor⟩ := joinedWith_eq_ok hinner
          rw [hfirst] at hfactor
          exact .inside (ih hfactor hlone)
      obtain ⟨isValues, left, hvalues, hafter⟩ := run_bind_eq_ok_iff.mp h
      cases isValues with
      | true =>
          obtain ⟨_, _, -, hafter⟩ := run_bind_eq_ok_iff.mp hafter
          exact absurd hlone (yields_valuesFactor.of_ok hafter _)
      | false =>
          obtain rfl : left = ts := by
            cases hallowed : d.allowsValuesFactor <;> rw [hallowed] at hvalues <;>
              exact (run_pure_eq_ok hvalues).2.symm
          rcases whenever_cases hafter with ⟨us, hafter⟩ | ⟨hunnest, hafter⟩
          · exact absurd hlone (yields_unnestFactor.of_ok hafter _)
          · obtain ⟨document, us, hdocument, hafter⟩ := run_bind_eq_ok_iff.mp hafter
            cases document with
            | some factor =>
                obtain ⟨rfl, -⟩ := run_pure_eq_ok hafter
                exact absurd hlone (yields_documentTable?.of_ok hdocument _ rfl _)
            | none =>
                rw [peeks_documentTable?.eq hdocument] at hafter
                obtain ⟨ps, names, hps, hsub, hname⟩ := tableFactor_eq_ok hafter hlone
                exact ⟨ps, names, hps, hname, hsub, fun _ t ht => opensTable_of_ne (hlateral t ht)
                  (hfunction t ht) fun hallowed => hunnest hallowed t ht⟩

end SelectTree.Sql.Grammar

namespace SelectTree

open Sql Sql.Grammar Sql.Parser

variable {d : Dialect} {n : Nested} {name : String} {ts rest : List Token}

/-! Selections -/

theorem Join.combine_ne_table (join : Join) (left right : Source) (asName : Option String) :
    join.combine left right ≠ .ok (.table name asName) := by
  unfold Join.combine
  intro h
  split at h
  · cases h
  · split at h
    · split at h <;> cases h
    all_goals cases h

theorem Join.source_ne_table (join : Join) (left : Source) (asName : Option String) :
    join.source left ≠ .ok (.table name asName) := by
  obtain ⟨isGlobal, words, right, condition⟩ := join
  intro h
  rw [Join.source] at h
  obtain ⟨tree, -, h⟩ := bind_eq_ok_iff.mp h
  exact Join.combine_ne_table _ _ _ _ h

/-- Joins make no table. -/
theorem Joined.isLoneTable {j : Joined} (h : j.source = .ok (.table name none)) :
    IsLoneTable name j.first := by
  obtain ⟨first, joins⟩ := j
  rw [Joined.source] at h
  obtain ⟨base, hbase, h⟩ := bind_eq_ok_iff.mp h
  rcases List.eq_nil_or_concat joins with rfl | ⟨joins, join, rfl⟩
  · obtain rfl := Except.ok.inj h
    exact hbase
  · rw [List.concat_eq_append, Join.sourceFrom_concat] at h
    obtain ⟨tree, -, h⟩ := bind_eq_ok_iff.mp h
    exact absurd h (Join.source_ne_table join tree none)

theorem sources_eq_ok {j : Joined} (h : sources d n ts = .ok ([j], rest))
    (hlone : j.source = .ok (.table name none)) : NamesTable d name ts := by
  obtain ⟨first, left, more, hfirst, heq⟩ := commaSeparated_eq_ok h
  obtain ⟨rfl, rfl⟩ := List.cons.inj heq
  obtain ⟨left, hfactor⟩ := joinedWith_eq_ok hfirst
  exact factorAt_eq_ok hfactor (Joined.isLoneTable hlone)

theorem Joined.sources_cons_eq_ok {j : Joined} {js : List Joined} {trees : List Source}
    (h : Joined.sources (j :: js) = .ok trees) :
    ∃ tree more, j.source = .ok tree ∧ Joined.sources js = .ok more ∧ trees = tree :: more := by
  rw [Joined.sources] at h
  obtain ⟨tree, htree, h⟩ := bind_eq_ok_iff.mp h
  obtain ⟨more, hmore, h⟩ := bind_eq_ok_iff.mp h
  exact ⟨tree, more, htree, hmore, (Except.ok.inj h).symm⟩

theorem Joined.sources_eq_singleton {js : List Joined} {tree : Source} (h : Joined.sources js = .ok [tree]) :
    ∃ j, js = [j] ∧ j.source = .ok tree := by
  cases js with
  | nil => cases h
  | cons j js =>
      obtain ⟨first, more, hfirst, hmore, heq⟩ := Joined.sources_cons_eq_ok h
      obtain ⟨rfl, rfl⟩ := List.cons.inj heq
      cases js with
      | nil => exact ⟨j, rfl, hfirst⟩
      | cons next js =>
          obtain ⟨_, _, -, -, hcons⟩ := Joined.sources_cons_eq_ok hmore
          cases hcons

theorem Selection.select_eq_ok {s : Selection} {tree : Select} (h : s.select = .ok tree) :
    ∃ trees, Joined.sources s.sources = .ok trees ∧
      (trees = [tree.source] ∨ 2 ≤ trees.length ∧ tree.source = .list trees) ∧
      s.filter.mapM Expr.predicate = .ok tree.filter ∧
      (s.grouping.columns = .ok tree.groupBy ∧ tree.orderBy = []) ∧
      s.items.mapM Item.columnRef = .ok tree.items := by
  obtain ⟨opening, quantifier, top, items, into, sources, views, filter, prefilter, grouping,
    clusterings, having, endings⟩ := s
  rw [Selection.select] at h
  cases quantifier with
  | some quantifier => cases h
  | none =>
      cases having with
      | some having => cases h
      | none =>
          cases sources with
          | nil => cases h
          | cons first more =>
              obtain ⟨items, hitems, h⟩ := bind_eq_ok_iff.mp h
              obtain ⟨trees, htrees, h⟩ := bind_eq_ok_iff.mp h
              obtain ⟨filter, hfilter, h⟩ := bind_eq_ok_iff.mp h
              obtain ⟨groupBy, hgroupBy, h⟩ := bind_eq_ok_iff.mp h
              obtain rfl := Except.ok.inj h
              refine ⟨trees, htrees, ?_, hfilter, ⟨hgroupBy, rfl⟩, hitems⟩
              obtain ⟨tree, trees, -, -, rfl⟩ := Joined.sources_cons_eq_ok htrees
              cases trees with
              | nil => exact .inl rfl
              | cons next trees => exact .inr ⟨by simp, rfl⟩

theorem Selection.source_eq {s : Selection} {tree : Select} (h : s.select = .ok tree)
    (hsource : tree.source = .table name none) :
    ∃ j, s.sources = [j] ∧ j.source = .ok (.table name none) := by
  obtain ⟨trees, htrees, hone | ⟨-, hlist⟩, -⟩ := Selection.select_eq_ok h
  · subst hone
    obtain ⟨j, hj, hlone⟩ := Joined.sources_eq_singleton htrees
    exact ⟨j, hj, by rw [hlone, hsource]⟩
  · rw [hsource] at hlist
    cases hlist

/-! Queries of all columns -/

/-- The tokens of a query of all columns, up to its sources. -/
def allColumns (ts : List Token) : List Token :=
  Keyword.SELECT.token :: .symbol .star :: Keyword.FROM.token :: ts

theorem reads_star :
    Reads (items d n) [Keyword.FROM.token] [.symbol .star] [.wildcard none []] := by
  have hitem : Reads (item d n) (.symbol .comma :: [Keyword.FROM.token]) [.symbol .star]
      (.wildcard none []) :=
    fun rest hrest => item_wildcard rfl hrest
  have hsolid : Solid [Token.symbol .star] := ⟨List.cons_ne_nil _ _, noSpace_cons rfl _⟩
  intro rest hrest
  rw [List.singleton_append, items_of_opens opens_star, projection]
  split
  · exact reads_commaSeparatedUntil atListEnd [Keyword.FROM.token]
      [([.symbol .star], Item.wildcard none [])] (List.cons_ne_nil _ _) (by decide)
      (by simpa using hitem) (by simpa using hsolid) (by simp [atListEnd]) _ hrest
  · exact reads_commaSeparated [Keyword.FROM.token] [([.symbol .star], Item.wildcard none [])]
      (List.cons_ne_nil _ _) (by decide) (by simpa using hitem) (by simpa using hsolid) _ hrest

theorem yields_selectionFrom (is : List Item) (js : List Joined) :
    Yields (selectionFrom d n is js) fun s => s.sources = js :=
  yields_bind fun _ => yields_bind fun _ => yields_bind fun _ => yields_bind fun _ =>
    yields_bind fun _ => yields_bind fun _ => yields_bind fun _ => yields_bind fun _ =>
      yields_pure rfl

theorem selection_allColumns_eq_ok {s : Selection}
    (h : selection d n (allColumns ts) = .ok (s, rest)) :
    ∃ left, sources d n ts = .ok (s.sources, left) := by
  have hstar : selection d n (allColumns ts) =
      (do selectionFrom d n [.wildcard none []] (← sources d n)) ts :=
    selection_from ⟨_, _, rfl, opens_star⟩ reads_star ts
  rw [hstar] at h
  obtain ⟨js, left, hsources, h⟩ := run_bind_eq_ok_iff.mp h
  exact ⟨left, by rw [(yields_selectionFrom _ js).of_ok h, hsources]⟩

/-! Queries -/

/-- A set operation has a text only. -/
theorem combined_eq_ok {operators : List Keyword} {operand : Parser Body} {b : Body}
    (h : combined operators operand ts = .ok (b, rest)) :
    (∃ left, operand ts = .ok (b, left)) ∨ ∃ sql, b = .other sql := by
  obtain ⟨first, left, hfirst, h⟩ := run_bind_eq_ok_iff.mp h
  have hb : b = first ∨ ∃ sql, b = .other sql := by
    refine Yields.of_ok (P := fun b => b = first ∨ ∃ sql, b = .other sql) ?_ h
    refine yields_iterate (I := fun b => b = first ∨ ∃ sql, b = .other sql) ?_ (.inl rfl)
    intro left hleft
    refine yields_bind fun op => ?_
    split
    · exact yields_bind fun _ => yields_bind fun _ => yields_pure (.inr ⟨_, rfl⟩)
    · exact yields_pure hleft
  exact hb.imp_left fun hb => ⟨left, by rw [hb, hfirst]⟩

theorem body_eq_ok {b : Body} (h : body d n ts = .ok (b, rest)) :
    (∃ left, bodyHead d n ts = .ok (b, left)) ∨ ∃ sql, b = .other sql := by
  rcases combined_eq_ok h with ⟨left, h⟩ | h
  · exact combined_eq_ok h
  · exact .inr h

theorem body_select_eq_ok {b : Body} {tree : Select}
    (h : body d n (Keyword.SELECT.token :: ts) = .ok (b, rest)) (htree : b.select = .ok tree) :
    ∃ s left, selection d n (Keyword.SELECT.token :: ts) = .ok (s, left) ∧ s.select = .ok tree := by
  rcases body_eq_ok h with ⟨left, h⟩ | ⟨sql, rfl⟩
  · have hselect : peekKeyword .SELECT (Keyword.SELECT.token :: ts) =
        .ok (true, Keyword.SELECT.token :: ts) := rfl
    have hfrom : peekKeyword .FROM (Keyword.SELECT.token :: ts) =
        .ok (false, Keyword.SELECT.token :: ts) := rfl
    replace h := run_bind_of_ok hselect h
    replace h := run_bind_of_ok hfrom h
    rw [Bool.true_or, if_pos rfl] at h
    obtain ⟨s, left, hselection, h⟩ := run_bind_eq_ok_iff.mp h
    obtain ⟨rfl, -⟩ := run_pure_eq_ok h
    exact ⟨s, left, hselection, htree⟩
  · cases htree

/-- The tree of a query is that of its body, but for the sort keys. -/
theorem Query.select_eq_ok {q : Query} {tree : Select} (h : q.select = .ok tree) :
    ∃ read, q.body.select = .ok read ∧ q.orderBy.mapM OrderKey.item = .ok tree.orderBy ∧
      tree = { read with orderBy := tree.orderBy } := by
  obtain ⟨withClause, body, orderBy, interpolation, limit, settings, fetch, endings⟩ := q
  rw [Query.select] at h
  cases withClause with
  | some text => cases h
  | none =>
      cases hlimits : limit.isSome || fetch.isSome with
      | true =>
          rw [hlimits] at h
          cases h
      | false =>
          rw [hlimits] at h
          obtain ⟨read, hread, h⟩ := bind_eq_ok_iff.mp h
          obtain ⟨keys, hkeys, h⟩ := bind_eq_ok_iff.mp h
          obtain rfl := Except.ok.inj h
          exact ⟨read, hread, hkeys, rfl⟩

/-- A query of one selection. -/
theorem query_select_eq_ok {q : Query} {tree : Select}
    (h : query d n (Keyword.SELECT.token :: ts) = .ok (q, rest)) (htree : q.select = .ok tree) :
    ∃ s left read, selection d n (Keyword.SELECT.token :: ts) = .ok (s, left) ∧
      s.select = .ok read ∧ tree = { read with orderBy := tree.orderBy } := by
  rw [query_eq _ (by decide) (by decide +kernel)] at h
  obtain ⟨b, left, hbody, h⟩ := run_bind_eq_ok_iff.mp h
  have hq : q.body = b := by
    refine Yields.of_ok (P := fun q : Query => q.body = b) ?_ h
    exact yields_bind fun _ => yields_bind fun _ => yields_bind fun _ => yields_bind fun _ =>
      yields_bind fun _ => yields_bind fun _ => yields_bind fun _ => yields_pure rfl
  obtain ⟨read, hread, -, heq⟩ := Query.select_eq_ok htree
  rw [hq] at hread
  obtain ⟨s, left, hselection, hs⟩ := body_select_eq_ok hbody hread
  exact ⟨s, left, read, hselection, hs, heq⟩

/-! Texts -/

theorem statement_select_eq_ok {m : Nat} {s : Statement}
    (h : (nestedAt d (m + 2)).statement (Keyword.SELECT.token :: ts) = .ok (s, rest)) :
    ∃ q left, s = .query q ∧
      query d (nestedAt d m) (Keyword.SELECT.token :: ts) = .ok (q, left) := by
  have hstatement : (nestedAt d (m + 2)).statement =
      statement d ((nestedAt d (m + 1)).within .plain) :=
    rfl
  have hopens : peekAny opensQuery (Keyword.SELECT.token :: ts) =
      .ok (true, Keyword.SELECT.token :: ts) := by
    have hselect : opensQuery Keyword.SELECT.token = true := by decide +kernel
    simp [peekAny, hselect]
  rw [hstatement, within_plain] at h
  replace h := run_bind_of_ok hopens h
  rw [if_pos rfl] at h
  obtain ⟨q, left, hquery, h⟩ := run_bind_eq_ok_iff.mp h
  obtain ⟨rfl, -⟩ := run_pure_eq_ok h
  rw [nestedAt_query] at hquery
  exact ⟨q, left, rfl, hquery⟩

/-- The statements that were read stay, and others come after them. -/
theorem yields_statementStep (first : Statement) (state : List Statement × Bool)
    (hstate : ∃ more, state.1.reverse = first :: more) :
    Yields (statementStep n state) (Sum.elim (fun state => ∃ more, state.1.reverse = first :: more)
      fun read => ∃ more, read = first :: more) := by
  obtain ⟨read, separated⟩ := state
  obtain ⟨more, hread⟩ := hstate
  refine yields_bind fun ends => ?_
  split
  · exact yields_pure ⟨more, hread⟩
  · refine yields_bind fun t => ?_
    split
    · exact yields_pure ⟨more, hread⟩
    · split
      · exact yields_pure ⟨more, hread⟩
      · split
        · exact yields_fail _
        · refine yields_bind fun s => yields_pure ⟨more ++ [s], ?_⟩
          simp only at hread
          simp [hread]

theorem statements_select_eq_ok {s : Statement}
    (h : statements n (Keyword.SELECT.token :: ts) = .ok ([s], rest)) :
    ∃ left, n.statement (Keyword.SELECT.token :: ts) = .ok (s, left) := by
  rw [statements_eq] at h
  obtain ⟨state, left, hstep, h⟩ := run_bind_eq_ok_iff.mp h
  have hsemicolon : accept .semicolon (Keyword.SELECT.token :: ts) =
      .ok (false, Keyword.SELECT.token :: ts) := by
    simp [accept, Keyword.token]
  have hpeek : peek (Keyword.SELECT.token :: ts) =
      .ok (some Keyword.SELECT.token, Keyword.SELECT.token :: ts) := rfl
  replace hstep := run_bind_of_ok hsemicolon hstep
  replace hstep := run_bind_of_ok hpeek hstep
  obtain ⟨first, left, hfirst, hstep⟩ := run_bind_eq_ok_iff.mp hstep
  obtain ⟨rfl, -⟩ := run_pure_eq_ok hstep
  have hread := (yields_iterateFrom (yields_statementStep first) _ ⟨[], rfl⟩).of_ok h
  obtain ⟨more, hmore⟩ := hread
  obtain ⟨rfl, -⟩ := List.cons.inj hmore
  exact ⟨left, hfirst⟩

theorem text_select_eq_ok {q : Query} {tree : Select}
    (h : text d (Keyword.SELECT.token :: ts) = .ok ([.query q], rest)) (htree : q.select = .ok tree) :
    ∃ s left read,
      selection d (nestedAt d queryDepth) (Keyword.SELECT.token :: ts) = .ok (s, left) ∧
      s.select = .ok read ∧ tree = { read with orderBy := tree.orderBy } := by
  obtain ⟨left, hstatement⟩ := statements_select_eq_ok h
  obtain ⟨q', left, heq, hquery⟩ := statement_select_eq_ok hstatement
  obtain rfl := Statement.query.inj heq
  exact query_select_eq_ok hquery htree

theorem text_allColumns_eq_ok {q : Query} {tree : Select}
    (h : text d (allColumns ts) = .ok ([.query q], rest)) (htree : q.select = .ok tree)
    (hsource : tree.source = .table name none) : NamesTable d name ts := by
  obtain ⟨s, left, read, hselection, hread, heq⟩ := text_select_eq_ok h htree
  rw [heq] at hsource
  obtain ⟨j, hj, hlone⟩ := Selection.source_eq hread hsource
  obtain ⟨left, hsources⟩ := selection_allColumns_eq_ok hselection
  rw [hj] at hsources
  exact sources_eq_ok hsources hlone

/-! Texts -/

theorem treeOfStatements_eq_ok {statements : List Statement} {tree : Select}
    (h : treeOfStatements statements = .ok tree) :
    ∃ query, statements = [.query query] ∧ query.select = .ok tree := by
  unfold treeOfStatements at h
  split at h
  · exact ⟨_, rfl, h⟩
  · cases h
  · cases h
  · cases h

theorem parse_eq_ok {text : String} {q : Select} (h : d.parse text = .ok (some q)) :
    ∃ query, readStatements d text.toList = .ok [.query query] ∧ query.select = .ok q := by
  unfold Dialect.parse at h
  split at h
  · cases h
  · obtain ⟨tree', hstatements, heq⟩ := map_eq_ok_iff.mp h
    obtain rfl := Option.some.inj heq
    obtain ⟨statements, hread, hstatements⟩ := bind_eq_ok_iff.mp hstatements
    obtain ⟨tree, htree, hstatements⟩ := bind_eq_ok_iff.mp hstatements
    obtain ⟨⟨⟩, -, hstatements⟩ := bind_eq_ok_iff.mp hstatements
    obtain rfl := Except.ok.inj hstatements
    obtain ⟨query, rfl, hquery⟩ := treeOfStatements_eq_ok (mapError_eq_ok_iff.mp htree)
    exact ⟨query, mapError_eq_ok_iff.mp hread, hquery⟩

theorem parseSelect_eq_ok {text : String} {q : Select} (h : d.parseSelect text = .ok q) :
    ∃ query, readStatements d text.toList = .ok [.query query] ∧ query.select = .ok q := by
  obtain ⟨read, hparse, h⟩ := bind_eq_ok_iff.mp h
  cases read with
  | none => cases h
  | some tree =>
      obtain rfl := Except.ok.inj h
      exact parse_eq_ok hparse

theorem readStatements_eq_ok {cs : List Char} {statements : List Statement}
    (h : readStatements d cs = .ok statements) :
    ∃ lexemes rest, lex d cs = .ok lexemes ∧
      text d (lexemes.map Lexeme.token) = .ok (statements, rest) := by
  unfold readStatements at h
  split at h
  · cases h
  · rename_i lexemes hlex
    split at h
    · cases h
    · rename_i read rest htext
      obtain rfl := Except.ok.inj h
      exact ⟨lexemes, rest, hlex, htext⟩

/-- What stands behind a text that is cut into its tokens is cut from there on. -/
theorem lex_of_spells {front : String} {us : List Token} {cs : List Char} {lexemes : List Lexeme}
    (hspells : Spells d front us) (h : lex d (front.toList ++ ' ' :: cs) = .ok lexemes) :
    ∃ fuel more, cs.length ≤ fuel ∧ lexFrom d fuel none cs = .ok more ∧
      lexemes.map Lexeme.token = us ++ more.map Lexeme.token := by
  obtain ⟨last, hlast, hcuts⟩ := hspells none (' ' :: cs) isCalm_none (atGap_cons (by decide) _)
  obtain ⟨fuel, more, hfuel, hmore, htokens⟩ :=
    lexFrom_of_cuts (hcuts.append (cuts_space hlast .done)) (Nat.le_refl _) h
  exact ⟨fuel, more, hfuel, hmore, by rw [htokens, List.append_nil]⟩

theorem spells_allColumns : Spells d "SELECT * FROM" (allColumns []) :=
  (Keyword.spells (k := .SELECT) (by decide)).space
    (spells_star.space (Keyword.spells (k := .FROM) (by decide)))

theorem lex_allColumns {text : String} {lexemes : List Lexeme}
    (h : lex d ("SELECT * FROM " ++ text).toList = .ok lexemes) :
    ∃ fuel more, lexFrom d fuel none text.toList = .ok more ∧
      lexemes.map Lexeme.token = allColumns (more.map Lexeme.token) := by
  have hchars : ("SELECT * FROM " ++ text).toList = "SELECT * FROM".toList ++ ' ' :: text.toList := by
    simp
  rw [hchars] at h
  obtain ⟨fuel, more, -, hmore, htokens⟩ := lex_of_spells spells_allColumns h
  exact ⟨fuel, more, hmore, htokens⟩

/-- The name of a table that is read alone is cut into the tokens of a qualified name. -/
theorem exists_isPath {q : Select} (h : d.parseSelect ("SELECT * FROM " ++ name) = .ok q)
    (hsource : q.source = .table name none) :
    ∃ fuel lexemes names, lexFrom d fuel none name.toList = .ok lexemes ∧
      IsPath (lexemes.map Lexeme.token) names ∧ Name.pathSql names = name ∧
      ∀ t ∈ (lexemes.map Lexeme.token).head?, opensTable d t = true := by
  obtain ⟨query, hread, hquery⟩ := parseSelect_eq_ok h
  obtain ⟨lexemes, rest, hlex, htext⟩ := readStatements_eq_ok hread
  obtain ⟨fuel, more, hmore, htokens⟩ := lex_allColumns hlex
  rw [htokens] at htext
  obtain ⟨ps, names, hps, hname, hsub, hopens⟩ := text_allColumns_eq_ok htext hquery hsource
  -- The name is as long as its tokens are wide, so there are no others.
  have hwidths : widths (more.map Lexeme.token) ≤ widths ps := by
    have hshown := length_flatMap_shown_le ps
    rw [hps.shown_eq, hname] at hshown
    exact Nat.le_trans (widths_le hmore) hshown
  have hall := eq_of_widths_le hsub hwidths
  rw [hall] at hps
  exact ⟨fuel, more, names, hmore, hps, hname, hopens hall⟩

end SelectTree
