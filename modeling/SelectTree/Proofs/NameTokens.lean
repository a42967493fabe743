import SelectTree.Proofs.FactorReading
import SelectTree.Proofs.LoneNames

namespace SelectTree.Sql.Grammar

open Sql.Parser

/-! The tokens of qualified names, in quotes of any kind or without, and what is read from them. -/

variable {d : Dialect} {n : Nested} {names more read : List Name} {us rest : List Token}

/-- The tokens of a qualified name after its first part. -/
inductive Continues : List Token → List Name → Prop
  | done : Continues [] []
  | part {t : Token} {us : List Token} {next : Name} {more : List Name}
      (htoken : nameOfToken? t = some next) (h : Continues us more) :
      Continues (.symbol .period :: t :: us) (next :: more)

/-- The tokens of a qualified name. -/
inductive IsPath : List Token → List Name → Prop
  | mk {t : Token} {us : List Token} {first : Name} {more : List Name}
      (htoken : nameOfToken? t = some first) (h : Continues us more) : IsPath (t :: us) (first :: more)

/-! Texts -/

theorem Continues.isPathToken (h : Continues us more) : ∀ t ∈ us, IsPathToken t := by
  induction h with
  | done => nofun
  | part htoken _ ih =>
      rw [List.forall_mem_cons, List.forall_mem_cons]
      exact ⟨.inr rfl, .inl (by simp [htoken]), ih⟩

theorem IsPath.isPathToken {ts : List Token} (h : IsPath ts names) : ∀ t ∈ ts, IsPathToken t := by
  obtain ⟨htoken, hmore⟩ := h
  rw [List.forall_mem_cons]
  exact ⟨.inl (by simp [htoken]), hmore.isPathToken⟩

theorem Continues.shown_eq (h : Continues us more) {t : Token} {first : Name}
    (htoken : nameOfToken? t = some first) :
    (t :: us).flatMap shown = (Name.pathSql (first :: more)).toList := by
  induction h generalizing t first with
  | done => simp [shown, htoken, Name.pathSql]
  | @part t' us next more htoken' _ ih =>
      have hrest := ih htoken'
      have hperiod : shown (.symbol .period) = ['.'] := rfl
      rw [List.flatMap_cons, List.flatMap_cons, hrest, hperiod]
      simp [shown, htoken, Name.pathSql]

/-- The tokens of a qualified name show what is printed of it. -/
theorem IsPath.shown_eq {ts : List Token} (h : IsPath ts names) :
    ts.flatMap shown = (Name.pathSql names).toList := by
  obtain ⟨htoken, hmore⟩ := h
  exact hmore.shown_eq htoken

/-! Reading -/

theorem after_of_name {t : Token} {name : Name} (htoken : nameOfToken? t = some name)
    (ts : List Token) : after t ts = ts := by
  unfold after
  split
  · cases htoken
  · rfl

theorem isSpace_of_name {t : Token} {name : Name} (htoken : nameOfToken? t = some name) :
    Parser.isSpace t = false := by
  cases t <;> first | rfl | cases htoken

theorem name_of_token {t : Token} {next : Name} (htoken : nameOfToken? t = some next)
    (ts : List Token) : name (t :: ts) = .ok (next, ts) := by
  simp [name, token, htoken, after_of_name htoken]

theorem Continues.runs (h : Continues us more) (hrest : HeadIn tableEnds rest) (read : List Name) :
    Runs pathStep read (us ++ rest) (read.reverse ++ more) rest := by
  induction h generalizing read with
  | done =>
      apply Runs.stop
      simp [pathStep, accept_of_headIn hrest .period (by decide)]
  | @part t us next more htoken _ ih =>
      have hspace := noSpace_cons (isSpace_of_name htoken) (us ++ rest)
      have hstep : pathStep read (.symbol .period :: t :: (us ++ rest)) =
          .ok (.inl (next :: read), us ++ rest) := by
        simp [pathStep, accept_symbol hspace, name_of_token htoken]
      have hmore := ih (next :: read)
      rw [List.reverse_cons, List.append_assoc] at hmore
      have hlength : (us ++ rest).length < (Token.symbol .period :: t :: (us ++ rest)).length := by
        simp only [List.length_cons]
        omega
      exact .more hstep hlength hmore

theorem IsPath.reads {ts : List Token} (h : IsPath ts names) : Reads path tableEnds ts names := by
  obtain ⟨htoken, hmore⟩ := h
  intro rest hrest
  rw [path_eq, List.cons_append, run_bind, name_of_token htoken]
  exact (hmore.runs hrest _).iterate

theorem IsPath.solid {ts : List Token} (h : IsPath ts names) : Solid ts := by
  obtain ⟨htoken, -⟩ := h
  exact ⟨List.cons_ne_nil _ _, noSpace_cons (isSpace_of_name htoken) _⟩

/-- A table goes by a qualified name whose first token opens nothing else. -/
theorem IsPath.readsFactor {ts : List Token} (h : IsPath ts names)
    (hopens : ∀ t ∈ ts.head?, opensTable d t = true) :
    ReadsFactor d n ts (.table names [] none false none []) := by
  have htable : Reads (tableFactor d n) factorEnds ts (.table names [] none false none []) := by
    intro rest hrest
    exact tableFactor_of_path none (h.reads _ (headIn_alias none hrest)) hrest
  obtain ⟨htoken, hmore⟩ := h
  apply readsFactor_of_opensTable (hopens _ rfl) (by rintro rfl; cases htoken) htable
  intro rest hrest hhead
  cases hmore with
  | done => exact absurd (hrest _ hhead) (by decide)
  | part => cases hhead

end SelectTree.Sql.Grammar
