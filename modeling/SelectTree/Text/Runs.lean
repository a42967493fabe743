namespace SelectTree.Text

/-! Sets of code points written as increasing half-open runs `lo, hi, lo, hi, …`. -/

def inRuns (n : Nat) : List Nat → Bool
  | lo :: hi :: rest => if n < lo then false else if n < hi then true else inRuns n rest
  | _ => false

@[simp] theorem inRuns_nil (n : Nat) : inRuns n [] = false := rfl

@[simp] theorem inRuns_cons (n lo hi : Nat) (rest : List Nat) :
    inRuns n (lo :: hi :: rest) =
      if n < lo then false else if n < hi then true else inRuns n rest := rfl

end SelectTree.Text
