import SelectTree.Text.Split

namespace SelectTree

/-! Constants on the right of a test. -/

inductive Literal
  | number (text : String)
  | string (text : String)
  | boolean (value : Bool)
  | null
  deriving DecidableEq, Repr

/-- Inside a quoted constant a quote is written twice. -/
def doubleQuotes : List Char → List Char
  | [] => []
  | c :: cs => if c = '\'' then '\'' :: '\'' :: doubleQuotes cs else c :: doubleQuotes cs

def Literal.sql : Literal → String
  | .number text => text
  | .string text => String.ofList ('\'' :: doubleQuotes text.toList ++ ['\''])
  | .boolean true => "TRUE"
  | .boolean false => "FALSE"
  | .null => "NULL"

def Literal.value : Literal → String
  | .number text => text
  | .string text => text
  | .boolean true => "true"
  | .boolean false => "false"
  | .null => "null"

@[simp] theorem doubleQuotes_nil : doubleQuotes [] = [] := rfl

theorem doubleQuotes_eq_self {cs : List Char} (h : '\'' ∉ cs) : doubleQuotes cs = cs := by
  induction cs with
  | nil => rfl
  | cons c cs ih =>
      simp only [List.mem_cons, not_or] at h
      simp [doubleQuotes, Ne.symm h.1, ih h.2]

end SelectTree
