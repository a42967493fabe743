import SelectTree.Text.Blank
import SelectTree.Text.Split

namespace SelectTree.Sql

/-! Places in a text: as line and column, both counted from one, and as byte offsets. -/

structure Position where
  line : Nat
  column : Nat
  deriving DecidableEq, Repr

namespace Position

def start : Position := ⟨1, 1⟩

def after (p : Position) (c : Char) : Position :=
  if c = '\n' then ⟨p.line + 1, 1⟩ else ⟨p.line, p.column + 1⟩

/-- The place reached after reading `cs` from the beginning. -/
def ofRead (cs : List Char) : Position :=
  cs.foldl after start

def toText (p : Position) : String :=
  " at Line: " ++ toString p.line ++ ", Column: " ++ toString p.column

end Position

def byteSize (cs : List Char) : Nat :=
  cs.foldr (fun c size => c.utf8Size + size) 0

@[simp] theorem byteSize_nil : byteSize [] = 0 := rfl

@[simp] theorem byteSize_cons (c : Char) (cs : List Char) :
    byteSize (c :: cs) = c.utf8Size + byteSize cs := rfl

@[simp] theorem byteSize_append (cs ds : List Char) :
    byteSize (cs ++ ds) = byteSize cs + byteSize ds := by
  induction cs with
  | nil => simp
  | cons c cs ih => simp [ih, Nat.add_assoc]

/-- The text from the line after `n` more line breaks on. -/
def dropLines : Nat → List Char → List Char
  | 0, cs => cs
  | _ + 1, [] => []
  | n + 1, c :: cs => if c = '\n' then dropLines n cs else dropLines (n + 1) cs

/-- The first line, without its line break. -/
def firstLine (cs : List Char) : List Char :=
  let line := cs.takeWhile (· ≠ '\n')
  if line.length < cs.length && line.getLast? = some '\r' then line.dropLast else line

/-- A number that fits a machine word, in decimal digits after an optional plus sign. -/
def readIndex? (cs : List Char) : Option Nat :=
  let digits :=
    match cs with
    | '+' :: rest => rest
    | rest => rest
  if !digits.isEmpty && digits.all Char.isDigit then
    let n := digits.foldl (fun total c => 10 * total + (c.toNat - '0'.toNat)) 0
    if n < Nat.pow 2 64 then some n else none
  else none

def afterLast? (pattern : List Char) : List Char → Option (List Char)
  | [] => Text.stripPrefix? pattern []
  | c :: cs =>
      match afterLast? pattern cs with
      | some rest => some rest
      | none => Text.stripPrefix? pattern (c :: cs)

/-- The last `Line: L, Column: C` of a message; neither number may be zero. -/
def readPosition? (message : List Char) : Option Position := do
  let location ← afterLast? "Line: ".toList message
  let line := location.takeWhile (· ≠ ',')
  let rest ← (location.dropWhile (· ≠ ',')).tail?
  let rest ← Text.stripPrefix? "Column:".toList (Text.trimStart rest)
  let column := (Text.trimStart rest).takeWhile Char.isDigit
  let line ← readIndex? (Text.trimEnd (Text.trimStart line))
  let column ← readIndex? column
  if line = 0 || column = 0 then none else some ⟨line, column⟩

/-- The byte offset of a position, cut off at the end of its line. -/
def Position.offset (p : Position) (cs : List Char) : Nat :=
  let rest := dropLines (p.line - 1) cs
  (byteSize cs - byteSize rest) + byteSize ((firstLine rest).take (p.column - 1))

/-- Where a message points in a text: a message without a position points at the end. -/
def errorOffset (text message : String) : Nat :=
  match readPosition? message.toList with
  | some position => position.offset text.toList
  | none => byteSize text.toList

end SelectTree.Sql
