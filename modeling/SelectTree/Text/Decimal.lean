namespace SelectTree.Text

/-! Decimal numerals: an optional sign, digits with at most one point, an optional exponent. -/

structure Decimal where
  negative : Bool
  whole : List Char
  fraction : List Char
  exponent : Int
  deriving DecidableEq

def digitsValue (digits : List Char) : Nat :=
  digits.foldl (fun total c => 10 * total + (c.toNat - '0'.toNat)) 0

def takeSign : List Char → Bool × List Char
  | '-' :: cs => (true, cs)
  | '+' :: cs => (false, cs)
  | cs => (false, cs)

def readExponent? : List Char → Option Int
  | [] => some 0
  | c :: cs =>
      let (negative, digits) := takeSign cs
      if (c = 'e' || c = 'E') && !digits.isEmpty && digits.all Char.isDigit then
        some (if negative then -(digitsValue digits : Int) else digitsValue digits)
      else none

def Decimal.read? (cs : List Char) : Option Decimal :=
  let (negative, unsigned) := takeSign cs
  let whole := unsigned.takeWhile Char.isDigit
  let (fraction, rest) :=
    match unsigned.dropWhile Char.isDigit with
    | '.' :: tail => (tail.takeWhile Char.isDigit, tail.dropWhile Char.isDigit)
    | tail => ([], tail)
  if whole.isEmpty && fraction.isEmpty then none
  else (readExponent? rest).map fun exponent => { negative, whole, fraction, exponent }

def Decimal.mantissa (d : Decimal) : Nat :=
  digitsValue (d.whole ++ d.fraction)

def Decimal.scale (d : Decimal) : Int :=
  d.exponent - d.fraction.length

/-- The least magnitude that is nearer to `2 ^ 1024` than to any double below it. -/
def doubleBound : Nat :=
  Nat.pow 2 1024 - Nat.pow 2 970

/-- Whether the nearest double is finite. A numeral with a nonzero mantissa whose leading digit
stands beyond place 400 is decided by that place alone. -/
def Decimal.fitsDouble (d : Decimal) : Bool :=
  let mantissa := d.mantissa
  let place : Int := (Nat.toDigits 10 mantissa).length + d.scale
  if mantissa = 0 then true
  else if 400 < place then false
  else if place < 0 then true
  else if 0 ≤ d.scale then mantissa * Nat.pow 10 d.scale.toNat < doubleBound
  else mantissa < doubleBound * Nat.pow 10 (-d.scale).toNat

end SelectTree.Text
