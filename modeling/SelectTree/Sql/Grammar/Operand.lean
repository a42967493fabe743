import SelectTree.Sql.Grammar.Special

namespace SelectTree.Sql.Grammar

open Sql.Parser

/-! Operands: what stands between infix operators. -/

/-! Words -/

def introducedValue? : Token → Option String
  | .string text => some (quotedText '\'' text)
  | .doubleString text => some (quotedText '"' text)
  | .tagged "X" quote text => some ("X" ++ enclosed quote text)
  | _ => none

/-- A word without a meaning of its own: a call, a text with a prefix, or a column. -/
def plainWord (d : Dialect) (n : Nested) (interval : Parser Expr) (w : Word) : Parser Expr := do
  if ← peekSymbol .lparen then return .call (← call d n interval [.ofWord w])
  else if w.text.startsWith "_" then
    match ← acceptToken introducedValue? with
    | some text => return .other ((Name.ofWord w).sql ++ " " ++ text)
    | none => return .column [.ofWord w]
  else return .column [.ofWord w]

/-- Where a column is defined, the order of its texts is its own. -/
def collated (n : Nested) (e : Expr) : Parser Expr := do
  if ← whenever (n.context ≠ .columnDefinition) (acceptKeyword .COLLATE) then
    return .other (e.sql ++ " COLLATE " ++ (← pathText))
  else return e

/-- A word and what it opens. A word that opens an expression of its own is a plain word after
all if that expression cannot be read, unless the word is reserved. -/
def wordExpr (d : Dialect) (n : Nested) (prefixExpr : Parser Expr) (w : Word) : Parser Expr :=
  let plain := plainWord d n (interval d n prefixExpr) w
  fun ts =>
    match special? d n prefixExpr w ts.head? with
    | none => (plain >>= collated n) ts
    | some opened =>
        match opened ts with
        | .ok (e, rest) => collated n e rest
        | .error failure =>
            if w.keyword.any Keyword.reservesIdentifier then .error failure
            else
              match attempt plain ts with
              | .ok (some e, rest) => .ok (e, rest)
              | .ok (none, _) => .error failure
              | .error _ => .error failure

/-! Prefixes -/

/-- A type and a constant of it, or an interval. -/
def typedValue (d : Dialect) (n : Nested) (prefixExpr : Parser Expr) : Parser Expr := do
  let type ← dataType d n
  match type.kind with
  | .interval => interval d n prefixExpr
  | .named => expected .dataType
  | .plain => return .other (type.sql ++ " " ++ (← valueText d))

def parenthesizedExpr (n : Nested) : Parser Expr :=
  parenthesized (do
    if ← beginsQuery then return .subquery (← n.queryText)
    else
      match ← n.exprs with
      | [e] => return .nested e
      | es => return .other (Text.parenthesized (Expr.listSql es)))

/-- Symbols in front of an operand, with the strength that the operand must have. -/
def prefixBinding? (d : Dialect) : Symbol → Option Binding
  | .plus | .minus => some .times
  | .tilde | .doubleBang | .squareRoot | .cubeRoot | .atSign =>
      if d = .postgres then some .plus else none
  | .sharp | .atDashAt | .atAt | .questionDash | .questionPipe =>
      if d.hasGeometry then some .plus else none
  | _ => none

def prefixed (s : Symbol) (e : Expr) : Expr :=
  match s with
  | .minus => .signed true e
  | .plus => .signed false e
  | .sharp | .atDashAt | .atAt | .questionDash | .questionPipe =>
      .other (s.spelling ++ " " ++ e.sql)
  | s => .other (s.spelling ++ e.sql)

def symbolExpr (d : Dialect) (n : Nested) (interval : Parser Expr) (s : Symbol) :
    Parser Expr := do
  match prefixBinding? d s with
  | some b =>
      expect s
      return prefixed s (← n.tighter d b)
  | none =>
      match s with
      | .lparen => parenthesizedExpr n
      | .lbracket => array n ""
      | .lbrace => braced d n interval
      | .colon | .atSign => return .value (← value d)
      | _ => expected .expression

def prefixAt (d : Dialect) (n : Nested) : (fuel : Nat) → Parser Expr
  | 0 => fail .nestingLimit
  | fuel + 1 => do
      match ← attempt (typedValue d n (prefixAt d n fuel)) with
      | some e => return e
      | none =>
          match ← peek with
          | some (.word w) =>
              skipToken
              wordExpr d n (prefixAt d n fuel) w
          | some (.symbol s) => symbolExpr d n (interval d n (prefixAt d n fuel)) s >>= collated n
          | some t =>
              if beginsValue t then
                let v ← value d
                collated n (.value v)
              else expected .expression
          | none => expected .expression

/-- Only intervals stand in front of one another, and each of them reads a word. -/
def prefixExpr (d : Dialect) (n : Nested) : Parser Expr := fun ts =>
  prefixAt d n (ts.length + 1) ts

/-- An interval after its word. -/
def intervalExpr (d : Dialect) (n : Nested) : Parser Expr :=
  interval d n (prefixExpr d n)

/-! Fields and elements -/

inductive Access
  | field (e : Expr)
  | element (index : String)

def Access.sql : Access → String
  | .field e => "." ++ e.sql
  | .element index => "[" ++ index ++ "]"

def accessPath : List Access → Option (List Name)
  | [] => some []
  | .field (.column path) :: rest => (accessPath rest).map (path ++ ·)
  | _ => none

/-- Columns up to a call at the end. -/
def accessCall : List Access → Option Call
  | [.field (.call c)] => some c
  | .field (.column path) :: rest =>
      (accessCall rest).map fun c => { c with path := path ++ c.path }
  | _ => none

def accessed (root : Expr) (chain : List Access) : Expr :=
  let text : Expr := .other (root.sql ++ String.join (chain.map Access.sql))
  match root, chain with
  | root, [] => root
  | .column path, chain =>
      match accessPath chain, accessCall chain with
      | some more, _ => .column (path ++ more)
      | none, some c => .call { c with path := path ++ c.path }
      | none, none => text
  | _, _ => text

/-- An index, or the bounds and step of a slice, with the closing bracket. -/
def element (n : Nested) : Parser String := do
  let lower ← if ← accept .colon then pure none else some <$> n.exprText
  if ← accept .rbracket then return lower.getD ":"
  else
    if lower.isSome then expect .colon
    let start := lower.getD "" ++ ":"
    if ← accept .rbracket then return start
    else
      let upper ← n.exprText
      if ← accept .rbracket then return start ++ upper
      else
        expect .colon
        if ← accept .rbracket then return start ++ upper
        else
          let step ← n.exprText
          expect .rbracket
          return start ++ upper ++ ":" ++ step

/-- Reads on after an operand. Only postgres takes a star at the end of the chain. -/
def accesses (d : Dialect) (n : Nested) (root : Expr) : Parser Expr :=
  iterate (fun chain => do
    match ← rest with
    | .symbol .period :: .symbol .star :: _ =>
        if d = .postgres then
          expect .period
          expect .star
          match accessed root chain.reverse with
          | .column path => return .inr (.other (Name.pathSql path ++ ".*"))
          | _ => expected .partOfQualifiedName
        else return .inr (accessed root chain.reverse)
    | .symbol .period :: .string text :: _ =>
        expect .period
        skipToken
        return .inl (.field (.column [⟨text, some '\''⟩]) :: chain)
    | .symbol .period :: _ =>
        expect .period
        let e ← n.tighter d .period
        return .inl (.field e :: chain)
    | .symbol .lbracket :: _ =>
        expect .lbracket
        let index ← element n
        return .inl (.element index :: chain)
    | _ => return .inr (accessed root chain.reverse)) []

end SelectTree.Sql.Grammar
