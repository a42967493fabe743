import SelectTree.Sql.Dialect
import SelectTree.Sql.Expr
import SelectTree.Sql.Parser

namespace SelectTree.Sql.Grammar

/-! Infix operators: how tightly each binds in a dialect, and how each is written. -/

/-- Where an expression stands, as far as that changes what its words mean. -/
inductive Context
  | plain
  | columnDefinition
  | hierarchy
  deriving DecidableEq, Repr

inductive Binding
  | period | typeCast | bracket | collation | timeZone | times | plus | concat | xor | ampersand
  | caret | pipe | between | equality | like | is | other | not | and | or | none
  deriving DecidableEq, Repr

/-- A greater number binds more tightly. -/
def Binding.strength (d : Dialect) (b : Binding) : Nat :=
  if d = .postgres then
    match b with
    | .period => 200
    | .typeCast => 140
    | .bracket => 130
    | .collation => 120
    | .timeZone => 110
    | .caret => 100
    | .times => 90
    | .plus => 80
    | .xor => 75
    | .concat | .other | .pipe | .ampersand => 70
    | .between | .like => 60
    | .equality => 50
    | .is => 40
    | .not => 30
    | .and => 20
    | .or => 10
    | .none => 0
  else
    match b with
    | .period => 100
    | .typeCast | .bracket => 50
    | .timeZone => 41
    | .collation => 42
    | .times => 40
    | .plus => 30
    | .concat => 29
    | .xor => 24
    | .ampersand => 23
    | .caret => 22
    | .pipe => 21
    | .between | .equality => 20
    | .like => 19
    | .is => 17
    | .other => 16
    | .not => 15
    | .and => 10
    | .or => 5
    | .none => 0

/-- Symbols that match a text against a pattern. -/
def isMatchOperator : Symbol → Bool
  | .tilde | .tildeStar | .notTilde | .notTildeStar | .doubleTilde | .doubleTildeStar
  | .notDoubleTilde | .notDoubleTildeStar => true
  | _ => false

def symbolBinding (d : Dialect) (s : Symbol) : Binding :=
  match s with
  | .period => .period
  | .eq | .doubleEq | .lt | .le | .gt | .ge | .ne | .spaceship | .assign => .equality
  | .plus | .minus => .plus
  | .star | .slash | .intDiv | .percent => .times
  | .concat => if d = .postgres then .concat else .times
  | .pipe | .overlap | .atSign => if d = .postgres then .other else .pipe
  | .caret => .caret
  | .sharp | .shiftLeft | .shiftRight => if d = .postgres then .other else .caret
  | .ampersand => .ampersand
  | .doubleColon => .typeCast
  | .lbracket => .bracket
  | .bang | .caretAt => if d = .postgres then .other else .typeCast
  | .arrow | .longArrow | .hashArrow | .hashLongArrow | .atArrow | .arrowAt | .hashMinus
  | .atQuestion | .atAt | .question | .questionAnd | .questionPipe => .other
  | s => if isMatchOperator s then .equality else .none

/-- `NOT` binds like the test that it negates. Where a column is defined, `NOT NULL` is no test
but says that the column needs a value. -/
def negatedBinding (context : Context) : Option Keyword → Binding
  | some .IN | some .BETWEEN => .between
  | some .LIKE | some .ILIKE | some .RLIKE | some .REGEXP | some .MATCH | some .SIMILAR
  | some .MEMBER => .like
  | some .NULL => if context = .columnDefinition then .none else .is
  | _ => .none

def keywordBinding (d : Dialect) (context : Context) (k : Keyword) (following : List Token) :
    Binding :=
  match k with
  | .OR => .or
  | .AND => .and
  | .XOR => .xor
  | .AT =>
      match following with
      | t :: u :: _ =>
          if t.keyword = some .TIME && u.keyword = some .ZONE then .timeZone else .none
      | _ => .none
  | .NOT => negatedBinding context (following.head?.bind Token.keyword)
  | .NOTNULL => if d.hasNotNullSuffix && context ≠ .columnDefinition then .is else .none
  | .COLLATE => if d = .postgres && context ≠ .columnDefinition then .collation else .none
  | .IS => .is
  | .IN | .BETWEEN | .OVERLAPS | .OPERATOR => .between
  | .LIKE | .ILIKE | .RLIKE | .REGEXP | .MATCH | .SIMILAR | .MEMBER => .like
  | .DIV => .times
  | _ => .none

/-- How tightly the operator at the head of the tokens binds its left side. -/
def nextBinding (d : Dialect) (context : Context) : List Token → Binding
  | .symbol s :: _ => symbolBinding d s
  | .customOperator _ :: _ => .other
  | .word w :: ts =>
      match w.keyword with
      | some k => keywordBinding d context k ts
      | none => .none
  | _ => .none

/-- The operator between two operands that a symbol writes. -/
def symbolOperator? (d : Dialect) (s : Symbol) : Option Operator :=
  match s with
  | .doubleEq | .eq => some (.compare .eq)
  | .ne => some (.compare .ne)
  | .gt => some (.compare .gt)
  | .ge => some (.compare .ge)
  | .lt => some (.compare .lt)
  | .le => some (.compare .le)
  | .spaceship | .assign | .plus | .minus | .star | .slash | .percent | .concat | .pipe | .caret
  | .ampersand => some (.other s.spelling)
  | .intDiv => if d.hasIntegerDivision then some (.other s.spelling) else none
  | .shiftLeft | .shiftRight =>
      if d = .generic || d = .postgres then some (.other s.spelling) else none
  | .sharp => if d = .postgres then some (.other s.spelling) else none
  | .overlap | .caretAt =>
      if d = .generic || d = .postgres then some (.other s.spelling) else none
  | .atSign => if d = .postgres then some (.other s.spelling) else none
  | .arrow | .longArrow | .hashArrow | .hashLongArrow | .atArrow | .arrowAt | .hashMinus
  | .atQuestion | .atAt | .question | .questionAnd | .questionPipe => some (.other s.spelling)
  | s => if isMatchOperator s then some (.other s.spelling) else none

/-- Operators that may compare with all or any values of a query. -/
def comparesWithMany : Operator → Bool
  | .compare _ => true
  | .other sql =>
      sql ∈ ["~", "~*", "!~", "!~*", "~~", "~~*", "!~~", "!~~*"]
  | _ => false

end SelectTree.Sql.Grammar
