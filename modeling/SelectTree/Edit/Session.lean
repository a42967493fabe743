import SelectTree.Edit.Gesture
import SelectTree.Sql.Position

namespace SelectTree.Edit

/-! A session edits one query at a time. A gesture that fails leaves the query as it was. -/

/-- Why the last text was rejected, and where. Only text that is no SQL has a place. -/
structure Rejection where
  message : String
  offset : Option Nat
  deriving DecidableEq, Repr

def Rejection.ofError (text : String) (e : Error) : Rejection :=
  match e with
  | .invalidQuery _ => ⟨e.message, some (Sql.errorOffset text e.message)⟩
  | e => ⟨e.message, none⟩

structure Session where
  schema : Schema
  options : Options
  query : Option Select
  rejection : Option Rejection
  deriving DecidableEq

inductive Gesture
  | load (text : String)
  | addColumn (qualified : String)
  | removeColumn (column : String)
  | setFilter (column operator value : String)
  | orderBy (column : String) (ascending : Option Bool)
  | removeOrder (column : String)
  | clearFilters
  | clearOrder
  | clear
  deriving DecidableEq, Repr

namespace Session

def start (schema : Schema) (options : Options) : Session :=
  ⟨schema, options, none, none⟩

def sql (s : Session) : String :=
  (s.query.map Select.sql).getD ""

def columns (s : Session) : List String :=
  (s.query.map (resolve s.schema)).getD []

def tables (s : Session) : List String :=
  (s.query.map Select.tables).getD []

def filterFor (s : Session) (column : String) : Option Filter :=
  s.query.bind (Edit.filterFor · column)

def current (s : Session) : Except Error Select :=
  match s.query with
  | some q => .ok q
  | none => .error (.unsupportedEdit .noQuery)

/-- The table and the column of a qualified name. -/
def splitQualified (qualified : String) : Except Error (String × String) :=
  match Text.splitLast '.' qualified.toList with
  | some (table, column) => .ok (String.ofList table, String.ofList column)
  | none => .error (.unsupportedEdit (.unqualifiedColumn qualified))

/-- The query after a gesture. -/
def edited (s : Session) : Gesture → Except Error (Option Select)
  | .load text => s.options.dialect.parse text
  | .addColumn qualified => do
      let (table, column) ← splitQualified qualified
      return some (← Edit.addColumn s.schema s.options s.query table column)
  | .removeColumn column => do Edit.removeColumn s.schema s.options (← s.current) column
  | .setFilter column operator value =>
      return some (← Edit.setFilter s.schema s.options (← s.current) column operator value)
  | .orderBy column ascending =>
      return some (← Edit.orderBy s.schema (← s.current) column ascending)
  | .removeOrder column => return some (← Edit.removeOrder (← s.current) column)
  | .clearFilters => .ok (s.query.map Edit.clearFilters)
  | .clearOrder => .ok (s.query.map Edit.clearOrder)
  | .clear => .ok none

/-- Loading and clearing settle whether there is a rejected text; other gestures do not. -/
def rejectionAfter (s : Session) : Gesture → Option Rejection
  | .load text =>
      match s.options.dialect.parse text with
      | .ok _ => none
      | .error e => some (.ofError text e)
  | .clear => none
  | _ => s.rejection

def queryAfter (s : Session) (g : Gesture) : Option Select :=
  match s.edited g with
  | .ok query => query
  | .error _ => s.query

def perform (s : Session) (g : Gesture) : Session :=
  { s with query := s.queryAfter g, rejection := s.rejectionAfter g }

/-- The error of a gesture that fails. -/
def errorOf (s : Session) (g : Gesture) : Option Error :=
  match s.edited g with
  | .ok _ => none
  | .error e => some e

end Session

end SelectTree.Edit
