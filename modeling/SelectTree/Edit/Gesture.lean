import SelectTree.Edit.Projection
import SelectTree.Text.Decimal

namespace SelectTree.Edit

/-! What a user does to a query: columns dragged in and out, filters, sorting. -/

/-! Columns -/

def checkColumn (schema : Schema) (table column : String) : Except Error Unit :=
  match schema.columnsOf? table with
  | none => .error (.unknownTable table)
  | some columns =>
      if column = "*" || columns.any (·.name = column) then .ok ()
      else .error (.unknownColumn table column)

def startQuery (table column : String) : Select :=
  .new [.identifier column] (.bare table)

/-- Adds a column of a table to a query, and joins the table if the query does not read it yet. -/
def extendQuery (schema : Schema) (options : Options) (q : Select) (table column : String) :
    Except Error Select := do
  q.validate
  let edited ←
    if column = "*" || !(resolve schema q).contains column then
      projectColumn schema options q table column
    else pure q
  if q.tables.contains table then return edited else edited.addNaturalJoin table

def addColumn (schema : Schema) (options : Options) (q : Option Select) (table column : String) :
    Except Error Select := do
  checkColumn schema table column
  match q with
  | none => return startQuery table column
  | some q => extendQuery schema options q table column

/-- Removes a column, qualified or not. Nothing is left of a query that loses its last one. -/
def removeColumn (schema : Schema) (options : Options) (q : Select) (text : String) :
    Except Error (Option Select) := do
  q.validate
  let column := projectedName text
  let resolved := resolve schema q
  if !resolved.contains column then return some q
  else if resolved.length = 1 then return none
  else return some (← unprojectColumn schema options q column)

/-! Filters -/

/-- A numeral, as it was typed but for a plus sign in front. -/
def numeral? (value : String) : Option Literal :=
  let text :=
    match value.toList with
    | '+' :: rest => rest
    | rest => rest
  match Text.Decimal.read? text with
  | some decimal => if decimal.fitsDouble then some (.number (String.ofList text)) else none
  | none => none

def boolean? : String → Option Literal
  | "true" => some (.boolean true)
  | "false" => some (.boolean false)
  | _ => none

/-- The type of a column in the first table of a query that has it. -/
def columnType? (schema : Schema) (q : Select) (text : String) : Option DataType :=
  (q.tables.findSome? fun table => schema.column? table (projectedName text)).map Column.dataType

/-- The constant that a typed value stands for beside a column of the given type. -/
def typedLiteral? (type : Option DataType) (value : String) : Option Literal :=
  match type with
  | some type =>
      if type.isNumeric then numeral? value
      else if type.isTextual then some (.string value)
      else boolean? value
  | none => some ((numeral? value).getD (.string value))

def filterLiteral (schema : Schema) (options : Options) (q : Select) (column : String)
    (operator : FilterOperator) (value : String) : Except Error Literal :=
  match operator with
  | .like => .ok (.string (value ++ options.likeSuffix))
  | .compare _ =>
      match typedLiteral? (columnType? schema q column) value with
      | some literal => .ok literal
      | none => .error (.invalidValue column value)

/-- Replaces the filter on a column by a new one, or by none if the value is blank. -/
def setFilter (schema : Schema) (options : Options) (q : Select) (column operator value : String) :
    Except Error Select := do
  q.validate
  let operator ← FilterOperator.ofText operator
  let cleared ← q.removeTest column operator
  let value := Text.trim value
  if value.isEmpty then return cleared
  else
    let literal ← filterLiteral schema options q column operator value
    cleared.appendTest (operator.test column literal)

/-- A pattern without the wildcards around it. -/
def barePattern (pattern : List Char) : List Char :=
  let rest := (Text.stripPrefix? ['%'] pattern).getD pattern
  match Text.stripPrefix? ['%'] rest.reverse with
  | some front => front.reverse
  | none => rest

def Filter.ofTest : Test → Filter
  | .like _ pattern => ⟨.like, String.ofList (barePattern pattern.value.toList)⟩
  | .compare _ op value => ⟨.compare op, value.value⟩

def filterFor (q : Select) (column : String) : Option Filter :=
  (q.findTest column).map Filter.ofTest

def clearFilters (q : Select) : Select :=
  { q with filter := none }

/-! Order -/

def isAvailable (schema : Schema) (q : Select) (text : String) : Bool :=
  let name := projectedName text
  (resolve schema q).contains name || q.tables.any fun table => (schema.column? table name).isSome

def removeOrder (q : Select) (text : String) : Except Error Select := do
  q.validate
  return { q with orderBy := q.orderBy.filter (!isKeyOf (projectedName text) ·.column) }

/-- Sorts by a column after all others, wherever it stood before. -/
def orderBy (schema : Schema) (q : Select) (text : String) (ascending : Option Bool) :
    Except Error Select := do
  let edited ← removeOrder q text
  if isAvailable schema q text then
    return { edited with orderBy := edited.orderBy ++ [⟨.identifier text, ascending⟩] }
  else throw (.unsupportedEdit (.unavailableColumn text))

def clearOrder (q : Select) : Select :=
  { q with orderBy := [] }

end SelectTree.Edit
