import SelectTree.Sql.Grammar.Name
import SelectTree.Sql.Grammar.Nested
import SelectTree.Sql.Grammar.Value

namespace SelectTree.Sql.Grammar

open Sql.Parser

/-! Names of data types. -/

/-! Sizes -/

/-- A length in characters or octets, or the greatest there is. -/
def characterLength? : Parser String := do
  if !(← peekSymbol .lparen) then return ""
  else
    let length ← parenthesized (do
      if ← acceptWord "MAX" then return "MAX"
      else
        let length ← whole
        match ← acceptAnyOf ["CHARACTERS", "OCTETS"] with
        | some unit => return length ++ " " ++ unit
        | none => return length)
    return Text.parenthesized length

def binaryLength? : Parser String := do
  if !(← peekSymbol .lparen) then return ""
  else
    let length ← parenthesized (do
      if ← acceptWord "MAX" then return "MAX" else whole)
    return Text.parenthesized length

/-- A precision and perhaps a scale, of which only the scale may have a sign. -/
def precisionAndScale? : Parser String := do
  if !(← peekSymbol .lparen) then return ""
  else
    let sizes ← parenthesized (do
      let precision ← whole
      if ← accept .comma then return precision ++ "," ++ (← signedWhole) else return precision)
    return Text.parenthesized sizes

def timeZone : Parser String := do
  if ← acceptKeyword .WITH then
    expectKeywords [.TIME, .ZONE]
    return " WITH TIME ZONE"
  else if ← acceptKeyword .WITHOUT then
    expectKeywords [.TIME, .ZONE]
    return " WITHOUT TIME ZONE"
  else return ""

/-! Families of types -/

/-- Types that stand without sizes, in capitals and as they are printed. -/
def plainTypes : List (String × String) :=
  [("BOOLEAN", "BOOLEAN"), ("BOOL", "BOOL"), ("FLOAT4", "FLOAT4"), ("FLOAT32", "Float32"),
    ("FLOAT64", "FLOAT64"), ("FLOAT8", "FLOAT8"), ("INT16", "Int16"), ("INT32", "Int32"),
    ("INT64", "INT64"), ("INT128", "Int128"), ("INT256", "Int256"), ("HUGEINT", "HUGEINT"),
    ("UBIGINT", "UBIGINT"), ("UHUGEINT", "UHUGEINT"), ("USMALLINT", "USMALLINT"),
    ("UTINYINT", "UTINYINT"), ("UINT8", "UInt8"), ("UINT16", "UInt16"), ("UINT32", "UInt32"),
    ("UINT64", "UInt64"), ("UINT128", "UInt128"), ("UINT256", "UInt256"),
    ("TINYBLOB", "TINYBLOB"), ("MEDIUMBLOB", "MEDIUMBLOB"), ("LONGBLOB", "LONGBLOB"),
    ("UUID", "UUID"), ("DATE", "DATE"), ("DATE32", "Date32"), ("JSON", "JSON"),
    ("JSONB", "JSONB"), ("REGCLASS", "REGCLASS"), ("TEXT", "TEXT"), ("TINYTEXT", "TINYTEXT"),
    ("MEDIUMTEXT", "MEDIUMTEXT"), ("LONGTEXT", "LONGTEXT"), ("BYTEA", "BYTEA"),
    ("TIMESTAMP_NTZ", "TIMESTAMP_NTZ"), ("TRIGGER", "TRIGGER")]

/-- Types of whole numbers, which may have a size and a word for their sign. -/
def wholeTypes : List String :=
  ["TINYINT", "INT2", "SMALLINT", "MEDIUMINT", "INT", "INT4", "INT8", "INTEGER", "BIGINT"]

/-- Types that one size may follow. -/
def sizedTypes : List String :=
  ["CLOB", "BINARY", "BLOB", "BYTES", "VARBIT", "DATETIME", "TIMESTAMPTZ", "TIMETZ",
    "STRING"]

/-- Types that a precision and a scale may follow. -/
def scaledTypes : List String :=
  ["NUMERIC", "BIGNUMERIC", "BIGDECIMAL"]

/-- Scaled types that may also be unsigned. -/
def signableTypes : List String :=
  ["FLOAT", "DECIMAL", "DEC"]

def wholeType (d : Dialect) (spelling : String) : Parser String := do
  let size ← wholeInParentheses?
  if ← acceptWord "UNSIGNED" then return spelling ++ size ++ " UNSIGNED"
  else
    if d.hasSignedTypes then
      let _ ← acceptWord "SIGNED"
    return spelling ++ size

def doubleType : Parser String := do
  let precision ← phrasePart "PRECISION"
  let sizes ← if precision.isEmpty then precisionAndScale? else pure ""
  return "DOUBLE" ++ precision ++ sizes ++ (← phrasePart "UNSIGNED")

def characterType (spelling : String) : Parser String := do
  let varying ← phrasePart "VARYING"
  if varying.isEmpty then
    let large ← phrasePart "LARGE OBJECT"
    let length ← if large.isEmpty then characterLength? else wholeInParentheses?
    return spelling ++ large ++ length
  else return spelling ++ varying ++ (← characterLength?)

/-- The fields of an interval's type. -/
def intervalFields : Parser String := do
  match ← acceptAnyOf ["YEAR", "DAY", "HOUR", "MINUTE", "MONTH", "SECOND"] with
  | none => return ""
  | some first =>
      match finer first with
      | [] => return " " ++ first
      | fields =>
          if ← acceptKeyword .TO then
            match fields with
            | [field] =>
                expectWord field
                return " " ++ first ++ " TO " ++ field
            | fields => return " " ++ first ++ " TO " ++ (← expectAnyOf fields)
          else return " " ++ first
where
  finer : String → List String
    | "YEAR" => ["MONTH"]
    | "DAY" => ["HOUR", "MINUTE", "SECOND"]
    | "HOUR" => ["MINUTE", "SECOND"]
    | "MINUTE" => ["SECOND"]
    | _ => []

def intervalType (d : Dialect) : Parser String := do
  if d.hasIntervalFields then
    let fields ← intervalFields
    return "INTERVAL" ++ fields ++ (← wholeInParentheses?)
  else return "INTERVAL"

def zonedMoment : Parser String := do
  let precision ← parenthesized (do
    let precision ← whole
    if ← accept .comma then return precision ++ ", " ++ enclosed '\'' (← literalText)
    else return precision)
  return "DateTime64" ++ Text.parenthesized precision

def enumMember (d : Dialect) : Parser String := do
  let member ← literalText
  if ← accept .eq then return quotedText '\'' member ++ " = " ++ (← signedNumberText d)
  else return quotedText '\'' member

/-- The texts of a set, from the opening parenthesis on. -/
def setMembers : Parser String := do
  expect .lparen
  let member : Parser String := token (.phrase "a string") fun
    | .string text => some (quotedText '\'' text)
    | _ => none
  let first ← member
  let members ← iterate (fun (read : List String) => do
    if ← accept .comma then
      let next ← member
      return .inl (next :: read)
    else if ← accept .rparen then return .inr read.reverse
    else expected (.phrase ", or \x7d")) [first]
  return Text.parenthesized (Text.listed members)

/-! Names that are not known -/

inductive Modifier
  | text (t : String)
  | comma
  | done

def modifier? : Token → Option Modifier
  | .word w => some (.text w.spelling)
  | .number text _ => some (.text text)
  | .string text => some (.text text)
  | .symbol .comma => some .comma
  | .symbol .rparen => some .done
  | _ => none

/-- Words, numbers and texts in parentheses; commas between them say nothing. -/
def modifiers? : Parser String := do
  if !(← accept .lparen) then return ""
  else
    let read ← iterate (fun (read : List String) => do
      match ← token (.phrase "type modifiers") modifier? with
      | .text t => return .inl (t :: read)
      | .comma => return .inl read
      | .done => return .inr read.reverse) []
    return if read.isEmpty then "" else Text.parenthesized (Text.listed read)

/-! Types -/

inductive TypeKind
  | plain
  | interval
  | named
  deriving DecidableEq

/-- A type as it was read. A shift to the right may close two types at once; `closesOuter` says
that one of the two is still to be closed. -/
structure DataType where
  sql : String
  kind : TypeKind
  closesOuter : Bool

def DataType.plain (sql : String) : DataType := ⟨sql, .plain, false⟩

/-- Closes a type in angle brackets, unless the type inside it already did. -/
def closeAngle (closed : Bool) : Parser Bool := do
  if closed then return false
  else if ← accept .gt then return false
  else if ← accept .shiftRight then return true
  else expected (.symbol .gt)

/-- An option and its value. -/
def assignedOption (n : Nested) : Parser String := do
  let key ← name
  expect .eq
  return key.sql ++ " = " ++ (← n.exprText)

/-- The bounds that divide a table by one of its columns. -/
def rangeOption (n : Nested) : Parser String := do
  let bounds ← parenthesized (do
    let column ← name
    expectWord "RANGE"
    let side ← acceptAnyOf ["LEFT", "RIGHT"]
    expectPhrase "FOR VALUES"
    let values ← parenthesized n.exprsText
    return column.sql ++ " RANGE" ++ clausePart " " side ++ " FOR VALUES " ++
      Text.parenthesized values)
  return "PARTITION " ++ Text.parenthesized bounds

/-- The index that a table is kept in. -/
def clusteredOption : Parser String := do
  match ← acceptPhraseOf ["CLUSTERED COLUMNSTORE INDEX ORDER", "CLUSTERED COLUMNSTORE INDEX",
      "CLUSTERED INDEX"] with
  | some "CLUSTERED COLUMNSTORE INDEX ORDER" =>
      return "CLUSTERED COLUMNSTORE INDEX ORDER " ++ (← requiredNameTuple)
  | some "CLUSTERED INDEX" =>
      let columns ← tupleText (do
        let column ← name
        let direction ← acceptAnyOf ["ASC", "DESC"]
        return column.sql ++ clausePart " " direction)
      return "CLUSTERED INDEX " ++ columns
  | some phrase => return phrase
  | none => fail (.refused "invalid CLUSTERED sequence")

/-- An option with its value. In a warehouse, some options are phrases of their own. -/
def sqlOption (d : Dialect) (n : Nested) : Parser String := do
  if !d.hasWarehouseOptions then assignedOption n
  else
    match (← peek).bind Token.capitals? with
    | some "HEAP" => nameText
    | some "PARTITION" =>
        skipToken
        rangeOption n
    | some "CLUSTERED" => clusteredOption
    | _ => assignedOption n

def options (option : Parser String) : Parser String := do
  return Text.parenthesized
    (Text.listed (← parenthesized (commaSeparatedBefore .rparen option)))

/-- Options after the word that opens them, or nothing. -/
def optionsAfter (word : String) (option : Parser String) : Parser String := do
  if ← acceptWord word then return " " ++ word ++ (← options option) else return ""

/-- A field of a compound type; its name may be missing. -/
def typeField (d : Dialect) (n : Nested) (type : Parser DataType) : Parser (String × Bool) := do
  let isNamed :=
    match ← rest with
    | .word _ :: .word _ :: _ | .word _ :: .symbol .colon :: _ => true
    | _ => false
  let label ←
    if isNamed then
      let label ← name
      let _ ← accept .colon
      pure (label.sql ++ " ")
    else pure ""
  let type ← type
  return (label ++ type.sql ++ (← optionsAfter "OPTIONS" (sqlOption d n)), type.closesOuter)

/-- Fields in angle brackets, which may be missing, and whether the brackets close more. -/
def structFields (d : Dialect) (n : Nested) (type : Parser DataType) :
    Parser (List String × Bool) := do
  if !(← accept .lt) then return ([], false)
  else
    let first ← typeField d n type
    let (fields, closed) ← iterate (fun ((read, closed) : List String × Bool) => do
      if closed then return .inr (read, closed)
      else if ← accept .comma then
        let (field, closed) ← typeField d n type
        return .inl (field :: read, closed)
      else return .inr (read, closed)) ([first.1], first.2)
    return (fields.reverse, ← closeAngle closed)

def inBrackets (type : Parser DataType) : Parser DataType := do
  expect .lt
  let inner ← type
  return ⟨"ARRAY<" ++ inner.sql ++ ">", .plain, ← closeAngle inner.closesOuter⟩

/-- A type without a pending bracket. -/
def closedType (type : Parser DataType) : Parser DataType := do
  let read ← type
  if read.closesOuter then
    let found := ((← peek).map Token.spelling).getD "EOF"
    fail (.refused ("unmatched > after parsing data type " ++ read.sql ++ found))
  else return read

/-- Types that only the generic dialect has, by their first word. -/
def compoundType? (d : Dialect) (n : Nested) (type : Parser DataType) :
    String → Option (Parser DataType)
  | "STRUCT" => some (do
      let (fields, closesOuter) ← structFields d n type
      let sql := if fields.isEmpty then "STRUCT" else "STRUCT<" ++ Text.listed fields ++ ">"
      return ⟨sql, .plain, closesOuter⟩)
  | "UNION" => some (do
      let fields ← tupleText (do
        let label ← name
        return label.sql ++ " " ++ (← closedType type).sql)
      return .plain ("UNION" ++ fields))
  | "NULLABLE" => some (around "Nullable")
  | "LOWCARDINALITY" => some (around "LowCardinality")
  | "MAP" => some (do
      let types ← parenthesized (do
        let key ← closedType type
        expect .comma
        return key.sql ++ ", " ++ (← closedType type).sql)
      return .plain ("Map" ++ Text.parenthesized types))
  | "NESTED" => some (do return .plain ("Nested" ++ (← tupleText n.column)))
  | "TUPLE" => some (do
      let fields ← tupleText (Prod.fst <$> typeField d n type)
      return .plain ("Tuple" ++ fields))
  | _ => none
where
  around (word : String) : Parser DataType := do
    let inner ← parenthesized (closedType type)
    return .plain (word ++ Text.parenthesized inner.sql)

/-- A type that its first word decides, after that word. -/
def knownType? (d : Dialect) (spelling : String) : Option (Parser String) :=
  match plainTypes.lookup spelling with
  | some printed => some (pure printed)
  | none =>
      if wholeTypes.contains spelling then some (wholeType d spelling)
      else if sizedTypes.contains spelling then
        some (do return spelling ++ (← wholeInParentheses?))
      else if scaledTypes.contains spelling then
        some (do return spelling ++ (← precisionAndScale?))
      else if signableTypes.contains spelling then
        some (do
          let sizes ← precisionAndScale?
          return spelling ++ sizes ++ (← phrasePart "UNSIGNED"))
      else
        match spelling with
        | "REAL" => some (do return spelling ++ (← phrasePart "UNSIGNED"))
        | "DOUBLE" => some doubleType
        | "VARCHAR" | "NVARCHAR" => some (do return spelling ++ (← characterLength?))
        | "CHARACTER" | "CHAR" => some (characterType spelling)
        | "VARBINARY" => some (do return spelling ++ (← binaryLength?))
        | "BIT" => some (do
            let varying ← phrasePart "VARYING"
            return spelling ++ varying ++ (← wholeInParentheses?))
        | "DATETIME64" => some zonedMoment
        | "TIMESTAMP" | "TIME" => some (do
            let precision ← wholeInParentheses?
            return spelling ++ precision ++ (← timeZone))
        | "FIXEDSTRING" => some (do
            return "FixedString" ++ Text.parenthesized (← parenthesized whole))
        | "ENUM" | "ENUM8" | "ENUM16" => some (do return spelling ++ (← tupleText (enumMember d)))
        | "SET" => some (do return spelling ++ (← setMembers))
        | "SIGNED" | "UNSIGNED" => some (do return spelling ++ (← phrasePart "INTEGER"))
        | "TSVECTOR" | "TSQUERY" => if d.hasTextSearchTypes then some (pure spelling) else none
        | _ => none

def unknownType : Parser DataType := do
  let given ← pathText
  return ⟨given ++ (← modifiers?), .named, false⟩

def namedType (d : Dialect) (n : Nested) (type : Parser DataType) (spelling : String) :
    Parser DataType := do
  match knownType? d spelling with
  | some known =>
      skipToken
      return .plain (← known)
  | none =>
      match if d.hasCompoundTypes then compoundType? d n type spelling else none with
      | some compound => skipToken *> compound
      | none =>
          match spelling with
          | "INTERVAL" => do
              skipToken
              return ⟨← intervalType d, .interval, false⟩
          | "ARRAY" => skipToken *> inBrackets type
          | "TABLE" => do
              skipToken
              let columns ← optionally (peekSymbol .lparen) (tupleText (do
                let column ← name
                return column.sql ++ " " ++ (← closedType type).sql))
              return .plain ("TABLE" ++ columns.getD "")
          | "ANY" => do
              if ← acceptPhrase "ANY TYPE" then return .plain "ANY TYPE" else unknownType
          | _ => unknownType

def elementType (d : Dialect) (n : Nested) (type : Parser DataType) : Parser DataType := do
  match ← peek with
  | some (.word w) =>
      match (Token.word w).capitals? with
      | some spelling => namedType d n type spelling
      | none => unknownType
  | _ => expected .dataType

/-- A type, which square brackets may turn into the type of its arrays. -/
def dataTypeAt (d : Dialect) (n : Nested) : (fuel : Nat) → Parser DataType
  | 0 => fail .nestingLimit
  | fuel + 1 => do
      let element ← elementType d n (dataTypeAt d n fuel)
      if d.hasArrayTypes then
        iterate (fun (read : DataType) => do
          if ← accept .lbracket then
            let size ← attempt whole
            expect .rbracket
            return .inl { read with sql := read.sql ++ "[" ++ size.getD "" ++ "]", kind := .plain }
          else return .inr read) element
      else return element

/-- Types nest by their words and brackets, of which there are fewer than tokens. -/
def openType (d : Dialect) (n : Nested) : Parser DataType := fun ts =>
  dataTypeAt d n (ts.length + 1) ts

def dataType (d : Dialect) (n : Nested) : Parser DataType :=
  closedType (openType d n)

def dataTypeText (d : Dialect) (n : Nested) : Parser String :=
  return (← dataType d n).sql

end SelectTree.Sql.Grammar
