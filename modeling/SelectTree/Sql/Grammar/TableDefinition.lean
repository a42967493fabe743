import SelectTree.Sql.Grammar.Operand

namespace SelectTree.Sql.Grammar

open Sql.Parser

/-! What a table's definition says of its columns: their types, options and constraints. -/

/-! Reading on -/

/-- The first of the parsers that answers. The words that those before it have read stay read. -/
def firstOf : List (Parser (Option String)) → Parser (Option String)
  | [] => return none
  | p :: ps => do
      match ← p with
      | some text => return some text
      | none => firstOf ps

/-- What a phrase opens, printed after it. -/
def opened (phrase : String) (p : Parser String) : Parser (Option String) :=
  optionally (acceptPhrase phrase) (return phrase ++ (← p))

/-- As `opened` where `allowed` says so; elsewhere the phrase is read and says nothing. -/
def openedIf (allowed : Bool) (phrase : String) (p : Parser String) : Parser (Option String) := do
  if ← acceptPhrase phrase then
    if allowed then return some (phrase ++ (← p)) else return none
  else return none

/-- A phrase with a blank after it, or nothing where it does not stand. -/
def leading (phrase : String) : Parser String := do
  if ← acceptPhrase phrase then return phrase ++ " " else return ""

def spaced (p : Parser String) : Parser String :=
  return " " ++ (← p)

def dropBehavior : Parser String := do
  return clausePart " " (← acceptPhraseOf ["CASCADE", "RESTRICT"])

def ifExists : Parser String :=
  phrasePart "IF EXISTS"

def ifNotExists : Parser String :=
  phrasePart "IF NOT EXISTS"

/-! Sequences -/

def sequenceOptions (d : Dialect) : Parser String := do
  let number : Parser String := spaced (signedNumberText d)
  let bound (word : String) : Parser (Option String) :=
    firstOf [opened word number, opened ("NO " ++ word) (pure "")]
  let parts ← [
    firstOf [opened "INCREMENT BY" number, opened "INCREMENT" number],
    bound "MINVALUE",
    bound "MAXVALUE",
    firstOf [opened "START WITH" number, opened "START" number],
    opened "CACHE" number,
    firstOf [opened "NO CYCLE" (pure ""), opened "CYCLE" (pure "")]].mapM id
  return String.join ((parts.filterMap id).map (" " ++ ·))

/-! Constraints -/

abbrev CheckTimes := Option String × Option String × Option String

/-- When a constraint is checked. Each of the three may stand once, in any order. -/
def checkTimes : Parser String := do
  let (deferrable, initially, enforced) ← iterate (fun (times : CheckTimes) => do
    let (deferrable, initially, enforced) := times
    if let some phrase ← absent deferrable ["NOT DEFERRABLE", "DEFERRABLE"] then
      return .inl (some phrase, initially, enforced)
    else if ← whenever initially.isNone (acceptWord "INITIALLY") then
      match ← acceptAnyOf ["DEFERRED", "IMMEDIATE"] with
      | some word => return .inl (deferrable, some ("INITIALLY " ++ word), enforced)
      | none => expected (.phrase "one of DEFERRED or IMMEDIATE")
    else if let some phrase ← absent enforced ["ENFORCED", "NOT ENFORCED"] then
      return .inl (deferrable, initially, some phrase)
    else return .inr (deferrable, initially, enforced)) (none, none, none)
  return String.join (([deferrable, initially, enforced].filterMap id).map (" " ++ ·))
where
  absent (given : Option String) (phrases : List String) : Parser (Option String) :=
    if given.isSome then pure none else acceptPhraseOf phrases

def referentialActions : List String :=
  ["RESTRICT", "CASCADE", "SET NULL", "NO ACTION", "SET DEFAULT"]

def referentialAction : Parser String := do
  match ← acceptPhraseOf referentialActions with
  | some phrase => return phrase
  | none => expected (.phrase "one of RESTRICT, CASCADE, SET NULL, NO ACTION or SET DEFAULT")

/-- What follows a change of the row that is referred to; each change may stand once. -/
def referentialRules : Parser String := do
  let (onDelete, onUpdate) ← iterate (fun ((onDelete, onUpdate) : String × String) => do
    if ← whenever onDelete.isEmpty (acceptPhrase "ON DELETE") then
      return .inl (" ON DELETE " ++ (← referentialAction), onUpdate)
    else if ← whenever onUpdate.isEmpty (acceptPhrase "ON UPDATE") then
      return .inl (onDelete, " ON UPDATE " ++ (← referentialAction))
    else return .inr (onDelete, onUpdate)) ("", "")
  return onDelete ++ onUpdate

/-- A reference to another table, with `gap` between its name and its columns. -/
def reference (gap : String) : Parser String := do
  let table ← pathText
  let columns ← nameTuple?
  let rules ← referentialRules
  return "REFERENCES " ++ table ++ clausePart gap columns ++ rules ++ (← checkTimes)

def indexTypes : List String :=
  ["BTREE", "HASH", "GIN", "GIST", "SPGIST", "BRIN", "BLOOM"]

def indexType : Parser String := do
  match ← acceptAnyOf indexTypes with
  | some type => return type
  | none => nameText

def usingPart : Parser String :=
  clauseAfter "USING" indexType

/-- A column of an index: an expression, perhaps with the class of its operators. -/
def indexColumn (d : Dialect) (n : Nested) : Parser String := do
  let e ← n.expr
  let ends := ["ASC", "DESC", "NULLS", "WITH"]
  let operators ←
    if ← peekAny (fun t => t.capitals?.any ends.contains) then pure none else attempt nameText
  let key ← orderKeyAfter d n e
  return key.sql ++ clausePart " " operators

def indexColumns (d : Dialect) (n : Nested) : Parser String := do
  if ← peekSymbol .lparen then tupleText (indexColumn d n) else expected .columnList

def comment : Parser String :=
  token (.phrase "string literal") fun
    | .string text => some text
    | .dollarString _ text => some text
    | _ => none

def commentText : Parser String :=
  return quotedText '\'' (← comment)

def indexOptions : Parser (List String) :=
  many (firstOf
    [opened "USING" (spaced indexType),
      opened "COMMENT" (spaced (return enclosed '\'' (← literalText)))])

def indexOptionsPart : Parser String :=
  return String.join ((← indexOptions).map (" " ++ ·))

/-- The name of an index, which may be missing. -/
def optionalName : Parser String :=
  return clausePart " " ((← attempt name).map Name.sql)

def keyOrIndex : Parser String :=
  return clausePart " " (← acceptAnyOf ["KEY", "INDEX"])

/-- An index of a key, after its words. -/
def keyIndex (d : Dialect) (n : Nested) : Parser String := do
  let given ← optionalName
  let method ← usingPart
  let columns ← indexColumns d n
  let options ← indexOptionsPart
  return given ++ method ++ " " ++ columns ++ options

/-- Whether nulls are told apart. -/
def distinctNulls : Parser String := do
  if ← acceptWord "NULLS" then
    let negation ← phrasePart "NOT"
    expectWord "DISTINCT"
    return " NULLS" ++ negation ++ " DISTINCT"
  else return ""

def uniqueConstraint (d : Dialect) (n : Nested) : Parser String := do
  let word ← keyOrIndex
  if !word.isEmpty && !d.hasIndexConstraints then
    expected (.phrase "\x60index_name\x60 or \x60(column_name [, ...])\x60")
  else
    let nulls ← distinctNulls
    let index ← keyIndex d n
    return "UNIQUE" ++ nulls ++ word ++ index ++ (← checkTimes)

def foreignKey : Parser String := do
  expectWord "KEY"
  let given ← optionalName
  let columns ← requiredNameTuple
  expectWord "REFERENCES"
  return "FOREIGN KEY" ++ given ++ " " ++ columns ++ " " ++ (← reference "")

def checkConstraint (n : Nested) : Parser String := do
  let condition ← parenthesized n.exprText
  let enforced ← acceptPhraseOf ["ENFORCED", "NOT ENFORCED"]
  return "CHECK " ++ Text.parenthesized condition ++ clausePart " " enforced

def indexConstraint (d : Dialect) (n : Nested) (word : String) : Parser String := do
  let usesType ← peekKeyword .USING
  let given ← if usesType then pure "" else optionalName
  let method ← usingPart
  let columns ← indexColumns d n
  let options ← indexOptions
  return word ++ given ++ method ++ " " ++ columns ++
    if options.isEmpty then "" else " " ++ Text.listed options

def textConstraint (d : Dialect) (n : Nested) (word : String) : Parser String := do
  let kind ← keyOrIndex
  let given ← optionalName
  return word ++ kind ++ given ++ " " ++ (← indexColumns d n)

/-- A constraint on a whole table; nothing where no constraint begins. -/
def tableConstraint? (d : Dialect) (n : Nested) : Parser (Option String) := do
  let given ← optionally (acceptWord "CONSTRAINT") nameText
  let named (text : String) : String := clausePart "CONSTRAINT " (given.map (· ++ " ")) ++ text
  let following := (← peek).bind Token.capitals?
  match following with
  | some "UNIQUE" => skipToken; return some (named (← uniqueConstraint d n))
  | some "PRIMARY" =>
      skipToken
      expectWord "KEY"
      let index ← keyIndex d n
      return some (named ("PRIMARY KEY" ++ index ++ (← checkTimes)))
  | some "FOREIGN" => skipToken; return some (named (← foreignKey))
  | some "CHECK" => skipToken; return some (named (← checkConstraint n))
  | _ =>
      match if d.hasIndexConstraints then following else none, given with
      | some "INDEX", none => skipToken; return some (← indexConstraint d n "INDEX")
      | some "KEY", none => skipToken; return some (← indexConstraint d n "KEY")
      | some "FULLTEXT", none => skipToken; return some (← textConstraint d n "FULLTEXT")
      | some "SPATIAL", none => skipToken; return some (← textConstraint d n "SPATIAL")
      | some "FULLTEXT", some given | some "SPATIAL", some given => misnamed given
      | _, some _ => expected (.phrase "PRIMARY, UNIQUE, FOREIGN, or CHECK")
      | _, none => return none
where
  /-- The message shows the name where the constraint stands. -/
  misnamed (given : String) : Parser (Option String) := fun ts =>
    .error ⟨.expected (.phrase "FULLTEXT or SPATIAL option without constraint name"),
      .bare given :: ts.tail⟩

/-! Columns -/

/-- The value of a column's option. In parentheses, it is an expression like any other. -/
def optionValue (d : Dialect) (n : Nested) : Parser String := do
  if ← peekSymbol .lparen then return (← prefixExpr d (n.within .plain)).sql else n.exprText

def plainCondition (n : Nested) : Parser String :=
  return Text.parenthesized (← parenthesized (n.within .plain).exprText)

def identity (d : Dialect) (whenGiven : String) : Parser String := do
  let options ← optionally (accept .lparen) (do
    let options ← sequenceOptions d
    expect .rparen
    return options)
  let text := options.getD ""
  return "GENERATED " ++ whenGiven ++ " AS IDENTITY" ++
    if text.isEmpty then "" else " (" ++ text ++ " )"

/-- How a generated column is kept. -/
def generationMode (d : Dialect) : Parser String := do
  if ← acceptWord "STORED" then return " STORED"
  else if d.generatesStored then expected (.word "STORED")
  else phrasePart "VIRTUAL"

/-- How a column is generated, after the word for it. -/
def generated? (d : Dialect) (n : Nested) : Parser (Option String) := do
  if ← acceptPhrase "ALWAYS AS IDENTITY" then return some (← identity d "ALWAYS")
  else if ← acceptPhrase "BY DEFAULT AS IDENTITY" then return some (← identity d "BY DEFAULT")
  else if ← acceptPhrase "ALWAYS AS" then
    if ← peekSymbol .lparen then
      let e ← plainCondition n
      return some ("GENERATED ALWAYS AS " ++ e ++ (← generationMode d))
    else return none
  else return none

def computed (n : Nested) : Parser String := do
  let e ← parenthesized n.exprText
  return " " ++ Text.parenthesized e ++ clausePart " " (← acceptPhraseOf ["STORED", "VIRTUAL"])

def identityBounds (d : Dialect) : Parser String := do
  let bounds ← optionally (peekSymbol .lparen) (parenthesized (do
    let first ← signedNumberText d
    expect .comma
    return first ++ ", " ++ (← signedNumberText d)))
  return clausePart "" (bounds.map Text.parenthesized)

def conflictAction : Parser String :=
  expectAnyOf ["ROLLBACK", "ABORT", "FAIL", "IGNORE", "REPLACE"]

/-- An option of a column; nothing where none begins. -/
def columnOption? (d : Dialect) (outer : Nested) : Parser (Option String) :=
  let n := outer.within .columnDefinition
  let none' : Parser String := pure ""
  firstOf [
    opened "CHARACTER SET" (spaced pathText),
    opened "COLLATE" (spaced pathText),
    opened "NOT NULL" none',
    opened "COMMENT" (spaced commentText),
    opened "NULL" none',
    opened "DEFAULT" (spaced (optionValue d n)),
    if d.hasComputedOptions then
      firstOf [
        opened "MATERIALIZED" (spaced (optionValue d n)),
        opened "ALIAS" (spaced (optionValue d n)),
        opened "EPHEMERAL" (do
          if ← peekAny (fun t => t = .symbol .comma || t = .symbol .rparen) then return ""
          else spaced (optionValue d n))]
    else pure none,
    opened "PRIMARY KEY" checkTimes,
    opened "UNIQUE" checkTimes,
    optionally (acceptWord "REFERENCES") (reference " "),
    opened "CHECK" (spaced (plainCondition n)),
    openedIf d.hasAutoIncrement "AUTO_INCREMENT" none',
    openedIf d.hasJoinedAutoIncrement "AUTOINCREMENT" none',
    openedIf d.ordersColumns "ASC" none',
    openedIf d.ordersColumns "DESC" none',
    openedIf d.hasIndexConstraints "ON UPDATE" (spaced (optionValue d n)),
    do
      if ← acceptWord "GENERATED" then generated? d n
      else
        firstOf [
          if d.hasColumnOptions then opened "OPTIONS" (options (sqlOption d n)) else pure none,
          openedIf d.computesColumns "AS" (computed n),
          openedIf d.hasIndexConstraints "SRID" (spaced (optionValue d n)),
          openedIf d.hasIdentityColumns "IDENTITY" (identityBounds d),
          if d.hasConflictColumns then opened "ON CONFLICT" (spaced conflictAction)
          else pure none]]

def columnOptions (d : Dialect) (n : Nested) : Parser String := do
  let read ← many (do
    if ← acceptWord "CONSTRAINT" then
      let given ← name
      match ← columnOption? d n with
      | some text => return some ("CONSTRAINT " ++ given.sql ++ " " ++ text)
      | none => expected (.phrase "constraint details after CONSTRAINT <name>")
    else columnOption? d n)
  return String.join (read.map (" " ++ ·))

/-- Words that may follow a column's name where its type is missing. -/
def afterUntyped : List String :=
  ["CONSTRAINT", "PRIMARY", "NOT", "UNIQUE", "CHECK", "DEFAULT", "COLLATE", "REFERENCES",
    "GENERATED", "AS"]

def isUntyped (d : Dialect) : Parser Bool := fun ts =>
  .ok (d.allowsUntypedColumns &&
    match ts with
    | .word w :: _ => (Token.word w).capitals?.any afterUntyped.contains
    | _ => true, ts)

def columnDefinition (d : Dialect) (n : Nested) : Parser String := do
  let column ← name
  let type ← if ← isUntyped d then pure "" else spaced (dataTypeText d n)
  return column.sql ++ type ++ (← columnOptions d n)

/-- A column of a table, or a constraint on it. -/
inductive TableElement
  | column (sql : String)
  | constraint (sql : String)

def TableElement.column? : TableElement → Option String
  | .column sql => some sql
  | .constraint _ => none

def TableElement.constraint? : TableElement → Option String
  | .column _ => none
  | .constraint sql => some sql

def tableElement (d : Dialect) (n : Nested) : Parser TableElement := do
  match ← tableConstraint? d n with
  | some text => return .constraint text
  | none =>
      if ← peekAny Token.isWord then return .column (← columnDefinition d n)
      else expected (.phrase "column name or constraint definition")

/-- The elements of a table in parentheses, the columns before the constraints. -/
def tableElements (d : Dialect) (n : Nested) : Parser (List String) := do
  if !(← accept .lparen) then return []
  else if ← accept .rparen then return []
  else
    let read ← iterate (fun (read : List TableElement) => do
      let element ← tableElement d n
      let comma ← accept .comma
      if comma then return .inl (element :: read)
      else if ← accept .rparen then return .inr (element :: read).reverse
      else expected (.phrase "',' or ')' after column definition")) []
    return read.filterMap TableElement.column? ++ read.filterMap TableElement.constraint?

end SelectTree.Sql.Grammar
