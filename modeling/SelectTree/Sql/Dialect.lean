import SelectTree.Text.Letter
import SelectTree.Text.Blank

namespace SelectTree.Sql

/-! The SQL dialects and the points on which they decide differently. -/

inductive Dialect
  | generic
  | postgres
  | mysql
  | sqlite
  deriving DecidableEq, Repr

namespace Dialect

def name : Dialect → String
  | .generic => "generic"
  | .postgres => "postgres"
  | .mysql => "mysql"
  | .sqlite => "sqlite"

def ofName? : String → Option Dialect
  | "generic" | "ansi" => some .generic
  | "postgres" | "postgresql" => some .postgres
  | "mysql" => some .mysql
  | "sqlite" => some .sqlite
  | _ => none

theorem ofName?_name (d : Dialect) : ofName? d.name = some d := by
  cases d <;> rfl

/-! Words -/

def isWordStart (d : Dialect) (c : Char) : Bool :=
  match d with
  | .generic => Text.isLetter c || c = '_' || c = '#' || c = '@'
  | .postgres => Text.isLetter c || c = '_' || 0x80 ≤ c.toNat
  | .mysql =>
      Text.isLetter c || c = '_' || c = '$' || c = '@' || 0x80 ≤ c.toNat
  | .sqlite => c.isAlpha || c = '_' || (0x7f ≤ c.toNat && c.toNat ≤ 0xffff)

def isWordPart (d : Dialect) (c : Char) : Bool :=
  match d with
  | .generic => Text.isLetter c || c.isDigit || c = '@' || c = '$' || c = '#' || c = '_'
  | .postgres => Text.isLetter c || c.isDigit || c = '$' || c = '_' || 0x80 ≤ c.toNat
  | .mysql => isWordStart .mysql c || c.isDigit
  | .sqlite => isWordStart .sqlite c || c.isDigit

/-- Characters that open a quoted identifier. -/
def identifierQuotes : Dialect → List Char
  | .generic => ['"', '\x60']
  | .postgres => ['"']
  | .mysql => ['\x60']
  | .sqlite => ['\x60', '"', '[']

theorem isWordStart_of_isAlpha (d : Dialect) {c : Char} (h : c.isAlpha = true) :
    d.isWordStart c = true := by
  cases d <;> simp [isWordStart, Text.isLetter_of_isAlpha h, h]

theorem isWordPart_of_isAlpha (d : Dialect) {c : Char} (h : c.isAlpha = true) :
    d.isWordPart c = true := by
  cases d <;> simp [isWordPart, isWordStart, Text.isLetter_of_isAlpha h, h]

theorem isWordPart_of_isDigit (d : Dialect) {c : Char} (h : c.isDigit = true) :
    d.isWordPart c = true := by
  cases d <;> simp [isWordPart, h]

theorem isWordPart_underscore (d : Dialect) : d.isWordPart '_' = true := by
  cases d <;> simp [isWordPart, isWordStart]

/-! Literals and comments -/

/-- A backslash in a quoted text changes the character after it. -/
def escapesWithBackslash : Dialect → Bool
  | .mysql => true
  | _ => false

/-- Adjacent quoted texts are one text. -/
def joinsAdjacentStrings : Dialect → Bool
  | .mysql => true
  | _ => false

def hasByteStrings : Dialect → Bool
  | .sqlite => false
  | _ => true

def hasRawStrings : Dialect → Bool
  | .generic => true
  | _ => false

def hasEscapeStrings : Dialect → Bool
  | .generic | .postgres => true
  | _ => false

def hasUnicodeStrings : Dialect → Bool
  | .generic | .postgres => true
  | _ => false

/-- An underscore may separate the digits of a number. -/
def separatesDigits : Dialect → Bool
  | .postgres => true
  | _ => false

/-- A word may begin with digits. -/
def hasNumericWords : Dialect → Bool
  | .mysql => true
  | _ => false

def hasHashComments : Dialect → Bool
  | .mysql => true
  | _ => false

/-- Two dashes open a comment only before a space. -/
def dashCommentNeedsSpace : Dialect → Bool
  | .mysql => true
  | _ => false

def returnEndsComment : Dialect → Bool
  | .postgres => true
  | _ => false

def nestsComments : Dialect → Bool
  | .generic | .postgres => true
  | _ => false

/-- A run of operator characters is one operator. -/
def hasCustomOperators : Dialect → Bool
  | .postgres => true
  | _ => false

def hasIntegerDivision : Dialect → Bool
  | .generic => true
  | _ => false

/-- A dollar sign belongs to the placeholder it opens and quotes nothing. -/
def hasDollarPlaceholders : Dialect → Bool
  | .sqlite => true
  | _ => false

/-- Shapes have operators of their own, and the question mark is one of them. -/
def hasGeometry : Dialect → Bool
  | .postgres => true
  | _ => false

/-- Steps may follow a query, each of them on what the step before it answers. -/
def hasPipes : Dialect → Bool
  | .generic => true
  | _ => false

/-! Queries -/

def allowsEmptyProjection : Dialect → Bool
  | .generic | .postgres => true
  | _ => false

def allowsTrailingComma : Dialect → Bool
  | .generic => true
  | _ => false

def allowsFromFirst : Dialect → Bool
  | .generic => true
  | _ => false

def allowsLimitComma : Dialect → Bool
  | .postgres => false
  | _ => true

def allowsLimitBy : Dialect → Bool
  | .generic => true
  | _ => false

def allowsParenthesizedTable : Dialect → Bool
  | .generic => true
  | _ => false

def allowsValuesFactor : Dialect → Bool
  | .generic => true
  | _ => false

def allowsUnnest : Dialect → Bool
  | .generic | .postgres => true
  | _ => false

def allowsPartitions : Dialect → Bool
  | .generic | .mysql => true
  | _ => false

/-- Words that hint at an index may not be the name a table is given. -/
def hasIndexHints : Dialect → Bool
  | .mysql => true
  | _ => false

def hasGroupingSets : Dialect → Bool
  | .generic | .postgres => true
  | _ => false

def hasGroupingModifiers : Dialect → Bool
  | .generic | .mysql => true
  | _ => false

/-- A window may be another name for a window. -/
def hasWindowNames : Dialect → Bool
  | .generic => true
  | _ => false

def hasWildcardOptions : Dialect → Bool
  | .generic => true
  | _ => false

def hasCrossJoinCondition : Dialect → Bool
  | .mysql => true
  | _ => false

/-- Patterns may match rows in a row. -/
def hasRowPatterns : Dialect → Bool
  | .generic => true
  | _ => false

def hasSettings : Dialect → Bool
  | .generic => true
  | _ => false

/-- Rows may form trees, each row the child of a prior one. -/
def hasHierarchies : Dialect → Bool
  | .generic => true
  | _ => false

def hasFormatClause : Dialect → Bool
  | .generic => true
  | _ => false

/-- An order may fill the gaps between its rows. -/
def hasFilling : Dialect → Bool
  | .generic => true
  | _ => false

def hasPrewhere : Dialect → Bool
  | .generic => true
  | _ => false

def hasMaterialization : Dialect → Bool
  | .postgres => true
  | _ => false

/-- A row of constants may be empty. -/
def allowsEmptyRows : Dialect → Bool
  | .mysql => true
  | _ => false

/-! Changes -/

/-- An insertion may name no columns in its parentheses. -/
def allowsEmptyColumnList : Dialect → Bool
  | .mysql => true
  | _ => false

def hasInsertedAssignments : Dialect → Bool
  | .generic | .mysql => true
  | _ => false

/-- The table that an insertion changes may be given a name. -/
def hasInsertedNames : Dialect → Bool
  | .postgres => true
  | _ => false

/-- The row to insert may be given a name. -/
def hasRowAliases : Dialect → Bool
  | .generic | .mysql => true
  | _ => false

/-- An insertion may say how urgent it is, and that errors are no matter. -/
def hasPriorities : Dialect → Bool
  | .generic | .mysql => true
  | _ => false

def deletesWithoutFrom : Dialect → Bool
  | .generic => true
  | _ => false

/-- A merge may insert the source's row as a whole. -/
def hasWholeRows : Dialect → Bool
  | .generic => true
  | _ => false

/-! Definitions -/

/-- The constraints of a table may be indexes. -/
def hasIndexConstraints : Dialect → Bool
  | .generic | .mysql => true
  | _ => false

/-- A column may be made of others as rows are read or written. -/
def hasComputedOptions : Dialect → Bool
  | .generic => true
  | _ => false

def hasAutoIncrement : Dialect → Bool
  | .generic | .mysql => true
  | _ => false

/-- The option of a column that counts rows is one word. -/
def hasJoinedAutoIncrement : Dialect → Bool
  | .generic | .sqlite => true
  | _ => false

def ordersColumns : Dialect → Bool
  | .generic | .sqlite => true
  | _ => false

/-- A generated column must be stored. -/
def generatesStored : Dialect → Bool
  | .postgres => true
  | _ => false

def hasColumnOptions : Dialect → Bool
  | .generic => true
  | _ => false

def computesColumns : Dialect → Bool
  | .postgres => false
  | _ => true

def hasIdentityColumns : Dialect → Bool
  | .generic => true
  | _ => false

/-- A column may say what becomes of rows that break its constraint. -/
def hasConflictColumns : Dialect → Bool
  | .generic | .sqlite => true
  | _ => false

def allowsUntypedColumns : Dialect → Bool
  | .sqlite => true
  | _ => false

/-- Options of tables and views that belong to a warehouse. -/
def hasWarehouseOptions : Dialect → Bool
  | .generic => true
  | _ => false

/-- A table may be divided by an expression. -/
def dividesTables : Dialect → Bool
  | .generic | .postgres => true
  | _ => false

/-- A table may be made of a query without `AS`. -/
def hasTableSelection : Dialect → Bool
  | .mysql => true
  | _ => false

def hasIndexParameters : Dialect → Bool
  | .generic | .postgres => true
  | _ => false

/-- A definition may end only while its session lasts. -/
def dropsTemporary : Dialect → Bool
  | .generic | .mysql => true
  | _ => false

/-- A truncation may start its counters again, and reach the tables that refer to its own. -/
def hasTruncationOptions : Dialect → Bool
  | .generic | .postgres => true
  | _ => false

/-- A new column may say where it stands. -/
def placesColumns : Dialect → Bool
  | .generic | .mysql => true
  | _ => false

/-- A table may keep selections of its rows beside them, and its parts on their own. -/
def keepsProjections : Dialect → Bool
  | .generic => true
  | _ => false

/-- A column may be added unless it is there. -/
def guardsColumns : Dialect → Bool
  | .generic | .postgres => true
  | _ => false

def namesConstraints : Dialect → Bool
  | .postgres => true
  | _ => false

/-- The new type of a column may come with an expression that converts its values. -/
def convertsColumns : Dialect → Bool
  | .postgres => true
  | _ => false

def hasOwners : Dialect → Bool
  | .generic | .postgres => true
  | _ => false

/-- A role is told what it may do, and may be changed. -/
def describesRoles : Dialect → Bool
  | .postgres => true
  | _ => false

/-- A function is made in the words of its catalog. -/
def hasFunctions : Dialect → Bool
  | .generic | .postgres => true
  | _ => false

def hasMacros : Dialect → Bool
  | .generic => true
  | _ => false

/-! Commands -/

def hasTransactionModifiers : Dialect → Bool
  | .generic | .sqlite => true
  | _ => false

def namesCharacterSets : Dialect → Bool
  | .sqlite => false
  | _ => true

def hasAssignmentLists : Dialect → Bool
  | .generic | .mysql => true
  | _ => false

def hasVariableTuples : Dialect → Bool
  | .generic => true
  | _ => false

def showsVariables : Dialect → Bool
  | .generic | .mysql => true
  | _ => false

def hasUtilityOptions : Dialect → Bool
  | .generic | .postgres => true
  | _ => false

def hasFlush : Dialect → Bool
  | .generic | .mysql => true
  | _ => false

/-- Users are known by the host that they come from. -/
def hasUserHosts : Dialect → Bool
  | .generic | .mysql => true
  | _ => false

def hasMutations : Dialect → Bool
  | .generic => true
  | _ => false

def hasNotifications : Dialect → Bool
  | .postgres => true
  | _ => false

def hasComments : Dialect → Bool
  | .generic | .postgres => true
  | _ => false

def hasExtensions : Dialect → Bool
  | .generic | .postgres => true
  | _ => false

/-- Databases are taken in and let go, tables rewritten, extensions fetched. -/
def hasMaintenance : Dialect → Bool
  | .generic => true
  | _ => false

def locksTables : Dialect → Bool
  | .mysql => true
  | _ => false

/-- What the word `REPLACE` opens, where it opens a statement. -/
inductive Replacement
  | insertion
  | conflictRule
  | refused
  deriving DecidableEq

def replacement : Dialect → Replacement
  | .generic | .mysql => .insertion
  | .sqlite => .conflictRule
  | .postgres => .refused

/-! Expressions -/

def hasAggregateFilter : Dialect → Bool
  | .mysql => false
  | _ => true

def hasAssignmentArguments : Dialect → Bool
  | .generic => true
  | _ => false

/-- The name of a named argument may be any expression. -/
def hasComputedArgumentNames : Dialect → Bool
  | .postgres => true
  | _ => false

def hasCallParameters : Dialect → Bool
  | .generic => true
  | _ => false

def hasArgumentNullTreatment : Dialect → Bool
  | .generic => true
  | _ => false

def hasArgumentHaving : Dialect → Bool
  | .generic => true
  | _ => false

def hasSeparator : Dialect → Bool
  | .generic | .mysql => true
  | _ => false

/-- The names of the current user and catalog are calls without parentheses. -/
def hasSessionNames : Dialect → Bool
  | .generic | .postgres => true
  | _ => false

def allowsEmptyInList : Dialect → Bool
  | .sqlite => true
  | _ => false

def hasDictionaries : Dialect → Bool
  | .generic => true
  | _ => false

def hasStructures : Dialect → Bool
  | .generic => true
  | _ => false

/-- A conversion may be tried. -/
def hasTriedConversion : Dialect → Bool
  | .generic => true
  | _ => false

def hasTextSearch : Dialect → Bool
  | .generic | .mysql => true
  | _ => false

def hasTrimCharacters : Dialect → Bool
  | .generic => true
  | _ => false

def hasNotNullSuffix : Dialect → Bool
  | .postgres | .sqlite => true
  | _ => false

def hasArrayTypes : Dialect → Bool
  | .generic | .postgres => true
  | _ => false

/-- Types that are made of other types. -/
def hasCompoundTypes : Dialect → Bool
  | .generic => true
  | _ => false

def hasTextSearchTypes : Dialect → Bool
  | .generic | .postgres => true
  | _ => false

/-- The type of a whole number may say that it is signed, which says nothing new. -/
def hasSignedTypes : Dialect → Bool
  | .generic | .mysql => true
  | _ => false

/-- The type of an interval may name its fields. -/
def hasIntervalFields : Dialect → Bool
  | .generic | .postgres => true
  | _ => false

/-- Any name may be a field of a date. -/
def hasCustomFields : Dialect → Bool
  | .generic | .postgres => true
  | _ => false

def hasWeekdays : Dialect → Bool
  | .generic => true
  | _ => false

def hasExtractComma : Dialect → Bool
  | .generic => true
  | _ => false

/-- An interval must name its unit. -/
def intervalNeedsUnit : Dialect → Bool
  | .mysql => true
  | _ => false

end Dialect

end SelectTree.Sql
