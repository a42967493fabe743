import SelectTree.Text.Split

namespace SelectTree.Sql

/-! The words with a meaning of their own in a query. -/

inductive Keyword
  | ALL | ANALYZE | AND | ANTI | ANY | APPLY | ARRAY | AS | ASC | ASOF | AT | BEGIN
  | BETWEEN | BLOCK | BOTH | BY | CASCADE | CASE | CAST | CEIL | CLUSTER | COLLATE
  | COMMIT | CONNECT | CONVERT | CREATE | CROSS | CUBE | CURRENT | CURRENT_CATALOG
  | CURRENT_DATE | CURRENT_TIME | CURRENT_TIMESTAMP | CURRENT_USER | DEFAULT | DELETE
  | DESC | DESCRIBE | DISTINCT | DISTRIBUTE | DIV | DROP | ELSE | END | ESCAPE | EXCEPT
  | EXCLUDE | EXISTS | EXPLAIN | EXTRACT | FALSE | FETCH | FILTER | FIRST | FLOOR
  | FOLLOWING | FOR | FORCE | FORMAT | FROM | FULL | GLOBAL | GROUP | GROUPING | GROUPS
  | HAVING | IF | IGNORE | ILIKE | IN | INDEX | INNER | INSERT | INTERSECT | INTERVAL
  | INTO | IS | JOIN | LAST | LATERAL | LEADING | LEFT | LIKE | LIMIT | LOCALTIME
  | LOCALTIMESTAMP | LOCKED | MAP | MATCH | MATCH_CONDITION | MATCH_RECOGNIZE
  | MATERIALIZED | MAX | MEMBER | MIN | MINUS | NAME | NATURAL | NEXT | NOT | NOTNULL
  | NOWAIT | NULL | NULLS | OF | OFFSET | ON | ONLY | OPEN | OPERATOR | OR | ORDER
  | ORDINALITY | OUTER | OVER | OVERLAPS | OVERLAY | PARTITION | PERCENT | PIVOT
  | POSITION | PRECEDING | PREWHERE | PRIOR | PURGE | QUALIFY | RANGE | RECURSIVE | REGEXP
  | RENAME | REPLACE | RESPECT | RESTRICT | RETURNING | RIGHT | RLIKE | ROLLBACK | ROLLUP
  | ROW | ROWS | SAFE_CAST | SAMPLE | SCHEMA | SELECT | SEMI | SEPARATOR | SESSION_USER
  | SET | SETS | SETTINGS | SHARE | SIMILAR | SKIP | SOME | SORT | START | STRAIGHT_JOIN
  | STRUCT | SUBSTR | SUBSTRING | TABLE | TABLESAMPLE | TEMPORARY | THEN | TIES | TIME
  | TO | TOP | TOTALS | TRAILING | TRANSACTION | TRIM | TRUE | TRUNCATE | TRY_CAST
  | TRY_CONVERT | UNBOUNDED | UNION | UNKNOWN | UNNEST | UNPIVOT | UPDATE | USE | USER
  | USING | VALUE | VALUES | VERBOSE | VIEW | WHEN | WHERE | WINDOW | WITH | WITHIN
  | WITHOUT | WORK | XOR | ZONE
  deriving DecidableEq, Repr

namespace Keyword

def spelling : Keyword → String
  | .ALL => "ALL"
  | .ANALYZE => "ANALYZE"
  | .AND => "AND"
  | .ANTI => "ANTI"
  | .ANY => "ANY"
  | .APPLY => "APPLY"
  | .ARRAY => "ARRAY"
  | .AS => "AS"
  | .ASC => "ASC"
  | .ASOF => "ASOF"
  | .AT => "AT"
  | .BEGIN => "BEGIN"
  | .BETWEEN => "BETWEEN"
  | .BLOCK => "BLOCK"
  | .BOTH => "BOTH"
  | .BY => "BY"
  | .CASCADE => "CASCADE"
  | .CASE => "CASE"
  | .CAST => "CAST"
  | .CEIL => "CEIL"
  | .CLUSTER => "CLUSTER"
  | .COLLATE => "COLLATE"
  | .COMMIT => "COMMIT"
  | .CONNECT => "CONNECT"
  | .CONVERT => "CONVERT"
  | .CREATE => "CREATE"
  | .CROSS => "CROSS"
  | .CUBE => "CUBE"
  | .CURRENT => "CURRENT"
  | .CURRENT_CATALOG => "CURRENT_CATALOG"
  | .CURRENT_DATE => "CURRENT_DATE"
  | .CURRENT_TIME => "CURRENT_TIME"
  | .CURRENT_TIMESTAMP => "CURRENT_TIMESTAMP"
  | .CURRENT_USER => "CURRENT_USER"
  | .DEFAULT => "DEFAULT"
  | .DELETE => "DELETE"
  | .DESC => "DESC"
  | .DESCRIBE => "DESCRIBE"
  | .DISTINCT => "DISTINCT"
  | .DISTRIBUTE => "DISTRIBUTE"
  | .DIV => "DIV"
  | .DROP => "DROP"
  | .ELSE => "ELSE"
  | .END => "END"
  | .ESCAPE => "ESCAPE"
  | .EXCEPT => "EXCEPT"
  | .EXCLUDE => "EXCLUDE"
  | .EXISTS => "EXISTS"
  | .EXPLAIN => "EXPLAIN"
  | .EXTRACT => "EXTRACT"
  | .FALSE => "FALSE"
  | .FETCH => "FETCH"
  | .FILTER => "FILTER"
  | .FIRST => "FIRST"
  | .FLOOR => "FLOOR"
  | .FOLLOWING => "FOLLOWING"
  | .FOR => "FOR"
  | .FORCE => "FORCE"
  | .FORMAT => "FORMAT"
  | .FROM => "FROM"
  | .FULL => "FULL"
  | .GLOBAL => "GLOBAL"
  | .GROUP => "GROUP"
  | .GROUPING => "GROUPING"
  | .GROUPS => "GROUPS"
  | .HAVING => "HAVING"
  | .IF => "IF"
  | .IGNORE => "IGNORE"
  | .ILIKE => "ILIKE"
  | .IN => "IN"
  | .INDEX => "INDEX"
  | .INNER => "INNER"
  | .INSERT => "INSERT"
  | .INTERSECT => "INTERSECT"
  | .INTERVAL => "INTERVAL"
  | .INTO => "INTO"
  | .IS => "IS"
  | .JOIN => "JOIN"
  | .LAST => "LAST"
  | .LATERAL => "LATERAL"
  | .LEADING => "LEADING"
  | .LEFT => "LEFT"
  | .LIKE => "LIKE"
  | .LIMIT => "LIMIT"
  | .LOCALTIME => "LOCALTIME"
  | .LOCALTIMESTAMP => "LOCALTIMESTAMP"
  | .LOCKED => "LOCKED"
  | .MAP => "MAP"
  | .MATCH => "MATCH"
  | .MATCH_CONDITION => "MATCH_CONDITION"
  | .MATCH_RECOGNIZE => "MATCH_RECOGNIZE"
  | .MATERIALIZED => "MATERIALIZED"
  | .MAX => "MAX"
  | .MEMBER => "MEMBER"
  | .MIN => "MIN"
  | .MINUS => "MINUS"
  | .NAME => "NAME"
  | .NATURAL => "NATURAL"
  | .NEXT => "NEXT"
  | .NOT => "NOT"
  | .NOTNULL => "NOTNULL"
  | .NOWAIT => "NOWAIT"
  | .NULL => "NULL"
  | .NULLS => "NULLS"
  | .OF => "OF"
  | .OFFSET => "OFFSET"
  | .ON => "ON"
  | .ONLY => "ONLY"
  | .OPEN => "OPEN"
  | .OPERATOR => "OPERATOR"
  | .OR => "OR"
  | .ORDER => "ORDER"
  | .ORDINALITY => "ORDINALITY"
  | .OUTER => "OUTER"
  | .OVER => "OVER"
  | .OVERLAPS => "OVERLAPS"
  | .OVERLAY => "OVERLAY"
  | .PARTITION => "PARTITION"
  | .PERCENT => "PERCENT"
  | .PIVOT => "PIVOT"
  | .POSITION => "POSITION"
  | .PRECEDING => "PRECEDING"
  | .PREWHERE => "PREWHERE"
  | .PRIOR => "PRIOR"
  | .PURGE => "PURGE"
  | .QUALIFY => "QUALIFY"
  | .RANGE => "RANGE"
  | .RECURSIVE => "RECURSIVE"
  | .REGEXP => "REGEXP"
  | .RENAME => "RENAME"
  | .REPLACE => "REPLACE"
  | .RESPECT => "RESPECT"
  | .RESTRICT => "RESTRICT"
  | .RETURNING => "RETURNING"
  | .RIGHT => "RIGHT"
  | .RLIKE => "RLIKE"
  | .ROLLBACK => "ROLLBACK"
  | .ROLLUP => "ROLLUP"
  | .ROW => "ROW"
  | .ROWS => "ROWS"
  | .SAFE_CAST => "SAFE_CAST"
  | .SAMPLE => "SAMPLE"
  | .SCHEMA => "SCHEMA"
  | .SELECT => "SELECT"
  | .SEMI => "SEMI"
  | .SEPARATOR => "SEPARATOR"
  | .SESSION_USER => "SESSION_USER"
  | .SET => "SET"
  | .SETS => "SETS"
  | .SETTINGS => "SETTINGS"
  | .SHARE => "SHARE"
  | .SIMILAR => "SIMILAR"
  | .SKIP => "SKIP"
  | .SOME => "SOME"
  | .SORT => "SORT"
  | .START => "START"
  | .STRAIGHT_JOIN => "STRAIGHT_JOIN"
  | .STRUCT => "STRUCT"
  | .SUBSTR => "SUBSTR"
  | .SUBSTRING => "SUBSTRING"
  | .TABLE => "TABLE"
  | .TABLESAMPLE => "TABLESAMPLE"
  | .TEMPORARY => "TEMPORARY"
  | .THEN => "THEN"
  | .TIES => "TIES"
  | .TIME => "TIME"
  | .TO => "TO"
  | .TOP => "TOP"
  | .TOTALS => "TOTALS"
  | .TRAILING => "TRAILING"
  | .TRANSACTION => "TRANSACTION"
  | .TRIM => "TRIM"
  | .TRUE => "TRUE"
  | .TRUNCATE => "TRUNCATE"
  | .TRY_CAST => "TRY_CAST"
  | .TRY_CONVERT => "TRY_CONVERT"
  | .UNBOUNDED => "UNBOUNDED"
  | .UNION => "UNION"
  | .UNKNOWN => "UNKNOWN"
  | .UNNEST => "UNNEST"
  | .UNPIVOT => "UNPIVOT"
  | .UPDATE => "UPDATE"
  | .USE => "USE"
  | .USER => "USER"
  | .USING => "USING"
  | .VALUE => "VALUE"
  | .VALUES => "VALUES"
  | .VERBOSE => "VERBOSE"
  | .VIEW => "VIEW"
  | .WHEN => "WHEN"
  | .WHERE => "WHERE"
  | .WINDOW => "WINDOW"
  | .WITH => "WITH"
  | .WITHIN => "WITHIN"
  | .WITHOUT => "WITHOUT"
  | .WORK => "WORK"
  | .XOR => "XOR"
  | .ZONE => "ZONE"

def all : List Keyword := [
  .ALL, .ANALYZE, .AND, .ANTI, .ANY, .APPLY, .ARRAY, .AS, .ASC, .ASOF, .AT, .BEGIN, .BETWEEN,
  .BLOCK, .BOTH, .BY, .CASCADE, .CASE, .CAST, .CEIL, .CLUSTER, .COLLATE, .COMMIT, .CONNECT,
  .CONVERT, .CREATE, .CROSS, .CUBE, .CURRENT, .CURRENT_CATALOG, .CURRENT_DATE, .CURRENT_TIME,
  .CURRENT_TIMESTAMP, .CURRENT_USER, .DEFAULT, .DELETE, .DESC, .DESCRIBE, .DISTINCT,
  .DISTRIBUTE, .DIV, .DROP, .ELSE, .END, .ESCAPE, .EXCEPT, .EXCLUDE, .EXISTS, .EXPLAIN,
  .EXTRACT, .FALSE, .FETCH, .FILTER, .FIRST, .FLOOR, .FOLLOWING, .FOR, .FORCE, .FORMAT, .FROM,
  .FULL, .GLOBAL, .GROUP, .GROUPING, .GROUPS, .HAVING, .IF, .IGNORE, .ILIKE, .IN, .INDEX,
  .INNER, .INSERT, .INTERSECT, .INTERVAL, .INTO, .IS, .JOIN, .LAST, .LATERAL, .LEADING, .LEFT,
  .LIKE, .LIMIT, .LOCALTIME, .LOCALTIMESTAMP, .LOCKED, .MAP, .MATCH, .MATCH_CONDITION,
  .MATCH_RECOGNIZE, .MATERIALIZED, .MAX, .MEMBER, .MIN, .MINUS, .NAME, .NATURAL, .NEXT, .NOT,
  .NOTNULL, .NOWAIT, .NULL, .NULLS, .OF, .OFFSET, .ON, .ONLY, .OPEN, .OPERATOR, .OR, .ORDER,
  .ORDINALITY, .OUTER, .OVER, .OVERLAPS, .OVERLAY, .PARTITION, .PERCENT, .PIVOT, .POSITION,
  .PRECEDING, .PREWHERE, .PRIOR, .PURGE, .QUALIFY, .RANGE, .RECURSIVE, .REGEXP, .RENAME,
  .REPLACE, .RESPECT, .RESTRICT, .RETURNING, .RIGHT, .RLIKE, .ROLLBACK, .ROLLUP, .ROW, .ROWS,
  .SAFE_CAST, .SAMPLE, .SCHEMA, .SELECT, .SEMI, .SEPARATOR, .SESSION_USER, .SET, .SETS,
  .SETTINGS, .SHARE, .SIMILAR, .SKIP, .SOME, .SORT, .START, .STRAIGHT_JOIN, .STRUCT, .SUBSTR,
  .SUBSTRING, .TABLE, .TABLESAMPLE, .TEMPORARY, .THEN, .TIES, .TIME, .TO, .TOP, .TOTALS,
  .TRAILING, .TRANSACTION, .TRIM, .TRUE, .TRUNCATE, .TRY_CAST, .TRY_CONVERT, .UNBOUNDED,
  .UNION, .UNKNOWN, .UNNEST, .UNPIVOT, .UPDATE, .USE, .USER, .USING, .VALUE, .VALUES, .VERBOSE,
  .VIEW, .WHEN, .WHERE, .WINDOW, .WITH, .WITHIN, .WITHOUT, .WORK, .XOR, .ZONE]

/-- Letters outside ASCII whose capital form is written in ASCII letters. -/
def capitalForm? (c : Char) : Option (List Char) :=
  match c.toNat with
  | 0xdf => some ['S', 'S']
  | 0x131 => some ['I']
  | 0x17f => some ['S']
  | 0xfb00 => some ['F', 'F']
  | 0xfb01 => some ['F', 'I']
  | 0xfb02 => some ['F', 'L']
  | 0xfb03 => some ['F', 'F', 'I']
  | 0xfb04 => some ['F', 'F', 'L']
  | 0xfb05 => some ['S', 'T']
  | 0xfb06 => some ['S', 'T']
  | _ => none

def capitals (text : String) : String :=
  String.ofList (text.toList.flatMap fun c => (capitalForm? c).getD [c.toUpper])

/-- Keywords are recognised in any mixture of cases. -/
def ofText? (text : String) : Option Keyword :=
  let upper := capitals text
  all.find? fun k => k.spelling == upper

/-- Words that cannot name a table without `AS`. -/
def reservesTableName : Keyword → Bool
  | .WITH | .EXPLAIN | .ANALYZE | .SELECT | .WHERE | .GROUP | .SORT | .HAVING | .ORDER | .PIVOT
  | .UNPIVOT | .TOP | .LATERAL | .VIEW | .LIMIT | .OFFSET | .FETCH | .UNION | .EXCEPT
  | .INTERSECT | .MINUS | .ON | .JOIN | .INNER | .CROSS | .FULL | .LEFT | .RIGHT | .NATURAL
  | .USING | .CLUSTER | .DISTRIBUTE | .GLOBAL | .ANTI | .SEMI | .RETURNING | .OPEN | .ASOF
  | .MATCH_CONDITION | .OUTER | .SET | .QUALIFY | .WINDOW | .END | .FOR | .PARTITION
  | .PREWHERE | .SETTINGS | .FORMAT | .START | .CONNECT | .MATCH_RECOGNIZE | .SAMPLE
  | .TABLESAMPLE | .FROM => true
  | _ => false

/-- Words that cannot name a projection item without `AS`. -/
def reservesItemName : Keyword → Bool
  | .WITH | .EXPLAIN | .ANALYZE | .SELECT | .WHERE | .GROUP | .SORT | .HAVING | .ORDER | .TOP
  | .LATERAL | .VIEW | .LIMIT | .OFFSET | .FETCH | .UNION | .EXCEPT | .EXCLUDE | .INTERSECT
  | .MINUS | .CLUSTER | .DISTRIBUTE | .RETURNING | .FROM | .INTO | .END => true
  | _ => false

/-- Words that cannot be column names where they open an expression of their own. -/
def reservesIdentifier : Keyword → Bool
  | .EXISTS | .INTERVAL | .STRUCT | .TRIM => true
  | _ => false

/-- Words that hint at an index. -/
def hintsAtIndex : Keyword → Bool
  | .USE | .IGNORE | .FORCE | .STRAIGHT_JOIN => true
  | _ => false

end Keyword

end SelectTree.Sql
