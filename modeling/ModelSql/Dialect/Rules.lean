/-
**What databases differ in, as data.**

Quotes, literals, placeholders, paging, identity columns, limits and the names of types.

Main definitions:

* `LimitStyle`, `Identity`, `TypeNames` — forms of paging, of generated keys, and types;
* `DialectRules` — the data of one database;
* `DialectKind.rules` — **the data of each**;
* `DialectRules.isReserved`, `DialectRules.clamp` — reserved words and the length of names.
-/

import ModelSql.Dialect.Kind
import ModelSql.Dialect.Reserved

set_option autoImplicit false

namespace ModelSql

/-! ### Forms -/

/-- The forms of a paging clause: `LIMIT skip,rows`; `LIMIT rows OFFSET skip`;
`OFFSET skip ROWS FETCH NEXT rows ROWS ONLY`; and `ROWS first TO last`, counted from one. -/
inductive LimitStyle
  | commaLimit | limitOffset | offsetFetch | rows
  deriving DecidableEq, Repr

/-- The forms of generated keys: a keyword, a type of its own, or a generator beside the table. -/
inductive Identity
  | keyword (word : String)
  | serial
  | generator
  deriving DecidableEq, Repr

/-- The names of types. -/
structure TypeNames where
  bool : String
  int16 : String
  int32 : String
  int64 : String
  float : String
  double : String
  decimal : String
  string : String
  unicodeString : String
  text : String
  unicodeText : String
  guidString : String
  guidBinary : String
  datetime : String
  date : String
  time : String
  bytes : String
  deriving Repr

/-- The data of one database. -/
structure DialectRules where
  name : String
  openQuote : Char
  closeQuote : Char
  reservedWords : List String
  trueLiteral : String
  falseLiteral : String
  parameterMark : String
  limitStyle : LimitStyle
  unboundedRows : String
  identity : Identity
  hasSequences : Bool
  dualTable : Option String
  maxNameLength : Option Nat
  lastInsertId : Option String
  types : TypeNames
  maxPrecision : Nat
  maxStringLength : Nat
  deriving Repr

namespace DialectRules

/-- Whether a name is a reserved word in some letter case. -/
def isReserved (r : DialectRules) (name : String) : Bool :=
  r.reservedWords.any (Text.equalsIgnoringCase · name)

/-- A name cut to the longest length that the database takes. -/
def clamp (r : DialectRules) (name : String) : String :=
  match r.maxNameLength with
  | some most => String.ofList (name.toList.take most)
  | none => name

end DialectRules

/-! ### The databases -/

/-- The data of Firebird. -/
def firebirdRules : DialectRules :=
  { name := "Firebird"
    openQuote := '"'
    closeQuote := '"'
    reservedWords := reservedFirebird
    trueLiteral := "1"
    falseLiteral := "0"
    parameterMark := "@"
    limitStyle := .rows
    unboundedRows := "2147483647"
    identity := .generator
    hasSequences := true
    dualTable := some "RDB$DATABASE"
    maxNameLength := some 31
    lastInsertId := none
    types :=
      { bool := "SMALLINT", int16 := "SMALLINT", int32 := "INTEGER", int64 := "BIGINT"
        float := "FLOAT", double := "DOUBLE PRECISION", decimal := "DECIMAL"
        string := "VARCHAR", unicodeString := "VARCHAR"
        text := "BLOB SUB_TYPE TEXT", unicodeText := "BLOB SUB_TYPE TEXT CHARACTER SET UTF8"
        guidString := "CHAR(36)", guidBinary := "CHAR(16) CHARACTER SET OCTETS"
        datetime := "TIMESTAMP", date := "DATE", time := "TIME", bytes := "BLOB SUB_TYPE BINARY" }
    maxPrecision := 18
    maxStringLength := 32765 }

/-- The data of MySQL. -/
def mysqlRules : DialectRules :=
  { name := "MySQL"
    openQuote := '\x60'
    closeQuote := '\x60'
    reservedWords := reservedMySql
    trueLiteral := "1"
    falseLiteral := "0"
    parameterMark := "@"
    limitStyle := .commaLimit
    unboundedRows := "18446744073709551615"
    identity := .keyword "AUTO_INCREMENT"
    hasSequences := false
    dualTable := some "DUAL"
    maxNameLength := some 64
    lastInsertId := some "SELECT LAST_INSERT_ID()"
    types :=
      { bool := "TINYINT(1)", int16 := "SMALLINT", int32 := "INT", int64 := "BIGINT"
        float := "FLOAT", double := "DOUBLE", decimal := "DECIMAL"
        string := "VARCHAR", unicodeString := "VARCHAR", text := "TEXT", unicodeText := "TEXT"
        guidString := "CHAR(36)", guidBinary := "BINARY(16)"
        datetime := "DATETIME(3)", date := "DATE", time := "TIME(3)", bytes := "LONGBLOB" }
    maxPrecision := 65
    maxStringLength := 16383 }

/-- The data of PostgreSQL. -/
def postgresRules : DialectRules :=
  { name := "PostgreSQL"
    openQuote := '"'
    closeQuote := '"'
    reservedWords := reservedPostgres
    trueLiteral := "true"
    falseLiteral := "false"
    parameterMark := ":"
    limitStyle := .limitOffset
    unboundedRows := "ALL"
    identity := .serial
    hasSequences := true
    dualTable := none
    maxNameLength := some 63
    lastInsertId := some "SELECT lastval()"
    types :=
      { bool := "BOOLEAN", int16 := "SMALLINT", int32 := "INTEGER", int64 := "BIGINT"
        float := "REAL", double := "DOUBLE PRECISION", decimal := "NUMERIC"
        string := "VARCHAR", unicodeString := "VARCHAR", text := "TEXT", unicodeText := "TEXT"
        guidString := "UUID", guidBinary := "BYTEA"
        datetime := "TIMESTAMP", date := "DATE", time := "TIME", bytes := "BYTEA" }
    maxPrecision := 1000
    maxStringLength := 10485760 }

/-- The data of SQL Server. -/
def sqlserverRules : DialectRules :=
  { name := "SQL Server"
    openQuote := '['
    closeQuote := ']'
    reservedWords := reservedSqlServer
    trueLiteral := "1"
    falseLiteral := "0"
    parameterMark := "@"
    limitStyle := .offsetFetch
    unboundedRows := ""
    identity := .keyword "IDENTITY(1,1)"
    hasSequences := true
    dualTable := none
    maxNameLength := some 128
    lastInsertId := some "SELECT SCOPE_IDENTITY()"
    types :=
      { bool := "BIT", int16 := "SMALLINT", int32 := "INT", int64 := "BIGINT"
        float := "REAL", double := "FLOAT", decimal := "DECIMAL"
        string := "VARCHAR", unicodeString := "NVARCHAR"
        text := "VARCHAR(MAX)", unicodeText := "NVARCHAR(MAX)"
        guidString := "UNIQUEIDENTIFIER", guidBinary := "BINARY(16)"
        datetime := "DATETIME2(3)", date := "DATE", time := "TIME(3)", bytes := "VARBINARY(MAX)" }
    maxPrecision := 38
    maxStringLength := 8000 }

/-- The data of SQLite. -/
def sqliteRules : DialectRules :=
  { name := "SQLite"
    openQuote := '"'
    closeQuote := '"'
    reservedWords := reservedSqlite
    trueLiteral := "1"
    falseLiteral := "0"
    parameterMark := "@"
    limitStyle := .commaLimit
    unboundedRows := "-1"
    identity := .keyword "AUTOINCREMENT"
    hasSequences := false
    dualTable := none
    maxNameLength := none
    lastInsertId := some "SELECT last_insert_rowid()"
    types :=
      { bool := "INTEGER", int16 := "INTEGER", int32 := "INTEGER", int64 := "INTEGER"
        float := "REAL", double := "REAL", decimal := "DECIMAL"
        string := "VARCHAR", unicodeString := "NVARCHAR", text := "TEXT", unicodeText := "TEXT"
        guidString := "CHAR(36)", guidBinary := "BLOB"
        datetime := "DATETIME", date := "DATE", time := "TIME", bytes := "BLOB" }
    maxPrecision := 38
    maxStringLength := 1000000 }

/-- **The data of a database.** -/
def DialectKind.rules : DialectKind → DialectRules
  | .firebird => firebirdRules
  | .mysql => mysqlRules
  | .postgres => postgresRules
  | .sqlserver => sqlserverRules
  | .sqlite => sqliteRules

end ModelSql
