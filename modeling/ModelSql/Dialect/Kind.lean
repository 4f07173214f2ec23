/-
**The databases that statements are written for.**

Main definitions:

* `DialectKind` — the databases, and `DialectKind.all` their list;
* `DialectKind.name`, `DialectKind.ofText` — their names.
-/

import ModelSql.Error

set_option autoImplicit false

namespace ModelSql

/-- The databases. -/
inductive DialectKind
  | firebird | mysql | postgres | sqlserver | sqlite
  deriving DecidableEq, Repr

namespace DialectKind

/-- All databases. -/
def all : List DialectKind := [firebird, mysql, postgres, sqlserver, sqlite]

/-- The name of a database. -/
def name : DialectKind → String
  | firebird => "firebird"
  | mysql => "mysql"
  | postgres => "postgres"
  | sqlserver => "sqlserver"
  | sqlite => "sqlite"

/-- The names that documents use. -/
def documentNames : List (String × DialectKind) :=
  [("firebird", firebird), ("mysql", mysql), ("mariadb", mysql), ("postgres", postgres),
    ("postgresql", postgres), ("sqlserver", sqlserver), ("mssql", sqlserver), ("sqlite", sqlite)]

/-- The names that a user may give, short ones included. -/
def userNames : List (String × DialectKind) := ("fb", firebird) :: ("pg", postgres) :: documentNames

/-- The database of a name in any letter case, with blanks around it. -/
def ofText (s : String) : Except Error DialectKind :=
  let name := Text.asciiLower (Text.trim s)
  match userNames.lookup name with
  | some k => .ok k
  | none => .error (.unknownDialect name)

end DialectKind

end ModelSql
