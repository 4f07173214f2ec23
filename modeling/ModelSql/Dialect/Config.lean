/-
**Configuration of a dialect.**

Main definitions:

* `QuoteMode`, `GuidFormat`, `DuplicatePolicy` — three choices;
* `DialectConfig` — **the configuration**;
* `DialectKind.defaultConfig` — what a database starts with.
-/

import ModelSql.Dialect.Kind
import ModelSql.Naming

set_option autoImplicit false

namespace ModelSql

/-- When names are quoted: always, or only when they have to be. -/
inductive QuoteMode
  | always | reserved
  deriving DecidableEq, Repr

/-- How identifiers are written: as text or as bytes. -/
inductive GuidFormat
  | string | binary
  deriving DecidableEq, Repr

/-- Whether a sequence that exists already stops the creation of a table. -/
inductive DuplicatePolicy
  | fail | ignore
  deriving DecidableEq, Repr

/-- The configuration of a dialect. -/
structure DialectConfig where
  quote : QuoteMode
  naming : Naming
  useUnicode : Bool
  stringLength : Nat
  decimalPrecision : Nat
  decimalScale : Nat
  guidFormat : GuidFormat
  parameterized : Bool
  duplicates : DuplicatePolicy

/-- The configuration that most databases start with. -/
def DialectConfig.standard : DialectConfig :=
  { quote := .always
    naming := .unchanged
    useUnicode := false
    stringLength := 255
    decimalPrecision := 18
    decimalScale := 12
    guidFormat := .string
    parameterized := false
    duplicates := .fail }

/-- The configuration that a database starts with. -/
def DialectKind.defaultConfig : DialectKind → DialectConfig
  | .firebird =>
    { DialectConfig.standard with quote := .reserved, guidFormat := .binary, duplicates := .ignore }
  | _ => DialectConfig.standard

end ModelSql
