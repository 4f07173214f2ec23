/-
**Settings of dialects.**

Settings are what a document says about a dialect.  Every one may be left out; what is left out is
taken from other settings, and in the end from what the database starts with.

Main definitions:

* `Settings`, `Settings.decode` — the settings, and reading them from a document;
* `Settings.validate` — settings that do not go together;
* `Settings.overlay` — settings over others;
* `Settings.config`, `Settings.dialect` — **the configuration and the dialect they make**.
-/

import ModelSql.Dialect
import ModelSql.Document.Decode

set_option autoImplicit false

namespace ModelSql

/-- What a document says about a dialect. -/
structure Settings where
  kind : Option DialectKind
  quote : Option QuoteMode
  naming : Option NamingKind
  tablePrefix : Option String
  columnPrefix : Option String
  useUnicode : Option Bool
  stringLength : Option Nat
  decimalPrecision : Option Nat
  decimalScale : Option Nat
  guidFormat : Option GuidFormat
  parameterized : Option Bool
  duplicates : Option DuplicatePolicy
  deriving DecidableEq, Repr

namespace Settings

/-- Settings that say nothing. -/
def empty : Settings := ⟨none, none, none, none, none, none, none, none, none, none, none, none⟩

instance : Inhabited Settings := ⟨empty⟩

/-! ### Reading -/

/-- The names of the settings, in order. -/
def names : List String :=
  ["kind", "quote", "naming", "table_prefix", "column_prefix", "use_unicode",
    "default_string_length", "decimal_precision", "decimal_scale", "guid_format", "parameterized",
    "duplicate_sequence_policy"]

/-- Reads settings. -/
def decode : Decoder Settings := fun f d => do
  let r ← Decode.fields false names f d
  some
    { kind := ← r.optional "kind" (Decode.choice DialectKind.documentNames)
      quote := ← r.optional "quote" (Decode.choice [("always", .always), ("reserved", .reserved)])
      naming := ← r.optional "naming" (Decode.choice NamingKind.names)
      tablePrefix := ← r.optional "table_prefix" Decode.text
      columnPrefix := ← r.optional "column_prefix" Decode.text
      useUnicode := ← r.optional "use_unicode" Decode.bool
      stringLength := ← r.optional "default_string_length" Decode.nat32
      decimalPrecision := ← r.optional "decimal_precision" Decode.nat32
      decimalScale := ← r.optional "decimal_scale" Decode.nat32
      guidFormat := ← r.optional "guid_format"
        (Decode.choice [("string", .string), ("binary", .binary)])
      parameterized := ← r.optional "parameterized" Decode.bool
      duplicates := ← r.optional "duplicate_sequence_policy"
        (Decode.choice [("fail", .fail), ("ignore", .ignore)]) }

/-! ### Validity -/

/-- Refuses settings that do not go together. -/
def validate (s : Settings) : Except Error Unit :=
  if s.stringLength = some 0 then .error .emptyStringLength
  else
    match s.decimalPrecision, s.decimalScale with
    | some precision, some scale =>
      if precision < scale then .error (.settingsScale scale precision) else checkNaming
    | _, _ => checkNaming
where
  /-- Letters in front of names need the naming rule that puts them there. -/
  checkNaming : Except Error Unit :=
    if (s.tablePrefix.isSome || s.columnPrefix.isSome) && s.naming != some .prefixed then
      .error .affixesWithoutNaming
    else .ok ()

/-! ### Use -/

/-- The settings, with those that are left out taken from `base`. -/
def overlay (s base : Settings) : Settings :=
  { kind := s.kind.or base.kind
    quote := s.quote.or base.quote
    naming := s.naming.or base.naming
    tablePrefix := s.tablePrefix.or base.tablePrefix
    columnPrefix := s.columnPrefix.or base.columnPrefix
    useUnicode := s.useUnicode.or base.useUnicode
    stringLength := s.stringLength.or base.stringLength
    decimalPrecision := s.decimalPrecision.or base.decimalPrecision
    decimalScale := s.decimalScale.or base.decimalScale
    guidFormat := s.guidFormat.or base.guidFormat
    parameterized := s.parameterized.or base.parameterized
    duplicates := s.duplicates.or base.duplicates }

/-- The database, or `fallback` if the settings name none. -/
def kindOr (s : Settings) (fallback : DialectKind) : DialectKind := s.kind.getD fallback

/-- **The configuration of a database under the settings.** -/
def config (s : Settings) (k : DialectKind) : DialectConfig :=
  let base := k.defaultConfig
  { quote := s.quote.getD base.quote
    naming := (s.naming.map fun n =>
      Naming.ofKind n (s.tablePrefix.getD "") (s.columnPrefix.getD "")).getD base.naming
    useUnicode := s.useUnicode.getD base.useUnicode
    stringLength := s.stringLength.getD base.stringLength
    decimalPrecision := s.decimalPrecision.getD base.decimalPrecision
    decimalScale := s.decimalScale.getD base.decimalScale
    guidFormat := s.guidFormat.getD base.guidFormat
    parameterized := s.parameterized.getD base.parameterized
    duplicates := s.duplicates.getD base.duplicates }

/-- **The dialect of the settings**, of the database `fallback` if they name none. -/
def dialect (s : Settings) (fallback : DialectKind) : Dialect :=
  ⟨s.kindOr fallback, s.config (s.kindOr fallback)⟩

end Settings

end ModelSql
