/-
**Reading a document of some format.**

Main definitions:

* `Document.read` — **what a decoder finds in a text**, or the error that the text is malformed.
-/

import ModelSql.Document.Decode
import ModelSql.Document.Json
import ModelSql.Document.Toml

set_option autoImplicit false

namespace ModelSql.Document

/-- The tree of a text. -/
def tree? : DocumentFormat → String → Option Datum
  | .toml, s => Toml.read? s
  | .json, s => Json.read? Json.depthLimit s

/-- **What a decoder finds in a text.** -/
def read {α : Type} (f : DocumentFormat) (d : Decoder α) (s : String) : Except Error α :=
  match (tree? f s).bind (d f) with
  | some a => .ok a
  | none => .error (.malformed f)

end ModelSql.Document
