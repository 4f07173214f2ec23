/-
**The catalogue of models.**

A type of rows has one model, which is built when it is first asked for and kept under the name of
the type.  The first model that is kept under a name stays.  What is kept is a model or an object that
holds one.

Main definitions:

* `Catalog`, `Catalog.find?`, `Catalog.insert` — the models kept so far;
* `Catalog.model` — **the model of a type**, built if there is none yet.
-/

import ModelSql.Error

set_option autoImplicit false

namespace ModelSql

/-- The models kept so far, by the names of their types. -/
structure Catalog (α : Type) where
  entries : List (String × α)

namespace Catalog

variable {α : Type}

/-- The catalogue that keeps nothing yet. -/
def empty : Catalog α := ⟨[]⟩

/-- The model kept under a name. -/
def find? (c : Catalog α) (type : String) : Option α := c.entries.lookup type

/-- Keeps a model unless there is one already; the model that is kept from then on. -/
def insert (c : Catalog α) (type : String) (m : α) : α × Catalog α :=
  match c.find? type with
  | some kept => (kept, c)
  | none => (m, ⟨(type, m) :: c.entries⟩)

/-- **The model of a type**: the one that is kept, or the one that `define` makes, which is kept
then.  A failure keeps nothing. -/
def model (c : Catalog α) (type : String) (define : Except Error α) :
    Except Error α × Catalog α :=
  match c.find? type with
  | some kept => (.ok kept, c)
  | none =>
    match define with
    | .error e => (.error e, c)
    | .ok m => (.ok (c.insert type m).1, (c.insert type m).2)

end Catalog

end ModelSql
