/-
**Parameters.**

The values that a statement binds, in order, each under the name of its placeholder.

Main definitions:

* `Parameters` — the list of names and values;
* `Parameters.push`, `Parameters.removeAll`, `Parameters.truncate` — changing it;
* `Parameters.get?`, `Parameters.namesFrom`, `Parameters.values` — reading it.
-/

import ModelSql.Value

set_option autoImplicit false

namespace ModelSql

/-- Names and values, in the order of binding. -/
structure Parameters where
  entries : List (String × Value)

namespace Parameters

/-- No parameters. -/
def empty : Parameters := ⟨[]⟩

/-- The parameters with one more at the end. -/
def push (p : Parameters) (name : String) (v : Value) : Parameters := ⟨p.entries ++ [(name, v)]⟩

/-- The first value under a name. -/
def get? (p : Parameters) (name : String) : Option Value := p.entries.lookup name

/-- The number of parameters. -/
def size (p : Parameters) : Nat := p.entries.length

/-- The names in order. -/
def names (p : Parameters) : List String := p.entries.map (·.1)

/-- The names from a position on. -/
def namesFrom (p : Parameters) (start : Nat) : List String := (p.entries.drop start).map (·.1)

/-- The parameters without those of the given names. -/
def removeAll (p : Parameters) (names : List String) : Parameters :=
  ⟨p.entries.filter fun e => !names.contains e.1⟩

/-- The first parameters, up to the given number. -/
def truncate (p : Parameters) (size : Nat) : Parameters := ⟨p.entries.take size⟩

/-- The values in order. -/
def values (p : Parameters) : List Value := p.entries.map (·.2)

@[simp] theorem size_empty : empty.size = 0 := rfl

@[simp] theorem size_push (p : Parameters) (name : String) (v : Value) :
    (p.push name v).size = p.size + 1 := by
  simp [size, push]

@[simp] theorem names_push (p : Parameters) (name : String) (v : Value) :
    (p.push name v).names = p.names ++ [name] := by
  simp [names, push]

@[simp] theorem truncate_size (p : Parameters) : p.truncate p.size = p := by
  simp [truncate, size]

end Parameters

end ModelSql
