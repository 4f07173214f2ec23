/-
**What a declaration sets, and what it leaves out.**

A declaration is accepted when it has variants exactly if it is of an enumeration, and not both a length and
a precision.  The field then carries every attribute that is set, with two that go by more than one: a column
is indexed also when it is unique, and one number says how long a text is or how many digits a decimal has.
What is left out keeps the default of the type, but for two attributes that another one settles: a key is not
null, whatever its type says, and a decimal with a precision and no scale has no places.

A scale beside a length is not settled here.

Main definitions:

* `FieldSpec.IsSound` — the declarations that are accepted;
* `FieldSpec.Carries`, `ReferenceSpec.Names` — what a field and its reference take over;
* `FieldSpec.Keeps` — beside this, every default of the type;
* `FieldSpec.Settles` — **the field of a declaration**.

Main results:

* `FieldSpec.fieldType_eq_ok_iff` — the type that is declared, by its name and its variants;
* `FieldSpec.exists_field_iff` — which declarations are accepted;
* `FieldSpec.Settles.unique_field` — a declaration settles one field only;
* `FieldSpec.declaration_settles` — **every attribute of the field is that of its declaration**.
-/

import ModelSql.Proofs.Model.Key

set_option relaxedAutoImplicit false
set_option autoImplicit false

namespace ModelSql

/-! ### Types -/

/-- The name of a type in declarations. -/
def FieldType.typeName : FieldType → TypeName
  | bool => .bool | int16 => .int16 | int32 => .int32 | int64 => .int64 | float => .float
  | double => .double | decimal => .decimal | string => .string | guid => .guid
  | dateTime => .dateTime | date => .date | time => .time | bytes => .bytes | enum _ => .enum

/-- The enumeration that is declared. -/
def EnumSpec.enumType (e : EnumSpec) : EnumType := ⟨e.name, e.variants, e.storeAsInt⟩

/-- A type has variants exactly if it is an enumeration. -/
theorem FieldType.isSome_enum?_iff (t : FieldType) : t.enum?.isSome = true ↔ t.typeName = .enum := by
  cases t <;> simp [enum?, typeName]

/-- A type is known by its name and its variants. -/
theorem FieldType.eq_iff_typeName {t u : FieldType} :
    t = u ↔ t.typeName = u.typeName ∧ t.enum? = u.enum? := by
  refine ⟨fun h => h ▸ ⟨rfl, rfl⟩, fun ⟨hname, henum⟩ => ?_⟩
  cases t with
  | enum e =>
      cases u with
      | enum e' => exact congrArg enum (Option.some.inj henum)
      | _ => cases hname
  | _ => cases u <;> first | rfl | cases hname

/-! ### References -/

/-- **The reference that is declared**, to the column of the key unless another is named. -/
structure ReferenceSpec.Names (r : ReferenceSpec) (k : ForeignKey) : Prop where
  table : k.table = r.table
  column : k.column = r.column.getD idField
  schema : k.schema = r.schema
  onDelete : k.onDelete = r.onDelete
  onUpdate : k.onUpdate = r.onUpdate
  name : k.name = r.name

/-- A declaration names one reference only. -/
theorem ReferenceSpec.names_iff {r : ReferenceSpec} {k : ForeignKey} :
    r.Names k ↔ k = FieldSpec.foreignKey r := by
  constructor
  · intro h
    cases k
    simp only [FieldSpec.foreignKey, ForeignKey.mk.injEq]
    exact ⟨h.table, h.column, h.schema, h.onDelete, h.onUpdate, h.name⟩
  · rintro rfl
    exact ⟨rfl, rfl, rfl, rfl, rfl, rfl⟩

theorem ReferenceSpec.rel_names_iff {r : Option ReferenceSpec} {k : Option ForeignKey} :
    Option.Rel Names r k ↔ k = r.map FieldSpec.foreignKey := by
  constructor
  · rintro (h | _)
    · exact congrArg some (names_iff.1 h)
    · rfl
  · rintro rfl
    cases r with
    | none => exact .none
    | some r => exact .some (names_iff.2 rfl)

namespace FieldSpec

variable {s : FieldSpec} {f g : Field} {t : FieldType}

/-! ### The type of a field -/

/-- A name that is no enumeration has a type of its own. -/
theorem namedType_of_ne_enum (h : s.type ≠ .enum) :
    ∃ u : FieldType, s.namedType = .ok u ∧ u.typeName = s.type ∧ u.enum? = none := by
  unfold namedType
  cases htype : s.type with
  | enum => exact absurd htype h
  | _ => exact ⟨_, rfl, rfl, rfl⟩

/-- **The type that is declared**, by its name and its variants. -/
theorem fieldType_eq_ok_iff : s.fieldType = .ok t ↔
    t.typeName = s.type ∧ t.enum? = s.enum.map EnumSpec.enumType := by
  by_cases htype : s.type = .enum
  · cases henum : s.enum with
    | none =>
        refine iff_of_false (by simp [fieldType, namedType, htype, henum]) fun ⟨hname, hnone⟩ => ?_
        rw [htype, ← FieldType.isSome_enum?_iff, hnone] at hname
        cases hname
    | some e =>
        have hfield : s.fieldType = .ok (.enum e.enumType) := by
          simp [fieldType, namedType, htype, henum, EnumSpec.enumType]
        rw [hfield, Except.ok.injEq, eq_comm, FieldType.eq_iff_typeName, htype]
        rfl
  · obtain ⟨u, hu, hname, hnone⟩ := namedType_of_ne_enum htype
    cases henum : s.enum with
    | none =>
        have hfield : s.fieldType = .ok u := by simp [fieldType, hu, henum]
        rw [hfield, Except.ok.injEq, eq_comm, FieldType.eq_iff_typeName, hname, hnone]
        rfl
    | some e =>
        refine iff_of_false (by simp [fieldType, hu, henum, htype]) fun ⟨hname, hsome⟩ => htype ?_
        rw [← hname, ← FieldType.isSome_enum?_iff, hsome]
        rfl

theorem exists_fieldType_iff :
    (∃ t, s.fieldType = .ok t) ↔ (s.enum.isSome = true ↔ s.type = .enum) := by
  constructor
  · rintro ⟨t, ht⟩
    obtain ⟨hname, henum⟩ := fieldType_eq_ok_iff.1 ht
    rw [← hname, ← t.isSome_enum?_iff, henum, Option.isSome_map]
  · intro h
    by_cases htype : s.type = .enum
    · obtain ⟨e, he⟩ := Option.isSome_iff_exists.1 (h.2 htype)
      exact ⟨.enum e.enumType, fieldType_eq_ok_iff.2 ⟨htype.symm, by rw [he]; rfl⟩⟩
    · obtain ⟨u, -, hname, hnone⟩ := namedType_of_ne_enum htype
      have henum : s.enum = none := Option.not_isSome_iff_eq_none.1 fun hsome => htype (h.1 hsome)
      exact ⟨u, fieldType_eq_ok_iff.2 ⟨hname, by rw [hnone, henum]; rfl⟩⟩

/-! ### Lengths and scales -/

variable {length scale : Option Nat}

theorem exists_size_iff : (∃ p, s.size = .ok p) ↔ s.length = none ∨ s.precision = none := by
  unfold size
  cases s.precision <;> cases s.length <;> simp

/-- One number is a length or a precision. -/
theorem length_of_size (h : s.size = .ok (length, scale)) : length = s.length.or s.precision := by
  unfold size at h
  split at h
  · cases h
  all_goals
    rename_i hprecision hlength
    cases h
    rw [hprecision, hlength]
    rfl

/-- Where no scale stands beside a length, a scale that is not set is zero beside a precision. -/
theorem size_eq_ok_iff (hscale : s.length = none ∨ s.scale = none) :
    s.size = .ok (length, scale) ↔ (s.length = none ∨ s.precision = none) ∧
      length = s.length.or s.precision ∧ scale = s.scale.or (s.precision.map fun _ => 0) := by
  unfold size
  cases hlength : s.length with
  | none => cases s.precision <;> simp [eq_comm]
  | some n =>
      have hnone : s.scale = none := hscale.resolve_left (by simp [hlength])
      cases s.precision <;> simp [hnone, eq_comm]

/-! ### Fields -/

/-- **The attributes that a field takes over.**  One that is left out is absent, as it is in a new field; a
column is indexed also when it is unique, and its length is a length or a precision. -/
structure Carries (s : FieldSpec) (f : Field) : Prop where
  name : f.name = s.name
  storedName : f.storedName = s.storedName
  type : f.type.typeName = s.type
  variants : f.type.enum? = s.enum.map EnumSpec.enumType
  primaryKey : f.isPrimaryKey = s.primaryKey
  autoIncrement : f.autoIncrement = s.autoIncrement
  sequence : f.sequence = s.sequence
  computed : f.isComputed = s.computed
  indexed : f.isIndexed = (s.indexed || s.unique)
  unique : f.isUnique = s.unique
  length : f.length = s.length.or s.precision
  default : f.default = s.default
  reference : Option.Rel ReferenceSpec.Names s.references f.foreignKey

/-- The field keeps every default of its type. -/
structure Keeps (s : FieldSpec) (f : Field) : Prop extends Carries s f where
  nullable : f.isNullable = s.nullable.getD (Field.new s.name f.type).isNullable
  scale : f.scale = s.scale.or (Field.new s.name f.type).scale

/-- **The field of a declaration.**  A key that does not say so is not null, and a precision without a scale
stands for no places. -/
structure Settles (s : FieldSpec) (f : Field) : Prop extends Carries s f where
  nullable : f.isNullable =
    s.nullable.getD (!s.primaryKey && (Field.new s.name f.type).isNullable)
  scale : s.length = none ∨ s.scale = none → f.scale = s.scale.or (s.precision.map fun _ => 0)

/-- **The declarations that are accepted.** -/
structure IsSound (s : FieldSpec) : Prop where
  variants : s.enum.isSome = true ↔ s.type = .enum
  size : s.length = none ∨ s.precision = none

theorem exists_field_iff : (∃ f, s.field = .ok f) ↔ s.IsSound := by
  have hiff : s.IsSound ↔ (∃ t, s.fieldType = .ok t) ∧ ∃ p, s.size = .ok p := by
    rw [exists_fieldType_iff, exists_size_iff]
    exact ⟨fun h => ⟨h.variants, h.size⟩, fun h => ⟨h.1, h.2⟩⟩
  rw [hiff, field]
  cases s.fieldType with
  | error e => simp
  | ok t => cases s.size <;> simp

/-- The field that is declared has the attributes that its declaration settles. -/
theorem settles_of_field (h : s.field = .ok f) : s.Settles f := by
  obtain ⟨-, hnull⟩ := eq_of_field h
  unfold field at h
  split at h
  · cases h
  · rename_i t htype
    obtain ⟨hname, henum⟩ := fieldType_eq_ok_iff.1 htype
    split at h
    · cases h
    · rename_i length scale hsize
      cases h
      exact ⟨⟨rfl, rfl, hname, henum, rfl, rfl, rfl, rfl, rfl, rfl, length_of_size hsize, rfl,
        ReferenceSpec.rel_names_iff.2 rfl⟩, hnull, fun hscale => ((size_eq_ok_iff hscale).1 hsize).2.2⟩

/-- A declaration settles one field only. -/
theorem Settles.unique_field (hscale : s.length = none ∨ s.scale = none) (hf : s.Settles f)
    (hg : s.Settles g) : f = g := by
  have htype : f.type = g.type :=
    FieldType.eq_iff_typeName.2 ⟨hf.type.trans hg.type.symm, hf.variants.trans hg.variants.symm⟩
  have hreference : f.foreignKey = g.foreignKey :=
    (ReferenceSpec.rel_names_iff.1 hf.reference).trans (ReferenceSpec.rel_names_iff.1 hg.reference).symm
  have hnullable : f.isNullable = g.isNullable := by rw [hf.nullable, hg.nullable, htype]
  have hscale : f.scale = g.scale := (hf.scale hscale).trans (hg.scale hscale).symm
  cases f
  cases g
  simp only [Field.mk.injEq]
  exact ⟨hf.name.trans hg.name.symm, hf.storedName.trans hg.storedName.symm, htype,
    hf.primaryKey.trans hg.primaryKey.symm, hf.autoIncrement.trans hg.autoIncrement.symm,
    hf.sequence.trans hg.sequence.symm, hnullable, hf.computed.trans hg.computed.symm,
    hf.indexed.trans hg.indexed.symm, hf.unique.trans hg.unique.symm, hf.length.trans hg.length.symm,
    hscale, hf.default.trans hg.default.symm, hreference⟩

/-- **With nothing but a name and a type set, the field is a new one.** -/
theorem eq_new_of_field {name : String} {type : TypeName} (h : (Model.plainField name type).field = .ok f) :
    f = Field.new name f.type := by
  have hf := settles_of_field h
  exact hf.unique_field (.inl rfl) ⟨⟨rfl, rfl, hf.type, hf.variants, rfl, rfl, rfl, rfl, rfl, rfl, rfl, rfl,
    .none⟩, rfl, fun _ => rfl⟩

/-- **Every attribute of the field is that of its declaration.**  A declaration is accepted exactly if it has
variants for an enumeration only, and not two numbers for one length.  Then it settles the field, and no other
one unless a scale stands beside a length; and a field of which nothing but its type is set is a new one. -/
theorem declaration_settles (s : FieldSpec) :
    ((∃ f, s.field = .ok f) ↔ s.IsSound) ∧
      ∀ f, s.field = .ok f → s.Settles f ∧
        (s.length = none ∨ s.scale = none → ∀ g, s.Settles g → g = f) ∧
        (s = Model.plainField s.name s.type → f = Field.new s.name f.type) := by
  refine ⟨exists_field_iff, fun f h => ⟨settles_of_field h, fun hscale g hg => ?_, fun hplain => ?_⟩⟩
  · exact hg.unique_field hscale (settles_of_field h)
  · rw [hplain] at h
    exact eq_new_of_field h

/-- The state of an order, stored by its position in a column of its own, and known to another table. -/
def orderState : FieldSpec :=
  { Model.plainField "State" .enum with
    storedName := some "order_state", enum := some ⟨"State", ["Open", "Paid"], true⟩
    sequence := some "states", computed := true, unique := true, default := some "0"
    references := some ⟨"OrderState", none, some "sales", some .cascade, none, some "fk_state"⟩ }

/-- The total of an order, of twelve digits, which may be null. -/
def orderTotal : FieldSpec :=
  { Model.plainField "Total" .decimal with precision := some 12, nullable := some true }

/-- What the state and the total of an order carry. -/
theorem declaration_settles_order :
    ∃ state total : Field, orderState.field = .ok state ∧ orderTotal.field = .ok total ∧
      state.type = .enum ⟨"State", ["Open", "Paid"], true⟩ ∧ state.storedName = some "order_state" ∧
      state.isIndexed = true ∧ state.isNullable = false ∧
      state.foreignKey = some ⟨"OrderState", "Id", some "sales", some .cascade, none, some "fk_state"⟩ ∧
      total.length = some 12 ∧ total.scale = some 0 ∧ total.isNullable = true := by
  have hstate : orderState.field = .ok _ := rfl
  have htotal : orderTotal.field = .ok _ := rfl
  have state := ((declaration_settles orderState).2 _ hstate).1
  have total := ((declaration_settles orderTotal).2 _ htotal).1
  exact ⟨_, _, hstate, htotal, FieldType.eq_iff_typeName.2 ⟨state.type, state.variants⟩,
    state.storedName, state.indexed, state.nullable, ReferenceSpec.rel_names_iff.1 state.reference,
    total.length, total.scale (.inl rfl), total.nullable⟩

/-- A code that is the key. -/
def keyCode : FieldSpec := { Model.plainField "Code" .string with primaryKey := true }

/-- **Two defaults that are not kept.**  The code is not null, though a text may be, and the total has a
scale, though none is set. -/
theorem defaults_not_kept :
    ∃ code total : Field, keyCode.field = .ok code ∧ orderTotal.field = .ok total ∧
      code.isNullable = false ∧ ¬ keyCode.Keeps code ∧ total.scale = some 0 ∧ ¬ orderTotal.Keeps total := by
  refine ⟨_, _, rfl, rfl, rfl, fun h => ?_, rfl, fun h => ?_⟩
  · cases h.nullable
  · cases h.scale

end FieldSpec

end ModelSql
