/-
**What is bound for a value, and what is written for it.**

Beside a column a value is written as a literal of the type of the column, or it is coerced to the form
that the column stores and bound.  Both should stand for the same: the literal of the coerced value alone
should be the literal of the value beside the column.  It is, but for three kinds of values: truth values
in columns of integers, where the database has words for them; floats whose text in single precision is
another one; and identifiers given as texts that are not what stands between the quotes of their literals.
What a literal owes to the column beside it is said here as well.

Main definitions:

* `FieldType.keepsOrdinals` — the types whose columns keep the positions of variants;
* `Dialect.SpellsGuid` — the texts that are written alike as texts and as identifiers;
* `Dialect.Keeps` — **the values whose stored form is written as they are**;
* `Dialect.Bare` — the values that are written alike beside a column and alone.

Main results:

* `coerce_coerce` — a stored form is stored as it is;
* `Dialect.guidLiteral_eq_textLiteral_iff` — the identifiers that are written as a text;
* `Dialect.literal_coerce_iff` — **the stored form is written as the value exactly when it is kept**;
* `Dialect.literal_none_eq_iff` — a value is written alike with and without the column when it is bare;
* `Dialect.literal_coerce_hint_iff` — the stored form beside the column.
-/

import ModelSql.Proofs.Syntax.Quotation
import ModelSql.Proofs.Value.Scalar

set_option relaxedAutoImplicit false
set_option autoImplicit false

namespace ModelSql

/-! ### Stored forms -/

/-- Whether the form that a column stores may differ from a value. -/
def Value.isCoded : Value → Bool
  | int _ | text _ | enum _ => true
  | _ => false

/-- Whether a column of a type keeps the positions of variants. -/
def FieldType.keepsOrdinals : FieldType → Bool
  | enum e => e.storeAsInt
  | t => t.isInteger

section

variable {t : FieldType}

theorem coerce_of_isCoded {v : Value} (h : v.isCoded = false) (hint : Option FieldType) :
    coerce hint v = v := by
  unfold coerce
  split <;> first | rfl | cases h

/-- A variant is stored by its position or by its name. -/
theorem coerce_enum (t : FieldType) (w : EnumValue) : coerce (some t) (.enum w) =
    if t.keepsOrdinals then .int w.ordinal else .text w.variant := by
  cases t <;> rfl

/-- A column that keeps positions stores an integer as it is. -/
theorem coerce_int_of_keepsOrdinals (h : t.keepsOrdinals = true) (n : Int64) :
    coerce (some t) (.int n) = .int n := by
  cases t with
  | bool => cases h
  | enum e => exact if_pos h
  | _ => rfl

/-- A column that keeps no positions stores a text as it is. -/
theorem coerce_text_of_keepsOrdinals (h : t.keepsOrdinals = false) (s : String) :
    coerce (some t) (.text s) = .text s := by
  cases t with
  | enum e => exact if_neg (ne_true_of_eq_false h)
  | _ => rfl

/-- **An integer in a column** is a truth value, the position of a name, or the integer itself. -/
theorem coerce_int_cases (t : FieldType) (n : Int64) :
    (t = .bool ∧ coerce (some t) (.int n) = .bool (n != 0)) ∨
    (∃ e, t = .enum e ∧ e.storeAsInt = false ∧
      coerce (some t) (.int n) = ((e.variant? n.toInt).map Value.text).getD (.int n)) ∨
    coerce (some t) (.int n) = .int n ∧ t ≠ .bool ∧ ∀ e, t = .enum e → e.storeAsInt = true := by
  cases t with
  | bool => exact .inl ⟨rfl, rfl⟩
  | enum e =>
      cases hstore : e.storeAsInt with
      | false => exact .inr (.inl ⟨e, rfl, hstore, if_neg (ne_true_of_eq_false hstore)⟩)
      | true =>
          refine .inr (.inr ⟨if_pos hstore, by simp, fun e' he => ?_⟩)
          cases he
          exact hstore
  | _ => exact .inr (.inr ⟨rfl, by simp, by simp⟩)

/-- **A text in a column** is the name at a position, or the text itself. -/
theorem coerce_text_cases (t : FieldType) (s : String) :
    (∃ e, t = .enum e ∧ e.storeAsInt = true ∧
      coerce (some t) (.text s) = ((e.ordinal? s).map Value.int).getD (.text s)) ∨
    coerce (some t) (.text s) = .text s ∧ ∀ e, t = .enum e → e.storeAsInt = false := by
  cases t with
  | enum e =>
      cases hstore : e.storeAsInt with
      | true => exact .inl ⟨e, rfl, hstore, if_pos hstore⟩
      | false =>
          refine .inr ⟨if_neg (ne_true_of_eq_false hstore), fun e' he => ?_⟩
          cases he
          exact hstore
  | _ => exact .inr ⟨rfl, by simp⟩

/-- **A stored form is stored as it is.** -/
theorem coerce_coerce (hint : Option FieldType) (v : Value) :
    coerce hint (coerce hint v) = coerce hint v := by
  cases hint with
  | none => cases v <;> rfl
  | some t =>
      cases v with
      | int n =>
          rcases coerce_int_cases t n with ⟨-, h⟩ | ⟨e, rfl, hstore, h⟩ | ⟨h, -, -⟩
          · rw [h]
            exact coerce_of_isCoded rfl _
          · rw [h]
            -- a name that stands for a position is stored where names are kept
            cases hname : e.variant? n.toInt with
            | none =>
                rw [hname] at h
                exact h
            | some s => exact coerce_text_of_keepsOrdinals (t := .enum e) hstore s
          · rw [h, h]
      | text s =>
          rcases coerce_text_cases t s with ⟨e, rfl, hstore, h⟩ | ⟨h, -⟩
          · rw [h]
            cases hname : e.ordinal? s with
            | none =>
                rw [hname] at h
                exact h
            | some n => exact coerce_int_of_keepsOrdinals (t := .enum e) hstore n
          · rw [h, h]
      | enum w =>
          rw [coerce_enum]
          split
          · rename_i h
            exact coerce_int_of_keepsOrdinals h _
          · rename_i h
            exact coerce_text_of_keepsOrdinals (eq_false_of_ne_true h) _
      | _ => exact congrArg _ (coerce_of_isCoded rfl _)

/-- **A value that is bound** has the form that the column stores. -/
theorem Scope.bind_parameterized (s : Scope) (hs : s.parameterized = true) {v : Value}
    (hv : v.isScalar = true) (hnull : v ≠ .null) (hint : Option FieldType) :
    s.bind hint v = s.placeholder (coerce hint v) := by
  rw [bind, if_pos hs, bindParameter]
  · exact hnull
  · exact Value.ne_list_of_isScalar hv

end

namespace Dialect

variable {d : Dialect} {t : FieldType}

/-! ### Identifiers as texts -/

/-- The literal of bytes, if there are some, starts with a letter or a digit. -/
theorem exists_head_bytesLiteral (d : Dialect) {bs : List UInt8} (h : bs ≠ []) :
    ∃ c cs, (d.bytesLiteral bs).toList = c :: cs ∧ c ≠ '\'' ∧ c ≠ 'N' := by
  have hempty : bs.isEmpty = false := by simpa using h
  obtain ⟨kind, config⟩ := d
  cases kind <;> simp [bytesLiteral, hempty]

/-- A text starts with its quote, or with the mark of SQL Server in front of it. -/
theorem head_textLiteral (d : Dialect) (s : String) :
    (d.textLiteral s).toList.head? = some '\'' ∨ (d.textLiteral s).toList.head? = some 'N' := by
  rw [toList_textLiteral, textMark]
  split
  · exact .inr rfl
  · exact .inl rfl

theorem getLast?_textLiteral (d : Dialect) (s : String) :
    (d.textLiteral s).toList.getLast? = some '\'' := by
  rw [toList_textLiteral, quotation, ← List.append_assoc, List.getLast?_append]
  rfl

/-- The text of an identifier needs no escapes. -/
theorem textLiteral_toText (hk : d.kind ≠ .sqlserver) (g : Guid) :
    d.textLiteral g.toText = "'" ++ g.toText ++ "'" := by
  have hbare : '\'' :: g.toText.toList ++ ['\''] = d.quotation g.toText.toList := by
    apply d.toList_bare <;> intro h <;> exact absurd (Guid.isPart_of_mem_toText h) (by decide)
  apply String.toList_injective
  rw [toList_textLiteral, textMark, if_neg fun h => hk h.1, ← hbare, String.toList_append,
    String.toList_append]
  rfl

/-- **The identifiers that are written as a text**: by their own text, where it stands between quotes with
nothing around it. -/
theorem guidLiteral_eq_textLiteral_iff (d : Dialect) (g : Guid) (s : String) :
    d.guidLiteral g = d.textLiteral s ↔
      d.config.guidFormat = .string ∧ d.kind ≠ .postgres ∧ d.kind ≠ .sqlserver ∧ s = g.toText := by
  cases hformat : d.config.guidFormat with
  | binary =>
      have hbytes : (if d.kind = .sqlserver then g.bytesLittle else g.bytes) ≠ [] := by
        split <;> simp [Guid.bytesLittle, Guid.bytes]
      have hliteral : d.guidLiteral g =
          d.bytesLiteral (if d.kind = .sqlserver then g.bytesLittle else g.bytes) := by
        rw [guidLiteral, hformat]
      refine iff_of_false (fun heq => ?_) (fun h => by cases h.1)
      obtain ⟨c, cs, hcs, hquote, hmark⟩ := d.exists_head_bytesLiteral hbytes
      have hhead := d.head_textLiteral s
      rw [← heq, hliteral, hcs, List.head?_cons, Option.some.injEq, Option.some.injEq] at hhead
      exact hhead.elim hquote hmark
  | string =>
      have hlast := d.getLast?_textLiteral s
      have hhead := d.head_textLiteral s
      cases hk : d.kind with
      | postgres =>
          have hliteral : d.guidLiteral g = "'" ++ g.toText ++ "'::uuid" := by
            rw [guidLiteral, hformat, hk]
          refine iff_of_false (fun heq => ?_) (fun h => h.2.1 rfl)
          rw [← heq, hliteral, String.toList_append, List.getLast?_append] at hlast
          cases hlast
      | sqlserver =>
          have hliteral : d.guidLiteral g = "CAST('" ++ g.toText ++ "' AS UNIQUEIDENTIFIER)" := by
            rw [guidLiteral, hformat, hk]
          refine iff_of_false (fun heq => ?_) (fun h => h.2.2.1 rfl)
          rw [← heq, hliteral, String.toList_append, List.getLast?_append] at hlast
          cases hlast
      | firebird | mysql | sqlite =>
          have hliteral : d.guidLiteral g = d.textLiteral g.toText := by
            rw [textLiteral_toText (by rw [hk]; decide), guidLiteral, hformat, hk]
          rw [hliteral, d.injective_textLiteral.eq_iff]
          simp [eq_comm]

/-- **The texts that are written alike as texts and as identifiers.** -/
def SpellsGuid (d : Dialect) (s : String) : Prop :=
  d.config.guidFormat = .string ∧ d.kind ≠ .postgres ∧ d.kind ≠ .sqlserver ∧
    ∃ g, Guid.ofText? s = some g ∧ s = g.toText

/-! ### Literals with and without a type -/

/-- The digits of truth values are their words, but for PostgreSQL. -/
theorem boolLiteral_eq_digit_iff (d : Dialect) (b : Bool) :
    d.boolLiteral b = (if b then "1" else "0") ↔ d.kind ≠ .postgres := by
  have hall (k : DialectKind) : (if b then k.rules.trueLiteral else k.rules.falseLiteral) =
      (if b then "1" else "0") ↔ k ≠ .postgres := by
    cases k <;> cases b <;> decide
  exact hall d.kind

theorem literal_none_text (d : Dialect) (a : String) :
    d.literal none (.text a) = .ok (d.textLiteral a) := by
  rw [literal]
  rfl

theorem literal_none_int (d : Dialect) (n : Int64) :
    d.literal none (.int n) = .ok (toString n.toInt) := by
  rw [literal]
  rfl

theorem literal_bool_eq_iff (d : Dialect) (t : FieldType) (b : Bool) :
    d.literal none (.bool b) = d.literal (some t) (.bool b) ↔
      (t.isInteger = true → d.kind ≠ .postgres) := by
  have hnone : d.literal none (.bool b) = .ok (d.boolLiteral b) := by
    rw [literal]
    rfl
  have hsome : d.literal (some t) (.bool b) =
      .ok (if t.isInteger then (if b then "1" else "0") else d.boolLiteral b) := by
    rw [literal]
    rfl
  rw [hnone, hsome, Except.ok.injEq]
  cases ht : t.isInteger with
  | false => simp
  | true => simpa using d.boolLiteral_eq_digit_iff b

theorem literal_float_eq_iff (d : Dialect) (t : FieldType) (x : Float) :
    d.literal none (.float x) = d.literal (some t) (.float x) ↔
      (t = .float → Literal.float x false = Literal.float x true) := by
  have hnone : d.literal none (.float x) = Literal.float x false := by
    rw [literal]
    rfl
  have hsome : d.literal (some t) (.float x) = Literal.float x (some t == some .float) := by
    rw [literal]
  rw [hnone, hsome]
  by_cases ht : t = .float
  · subst ht
    simp
  · have hne : (some t == some .float) = false := by simpa using ht
    simp [hne, ht]

theorem literal_guid_eq_iff (d : Dialect) (s : String) :
    d.literal none (.text s) = d.literal (some .guid) (.text s) ↔ d.SpellsGuid s := by
  rw [literal_none_text, literal, stringLiteral, SpellsGuid]
  cases hg : Guid.ofText? s with
  | none => simp
  | some g => simp [eq_comm (a := d.textLiteral s), d.guidLiteral_eq_textLiteral_iff g s]

/-- **The values whose stored form is written as they are** beside a column of a type: no truth value in a
column of integers where there are words for it, no float that is another one in single precision, and no
identifier given as another text than its own. -/
def Keeps (d : Dialect) (t : FieldType) : Value → Prop
  | .bool _ => t.isInteger = true → d.kind ≠ .postgres
  | .float x => t = .float → Literal.float x false = Literal.float x true
  | .text s => t = .guid → d.SpellsGuid s
  | _ => True

theorem literal_coerce_int {n : Int64} {s : String} (h : d.literal (some t) (.int n) = .ok s) :
    d.literal none (coerce (some t) (.int n)) = .ok s := by
  rw [literal, intLiteral.eq_def] at h
  rcases coerce_int_cases t n with ⟨rfl, hc⟩ | ⟨e, rfl, hstore, hc⟩ | ⟨hc, hbool, henum⟩
  · rw [hc, literal]
    exact h
  · dsimp only at h
    rw [if_neg (ne_true_of_eq_false hstore)] at h
    rw [hc]
    cases hname : e.variant? n.toInt with
    | none =>
        rw [hname] at h
        cases h
    | some name =>
        rw [hname] at h
        change d.literal none (.text name) = .ok s
        rw [literal]
        exact h
  · rw [hc, literal]
    cases t with
    | bool => exact absurd rfl hbool
    | enum e =>
        dsimp only at h
        rw [if_pos (henum e rfl)] at h
        exact h
    | _ => exact h

theorem literal_coerce_text {a s : String} (ht : t ≠ .guid)
    (h : d.literal (some t) (.text a) = .ok s) :
    d.literal none (coerce (some t) (.text a)) = .ok s := by
  rw [literal, stringLiteral.eq_def] at h
  rcases coerce_text_cases t a with ⟨e, rfl, hstore, hc⟩ | ⟨hc, henum⟩
  · dsimp only at h
    rw [if_pos hstore] at h
    rw [hc]
    cases hname : e.ordinal? a with
    | none =>
        rw [hname] at h
        cases h
    | some n =>
        rw [hname] at h
        change d.literal none (.int n) = .ok s
        rw [literal]
        exact h
  · rw [hc, literal]
    cases t with
    | guid => exact absurd rfl ht
    | enum e =>
        dsimp only at h
        rw [if_neg (ne_true_of_eq_false (henum e rfl))] at h
        exact h
    | _ => exact h

theorem enumLiteral_some (d : Dialect) (t : FieldType) (w : EnumValue) : d.enumLiteral w (some t) =
    if t.keepsOrdinals then toString w.ordinal.toInt else d.textLiteral w.variant := by
  cases t <;> rfl

theorem literal_coerce_enum (d : Dialect) (t : FieldType) (w : EnumValue) :
    d.literal none (coerce (some t) (.enum w)) = d.literal (some t) (.enum w) := by
  have hsome : d.literal (some t) (.enum w) = .ok (d.enumLiteral w (some t)) := by
    rw [literal]
  rw [hsome, enumLiteral_some, coerce_enum]
  split
  · rw [literal]
    rfl
  · rw [literal]
    rfl

/-- **The stored form of a value and its literal.**  The stored form, which is bound where values are bound,
is written as the value is beside the column exactly when the column keeps it as it is written; and a
stored form is stored as it is. -/
theorem literal_coerce_iff {v : Value} {s : String} (hv : v.isScalar = true)
    (h : d.literal (some t) v = .ok s) :
    (∀ c : Scope, c.parameterized = true → v ≠ .null →
      c.bind (some t) v = c.placeholder (coerce (some t) v)) ∧
    (d.literal none (coerce (some t) v) = .ok s ↔ d.Keeps t v) ∧
      ∀ hint w, coerce hint (coerce hint w) = coerce hint w := by
  refine ⟨fun c hc hnull => c.bind_parameterized hc hv hnull (some t), ?_, coerce_coerce⟩
  cases v with
  | list items => cases hv
  | bool b =>
      rw [coerce_of_isCoded rfl, ← h]
      exact literal_bool_eq_iff d t b
  | float x =>
      rw [coerce_of_isCoded rfl, ← h]
      exact literal_float_eq_iff d t x
  | text a =>
      by_cases ht : t = .guid
      · subst ht
        have hself : coerce (some .guid) (.text a) = .text a := rfl
        rw [hself, ← h, literal_guid_eq_iff]
        exact ⟨fun ha _ => ha, fun hk => hk rfl⟩
      · exact iff_of_true (literal_coerce_text ht h) fun hg => absurd hg ht
  | int n => exact iff_of_true (literal_coerce_int h) trivial
  | enum w => exact iff_of_true (literal_coerce_enum d t w ▸ h) trivial
  | _ =>
      refine iff_of_true ?_ trivial
      rw [coerce_of_isCoded rfl, literal]
      rw [literal] at h
      exact h

/-- The second variant of an enumeration, given by its position and stored by its name. -/
theorem literal_coerce_iff_variant :
    let d := DialectKind.postgres.dialect
    let t := FieldType.enum ⟨"Status", ["Active", "Closed"], false⟩
    (Value.int 1).isScalar = true ∧ d.literal (some t) (.int 1) = .ok "'Closed'" ∧
      coerce (some t) (.int 1) = .text "Closed" ∧
      d.literal none (coerce (some t) (.int 1)) = .ok "'Closed'" := by
  intro d t
  have hliteral : d.literal (some t) (.int 1) = .ok "'Closed'" := rfl
  exact ⟨rfl, hliteral, rfl, (literal_coerce_iff rfl hliteral).2.1.2 trivial⟩

/-- **Stored forms that are written in another way**: on PostgreSQL the true value is 1 in a column of
integers and is bound as a truth value; the text of an identifier is written in its usual form and is bound
as it was given. -/
theorem literal_coerce_differs :
    let d := DialectKind.postgres.dialect
    let e := DialectKind.sqlite.dialect
    let g := Value.text "550E8400-E29B-41D4-A716-446655440000"
    d.literal (some .int32) (.bool true) = .ok "1" ∧
      d.literal none (coerce (some .int32) (.bool true)) = .ok "true" ∧
      e.literal (some .guid) g = .ok "'550e8400-e29b-41d4-a716-446655440000'" ∧
      e.literal none (coerce (some .guid) g) = .ok "'550E8400-E29B-41D4-A716-446655440000'" := by
  refine ⟨rfl, rfl, ?_, rfl⟩
  decide

/-! ### Literals beside a column -/

/-- The text of an integer ends with a digit. -/
theorem getLast?_toString_int (n : Int) :
    ∃ c, (toString n).toList.getLast? = some c ∧ c.isDigit = true := by
  obtain ⟨negative, m, hm⟩ := Text.toList_toString_int n
  have hne : Nat.toDigits 10 m ≠ [] := Nat.toDigits_ne_nil
  refine ⟨(Nat.toDigits 10 m).getLast hne, ?_, Text.isDigit_of_mem_toDigits (List.getLast_mem hne)⟩
  rw [hm, List.getLast?_append, List.getLast?_eq_some_getLast hne]
  rfl

/-- A text that ends with something else is no integer. -/
theorem int_ne_of_getLast? {s : String} {c : Char} (hs : s.toList.getLast? = some c)
    (hc : c.isDigit = false) (n : Int) : toString n ≠ s := by
  intro h
  obtain ⟨x, hx, hdigit⟩ := getLast?_toString_int n
  rw [h, hs, Option.some.injEq] at hx
  subst hx
  exact ne_true_of_eq_false hc hdigit

/-- A text between quotes is no integer. -/
theorem int_ne_textLiteral (d : Dialect) (n : Int) (a : String) : toString n ≠ d.textLiteral a :=
  int_ne_of_getLast? (d.getLast?_textLiteral a) rfl n

/-- **The integers that are the word of their truth value**: 0 and 1, where truth values are digits. -/
theorem int_eq_boolLiteral_iff (d : Dialect) (n : Int64) :
    toString n.toInt = d.boolLiteral (n != 0) ↔ d.kind ≠ .postgres ∧ (n = 0 ∨ n = 1) := by
  by_cases hk : d.kind = .postgres
  · have hword (b : Bool) : (d.boolLiteral b).toList.getLast? = some 'e' := by
      rw [boolLiteral, rules, hk]
      cases b <;> rfl
    exact iff_of_false (int_ne_of_getLast? (hword _) rfl _) (fun h => h.1 hk)
  · rw [(d.boolLiteral_eq_digit_iff _).2 hk]
    have hone : toString n.toInt = "1" ↔ n = 1 :=
      (Text.toString_int_injective.eq_iff (b := 1)).trans (Int64.toInt_inj (y := 1))
    by_cases hn : n = 0
    · subst hn
      exact iff_of_true rfl ⟨hk, .inl rfl⟩
    · have hword : (n != 0) = true := by simpa using hn
      rw [if_pos hword, hone]
      exact ⟨fun h => ⟨hk, .inr h⟩, fun h => h.2.resolve_left hn⟩

/-- **The values that are written alike beside a column and alone**: those that the column keeps as they are
written, and that it stores in the form in which they are given. -/
def Bare (d : Dialect) (t : FieldType) : Value → Prop
  | .int n => (t = .bool → d.kind ≠ .postgres ∧ (n = 0 ∨ n = 1)) ∧
      ∀ e, t = .enum e → e.storeAsInt = true
  | .text a => d.Keeps t (.text a) ∧ ∀ e, t = .enum e → e.storeAsInt = false
  | .enum _ => t.keepsOrdinals = false
  | v => d.Keeps t v

theorem literal_none_int_iff (d : Dialect) (t : FieldType) (n : Int64) :
    d.literal none (.int n) = d.literal (some t) (.int n) ↔
      (t = .bool → d.kind ≠ .postgres ∧ (n = 0 ∨ n = 1)) ∧
        ∀ e, t = .enum e → e.storeAsInt = true := by
  rw [literal_none_int, literal]
  cases t with
  | bool =>
      change Except.ok _ = Except.ok _ ↔ _
      rw [Except.ok.injEq, int_eq_boolLiteral_iff]
      simp
  | enum e =>
      rw [intLiteral]
      cases hstore : e.storeAsInt with
      | true => simp [hstore]
      | false =>
          refine iff_of_false (fun h => ?_) (fun h => ne_true_of_eq_false hstore (h.2 e rfl))
          rw [if_neg Bool.false_ne_true] at h
          split at h
          · exact d.int_ne_textLiteral _ _ (Except.ok.inj h)
          · cases h
  | _ => exact iff_of_true rfl ⟨by simp, by simp⟩

theorem literal_none_text_iff (d : Dialect) (t : FieldType) (a : String) :
    d.literal none (.text a) = d.literal (some t) (.text a) ↔
      (t = .guid → d.SpellsGuid a) ∧ ∀ e, t = .enum e → e.storeAsInt = false := by
  cases t with
  | guid =>
      rw [literal_guid_eq_iff]
      simp
  | enum e =>
      rw [literal_none_text, literal, stringLiteral]
      cases hstore : e.storeAsInt with
      | false => simp [hstore]
      | true =>
          refine iff_of_false (fun h => ?_) (fun h => ne_false_of_eq_true hstore (h.2 e rfl))
          rw [if_pos rfl] at h
          split at h
          · exact d.int_ne_textLiteral _ _ (Except.ok.inj h).symm
          · cases h
  | _ =>
      rw [literal_none_text, literal]
      exact iff_of_true rfl ⟨by simp, by simp⟩

theorem literal_none_enum_iff (d : Dialect) (t : FieldType) (w : EnumValue) :
    d.literal none (.enum w) = d.literal (some t) (.enum w) ↔ t.keepsOrdinals = false := by
  have hnone : d.literal none (.enum w) = .ok (d.textLiteral w.variant) := by
    rw [literal]
    rfl
  rw [hnone, literal, enumLiteral_some, Except.ok.injEq]
  cases ht : t.keepsOrdinals with
  | false => simp
  | true =>
      rw [if_pos rfl]
      exact iff_of_false (fun h => d.int_ne_textLiteral _ _ h.symm) (by simp)

/-- **The literal beside a column is that of the value alone** exactly for the values that are bare. -/
theorem literal_none_eq_iff {v : Value} (hv : v.isScalar = true) :
    d.literal none v = d.literal (some t) v ↔ d.Bare t v := by
  cases v with
  | list items => cases hv
  | bool b => exact d.literal_bool_eq_iff t b
  | float x => exact d.literal_float_eq_iff t x
  | int n => exact d.literal_none_int_iff t n
  | text a => exact d.literal_none_text_iff t a
  | enum w => exact d.literal_none_enum_iff t w
  | _ =>
      refine iff_of_true ?_ trivial
      rw [literal, literal]

/-- The literal of a variant by its name, beside a column that keeps no positions. -/
theorem literal_variant_eq_iff (d : Dialect) (ht : t.keepsOrdinals = false) (a : String) :
    d.literal (some t) (.text a) = .ok (d.textLiteral a) ↔ (t = .guid → d.SpellsGuid a) := by
  rw [← literal_none_text, eq_comm, literal_none_text_iff]
  refine ⟨fun h => h.1, fun h => ⟨h, fun e he => ?_⟩⟩
  subst he
  exact ht

/-- **The literal of the form that a column stores, beside the column**, is that of the value but for a
variant beside a column of identifiers. -/
theorem literal_coerce_hint_iff (d : Dialect) (t : FieldType) (v : Value) :
    d.literal (some t) (coerce (some t) v) = d.literal (some t) v ↔
      ∀ w, v = .enum w → t = .guid → d.SpellsGuid w.variant := by
  cases v with
  | int n =>
      refine iff_of_true ?_ (by simp)
      rcases coerce_int_cases t n with ⟨rfl, hc⟩ | ⟨e, rfl, hstore, hc⟩ | ⟨hc, -, -⟩
      · rw [hc, literal, literal]
        rfl
      · rw [hc]
        cases hname : e.variant? n.toInt with
        | none => rfl
        | some a =>
            change d.literal _ (.text a) = _
            rw [literal, literal, stringLiteral, intLiteral, hstore, hname]
            rfl
      · rw [hc]
  | text a =>
      refine iff_of_true ?_ (by simp)
      rcases coerce_text_cases t a with ⟨e, rfl, hstore, hc⟩ | ⟨hc, -⟩
      · rw [hc]
        cases hname : e.ordinal? a with
        | none => rfl
        | some n =>
            change d.literal _ (.int n) = _
            rw [literal, literal, stringLiteral, intLiteral, hstore, hname]
            rfl
      · rw [hc]
  | enum w =>
      have hsome : d.literal (some t) (.enum w) = .ok (d.enumLiteral w (some t)) := by
        rw [literal]
      rw [coerce_enum, hsome, enumLiteral_some]
      cases ht : t.keepsOrdinals with
      | false =>
          rw [if_neg Bool.false_ne_true, if_neg Bool.false_ne_true, d.literal_variant_eq_iff ht]
          simp
      | true =>
          rw [if_pos rfl, if_pos rfl, literal]
          refine iff_of_true ?_ fun v _ hguid => ?_
          · cases t with
            | bool => cases ht
            | enum e => exact if_pos ht
            | _ => rfl
          · subst hguid
            cases ht
  | _ => exact iff_of_true (congrArg _ (coerce_of_isCoded rfl _)) (by simp)

end Dialect

end ModelSql
