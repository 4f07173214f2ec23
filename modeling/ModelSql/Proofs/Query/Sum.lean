/-
**Sums and texts put together.**

The sign of a sum also puts texts together: databases other than SQL Server have a concatenation of their own
for that.  Which of them a sum is written as should depend on the kinds of its operands, however deep they
are nested.  It depends on their forms instead: a part of a sum counts as a text when it is a value that is a
text or a column of texts, and no longer when it is a text that was put together or made by a method.

Main definitions:

* `Expr.isTextTyped` — the expressions that are texts;
* `Expr.isPlainText` — those that are a value or a column;
* `Dialect.sum` — a sum of two operands, or two texts put together.

Main results:

* `Scope.isText_visit` — a visited part counts as a text when its expression is a plain one;
* `Dialect.concat_eq_infixText_iff` — where both are written alike;
* `Scope.visit_sum_iff` — **what a sum is written as, and when it is what the kinds of its operands call for**.
-/

import ModelSql.Proofs.Query.Computed
import ModelSql.Proofs.Query.Operation
import ModelSql.Proofs.Query.Spelling

set_option relaxedAutoImplicit false
set_option autoImplicit false

namespace ModelSql

/-! ### Texts among expressions -/

/-- Whether a value is a text. -/
def Value.isText : Value → Bool
  | text _ => true
  | _ => false

namespace Expr

/-- **Whether an expression is a text that is a value or a column.** -/
def isPlainText (m : Model) (e : Expr) : Bool :=
  match e.value? with
  | some v => v.isText
  | none =>
    match e with
    | .column name => (m.field? name).any (·.type == .string)
    | .convert e => e.isPlainText m
    | _ => false

/-- **Whether an expression is a text**: by its value, if it is computed; and else as a column of texts, as
what a method makes of a text, or as a sum with a text for an operand. -/
def isTextTyped (m : Model) (e : Expr) : Bool :=
  match e.value? with
  | some v => v.isText
  | none =>
    match e with
    | .column name => (m.field? name).any (·.type == .string)
    | .convert e => e.isTextTyped m
    | .method f _ _ => !f.isTest
    | .binary .add l r => l.isTextTyped m || r.isTextTyped m
    | _ => false

section

variable {m : Model} {e : Expr}

theorem isPlainText_of_value {v : Value} (h : e.value? = some v) : e.isPlainText m = v.isText := by
  unfold isPlainText
  rw [h]

theorem isTextTyped_of_value {v : Value} (h : e.value? = some v) : e.isTextTyped m = v.isText := by
  unfold isTextTyped
  rw [h]

/-- Nothing else that is not computed is a plain text. -/
theorem isPlainText_eq_false (h : e.value? = none) (hcolumn : ∀ name, e ≠ .column name)
    (hconvert : ∀ e', e ≠ .convert e') : e.isPlainText m = false := by
  unfold isPlainText
  rw [h]
  dsimp only
  split
  · exact absurd rfl (hcolumn _)
  · exact absurd rfl (hconvert _)
  · rfl

/-- A plain text is a text. -/
theorem isTextTyped_of_isPlainText (h : e.isPlainText m = true) : e.isTextTyped m = true := by
  induction e using Expr.isPlainText.induct with
  | case1 e v hv => rwa [isTextTyped_of_value hv, ← isPlainText_of_value hv]
  | case2 name hv => exact h
  | case3 e hv ih =>
      rw [isPlainText, hv] at h
      rw [isTextTyped, hv]
      exact ih h
  | case4 e hv hcolumn hconvert =>
      rw [isPlainText_eq_false hv hcolumn hconvert] at h
      cases h

end

end Expr

namespace Dialect

/-- **A sum of two operands, or two texts put together.** -/
def sum (d : Dialect) (text : Bool) (left right : String) : String :=
  if text then d.concat left right else infixText left "+" right

/-- **Where texts are put together with the sign of a sum.** -/
theorem concat_eq_infixText_iff (d : Dialect) (x y : String) :
    d.concat x y = infixText x "+" y ↔ d.kind = .sqlserver := by
  have hbars : infixText x "||" y ≠ infixText x "+" y := by
    intro h
    have hlength := congrArg String.length h
    simp only [infixText, String.length_append] at hlength
    have hsigns : "||".length = 2 ∧ "+".length = 1 := ⟨rfl, rfl⟩
    omega
  cases hk : d.kind with
  | sqlserver => exact iff_of_true (by rw [concat, hk]) rfl
  | mysql =>
      refine iff_of_false (fun h => ?_) (by decide)
      rw [concat, hk] at h
      have hhead := congrArg (·.toList.head?) h
      simp [infixText] at hhead
  | firebird | postgres | sqlite =>
      refine iff_of_false (fun h => ?_) (by decide)
      rw [concat, hk] at h
      exact hbars h

/-- **When both ways of writing are the same.** -/
theorem sum_eq_sum_iff (d : Dialect) (text other : Bool) (x y : String) :
    d.sum text x y = d.sum other x y ↔ d.kind = .sqlserver ∨ text = other := by
  have hconcat := d.concat_eq_infixText_iff x y
  cases text <;> cases other
  · simp
  · simpa [sum, eq_comm] using hconcat
  · simpa [sum] using hconcat
  · simp

end Dialect

namespace Scope

variable {s : Scope} {b c : Bindings} {p : Fragment}

/-- Only a column is visited as a column, converted or not. -/
theorem exists_column_of_visit {e : Expr} {t : String} {type : FieldType}
    (h : s.visit e b = .ok (.column t type, c)) :
    (∃ name, e = .column name) ∨ ∃ e', e = .convert e' := by
  -- every other form ends with a value or with a text
  cases e with
  | column name => exact .inl ⟨name, rfl⟩
  | convert e => exact .inr ⟨e, rfl⟩
  | value v => cases (visit_value h).1
  | countAll =>
      rw [visit] at h
      cases (pure_eq_ok.1 h).1
  | deferred r =>
      rw [visit] at h
      obtain ⟨v, m, -, hpure⟩ := bind_eq_ok.1 h
      cases (pure_eq_ok.1 hpure).1
  | binary op l r =>
      obtain ⟨x, k, y, m, -, -, hstep⟩ := visit_binary h
      rcases s.binary_eq_ok hstep with ⟨x, y, v, -, -, -, hv, -⟩ | ⟨t, -, -, ht⟩
      · cases hv
      · cases ht
  | unary op e =>
      obtain ⟨x, k, -, hstep⟩ := visit_unary h
      rcases s.unary_eq_ok hstep with ⟨x, v, -, -, hv, -⟩ | ⟨-, t, ht⟩
      · cases hv
      · cases op with
        | not => cases ht.2
        | neg => cases ht.2
  | convertWith f e =>
      rw [visit] at h
      obtain ⟨p, m, -, hstep⟩ := bind_eq_ok.1 h
      cases p with
      | value v =>
          obtain ⟨w, n, -, hpure⟩ := bind_eq_ok.1 hstep
          cases (pure_eq_ok.1 hpure).1
      | sql t => exact absurd hstep fail_ne_ok
      | column t type => exact absurd hstep fail_ne_ok
  | method m e args =>
      obtain ⟨x, k, ps, n, -, -, hstep⟩ := visit_method h
      rcases s.method_eq_ok hstep with ⟨items, -, -, hc⟩ | ⟨v, w, -, -, -, hv, -⟩ | ⟨-, -, sql, k, t, -, -, ht⟩
      · rcases s.collectionContains_eq_ok hc with ⟨a, ha, -⟩ | ⟨q, target, k, t, -, -, -, ht⟩
        · cases ha
        · cases ht
      · cases hv
      · cases ht
  | call f args =>
      rw [visit] at h
      obtain ⟨vs, m, -, hstep⟩ := bind_eq_ok.1 h
      obtain ⟨w, n, -, hpure⟩ := bind_eq_ok.1 hstep
      cases (pure_eq_ok.1 hpure).1
  | inList e v =>
      obtain ⟨x, k, left, m, q, n, -, -, -, hstep⟩ := visit_inList h
      rcases hstep with ⟨w, text, -, -, ht⟩ | ⟨-, right, -, ht⟩
      · cases ht
      · cases ht
  | desc e | named e name | aggregate f e =>
      rw [visit] at h
      obtain ⟨p, m, -, hstep⟩ := bind_eq_ok.1 h
      obtain ⟨t, n, -, hpure⟩ := bind_eq_ok.1 hstep
      cases (pure_eq_ok.1 hpure).1
  | list items =>
      rw [visit] at h
      obtain ⟨ps, m, -, hstep⟩ := bind_eq_ok.1 h
      unfold listOf at hstep
      split at hstep
      · cases (pure_eq_ok.1 hstep).1
      · obtain ⟨ts, n, -, hpure⟩ := bind_eq_ok.1 hstep
        cases (pure_eq_ok.1 hpure).1

/-- **A visited part counts as a text when its expression is a plain one.** -/
theorem isText_visit {e : Expr} (h : s.visit e b = .ok (p, c)) : p.isText = e.isPlainText s.model := by
  induction e using Expr.isPlainText.induct with
  | case1 e v hv =>
      rw [visit_of_value hv] at h
      obtain ⟨rfl, -⟩ := pure_eq_ok.1 h
      rw [Expr.isPlainText_of_value hv]
      cases v <;> rfl
  | case2 name hv =>
      obtain ⟨f, hf, rfl, -⟩ := visit_column h
      change _ = (s.model.field? name).any _
      rw [hf]
      change Fragment.isText _ = (f.type == .string)
      cases f.type <;> rfl
  | case3 e hv ih =>
      rw [visit] at h
      rw [Expr.isPlainText, hv]
      exact ih h
  | case4 e hv hcolumn hconvert =>
      rw [Expr.isPlainText_eq_false hv hcolumn hconvert]
      cases p with
      | value v => cases (value_eq_none_iff h).2 hv
      | sql t => rfl
      | column t type =>
          rcases exists_column_of_visit h with ⟨name, rfl⟩ | ⟨e', rfl⟩
          · exact absurd rfl (hcolumn name)
          · exact absurd rfl (hconvert e')

/-- An operator between parts of which one is no value. -/
theorem binary_of_text (s : Scope) (op : BinaryOp) {p q : Fragment}
    (h : p.value? = none ∨ q.value? = none) : s.binary op p q = (do
      let text ← s.binaryText op p q
      return .sql text) := by
  cases p with
  | value x =>
      cases q with
      | value y => simp [Fragment.value?] at h
      | sql t | column t type => rfl
  | sql t | column t type => rfl

/-- The text of a sum is made of the texts of its operands. -/
theorem binaryText_add (s : Scope) (p q : Fragment) : s.binaryText .add p q = (do
    let operands ← s.operandPair p q
    return s.dialect.sum (p.isText || q.isText) operands.1 operands.2) := by
  rw [binaryText, if_neg (by decide), if_neg (fun h => by cases h.1 <;> contradiction)]
  rfl

/-- **What a sum is written as, and when it is what the kinds of its operands call for.**  A sum that is not
computed is written of what its operands are written as, put together as texts exactly when one of them is a
plain text.  That is what a sum of their kinds is written as, for any texts of the operands, on SQL Server,
and elsewhere exactly when one of them is a plain text if one is a text at all. -/
theorem visit_sum_iff (s : Scope) {l r : Expr} (h : l.value? = none ∨ r.value? = none) :
    (∀ b p c, s.visit (.binary .add l r) b = .ok (p, c) ↔
      ∃ u k v m x y, s.visit l b = .ok (u, k) ∧ s.visit r k = .ok (v, m) ∧
        s.operandPair u v m = .ok ((x, y), c) ∧
        p = .sql (s.dialect.sum (l.isPlainText s.model || r.isPlainText s.model) x y)) ∧
    ∀ x y, s.dialect.sum (l.isPlainText s.model || r.isPlainText s.model) x y =
        s.dialect.sum (l.isTextTyped s.model || r.isTextTyped s.model) x y ↔
      s.dialect.kind = .sqlserver ∨
        (l.isTextTyped s.model = true ∨ r.isTextTyped s.model = true →
          l.isPlainText s.model = true ∨ r.isPlainText s.model = true) := by
  constructor
  · intro b p c
    have hstep {u v : Fragment} {k m : Bindings} (hu : s.visit l b = .ok (u, k))
        (hv : s.visit r k = .ok (v, m)) : s.binary .add u v = (do
          let operands ← s.operandPair u v
          return .sql (s.dialect.sum (l.isPlainText s.model || r.isPlainText s.model)
            operands.1 operands.2)) := by
      rw [s.binary_of_text .add (h.imp (value_eq_none_iff hu).2 (value_eq_none_iff hv).2),
        binaryText_add, isText_visit hu, isText_visit hv, bind_assoc]
      simp only [pure_bind]
    constructor
    · intro hvisit
      obtain ⟨u, k, v, m, hu, hv, hsum⟩ := visit_binary hvisit
      rw [hstep hu hv] at hsum
      obtain ⟨operands, n, hpair, hpure⟩ := bind_eq_ok.1 hsum
      obtain ⟨rfl, rfl⟩ := pure_eq_ok.1 hpure
      exact ⟨u, k, v, m, operands.1, operands.2, hu, hv, hpair, rfl⟩
    · rintro ⟨u, k, v, m, x, y, hu, hv, hpair, rfl⟩
      rw [visit, bind_eq_ok]
      refine ⟨u, k, hu, bind_eq_ok.2 ⟨v, m, hv, ?_⟩⟩
      rw [hstep hu hv]
      exact bind_eq_ok.2 ⟨(x, y), c, hpair, rfl⟩
  · intro x y
    have hl : l.isPlainText s.model = true → l.isTextTyped s.model = true :=
      Expr.isTextTyped_of_isPlainText
    have hr : r.isPlainText s.model = true → r.isTextTyped s.model = true :=
      Expr.isTextTyped_of_isPlainText
    rw [Dialect.sum_eq_sum_iff, Bool.eq_iff_iff, Bool.or_eq_true, Bool.or_eq_true]
    exact or_congr_right ⟨fun heq => heq.2, fun himp => ⟨Or.imp hl hr, himp⟩⟩

/-- A column of texts before one of numbers. -/
theorem visit_sum_iff_column :
    let s : Scope := ⟨DialectKind.sqlite.dialect, Query.people, false, false⟩
    let l := Expr.column "Name"
    let r := Expr.column "Age"
    let b : Bindings := ⟨⟨[]⟩, 0⟩
    (l.value? = none ∨ r.value? = none) ∧ l.isPlainText s.model = true ∧
      s.visit (.binary .add l r) b = .ok (.sql "(\"Name\" || \"Age\")", b) ∧
      ∀ x y, s.dialect.sum (l.isPlainText s.model || r.isPlainText s.model) x y =
        s.dialect.sum (l.isTextTyped s.model || r.isTextTyped s.model) x y :=
  ⟨.inl rfl, rfl, rfl, fun x y =>
    ((visit_sum_iff ⟨DialectKind.sqlite.dialect, Query.people, false, false⟩ (.inl rfl)).2 x y).2
      (.inr fun _ => .inl rfl)⟩

/-- **Texts that are added up**: what was put together already, and what a method made. -/
theorem visit_sum_differs :
    let s : Scope := ⟨DialectKind.sqlite.dialect, Query.people, false, false⟩
    let labelled := Expr.binary .add (.column "Name") (.value (.text "-"))
    let trimmed := Expr.method .trim (.column "Name") []
    let b : Bindings := ⟨⟨[]⟩, 0⟩
    labelled.isTextTyped s.model = true ∧ trimmed.isTextTyped s.model = true ∧
      s.visit labelled b = .ok (.sql "(\"Name\" || '-')", b) ∧
      s.visit (.binary .add labelled (.column "Age")) b =
        .ok (.sql "((\"Name\" || '-') + \"Age\")", b) ∧
      s.visit (.binary .add trimmed (.column "Age")) b = .ok (.sql "(TRIM(\"Name\") + \"Age\")", b) ∧
      s.dialect.concat "(\"Name\" || '-')" "\"Age\"" = "((\"Name\" || '-') || \"Age\")" :=
  ⟨rfl, rfl, rfl, rfl, rfl, rfl⟩

end Scope

end ModelSql
