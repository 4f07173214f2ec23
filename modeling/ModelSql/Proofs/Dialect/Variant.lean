/-
**Variants in statements.**

A column of an enumeration keeps the names of variants, or their positions.  A value that is given in the
other form is looked up among the variants, and is refused when it is not found.  A value in the form that
the column keeps is written as it is, whether or not it names a variant.

Main definitions:

* `EnumType.Denotes` — **the texts that stand for a variant** in a statement;
* `EnumType.Names` — the values that name a variant;
* `EnumType.looksUp` — the values that are looked up.

Main results:

* `EnumType.denotes_textLiteral_iff`, `EnumType.denotes_toString_iff` — which names and integers denote;
* `Dialect.literal_denotes_iff` — **when the literal of a value denotes a variant**;
* `Dialect.unlisted_literals` — literals that denote none.
-/

import ModelSql.Proofs.Dialect.Form
import ModelSql.Proofs.Syntax.Quotation

set_option relaxedAutoImplicit false
set_option autoImplicit false

namespace ModelSql

/-! ### Variants -/

namespace EnumType

variable (e : EnumType) {d : Dialect} {n : Int} {s : String}

/-- Whether an integer is the position of a variant. -/
def HasOrdinal (n : Int) : Prop := 0 ≤ n ∧ n < e.variants.length

instance (n : Int) : Decidable (e.HasOrdinal n) := inferInstanceAs (Decidable (_ ∧ _))

/-- **The texts that stand for a variant** in a statement: its name as a text, or its position. -/
def Denotes (d : Dialect) (t : String) : Prop :=
  if e.storeAsInt then ∃ n, e.HasOrdinal n ∧ t = toString n
  else ∃ s ∈ e.variants, t = d.textLiteral s

/-- **The values that name a variant.**  A variant of some enumeration has a name and a position, of which
the one that the column keeps counts. -/
def Names : Value → Prop
  | .int n => e.HasOrdinal n.toInt
  | .text s => s ∈ e.variants
  | .enum x => if e.storeAsInt then e.HasOrdinal x.ordinal.toInt else x.variant ∈ e.variants
  | _ => False

/-- **The values that are looked up**: those in the form that the column does not keep. -/
def looksUp : Value → Bool
  | .int _ => !e.storeAsInt
  | .text _ => e.storeAsInt
  | _ => false

variable {e}

theorem variant?_eq_some (h : e.variant? n = some s) : e.HasOrdinal n ∧ s ∈ e.variants := by
  unfold variant? at h
  split at h
  · cases h
  · obtain ⟨hlt, rfl⟩ := List.getElem?_eq_some_iff.1 h
    exact ⟨⟨by omega, by omega⟩, List.getElem_mem hlt⟩

theorem ordinal?_eq_some {n : Int64} (h : e.ordinal? s = some n) :
    e.HasOrdinal n.toInt ∧ s ∈ e.variants := by
  obtain ⟨i, hfind, hn⟩ := Option.bind_eq_some_iff.1 h
  obtain ⟨hlt, hget, -⟩ := List.findIdx?_eq_some_iff_getElem.1 hfind
  obtain rfl : e.variants[i] = s := by simpa using hget
  split at hn
  · rename_i hmax
    obtain rfl := Option.some.inj hn
    have hposition : (Int64.ofNat i).toInt = i := by
      have hbound := Int64.toInt_maxValue
      exact Int64.toInt_ofNat_of_lt (by omega)
    rw [HasOrdinal, hposition]
    exact ⟨⟨by omega, by omega⟩, List.getElem_mem hlt⟩
  · cases hn

/-- **An integer denotes a variant** when it is the position of one. -/
theorem denotes_toString_iff (he : e.storeAsInt = true) : e.Denotes d (toString n) ↔ e.HasOrdinal n := by
  rw [Denotes, if_pos he]
  constructor
  · rintro ⟨m, hm, htext⟩
    rwa [Text.toString_int_injective htext]
  · exact fun h => ⟨n, h, rfl⟩

/-- **A text denotes a variant** when it is the name of one. -/
theorem denotes_textLiteral_iff (he : e.storeAsInt = false) :
    e.Denotes d (d.textLiteral s) ↔ s ∈ e.variants := by
  rw [Denotes, he, if_neg Bool.false_ne_true]
  constructor
  · rintro ⟨t, ht, htext⟩
    rwa [d.injective_textLiteral htext]
  · exact fun h => ⟨s, h, rfl⟩

end EnumType

/-! ### Literals -/

/-- The values that may name a variant. -/
def Value.mayName : Value → Bool
  | .int _ | .text _ | .enum _ => true
  | _ => false

namespace Dialect

variable {d : Dialect} {e : EnumType} {v : Value} {t : String}

/-- **A value that is looked up** is refused, or it names a variant and its literal denotes one. -/
theorem literal_of_looksUp (hup : e.looksUp v = true) (h : d.literal (some (.enum e)) v = .ok t) :
    e.Names v ∧ e.Denotes d t := by
  cases v with
  | int n =>
      have he : e.storeAsInt = false := by simpa [EnumType.looksUp] using hup
      simp only [literal, intLiteral, he, Bool.false_eq_true, if_false] at h
      split at h
      · rename_i s hs
        cases h
        have hfound := EnumType.variant?_eq_some hs
        exact ⟨hfound.1, (EnumType.denotes_textLiteral_iff he).2 hfound.2⟩
      · cases h
  | text s =>
      have he : e.storeAsInt = true := hup
      simp only [literal, stringLiteral, he, if_true] at h
      split at h
      · rename_i n hn
        cases h
        have hfound := EnumType.ordinal?_eq_some hn
        exact ⟨hfound.2, (EnumType.denotes_toString_iff he).2 hfound.1⟩
      · cases h
  | _ => cases hup

/-- **A value in the form that the column keeps** is written whatever it is, and its literal denotes a variant
when the value names one. -/
theorem exists_literal_of_not_looksUp (hv : v.mayName = true) (hup : e.looksUp v = false) :
    ∃ t, d.literal (some (.enum e)) v = .ok t ∧ (e.Denotes d t ↔ e.Names v) := by
  cases v with
  | int n =>
      have he : e.storeAsInt = true := by simpa [EnumType.looksUp] using hup
      refine ⟨toString n.toInt, ?_, EnumType.denotes_toString_iff he⟩
      simp only [literal, intLiteral, he, if_true]
  | text s =>
      have he : e.storeAsInt = false := hup
      refine ⟨d.textLiteral s, ?_, EnumType.denotes_textLiteral_iff he⟩
      simp only [literal, stringLiteral, he, Bool.false_eq_true, if_false]
  | «enum» x =>
      cases he : e.storeAsInt with
      | false =>
          refine ⟨d.textLiteral x.variant, ?_, ?_⟩
          · simp only [literal, enumLiteral, he, Bool.false_eq_true, if_false]
          · rw [EnumType.denotes_textLiteral_iff he, EnumType.Names, he, if_neg Bool.false_ne_true]
      | true =>
          refine ⟨toString x.ordinal.toInt, ?_, ?_⟩
          · simp only [literal, enumLiteral, he, if_true]
          · rw [EnumType.denotes_toString_iff he, EnumType.Names, if_pos he]
  | _ => cases hv

/-- **When the literal of a value denotes a variant**: when the value names one.  A value that is looked up
is refused unless it does; one that is not is never refused. -/
theorem literal_denotes_iff (hv : v.mayName = true) :
    (∀ t, d.literal (some (.enum e)) v = .ok t → (e.Denotes d t ↔ e.Names v)) ∧
      (e.looksUp v = true → ∀ t, d.literal (some (.enum e)) v = .ok t → e.Names v) ∧
      (e.looksUp v = false → ∃ t, d.literal (some (.enum e)) v = .ok t) := by
  refine ⟨fun t ht => ?_, fun hup t ht => (literal_of_looksUp hup ht).1, fun hup => ?_⟩
  · cases hup : e.looksUp v with
    | true =>
        obtain ⟨hnames, hdenotes⟩ := literal_of_looksUp hup ht
        exact iff_of_true hdenotes hnames
    | false =>
        obtain ⟨u, hu, hiff⟩ := exists_literal_of_not_looksUp (d := d) hv hup
        rw [hu, Except.ok.injEq] at ht
        rwa [← ht]
  · obtain ⟨t, ht, -⟩ := exists_literal_of_not_looksUp (d := d) hv hup
    exact ⟨t, ht⟩

/-- Two colors, kept by name or by position. -/
def colors (storeAsInt : Bool) : EnumType := ⟨"Color", ["Red", "Green"], storeAsInt⟩

/-- The position of a color that is kept by name is looked up. -/
theorem literal_denotes_iff_green :
    (Value.int 1).mayName = true ∧ (colors false).looksUp (.int 1) = true ∧
      (colors false).Names (.int 1) ∧ (colors false).Denotes DialectKind.sqlite.dialect "'Green'" := by
  have hliteral : DialectKind.sqlite.dialect.literal (some (.enum (colors false))) (.int 1) =
      .ok "'Green'" := by rfl
  obtain ⟨hiff, hup, -⟩ := literal_denotes_iff (d := DialectKind.sqlite.dialect) (e := colors false)
    (v := .int 1) rfl
  have hnames := hup rfl _ hliteral
  exact ⟨rfl, rfl, hnames, (hiff _ hliteral).2 hnames⟩

/-- **Literals that denote no variant**: of a text that is no name of a color, of an integer in front of the
positions, and of a variant of another enumeration, by name and by position. -/
theorem unlisted_literals :
    let d := DialectKind.sqlite.dialect
    let foreign : Value := .enum ⟨"Planet", "Mars", 3⟩
    d.literal (some (.enum (colors false))) (.text "Purple") = .ok "'Purple'" ∧
      ¬ (colors false).Denotes d "'Purple'" ∧
    d.literal (some (.enum (colors true))) (.int (-1)) = .ok "-1" ∧ ¬ (colors true).Denotes d "-1" ∧
    d.literal (some (.enum (colors false))) foreign = .ok "'Mars'" ∧
      ¬ (colors false).Denotes d "'Mars'" ∧
    d.literal (some (.enum (colors true))) foreign = .ok "3" ∧ ¬ (colors true).Denotes d "3" := by
  intro d foreign
  have hname (s : String) (hs : s ∉ ["Red", "Green"]) :
      ¬ (colors false).Denotes d (d.textLiteral s) := mt (EnumType.denotes_textLiteral_iff rfl).1 hs
  have hposition (n : Int) (t : String) (ht : toString n = t) (hn : ¬ (colors true).HasOrdinal n) :
      ¬ (colors true).Denotes d t := ht ▸ mt (EnumType.denotes_toString_iff rfl).1 hn
  exact ⟨by rfl, hname "Purple" (by decide), by rfl, hposition (-1) _ rfl (by decide), by rfl,
    hname "Mars" (by decide), by rfl, hposition 3 _ rfl (by decide)⟩

end Dialect

end ModelSql
