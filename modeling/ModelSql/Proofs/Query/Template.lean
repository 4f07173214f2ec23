/-
**Templates of statements.**

A template is a text with numbered holes.  Filling its holes gives a statement; two fillings of one
template differ in the holes only.

Whether parentheses enclose a statement is decided by its characters.  A filling of a template has no
say in this when its holes stand outside quotations and what fills them is neutral.

Main definitions:

* `Template`, `Template.fill` — **a text with holes**, and its fillings;
* `Template.Safe` — no hole stands inside a quotation, and no quotation is left open.

Main results:

* `Template.isWrapped_fill` — **two fillings are enclosed by parentheses together**;
* `Template.strip` — what is between the parentheses is a filling too.
-/

import ModelSql.Proofs.Query.Parentheses

set_option relaxedAutoImplicit false
set_option autoImplicit false

namespace ModelSql

open Parentheses

/-! ### Templates -/

/-- A piece of a template: a character, or a hole with a number. -/
inductive Piece
  | char (c : Char)
  | hole (i : Nat)

/-- A text with holes. -/
abbrev Template := List Piece

namespace Template

/-- The template without holes. -/
def fixed (cs : List Char) : Template := cs.map .char

/-- The text with its holes filled. -/
def fill (f : Nat → List Char) : Template → List Char
  | [] => []
  | .char c :: t => c :: fill f t
  | .hole i :: t => f i ++ fill f t

/-- The numbers of the holes are below `n`. -/
def Below (n : Nat) (t : Template) : Prop := ∀ i, .hole i ∈ t → i < n

/-- Reads a template: what closes the quotation that is open at its end, or nothing if a hole stands
inside a quotation. -/
def scan : Option Char → Template → Option (Option Char)
  | q, [] => some q
  | some q, .char c :: t => scan (if c = q then none else some q) t
  | none, .char c :: t => scan (closing? c) t
  | none, .hole _ :: t => scan none t
  | some _, .hole _ :: _ => none

/-- No hole stands inside a quotation, and every quotation is closed. -/
def Safe (t : Template) : Prop := scan none t = some none

@[simp] theorem fill_nil (f : Nat → List Char) : fill f [] = [] := rfl

@[simp] theorem fill_char (f : Nat → List Char) (c : Char) (t : Template) :
    fill f (.char c :: t) = c :: fill f t := rfl

@[simp] theorem fill_hole (f : Nat → List Char) (i : Nat) (t : Template) :
    fill f (.hole i :: t) = f i ++ fill f t := rfl

@[simp] theorem fill_append (f : Nat → List Char) (t u : Template) :
    fill f (t ++ u) = fill f t ++ fill f u := by
  induction t with
  | nil => rfl
  | cons p t ih =>
      cases p with
      | char c => simp [ih]
      | hole i => simp [ih]

@[simp] theorem fill_fixed (f : Nat → List Char) (cs : List Char) : fill f (fixed cs) = cs := by
  induction cs with
  | nil => rfl
  | cons c cs ih => exact congrArg (c :: ·) ih

/-- Fillings that agree on the holes of a template are equal. -/
theorem fill_congr {f g : Nat → List Char} {n : Nat} {t : Template} (ht : t.Below n)
    (h : ∀ i, i < n → f i = g i) : fill f t = fill g t := by
  induction t with
  | nil => rfl
  | cons p t ih =>
      have htail := ih fun i hi => ht i (List.mem_cons_of_mem p hi)
      cases p with
      | char c => rw [fill_char, fill_char, htail]
      | hole i => rw [fill_hole, fill_hole, htail, h i (ht i List.mem_cons_self)]

theorem Below.mono {m n : Nat} {t : Template} (h : t.Below m) (hmn : m ≤ n) : t.Below n :=
  fun i hi => Nat.lt_of_lt_of_le (h i hi) hmn

theorem Below.append {n : Nat} {t u : Template} (ht : t.Below n) (hu : u.Below n) :
    (t ++ u).Below n := fun i hi => (List.mem_append.1 hi).elim (ht i) (hu i)

theorem below_fixed (n : Nat) (cs : List Char) : (fixed cs).Below n := by
  intro i hi
  obtain ⟨c, -, hc⟩ := List.mem_map.1 hi
  cases hc

theorem scan_append {q r : Option Char} {t : Template} (u : Template) (h : scan q t = some r) :
    scan q (t ++ u) = scan r u := by
  induction t generalizing q with
  | nil => simp_all [scan]
  | cons p t ih =>
      cases p with
      | char c => cases q <;> exact ih h
      | hole i =>
          cases q with
          | none => exact ih h
          | some q => simp [scan] at h

theorem Safe.append {t u : Template} (ht : t.Safe) (hu : u.Safe) : (t ++ u).Safe :=
  (scan_append u ht).trans hu

/-! ### Texts without holes -/

instance (t : Template) : Decidable t.Safe := inferInstanceAs (Decidable (_ = _))

theorem scan_fixed_quiet {cs : List Char} (h : cs.all isQuiet = true) (t : Template) :
    scan none (fixed cs ++ t) = scan none t := by
  induction cs with
  | nil => rfl
  | cons c cs ih =>
      rw [List.all_cons, Bool.and_eq_true] at h
      have hc : closing? c = none := by
        have := h.1
        simp only [isQuiet, Bool.and_eq_true, Option.isNone_iff_eq_none] at this
        exact this.1.1
      change scan (closing? c) (fixed cs ++ t) = _
      rw [hc]
      exact ih h.2

theorem safe_quiet {cs : List Char} (h : cs.all isQuiet = true) : (fixed cs).Safe := by
  have := scan_fixed_quiet h []
  rwa [List.append_nil] at this

theorem scan_doubleQuotes {q : Char} (hq : closing? q = some q) (cs : List Char) :
    scan (some q) (fixed (Dialect.doubleQuotes q cs ++ [q])) = some none := by
  induction cs with
  | nil => simp [Dialect.doubleQuotes, fixed, scan]
  | cons c cs ih =>
      by_cases hc : c = q
      · subst hc
        simp only [Dialect.doubleQuotes, if_true, List.cons_append, fixed, List.map_cons, scan, hq]
        exact ih
      · simp only [Dialect.doubleQuotes, hc, if_false, List.cons_append, fixed, List.map_cons, scan]
        exact ih

/-- Names leave no quotation open, but on SQL Server. -/
theorem safe_quoteName {d : Dialect} (h : d.kind ≠ .sqlserver) (name : String) :
    (fixed (d.quoteName name).toList).Safe := by
  unfold Dialect.quoteName
  split
  · obtain ⟨hsame, hquote⟩ := quotes_of_ne h
    rw [Dialect.escapeName, String.toList_ofList, hsame]
    change scan (closing? d.rules.closeQuote) _ = _
    rw [hquote]
    exact scan_doubleQuotes hquote name.toList
  · rename_i hq
    have hplain := isPlainName_of_not_needsQuotes hq
    refine safe_quiet (List.all_eq_true.2 fun c hc => isQuiet_of_isNamePart ?_)
    exact List.all_eq_true.1 (all_isNamePart hplain) c hc

/-! ### Fillings and parentheses -/

theorem fill_eq_nil {f : Nat → List Char} (hf : ∀ i, f i ≠ []) (t : Template) :
    fill f t = [] ↔ t = [] := by
  cases t with
  | nil => simp
  | cons p t =>
      cases p with
      | char c => simp
      | hole i => simp [hf i]

/-- **Inside parentheses, two fillings close them together.** -/
theorem encloses_fill {f g : Nat → List Char} (hf : ∀ i, Neutral (f i)) (hg : ∀ i, Neutral (g i))
    {t : Template} {quote end? : Option Char} (h : scan quote t = some end?) (depth : Nat) :
    encloses quote (depth + 1) (fill f t) = encloses quote (depth + 1) (fill g t) := by
  induction t generalizing quote depth with
  | nil => rfl
  | cons p t ih =>
      cases p with
      | hole i =>
          cases quote with
          | some q => simp [scan] at h
          | none =>
              rw [fill_hole, fill_hole, (hf i).balanced, (hg i).balanced]
              exact ih h depth
      | char c =>
          have hempty : (fill f t).isEmpty = (fill g t).isEmpty := by
            rw [Bool.eq_iff_iff, List.isEmpty_iff, List.isEmpty_iff,
              fill_eq_nil fun i => (hf i).ne_nil, fill_eq_nil fun i => (hg i).ne_nil]
          rw [fill_char, fill_char]
          cases quote with
          | some q => exact ih h depth
          | none =>
              simp only [scan] at h
              cases hq : closing? c with
              | some q =>
                  rw [hq] at h
                  simp only [encloses, hq]
                  exact ih h depth
              | none =>
                  rw [hq] at h
                  simp only [encloses, hq, hempty, Nat.add_sub_cancel]
                  cases depth with
                  | zero =>
                      -- the last parenthesis closes: nothing may follow in either filling
                      rw [ih h 1, ih h 0]
                      cases hg' : fill g t with
                      | nil =>
                          have hnil := (fill_eq_nil (fun i => (hg i).ne_nil) t).1 hg'
                          simp [hnil]
                      | cons e es => simp
                  | succ depth => rw [ih h (depth + 1 + 1), ih h (depth + 1), ih h depth]

/-- **Two fillings are enclosed by parentheses together.** -/
theorem isWrapped_fill {f g : Nat → List Char} (hf : ∀ i, Neutral (f i)) (hg : ∀ i, Neutral (g i))
    {t : Template} (h : t.Safe) : isWrapped (fill f t) = isWrapped (fill g t) := by
  cases t with
  | nil => rfl
  | cons p t =>
      cases p with
      | hole i =>
          have hhead {k : Nat → List Char} (hk : ∀ i, Neutral (k i)) :
              (fill k (.hole i :: t)).head? ≠ some '(' := by
            rw [fill_hole, List.head?_append, Option.or_of_isSome (by simp [(hk i).ne_nil])]
            exact (hk i).head
          rw [isWrapped_of_head (hhead hf), isWrapped_of_head (hhead hg)]
      | char c =>
          by_cases hc : c = '('
          · subst hc
            have htail : scan none t = some none := h
            rw [fill_char, fill_char, isWrapped_cons, isWrapped_cons]
            exact encloses_fill hf hg htail 0
          · rw [isWrapped_of_head (by simpa using hc), isWrapped_of_head (by simpa using hc)]

/-- A filling that closes the parentheses does so with a character of the template. -/
theorem last_of_encloses {f : Nat → List Char} (hf : ∀ i, Neutral (f i)) {t : Template}
    {quote end? : Option Char} (hs : scan quote t = some end?) {depth : Nat}
    (h : encloses quote (depth + 1) (fill f t) = true) : ∃ u, t = u ++ [.char ')'] := by
  induction t generalizing quote depth with
  | nil => simp [encloses] at h
  | cons p t ih =>
      have htail {q : Option Char} {n : Nat} (hq : scan q t = some end?)
          (hn : encloses q (n + 1) (fill f t) = true) : ∃ u, p :: t = u ++ [.char ')'] := by
        obtain ⟨u, rfl⟩ := ih hq hn
        exact ⟨p :: u, rfl⟩
      cases p with
      | hole i =>
          cases quote with
          | some q => simp [scan] at hs
          | none =>
              rw [fill_hole, (hf i).balanced] at h
              exact htail hs h
      | char c =>
          cases quote with
          | some q => exact htail hs h
          | none =>
              rw [fill_char] at h
              simp only [scan] at hs
              simp only [encloses] at h
              split at h
              · rename_i q hq
                exact htail (hq ▸ hs) h
              · rename_i hq
                rw [hq] at hs
                split at h
                · exact htail hs h
                · split at h
                  · rename_i hc
                    cases depth with
                    | zero =>
                        -- the depth falls to zero only at the end, and an empty filling has an empty template
                        cases ht : fill f t with
                        | nil =>
                            rw [fill_eq_nil fun i => (hf i).ne_nil] at ht
                            exact ⟨[], by simp [ht, hc]⟩
                        | cons e es => simp [ht] at h
                    | succ depth => exact htail hs (by simpa using h)
                  · exact htail hs h

/-- **What is between the parentheses of a filling is a filling too**, of one template for all. -/
theorem strip {f : Nat → List Char} (hf : ∀ i, Neutral (f i)) {t : Template} (ht : t.Safe)
    (h : isWrapped (fill f t) = true) :
    ∃ u : Template, (∀ n, t.Below n → u.Below n) ∧
      ∀ g : Nat → List Char, fill g t = '(' :: fill g u ++ [')'] := by
  cases t with
  | nil => simp [isWrapped] at h
  | cons p t =>
      cases p with
      | hole i =>
          rw [isWrapped_of_head] at h
          · exact absurd h (by decide)
          · rw [fill_hole, List.head?_append, Option.or_of_isSome (by simp [(hf i).ne_nil])]
            exact (hf i).head
      | char c =>
          by_cases hc : c = '('
          · subst hc
            rw [fill_char, isWrapped_cons] at h
            have htail : scan none t = some none := ht
            obtain ⟨u, rfl⟩ := last_of_encloses hf htail h
            refine ⟨u, fun n hn i hi => hn i ?_, fun g => ?_⟩
            · simp [hi]
            · simp
          · rw [isWrapped_of_head (by simpa using hc)] at h
            exact absurd h (by decide)

end Template

end ModelSql
