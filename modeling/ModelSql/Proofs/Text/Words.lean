/-
**Case and words of names.**

The letters of ASCII change case one by one, so that a name of such letters tells from its lower-case
or upper-case form all but the case of its letters.  A name in snake case tells no more than its words
in lower case: how they were set apart is lost.

Main definitions:

* `Text.IsAscii` — texts of ASCII characters.

Main results:

* `Text.lower_eq_asciiLower`, `Text.asciiLower_eq_of_upper_eq` — names of ASCII characters;
* `Text.mem_nameWords` — words are not empty, and are made of letters and digits;
* `Text.mem_mapCase` — where a character in another case comes from;
* `Text.splitOnChar_joinWith_flatMap`, `Text.joinWith_splitOnChar` — texts joined and cut apart;
* `Text.joinWith_inj` — joined texts that lack the separator can be told apart;
* `Text.snakeCase_eq_iff` — **names alike in snake case** have the same words in lower case.
-/

import Mathlib.Algebra.GroupWithZero.Nat
import Mathlib.Data.List.Basic
import ModelSql.Text.SnakeCase

set_option relaxedAutoImplicit false
set_option autoImplicit false

namespace ModelSql.Text

/-! ### ASCII -/

/-- Texts of ASCII characters. -/
def IsAscii (s : String) : Prop := ∀ c ∈ s.toList, c.toNat < 128

instance (s : String) : Decidable (IsAscii s) :=
  inferInstanceAs (Decidable (∀ c ∈ s.toList, c.toNat < 128))

/-- What holds of the ASCII characters, taken one by one. -/
theorem forall_ascii {p : Char → Prop} (h : ∀ n < 128, p (Char.ofNat n)) {c : Char}
    (hc : c.toNat < 128) : p c := by
  rw [← Char.ofNat_toNat c]
  exact h c.toNat hc

variable {s t : String} {c : Char} {cs : List Char}

/-- The code points of ASCII come first. -/
theorem not_le_of_not_ascii {z : Char} (hz : z.toNat < 128) (h : ¬ c.toNat < 128) : ¬ c.val ≤ z.val := by
  intro hle
  have hsmall : c.val.toNat ≤ z.val.toNat := UInt32.le_iff_toNat_le.1 hle
  change ¬ c.val.toNat < 128 at h
  change z.val.toNat < 128 at hz
  omega

/-- Only letters of ASCII are raised. -/
theorem toUpper_of_not_ascii (h : ¬ c.toNat < 128) : c.toUpper = c :=
  dif_neg fun hletter => not_le_of_not_ascii (by decide) h hletter.2

/-- And only they are lowered. -/
theorem toLower_of_not_ascii (h : ¬ c.toNat < 128) : c.toLower = c :=
  dif_neg fun hletter => not_le_of_not_ascii (by decide) h hletter.2

/-- What a function that changes ASCII characters only leaves of them, it leaves of all characters. -/
theorem congr_of_ascii {α : Type} {q : Char → α} {f : Char → Char}
    (hf : ∀ c, ¬ c.toNat < 128 → f c = c) (h : ∀ n < 128, q (f (Char.ofNat n)) = q (Char.ofNat n))
    (c : Char) : q (f c) = q c := by
  by_cases hc : c.toNat < 128
  · exact forall_ascii (p := fun c => q (f c) = q c) h hc
  · rw [hf c hc]

/-- What raising a letter of ASCII leaves as it is, raising any character does. -/
theorem toUpper_congr {α : Type} {q : Char → α}
    (h : ∀ n < 128, q (Char.ofNat n).toUpper = q (Char.ofNat n)) (c : Char) : q c.toUpper = q c :=
  congr_of_ascii (fun _ => toUpper_of_not_ascii) h c

/-- What lowering one leaves as it is, lowering any character does. -/
theorem toLower_congr {α : Type} {q : Char → α}
    (h : ∀ n < 128, q (Char.ofNat n).toLower = q (Char.ofNat n)) (c : Char) : q c.toLower = q c :=
  congr_of_ascii (fun _ => toLower_of_not_ascii) h c

/-- Raising a letter loses nothing but its case. -/
theorem toLower_toUpper (c : Char) : c.toUpper.toLower = c.toLower := toUpper_congr (by decide) c

theorem isNameStart_toUpper (c : Char) : isNameStart c.toUpper = isNameStart c :=
  toUpper_congr (by decide) c

theorem isNamePart_toUpper (c : Char) : isNamePart c.toUpper = isNamePart c :=
  toUpper_congr (by decide) c

/-- A name in capitals is as plain as it was. -/
theorem isPlainName_map_toUpper (cs : List Char) :
    isPlainName (cs.map Char.toUpper) = isPlainName cs := by
  cases cs with
  | nil => rfl
  | cons c cs =>
      rw [List.map_cons, isPlainName, isPlainName, isNameStart_toUpper, List.all_map]
      congr 2
      funext x
      exact isNamePart_toUpper x

/-- Capitals have the lower case of the letters that they come from. -/
theorem map_toLower_map_toUpper (cs : List Char) :
    (cs.map Char.toUpper).map Char.toLower = cs.map Char.toLower := by
  rw [List.map_map]
  exact List.map_congr_left fun c _ => toLower_toUpper c

theorem lowerAfter_eq_map (h : ∀ c ∈ cs, c.toNat < 128) (before : List Char) :
    lowerAfter before cs = cs.map Char.toLower := by
  induction cs generalizing before with
  | nil => rfl
  | cons c cs ih =>
      have hc := h c List.mem_cons_self
      -- the one letter whose form depends on its neighbours is none of them
      have hsigma : c ≠ 'Σ' := by
        rintro rfl
        exact absurd hc (by decide)
      rw [lowerAfter, if_neg hsigma, lowerChar, if_pos hc,
        ih (fun x hx => h x (List.mem_cons_of_mem c hx)), List.map_cons, List.singleton_append]

theorem upperChars_eq_map (h : ∀ c ∈ cs, c.toNat < 128) : upperChars cs = cs.map Char.toUpper := by
  induction cs with
  | nil => rfl
  | cons c cs ih =>
      have htail := ih fun x hx => h x (List.mem_cons_of_mem c hx)
      rw [upperChars] at htail
      rw [upperChars, List.flatMap_cons, htail, upperChar, if_pos (h c List.mem_cons_self),
        List.map_cons, List.singleton_append]

/-- **Lower case** of ASCII letters. -/
theorem lower_eq_asciiLower (h : IsAscii s) : lower s = asciiLower s := by
  rw [lower, asciiLower, lowerChars, lowerAfter_eq_map h]

/-- **Upper case** tells ASCII texts apart up to the case of their letters. -/
theorem asciiLower_eq_of_upper_eq (hs : IsAscii s) (ht : IsAscii t) (h : upper s = upper t) :
    asciiLower s = asciiLower t := by
  have hback {u : String} (hu : IsAscii u) :
      (upper u).toList.map Char.toLower = u.toList.map Char.toLower := by
    rw [toList_upper, upperChars_eq_map hu, map_toLower_map_toUpper]
  rw [asciiLower, asciiLower, ← hback hs, ← hback ht, h]

/-! ### Pieces -/

section

variable {isCut : Char → Bool} {piece w : List Char}

/-- No piece has a character in it that the text is cut at. -/
theorem not_isCut_of_mem_piecesFrom (hpiece : ∀ c ∈ piece, isCut c = false)
    (hw : w ∈ piecesFrom isCut piece cs) (hc : c ∈ w) : isCut c = false := by
  induction cs generalizing piece with
  | nil =>
      obtain rfl := List.mem_singleton.1 hw
      exact hpiece c hc
  | cons x cs ih =>
      rw [piecesFrom] at hw
      split at hw
      · rcases List.mem_cons.1 hw with rfl | hw
        · exact hpiece c hc
        · exact ih (fun y hy => by cases hy) hw
      · rename_i hx
        refine ih (fun y hy => ?_) hw
        rcases List.mem_append.1 hy with hy | hy
        · exact hpiece y hy
        · rw [List.mem_singleton.1 hy]
          simpa using hx

/-- What has no cut in it belongs to the piece that is being read. -/
theorem piecesFrom_append (hw : ∀ c ∈ w, isCut c = false) (piece rest : List Char) :
    piecesFrom isCut piece (w ++ rest) = piecesFrom isCut (piece ++ w) rest := by
  induction w generalizing piece with
  | nil => rw [List.nil_append, List.append_nil]
  | cons x w ih =>
      rw [List.cons_append, piecesFrom, if_neg (by simp [hw x List.mem_cons_self]),
        ih (fun y hy => hw y (List.mem_cons_of_mem x hy)), List.append_assoc, List.singleton_append]

/-- A cut parts the pieces before it from those behind it. -/
theorem piecesFrom_append_cons (hc : isCut c = true) (piece cs ds : List Char) :
    piecesFrom isCut piece (cs ++ c :: ds) =
      piecesFrom isCut piece cs ++ piecesFrom isCut [] ds := by
  induction cs generalizing piece with
  | nil => rw [List.nil_append, piecesFrom, piecesFrom, if_pos hc, List.singleton_append]
  | cons x cs ih =>
      rw [List.cons_append, piecesFrom, piecesFrom]
      split
      · rw [ih, List.cons_append]
      · rw [ih]

/-- The first piece starts with what has been read of it. -/
theorem exists_head_piecesFrom (piece cs : List Char) :
    ∃ v rest, piecesFrom isCut piece cs = (piece ++ v) :: rest := by
  induction cs generalizing piece with
  | nil => exact ⟨[], [], by rw [piecesFrom, List.append_nil]⟩
  | cons x cs ih =>
      rw [piecesFrom]
      split
      · exact ⟨[], _, by rw [List.append_nil]⟩
      · obtain ⟨v, rest, h⟩ := ih (piece ++ [x])
        exact ⟨x :: v, rest, by rw [h, List.append_assoc, List.singleton_append]⟩

/-- The last piece ends with what stands behind the last cut. -/
theorem exists_last_piecesFrom (hw : ∀ c ∈ w, isCut c = false) (piece cs : List Char) :
    ∃ front v, piecesFrom isCut piece (cs ++ w) = front ++ [v ++ w] := by
  induction cs generalizing piece with
  | nil =>
      have hlast := piecesFrom_append hw piece []
      rw [List.append_nil] at hlast
      exact ⟨[], piece, by rw [List.nil_append, hlast, piecesFrom, List.nil_append]⟩
  | cons x cs ih =>
      rw [List.cons_append, piecesFrom]
      split
      · obtain ⟨front, v, h⟩ := ih []
        exact ⟨piece :: front, v, by rw [h, List.cons_append]⟩
      · exact ih (piece ++ [x])

end

/-! ### Joined texts -/

section

variable {sep : String} {cut : Char} {ws vs : List String}

theorem joinWith_cons {t : String} {ts : List String} (h : ts ≠ []) :
    joinWith sep (t :: ts) = t ++ sep ++ joinWith sep ts := by
  obtain ⟨u, us, rfl⟩ := List.exists_cons_of_ne_nil h
  rfl

/-- Texts that are joined in two parts. -/
theorem joinWith_append {ts us : List String} (ht : ts ≠ []) (hu : us ≠ []) :
    joinWith sep (ts ++ us) = joinWith sep ts ++ sep ++ joinWith sep us := by
  induction ts with
  | nil => exact absurd rfl ht
  | cons t ts ih =>
      by_cases hts : ts = []
      · subst hts
        exact joinWith_cons hu
      · rw [List.cons_append, joinWith_cons (by simp [hu]), ih hts, joinWith_cons hts]
        simp [String.append_assoc]

/-- Each of some joined texts adds its own length and that of a separator. -/
theorem length_joinWith {ts : List String} (h : ts ≠ []) :
    (joinWith sep ts).length + sep.length = (ts.map fun t => t.length + sep.length).sum := by
  induction ts with
  | nil => exact absurd rfl h
  | cons t ts ih =>
      by_cases hts : ts = []
      · subst hts
        simp
      · rw [joinWith_cons hts, List.map_cons, List.sum_cons, ← ih hts]
        simp only [String.length_append]
        omega

/-- A text without the separator is one piece. -/
theorem splitOnChar_of_not_mem {s : String} (h : cut ∉ s.toList) : splitOnChar s cut = [s] := by
  have hw : ∀ c ∈ s.toList, (c == cut) = false := fun c hc => beq_false_of_ne fun heq => h (heq ▸ hc)
  have hall := piecesFrom_append hw [] []
  rw [List.append_nil, List.nil_append] at hall
  rw [splitOnChar, hall, piecesFrom, List.map_singleton, String.ofList_toList]

/-- A separator parts the pieces in front of it from those behind it. -/
theorem splitOnChar_append (hsep : sep.toList = [cut]) (s t : String) :
    splitOnChar (s ++ sep ++ t) cut = splitOnChar s cut ++ splitOnChar t cut := by
  have hcut : piecesFrom (· == cut) [] (s.toList ++ cut :: t.toList) =
      piecesFrom (· == cut) [] s.toList ++ piecesFrom (· == cut) [] t.toList := by
    refine piecesFrom_append_cons ?_ [] s.toList t.toList
    exact beq_self_eq_true cut
  rw [splitOnChar, splitOnChar, splitOnChar, String.toList_append, String.toList_append, hsep,
    List.append_assoc, List.singleton_append, hcut, List.map_append]

/-- **The pieces of joined texts** are those of each text. -/
theorem splitOnChar_joinWith_flatMap (hsep : sep.toList = [cut]) (hne : ws ≠ []) :
    splitOnChar (joinWith sep ws) cut = ws.flatMap (splitOnChar · cut) := by
  induction ws with
  | nil => exact absurd rfl hne
  | cons w ws ih =>
      by_cases hws : ws = []
      · subst hws
        simp
      · rw [joinWith_cons hws, splitOnChar_append hsep, ih hws, List.flatMap_cons]

/-- **Joined texts are cut apart again** where none of them has the separator in it. -/
theorem splitOnChar_joinWith (hsep : sep.toList = [cut]) (hne : ws ≠ [])
    (hfree : ∀ w ∈ ws, cut ∉ w.toList) : splitOnChar (joinWith sep ws) cut = ws := by
  have hone : ws.flatMap (splitOnChar · cut) = ws.flatMap fun w => [w] :=
    List.flatMap_congr fun w hw => splitOnChar_of_not_mem (hfree w hw)
  rw [splitOnChar_joinWith_flatMap hsep hne, hone, List.flatMap_singleton']

theorem splitOnChar_ne_nil (s : String) (cut : Char) : splitOnChar s cut ≠ [] := by
  obtain ⟨v, rest, h⟩ : ∃ v rest, piecesFrom (· == cut) [] s.toList = v :: rest :=
    exists_head_piecesFrom [] s.toList
  rw [splitOnChar, h]
  simp

/-- The separator is in none of the pieces. -/
theorem not_mem_of_mem_splitOnChar {s w : String} (hw : w ∈ splitOnChar s cut) : cut ∉ w.toList := by
  obtain ⟨cs, hcs, rfl⟩ := List.mem_map.1 hw
  rw [String.toList_ofList]
  intro hmem
  have hcut := not_isCut_of_mem_piecesFrom (fun c hc => absurd hc List.not_mem_nil) hcs hmem
  simp at hcut

/-- **The pieces of a text are joined to it again.** -/
theorem joinWith_splitOnChar (hsep : sep.toList = [cut]) (s : String) :
    joinWith sep (splitOnChar s cut) = s := by
  -- the piece that is being read stands in front of the characters that are left
  have hall (piece cs : List Char) :
      (joinWith sep ((piecesFrom (· == cut) piece cs).map String.ofList)).toList = piece ++ cs := by
    induction cs generalizing piece with
    | nil => simp [piecesFrom]
    | cons c cs ih =>
        rw [piecesFrom]
        split
        · rename_i hc
          have hne : (piecesFrom (· == cut) [] cs).map String.ofList ≠ [] := by
            obtain ⟨v, rest, h⟩ : ∃ v rest, piecesFrom (· == cut) [] cs = v :: rest :=
              exists_head_piecesFrom [] cs
            rw [h]
            simp
          have hrest := ih []
          rw [List.map_cons, joinWith_cons hne, String.toList_append, String.toList_append, hsep, hrest,
            String.toList_ofList, ← beq_iff_eq.1 hc]
          simp
        · rw [ih, List.append_assoc, List.singleton_append]
  rw [← String.toList_inj, splitOnChar, hall, List.nil_append]

/-- **Texts without the separator are those of one piece.** -/
theorem length_splitOnChar_eq_one_iff {s : String} :
    (splitOnChar s cut).length = 1 ↔ cut ∉ s.toList := by
  constructor
  · intro h
    obtain ⟨x, hx⟩ := List.length_eq_one_iff.1 h
    have hs : joinWith (String.singleton cut) (splitOnChar s cut) = s := joinWith_splitOnChar (by simp) s
    rw [hx, joinWith_singleton] at hs
    subst hs
    exact not_mem_of_mem_splitOnChar (hx ▸ List.mem_singleton.2 rfl)
  · intro h
    rw [splitOnChar_of_not_mem h, List.length_singleton]

/-- Only the empty list of such texts is joined to the empty text. -/
theorem eq_nil_of_joinWith (hsep : sep.toList = [cut])
    (hws : ∀ w ∈ ws, w ≠ "" ∧ cut ∉ w.toList) (h : joinWith sep ws = "") : ws = [] := by
  by_contra hne
  have hone := splitOnChar_joinWith hsep hne fun w hw => (hws w hw).2
  rw [h] at hone
  have hmem : "" ∈ ws := by
    rw [← hone]
    exact List.mem_singleton.2 rfl
  exact (hws "" hmem).1 rfl

/-- **Joined texts can be told apart** where none of them is empty or has the separator in it. -/
theorem joinWith_inj (hsep : sep.toList = [cut]) (hws : ∀ w ∈ ws, w ≠ "" ∧ cut ∉ w.toList)
    (hvs : ∀ v ∈ vs, v ≠ "" ∧ cut ∉ v.toList) (h : joinWith sep ws = joinWith sep vs) : ws = vs := by
  by_cases hw : ws = []
  · subst hw
    exact (eq_nil_of_joinWith hsep hvs h.symm).symm
  · by_cases hv : vs = []
    · subst hv
      exact absurd (eq_nil_of_joinWith hsep hws h) hw
    · have hsplit := splitOnChar_joinWith hsep hw fun w hw => (hws w hw).2
      rw [h, splitOnChar_joinWith hsep hv fun v hv => (hvs v hv).2] at hsplit
      exact hsplit.symm

end

/-! ### Words -/

/-- A word is not empty, and has nothing in it but what was read. -/
theorem mem_nameWordsFrom (m : LetterCase) (word cs : List Char) (hword : m ≠ .none → word ≠ [])
    {w : List Char} (hw : w ∈ nameWordsFrom m word cs) : w ≠ [] ∧ ∀ c ∈ w, c ∈ word ∨ c ∈ cs := by
  induction m, word, cs using nameWordsFrom.induct with
  | case1 m word => cases hw
  | case2 m word c =>
      obtain rfl := List.mem_singleton.1 hw
      simp
  | case3 m word c next rest hturn ih =>
      rw [nameWordsFrom, if_pos hturn] at hw
      rcases List.mem_cons.1 hw with rfl | hw
      · exact ⟨by simp, fun x hx => by simp at hx ⊢; tauto⟩
      · obtain ⟨hne, hmem⟩ := ih (fun h => absurd rfl h) hw
        exact ⟨hne, fun x hx => .inr (List.mem_cons_of_mem c ((hmem x hx).resolve_left (by simp)))⟩
  | case4 m word c next rest hturn hlast ih =>
      rw [nameWordsFrom, if_neg hturn, if_pos hlast] at hw
      rcases List.mem_cons.1 hw with rfl | hw
      · exact ⟨hword (by simp [hlast.1]), fun x hx => .inl hx⟩
      · obtain ⟨hne, hmem⟩ := ih (fun h => absurd rfl h) hw
        refine ⟨hne, fun x hx => .inr ?_⟩
        rcases hmem x hx with hx | hx
        · rw [List.mem_singleton.1 hx]
          exact List.mem_cons_self
        · exact List.mem_cons_of_mem c hx
  | case5 m word c next rest hturn hlast ih =>
      rw [nameWordsFrom, if_neg hturn, if_neg hlast] at hw
      obtain ⟨hne, hmem⟩ := ih (fun _ => by simp) hw
      refine ⟨hne, fun x hx => ?_⟩
      rcases hmem x hx with hx | hx
      · rcases List.mem_append.1 hx with hx | hx
        · exact .inl hx
        · rw [List.mem_singleton.1 hx]
          exact .inr List.mem_cons_self
      · exact .inr (List.mem_cons_of_mem c hx)

/-- **A word of a name** is not empty, and is made of letters and digits. -/
theorem mem_nameWords {w : List Char} (hw : w ∈ nameWords s) :
    w ≠ [] ∧ ∀ c ∈ w, isAlphanumeric c = true := by
  obtain ⟨piece, hpiece, hw⟩ := List.mem_flatMap.1 hw
  obtain ⟨hne, hmem⟩ := mem_nameWordsFrom .none [] piece (fun h => absurd rfl h) hw
  refine ⟨hne, fun c hc => ?_⟩
  have hc := (hmem c hc).resolve_left (by simp)
  simpa using not_isCut_of_mem_piecesFrom (fun x hx => by cases hx) hpiece hc

/-! ### Characters by the tables -/

/-- No character is lost where no expansion is void. -/
theorem mapCase_ne_nil {expansions : List (Nat × List Nat)} {runs : List CaseRun}
    (h : ∀ e ∈ expansions, e.2 ≠ []) (c : Char) : mapCase expansions runs c ≠ [] := by
  unfold mapCase
  split
  · rename_i e he
    exact fun hnil => h e (List.mem_of_find?_eq_some he) (List.map_eq_nil_iff.1 hnil)
  · exact List.cons_ne_nil _ _

/-- A shifted character belongs to a run, and moves as the run says. -/
theorem exists_run_of_shiftBy {runs : List CaseRun} {x : Char} (h : shiftBy runs c = some x) :
    ∃ r ∈ runs, r.1 ≤ c.toNat ∧ c.toNat ≤ r.2.1 ∧ Char.ofNat ((c.toNat : Int) + r.2.2.2).toNat = x := by
  obtain ⟨r, hfind, hx⟩ := Option.map_eq_some_iff.1 h
  have hhas := List.find?_some hfind
  simp only [Run.has, Bool.and_eq_true, decide_eq_true_eq] at hhas
  exact ⟨r, List.mem_of_find?_eq_some hfind, hhas.1.1, hhas.1.2, hx⟩

/-- **Where a character comes from**: from an expansion, by a shift, or it stands for itself. -/
theorem mem_mapCase {expansions : List (Nat × List Nat)} {runs : List CaseRun} {x : Char}
    (h : x ∈ mapCase expansions runs c) :
    (∃ e ∈ expansions, ∃ n ∈ e.2, Char.ofNat n = x) ∨ shiftBy runs c = some x ∨ c = x := by
  unfold mapCase at h
  split at h
  · rename_i e he
    obtain ⟨n, hn, hx⟩ := List.mem_map.1 h
    exact .inl ⟨e, List.mem_of_find?_eq_some he, n, hn, hx⟩
  · rw [List.mem_singleton] at h
    cases hshift : shiftBy runs c with
    | none => exact .inr (.inr (by rw [h, hshift, Option.getD_none]))
    | some y => exact .inr (.inl (by rw [h, hshift, Option.getD_some]))

/-! ### Words in lower case -/

theorem lowerChar_ne_nil (c : Char) : lowerChar c ≠ [] := by
  unfold lowerChar
  split
  · exact List.cons_ne_nil _ _
  · exact mapCase_ne_nil (by decide) c

/-- The code point of the underscore is no other's. -/
theorem eq_of_ofNat_eq_underscore {n : Nat} (h : Char.ofNat n = '_') : n = 95 := by
  by_cases hn : n.isValidChar
  · have hcode : (Char.ofNat n).toNat = n := by
      rw [Char.ofNat, dif_pos hn]
      rfl
    rw [← hcode, h]
    rfl
  · rw [Char.ofNat, dif_neg hn] at h
    cases h

/-- A letter behind the ASCII ones is not shifted to the underscore. -/
theorem shiftBy_lowerRuns_ne (hc : ¬ c.toNat < 128) : shiftBy lowerRuns c ≠ some '_' := by
  have hruns : ∀ r ∈ lowerRuns, 128 ≤ r.2.1 → 95 < (r.1 : Int) + r.2.2.2 := by decide +kernel
  intro h
  obtain ⟨r, hr, hfirst, hlast, hcode⟩ := exists_run_of_shiftBy h
  have hplace := hruns r hr (by omega)
  have hcode := eq_of_ofNat_eq_underscore hcode
  omega

/-- **Only the underscore** has an underscore in its lower-case form. -/
theorem eq_underscore_of_mem_lowerChar (h : '_' ∈ lowerChar c) : c = '_' := by
  have hascii : ∀ n < 128, (Char.ofNat n).toLower = '_' → Char.ofNat n = '_' := by decide
  have hexpansions : ∀ e ∈ lowerExpansions, ∀ n ∈ e.2, Char.ofNat n ≠ '_' := by decide
  unfold lowerChar at h
  split at h
  · rename_i hc
    exact forall_ascii (p := fun c => c.toLower = '_' → c = '_') hascii hc (List.mem_singleton.1 h).symm
  · rename_i hc
    obtain ⟨e, he, n, hn, hx⟩ | hshift | hself := mem_mapCase h
    · exact absurd hx (hexpansions e he n hn)
    · exact absurd hshift (shiftBy_lowerRuns_ne hc)
    · exact hself

theorem lowerWord_ne_nil {w : List Char} (h : w ≠ []) : lowerWord w ≠ [] := by
  fun_cases lowerWord w with
  | case1 => exact absurd rfl h
  | case2 => simp
  | case3 c cs hsigma =>
      intro hnil
      exact lowerChar_ne_nil c (List.append_eq_nil_iff.1 hnil).1

theorem underscore_not_mem_lowerWord {w : List Char} (h : '_' ∉ w) : '_' ∉ lowerWord w := by
  fun_induction lowerWord w with
  | case1 => exact h
  | case2 => decide
  | case3 c cs hsigma ih =>
      intro hmem
      rcases List.mem_append.1 hmem with hmem | hmem
      · exact h (eq_underscore_of_mem_lowerChar hmem ▸ List.mem_cons_self)
      · exact ih (fun hcs => h (List.mem_cons_of_mem c hcs)) hmem

/-- **Names alike in snake case** are those with the same words in lower case. -/
theorem snakeCase_eq_iff : snakeCase s = snakeCase t ↔
    (nameWords s).map lowerWord = (nameWords t).map lowerWord := by
  have hwords (u : String) : ∀ w ∈ (nameWords u).map fun w => String.ofList (lowerWord w),
      w ≠ "" ∧ '_' ∉ w.toList := by
    intro w hw
    obtain ⟨v, hv, rfl⟩ := List.mem_map.1 hw
    obtain ⟨hne, hletters⟩ := mem_nameWords hv
    have hfree : '_' ∉ v := fun hmem => absurd (hletters '_' hmem) (by decide)
    rw [String.toList_ofList]
    refine ⟨fun hempty => lowerWord_ne_nil hne ?_, underscore_not_mem_lowerWord hfree⟩
    simpa using congrArg String.toList hempty
  have hinjective : Function.Injective String.ofList := fun _ _ h => String.ofList_inj.1 h
  have hmap (u : String) : ((nameWords u).map fun w => String.ofList (lowerWord w)) =
      ((nameWords u).map lowerWord).map String.ofList := by
    rw [List.map_map]
    rfl
  constructor
  · intro h
    have hsep : "_".toList = ['_'] := rfl
    have hjoined := joinWith_inj hsep (hwords s) (hwords t) h
    rw [hmap, hmap] at hjoined
    exact hinjective.list_map hjoined
  · intro h
    rw [snakeCase, snakeCase, hmap, hmap, h]

end ModelSql.Text
