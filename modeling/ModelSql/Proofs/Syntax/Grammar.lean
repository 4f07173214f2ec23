/-
**Reading by precedence.**

A list of tokens and groups is read level by level, from the loosest operators to the tightest ones.  At
a level of infix operators the list is cut at every one of them, the pieces are read at the next level,
and the readings are put together from the left; at a level of a prefix operator it is taken off the
front.  A token is an operator by where it stands: a prefix operator at the start or behind another
operator, an infix operator anywhere else.

What a reading is, is left open: `Grammar` says what operators make of readings, and what is made of
the pieces that no operator is left in.

Main definitions:

* `Level`, `Grammar` — operators by precedence, and what they make of readings;
* `Grammar.items`, `Grammar.read` — operators and operands, and **the reading of a list**;
* `Grammar.Reads`, `Grammar.ReadsAt` — a list that is read at one level, and passes all looser ones.

Main results:

* `Grammar.Reads.read_eq` — such a list is read as at that level;
* `Grammar.Reads.infixed`, `Grammar.Reads.prefixed`, `Grammar.Reads.loosen` — **readings put together**;
* `Grammar.ReadsAt.infixed`, `Grammar.ReadsAt.prefixed`, `Grammar.ReadsAt.mono` — the same, with the levels
  by number.
-/

import ModelSql.Proofs.Syntax.Nest

set_option relaxedAutoImplicit false
set_option autoImplicit false

namespace ModelSql

/-! ### Operators -/

/-- The name of an operator: a sign, or a word in lower case. -/
inductive Op
  | word (cs : List Char)
  | sign (cs : List Char)
  deriving DecidableEq, Repr

/-- The operator that a token may be; words are operators in any letter case. -/
def Token.operator? : Token → Option Op
  | .word cs => some (.word (cs.map Char.toLower))
  | .sign cs => some (.sign cs)
  | _ => none

/-- A level of precedence: infix operators, or one prefix operator. -/
inductive Level
  | between (ops : List Op)
  | before (op : Op)
  deriving DecidableEq

/-- The operators of a level. -/
def Level.ops : Level → List Op
  | between ops => ops
  | before op => [op]

/-- A part of a list: an operator, a token, or a group with its reading. -/
inductive Item (τ : Type)
  | between (op : Op)
  | before (op : Op)
  | leaf (t : Token)
  | group (ns : List Nest) (v : τ)

/-- Whether the part is an operator. -/
def Item.isOperator {τ : Type} : Item τ → Bool
  | between _ | before _ => true
  | _ => false

/-- Levels of precedence, the loosest first, and what is made of readings. -/
structure Grammar (τ : Type) where
  levels : List Level
  infixed : τ → Op → τ → τ
  prefixed : Op → τ → τ
  primary : List (Item τ) → τ

namespace Grammar

variable {τ : Type} (G : Grammar τ)

/-- Whether an operator is a prefix operator of some level. -/
def hasBefore (op : Op) : Bool := G.levels.contains (.before op)

/-- Whether an operator is an infix operator of some level. -/
def hasBetween (op : Op) : Bool :=
  G.levels.any fun
    | .between ops => ops.contains op
    | .before _ => false

/-- An operator of the grammar is one of some level. -/
theorem exists_level {op : Op} (h : G.hasBefore op = true ∨ G.hasBetween op = true) :
    ∃ l ∈ G.levels, op ∈ l.ops := by
  rcases h with h | h
  · exact ⟨.before op, List.contains_iff_mem.1 h, by simp [Level.ops]⟩
  · rw [hasBetween, List.any_eq_true] at h
    obtain ⟨l, hl, hop⟩ := h
    cases l with
    | between ops => exact ⟨_, hl, List.contains_iff_mem.1 hop⟩
    | before o => cases hop

/-- A token as an operator or as an operand; `start` where no operand stands in front of it. -/
def tag (start : Bool) (t : Token) : Item τ :=
  match t.operator? with
  | none => .leaf t
  | some op =>
    if start && G.hasBefore op then .before op
    else if !start && G.hasBetween op then .between op
    else .leaf t

/-- The list up to the first of some infix operators, and the pieces behind each of them. -/
def split (ops : List Op) :
    List (Item τ) → List (Item τ) × List (Op × List (Item τ))
  | [] => ([], [])
  | .between op :: xs =>
    if ops.contains op then ([], (op, (split ops xs).1) :: (split ops xs).2)
    else (.between op :: (split ops xs).1, (split ops xs).2)
  | x :: xs => (x :: (split ops xs).1, (split ops xs).2)

/-- Takes copies of a prefix operator off the front and reads the rest. -/
def readBefore (op : Op) (rest : List (Item τ) → τ) : List (Item τ) → τ
  | .before o :: xs => if o = op then G.prefixed op (readBefore op rest xs) else rest (.before o :: xs)
  | xs => rest xs

/-- The reading of a list at some levels. -/
def readFrom : List Level → List (Item τ) → τ
  | [], xs => G.primary xs
  | .before op :: levels, xs => G.readBefore op (readFrom levels) xs
  | .between ops :: levels, xs =>
    let pieces := split ops xs
    pieces.2.foldl (fun left piece => G.infixed left piece.1 (readFrom levels piece.2))
      (readFrom levels pieces.1)

mutual

/-- A token or a group as a part of a list; a group is read on its own. -/
def item (start : Bool) : Nest → Item τ
  | .token t => G.tag start t
  | .group ns => .group ns (G.readFrom G.levels (items true ns))

/-- **The parts of a list**; `start` where no operand stands in front. -/
def items (start : Bool) : List Nest → List (Item τ)
  | [] => []
  | n :: ns => item start n :: items (item start n).isOperator ns

end

/-- **The reading of a list.** -/
def read (ns : List Nest) : τ := G.readFrom G.levels (G.items true ns)

/-- The reading of a statement, if its parentheses nest. -/
def readText (d : Dialect) (sql : String) : Option τ := (d.nests sql).map G.read

theorem readText_of_spells {d : Dialect} {s : String} {ns : List Nest} (hs : Spells d s ns) :
    G.readText d s = some (G.read ns) := by
  rw [readText, nests_of_spells hs, Option.map_some]

/-! ### Lists put together -/

/-- Whether a list ends with an operator, or has nothing in it and `start`. -/
def ends (start : Bool) : List Nest → Bool
  | [] => start
  | n :: ns => ends (G.item start n).isOperator ns

theorem items_append (start : Bool) (ns ms : List Nest) :
    G.items start (ns ++ ms) = G.items start ns ++ G.items (G.ends start ns) ms := by
  induction ns generalizing start with
  | nil => simp [items, ends]
  | cons n ns ih =>
      rw [List.cons_append, items, items, ih, ends]
      rfl

theorem ends_append (start : Bool) (ns ms : List Nest) :
    G.ends start (ns ++ ms) = G.ends (G.ends start ns) ms := by
  induction ns generalizing start with
  | nil => rfl
  | cons n ns ih => exact ih _

/-! ### Levels that a list passes -/

end Grammar

/-- A level does not see anything in a list: none of its infix operators, or not its prefix operator at
the front. -/
def Level.Passes {τ : Type} (xs : List (Item τ)) : Level → Prop
  | between ops => ∀ op ∈ ops, .between op ∉ xs
  | before op => xs.head? ≠ some (.before op)

namespace Grammar

variable {τ : Type} {G : Grammar τ}

theorem split_of_passes {ops : List Op} {xs : List (Item τ)}
    (h : (Level.between ops).Passes xs) : split ops xs = (xs, []) := by
  induction xs with
  | nil => rfl
  | cons x xs ih =>
      have hxs := ih fun op hop hmem => h op hop (List.mem_cons_of_mem x hmem)
      cases x with
      | between op =>
          have hop : ops.contains op = false := by
            cases hc : ops.contains op with
            | false => rfl
            | true => exact absurd List.mem_cons_self (h op (List.contains_iff_mem.1 hc))
          simp only [split, hop, hxs]
          rfl
      | before op => simp only [split, hxs]
      | leaf t => simp only [split, hxs]
      | group ns v => simp only [split, hxs]

/-- The last operator of a level cuts the list behind all others. -/
theorem split_append {ops : List Op} {xs ys : List (Item τ)} {op : Op} (hop : op ∈ ops)
    (hy : (Level.between ops).Passes ys) :
    split ops (xs ++ .between op :: ys) = ((split ops xs).1, (split ops xs).2 ++ [(op, ys)]) := by
  induction xs with
  | nil =>
      have hcut : ops.contains op = true := List.contains_iff_mem.2 hop
      simp only [List.nil_append, split, hcut, if_true, split_of_passes hy]
  | cons x xs ih =>
      cases x with
      | between o =>
          rw [List.cons_append, split, split, ih]
          split <;> rfl
      | before o => simp only [List.cons_append, split, ih]
      | leaf t => simp only [List.cons_append, split, ih]
      | group ns v => simp only [List.cons_append, split, ih]

theorem readBefore_of_passes {op : Op} {rest : List (Item τ) → τ} {xs : List (Item τ)}
    (h : (Level.before op).Passes xs) : G.readBefore op rest xs = rest xs := by
  cases xs with
  | nil => rfl
  | cons x xs =>
      cases x with
      | before o =>
          have ho : o ≠ op := by
            rintro rfl
            exact h rfl
          rw [readBefore, if_neg ho]
      | _ => rfl

/-- A level that sees nothing in a list leaves it to the next one. -/
theorem readFrom_of_passes {l : Level} {levels : List Level} {xs : List (Item τ)}
    (h : l.Passes xs) : G.readFrom (l :: levels) xs = G.readFrom levels xs := by
  cases l with
  | between ops => simp [readFrom, split_of_passes h]
  | before op => exact readBefore_of_passes h

theorem readFrom_append_of_passes {low high : List Level} {xs : List (Item τ)}
    (h : ∀ l ∈ low, l.Passes xs) : G.readFrom (low ++ high) xs = G.readFrom high xs := by
  induction low with
  | nil => rfl
  | cons l low ih =>
      rw [List.cons_append, readFrom_of_passes (h l List.mem_cons_self)]
      exact ih fun k hk => h k (List.mem_cons_of_mem l hk)

/-! ### Lists that are read at one level -/

/-- **A list that passes some levels and is read at the ones after them**, and that an infix operator may
follow. -/
structure Reads (G : Grammar τ) (low high : List Level) (ns : List Nest) (v : τ) : Prop where
  levels : G.levels = low ++ high
  passes : ∀ l ∈ low, l.Passes (G.items true ns)
  eq : G.readFrom high (G.items true ns) = v
  ends : G.ends true ns = false

namespace Reads

variable {low high : List Level} {ns ms : List Nest} {v w : τ}

/-- Such a list is read as it is at these levels. -/
theorem read_eq (h : G.Reads low high ns v) : G.read ns = v := by
  rw [read, h.levels, readFrom_append_of_passes h.passes, h.eq]

/-- A text of such a list is read the same way. -/
theorem readText_eq {d : Dialect} {s : String} (hs : Spells d s ns) (h : G.Reads low high ns v) :
    G.readText d s = some v := by
  rw [readText_of_spells G hs, h.read_eq]

/-- **A list that passes a level is read at that level too.** -/
theorem loosen {l : Level} (h : G.Reads (low ++ [l]) high ns v) : G.Reads low (l :: high) ns v where
  levels := by
    rw [h.levels]
    simp
  passes k hk := h.passes k (List.mem_append_left _ hk)
  eq := by
    rw [readFrom_of_passes (h.passes l (by simp)), h.eq]
  ends := h.ends

theorem loosen_all {mid : List Level} (h : G.Reads (low ++ mid) high ns v) :
    G.Reads low (mid ++ high) ns v where
  levels := by
    rw [h.levels, List.append_assoc]
  passes k hk := h.passes k (List.mem_append_left _ hk)
  eq := by
    rw [readFrom_append_of_passes fun l hl => h.passes l (List.mem_append_right _ hl), h.eq]
  ends := h.ends

/-- An infix operator between two lists.  The right one may start with a prefix operator: no looser level
looks there. -/
theorem infixed_of_passes {ops : List Op} {op : Op} {t : Token}
    (hleft : G.Reads low (.between ops :: high) ns v)
    (hpass : ∀ os, Level.between os ∈ low ++ [.between ops] →
      (Level.between os).Passes (G.items true ms))
    (heq : G.readFrom high (G.items true ms) = w) (hends : G.ends true ms = false)
    (ht : t.operator? = some op) (hop : op ∈ ops)
    (hlow : ∀ os, Level.between os ∈ low → op ∉ os) :
    G.Reads low (.between ops :: high) (ns ++ .token t :: ms) (G.infixed v op w) := by
  have hlevels : G.levels = low ++ .between ops :: high := hleft.levels
  have hbetween : G.hasBetween op = true := by
    rw [hasBetween, hlevels, List.any_eq_true]
    exact ⟨.between ops, by simp, List.contains_iff_mem.2 hop⟩
  -- behind an operand the token is an infix operator
  have htag : G.item false (.token t) = .between op := by
    rw [item, tag, ht]
    simp [hbetween]
  have hitems : G.items true (ns ++ .token t :: ms) =
      G.items true ns ++ .between op :: G.items true ms := by
    rw [items_append, hleft.ends, items, htag]
    rfl
  constructor
  · exact hlevels
  · intro l hl
    have hpl := hleft.passes l hl
    rw [hitems]
    cases l with
    | between os =>
        intro o ho hmem
        rcases List.mem_append.1 hmem with hmem | hmem
        · exact hpl o ho hmem
        · rcases List.mem_cons.1 hmem with heq | hmem
          · cases heq
            exact hlow os hl ho
          · exact hpass os (List.mem_append_left _ hl) o ho hmem
    | before o =>
        intro hhead
        apply hpl
        cases hns : G.items true ns with
        | nil =>
            rw [hns] at hhead
            cases hhead
        | cons x xs =>
            rw [hns] at hhead
            simpa using hhead
  -- the right list has no operator of the level, so the last one cuts it off
  · have hown : (Level.between ops).Passes (G.items true ms) := hpass ops (by simp)
    have hread := hleft.eq
    rw [readFrom] at hread
    rw [hitems, readFrom, split_append hop hown, List.foldl_append, hread]
    simp [heq]
  · rw [ends_append, hleft.ends, Grammar.ends, htag]
    exact hends

/-- **An infix operator between two lists**, of which the right one passes its level. -/
theorem infixed {ops : List Op} {op : Op} {t : Token}
    (hleft : G.Reads low (.between ops :: high) ns v)
    (hright : G.Reads (low ++ [.between ops]) high ms w)
    (ht : t.operator? = some op) (hop : op ∈ ops)
    (hlow : ∀ os, Level.between os ∈ low → op ∉ os) :
    G.Reads low (.between ops :: high) (ns ++ .token t :: ms) (G.infixed v op w) :=
  hleft.infixed_of_passes (fun _ hos => hright.passes _ hos) hright.eq hright.ends ht hop hlow

/-- **A prefix operator in front of a list** that passes its level. -/
theorem prefixed {op : Op} {t : Token} (h : G.Reads (low ++ [.before op]) high ns v)
    (ht : t.operator? = some op) (hlow : Level.before op ∉ low) :
    G.Reads low (.before op :: high) (.token t :: ns) (G.prefixed op v) := by
  have hlevels : G.levels = low ++ .before op :: high := by
    rw [h.levels]
    simp
  have hbefore : G.hasBefore op = true := by
    rw [hasBefore, hlevels, List.contains_iff_mem]
    simp
  -- at the front the token is a prefix operator
  have htag : G.item true (.token t) = .before op := by
    rw [item, tag, ht]
    simp [hbefore]
  have hitems : G.items true (.token t :: ns) = .before op :: G.items true ns := by
    rw [items, htag]
    rfl
  constructor
  · exact hlevels
  · intro l hl
    have hp := h.passes l (List.mem_append_left _ hl)
    rw [hitems]
    cases l with
    | between os =>
        intro o ho hmem
        rcases List.mem_cons.1 hmem with heq | hmem
        · cases heq
        · exact hp o ho hmem
    | before o =>
        intro hhead
        simp only [List.head?_cons, Option.some.injEq, Item.before.injEq] at hhead
        exact hlow (hhead ▸ hl)
  · have hpass : (Level.before op).Passes (G.items true ns) := h.passes _ (by simp)
    rw [hitems, readFrom, readBefore, if_pos rfl, readBefore_of_passes hpass, h.eq]
  · rw [Grammar.ends, htag]
    exact h.ends

end Reads

/-! ### Operands -/

/-- A list without operators passes every level. -/
theorem passes_of_operands {xs : List (Item τ)} (h : ∀ x ∈ xs, x.isOperator = false) (l : Level) :
    l.Passes xs := by
  cases l with
  | between ops =>
      intro op _ hmem
      cases h _ hmem
  | before op =>
      intro hhead
      cases h _ (List.mem_of_head? hhead)

/-- **A list without operators** is read as a primary, at any level. -/
theorem reads_operands {low : List Level} (hlevels : G.levels = low) {ns : List Nest}
    (hne : ns ≠ []) (h : ∀ x ∈ G.items true ns, x.isOperator = false) :
    G.Reads low [] ns (G.primary (G.items true ns)) where
  levels := by rw [hlevels, List.append_nil]
  passes l _ := passes_of_operands h l
  eq := rfl
  ends := by
    -- the last part is no operator, wherever the list starts
    have hall : ∀ (start : Bool) (ms : List Nest),
        (∀ x ∈ G.items start ms, x.isOperator = false) → ms ≠ [] → G.ends start ms = false := by
      intro start ms hms hne
      induction ms generalizing start with
      | nil => exact absurd rfl hne
      | cons n ms ih =>
          rw [items] at hms
          have hn := hms _ List.mem_cons_self
          rw [Grammar.ends, hn]
          cases ms with
          | nil => rfl
          | cons m ms =>
              rw [hn] at hms
              exact ih false (fun x hx => hms x (List.mem_cons_of_mem _ hx)) (by simp)
    exact hall true ns h hne

/-- A list whose parts are no operators. -/
theorem reads_of_items {ns : List Nest} {xs : List (Item τ)} (hitems : G.items true ns = xs)
    (hne : ns ≠ []) (hops : ∀ x ∈ xs, x.isOperator = false) :
    G.Reads G.levels [] ns (G.primary xs) := by
  subst hitems
  exact reads_operands rfl hne hops

/-- **A group is read on its own.** -/
theorem reads_group (ns : List Nest) :
    G.Reads G.levels [] [.group ns] (G.primary [.group ns (G.read ns)]) := by
  have hitems : G.items true [.group ns] = [.group ns (G.read ns)] := by
    rw [items, items, item]
    rfl
  exact reads_of_items hitems (by simp) (by simp [Item.isOperator])

/-! ### Levels by number -/

/-- A list that passes all levels looser than the `k`th and is read at the ones from there on. -/
abbrev ReadsAt (G : Grammar τ) (k : Nat) (ns : List Nest) (v : τ) : Prop :=
  G.Reads (G.levels.take k) (G.levels.drop k) ns v

/-- Whether an operator stands between operands at a level, and at no looser one. -/
def isAt (G : Grammar τ) (op : Op) (k : Nat) : Bool :=
  (match G.levels[k]? with
    | some (.between ops) => ops.contains op
    | _ => false) &&
  (G.levels.take k).all fun
    | .between ops => !ops.contains op
    | .before _ => true

theorem eq_of_isAt {op : Op} {k : Nat} (h : G.isAt op k = true) :
    ∃ ops, op ∈ ops ∧ G.levels.drop k = .between ops :: G.levels.drop (k + 1) ∧
      G.levels.take (k + 1) = G.levels.take k ++ [.between ops] ∧
      ∀ os, Level.between os ∈ G.levels.take k → op ∉ os := by
  rw [isAt, Bool.and_eq_true, List.all_eq_true] at h
  obtain ⟨hat, hlow⟩ := h
  split at hat
  · rename_i ops hk
    obtain ⟨hlt, hget⟩ := List.getElem?_eq_some_iff.1 hk
    refine ⟨ops, List.contains_iff_mem.1 hat, ?_, ?_, ?_⟩
    · rw [← hget]
      exact List.drop_eq_getElem_cons hlt
    · rw [← hget]
      exact (List.take_append_getElem hlt).symm
    · intro os hos hop
      have hnot := hlow _ hos
      simp [hop] at hnot
  · cases hat

namespace ReadsAt

variable {ns ms : List Nest} {v w : τ} {k : Nat}

/-- A list that passes more levels is read at the looser ones too. -/
theorem mono {m : Nat} (h : G.ReadsAt m ns v) (hk : k ≤ m) : G.ReadsAt k ns v := by
  obtain ⟨j, rfl⟩ := Nat.exists_eq_add_of_le hk
  have hdrop : G.levels.drop k = (G.levels.drop k).take j ++ G.levels.drop (k + j) := by
    rw [← List.drop_drop, List.take_append_drop]
  unfold ReadsAt at h ⊢
  rw [List.take_add] at h
  rw [hdrop]
  exact h.loosen_all

/-- A list that passes all levels is read at any of them. -/
theorem of_reads (h : G.Reads G.levels [] ns v) (k : Nat) : G.ReadsAt k ns v := by
  have hall : G.ReadsAt G.levels.length ns v := by
    unfold ReadsAt
    rwa [List.take_length, List.drop_length]
  rcases Nat.le_total k G.levels.length with hk | hk
  · exact hall.mono hk
  · unfold ReadsAt
    rwa [List.take_of_length_le hk, List.drop_of_length_le hk]

/-- **An infix operator between two lists**; the right one passes its level, so that it is read from the
left. -/
theorem infixed {t : Token} {op : Op} (ht : t.operator? = some op) (hop : G.isAt op k = true)
    (hl : G.ReadsAt k ns v) (hr : G.ReadsAt (k + 1) ms w) :
    G.ReadsAt k (ns ++ .token t :: ms) (G.infixed v op w) := by
  obtain ⟨ops, hmem, hdrop, htake, hlow⟩ := eq_of_isAt hop
  unfold ReadsAt at hl hr ⊢
  rw [hdrop] at hl ⊢
  rw [htake] at hr
  exact hl.infixed hr ht hmem hlow

/-- **A prefix operator in front of a list** that passes its level. -/
theorem prefixed {t : Token} {op : Op} (ht : t.operator? = some op)
    (hk : G.levels[k]? = some (.before op)) (hlow : Level.before op ∉ G.levels.take k)
    (h : G.ReadsAt (k + 1) ns v) : G.ReadsAt k (.token t :: ns) (G.prefixed op v) := by
  obtain ⟨hlt, hget⟩ := List.getElem?_eq_some_iff.1 hk
  unfold ReadsAt at h ⊢
  rw [← List.take_append_getElem hlt, hget] at h
  rw [List.drop_eq_getElem_cons hlt, hget]
  exact h.prefixed ht hlow

end ReadsAt

end Grammar

/-! ### Parentheses around a text -/

/-- **A text that the test for an outer pair of parentheses does not mislead**: either it has no such
pair for the test, or it is one group. -/
inductive Enclosed (d : Dialect) (s : String) (ns : List Nest) : Prop
  | bare (h : isWrapped s.toList = false)
  | group {inner : String} {ms : List Nest} (hs : s = "(" ++ inner ++ ")") (hi : Spells d inner ms)
    (hns : ns = [.group ms])

namespace Enclosed

variable {τ : Type} {G : Grammar τ} {d : Dialect} {s : String} {ns : List Nest}

/-- **Parentheses are added so that the text is a group**, and its reading stays. -/
theorem wrap (h : Enclosed d s ns) (hs : Spells d s ns)
    (hG : ∀ ms, G.read [.group ms] = G.read ms) :
    ∃ ms, Spells d (wrap s) [.group ms] ∧ G.read ms = G.read ns := by
  unfold ModelSql.wrap
  cases h with
  | bare h =>
      rw [if_neg (by simp [h])]
      exact ⟨ns, hs.group, rfl⟩
  | @group inner ms heq hi hns =>
      subst hns
      split
      · exact ⟨ms, hs, (hG ms).symm⟩
      · exact ⟨[.group ms], hs.group, rfl⟩

/-- **The outer parentheses are taken off**, and the reading stays. -/
theorem strip (h : Enclosed d s ns) (hs : Spells d s ns)
    (hG : ∀ ms, G.read [.group ms] = G.read ms) :
    ∃ ms, Spells d (stripOuter s) ms ∧ G.read ms = G.read ns := by
  unfold stripOuter
  cases h with
  | bare h =>
      rw [if_neg (by simp [h])]
      exact ⟨ns, hs, rfl⟩
  | @group inner ms heq hi hns =>
      subst hns
      split
      · have hinner : String.ofList ((s.toList.drop 1).dropLast) = inner := by
          rw [heq, String.toList_append, String.toList_append]
          have hopen : "(".toList = ['('] := rfl
          have hclose : ")".toList = [')'] := rfl
          rw [hopen, hclose, List.cons_append, List.cons_append, List.drop_succ_cons, List.drop_zero,
            List.nil_append, List.dropLast_concat, String.ofList_toList]
        rw [hinner]
        exact ⟨ms, hi, (hG ms).symm⟩
      · exact ⟨_, hs, rfl⟩

end Enclosed

end ModelSql
