/-
**Parts of texts.**

A part of a text is taken by the database where the text is that of a column, and computed where it is a
value.  Both count from a start, one of them from zero and the other from one, and go on for a length or
to the end.  They differ in the arguments that they refuse: the one takes negative starts, the other one
lengths that are no integers.  Where neither refuses, both take the same characters, apart from lengths
that databases have rules of their own for.

Main definitions:

* `Database`, `Extent`, `Database.select` — **what a database selects**, character by character;
* `Tree.part?` — the position and the extent that the tree of `SUBSTRING` asks for;
* `Portion.start?`, `Portion.length?`, `Portion.Measured` — the arguments.

Main results:

* `stretch_from`, `stretch_between` — the characters at some positions;
* `Dialect.part?_substringTree` — the form of each database is read back;
* `Scope.substring_agrees_iff` — **the arguments on which both agree**, in what they refuse and in what
  they select.
-/

import Mathlib.Data.List.TakeDrop
import ModelSql.Proofs.Query.Operation
import ModelSql.Proofs.Query.Visit
import ModelSql.Proofs.Syntax.Function

set_option relaxedAutoImplicit false
set_option autoImplicit false

namespace ModelSql

/-! ### Characters at positions -/

/-- The characters at the positions to be kept, when the first one has the position `p`. -/
def stretch (keep : Int → Bool) (p : Int) : List Char → List Char
  | [] => []
  | c :: cs => if keep p then c :: stretch keep (p + 1) cs else stretch keep (p + 1) cs

/-- The characters from a position on. -/
theorem stretch_from (first p : Int) (cs : List Char) :
    stretch (fun x => first ≤ x) p cs = cs.drop (first - p).toNat := by
  induction cs generalizing p with
  | nil => rw [stretch, List.drop_nil]
  | cons c cs ih =>
      rw [stretch, ih]
      by_cases h : first ≤ p
      · have hnow : (first - p).toNat = 0 := by omega
        have hnext : (first - (p + 1)).toNat = 0 := by omega
        rw [if_pos (decide_eq_true h), hnow, hnext]
        rfl
      · have hnow : (first - p).toNat = (first - (p + 1)).toNat + 1 := by omega
        rw [if_neg (by simpa using h), hnow, List.drop_succ_cons]

/-- The characters from a position on, up to another one. -/
theorem stretch_between (first behind p : Int) (cs : List Char) :
    stretch (fun x => first ≤ x ∧ x < behind) p cs =
      (cs.drop (first - p).toNat).take (behind - max first p).toNat := by
  induction cs generalizing p with
  | nil => rw [stretch, List.drop_nil, List.take_nil]
  | cons c cs ih =>
      rw [stretch, ih]
      by_cases h : first ≤ p
      · have hnow : (first - p).toNat = 0 := by omega
        have hnext : (first - (p + 1)).toNat = 0 := by omega
        by_cases hp : p < behind
        · have htake : (behind - max first p).toNat = (behind - max first (p + 1)).toNat + 1 := by
            omega
          rw [if_pos (decide_eq_true ⟨h, hp⟩), hnow, hnext, htake]
          rfl
        · have htake : (behind - max first p).toNat = 0 := by omega
          have hrest : (behind - max first (p + 1)).toNat = 0 := by omega
          rw [if_neg (by simp [hp]), htake, hrest]
          simp
      · have hnow : (first - p).toNat = (first - (p + 1)).toNat + 1 := by omega
        have hmax : max first p = max first (p + 1) := by omega
        rw [if_neg (by simp [h]), hnow, List.drop_succ_cons, hmax]

/-! ### What a database selects -/

/-- How far a part of a text goes: to the end, for a number of characters, or for as many as `LEN` counts
in the whole text. -/
inductive Extent
  | toEnd
  | length (n : Int)
  | whole

/-- What databases have rules of their own for: the part of a text from a position on for a negative
length, if they take it, and the length of a text, which SQL Server counts without blanks at the end. -/
structure Database where
  negative : List Char → Int → Int → Option (List Char)
  len : List Char → Nat

/-- **The part of a text that a database selects**, if it takes the request: the characters at the
positions from the start on, counted from one. -/
def Database.select (db : Database) (t : List Char) (start : Int) : Extent → Option (List Char)
  | .toEnd => some (stretch (fun p => start ≤ p) 1 t)
  | .whole => some (stretch (fun p => start ≤ p ∧ p < start + db.len t) 1 t)
  | .length n =>
    if n < 0 then db.negative t start n
    else some (stretch (fun p => start ≤ p ∧ p < start + n) 1 t)

/-- SQLite, which for a negative length takes the characters in front of the start, and counts all the
characters of a text. -/
def Database.sqlite : Database where
  negative t start n := some (stretch (fun p => start + n ≤ p ∧ p < start) 1 t)
  len := List.length

/-! ### Reading a part -/

namespace Tree

/-- The extent that a tree asks for, in a part of `a`. -/
def extent? (a x : Tree) : Option Extent :=
  if x = .apply "LEN" a then some .whole else x.int?.map .length

/-- The arguments behind `a`: the start, and what says how far the part goes. -/
def arguments? (a : Tree) : Tree → Option (Tree × Option Tree)
  | .infixed l op r =>
    if l = a then
      if op = .ofSign "," ∨ op = .ofWord "from" then some (r, none) else none
    else match l with
      | .infixed x first i =>
        if x = a ∧ (first = .ofSign "," ∧ op = .ofSign "," ∨
            first = .ofWord "from" ∧ op = .ofWord "for") then some (i, some r) else none
      | _ => none
  | _ => none

/-- **The part of `a` that a tree asks for**: its start, and how far it goes. -/
def part? (a : Tree) : Tree → Option (Int × Extent)
  | .call f args =>
    if f = "SUBSTRING".toList ∨ f = "SUBSTR".toList then
      (a.arguments? args).bind fun x => x.1.int?.bind fun start =>
        match x.2 with
        | none => some (start, .toEnd)
        | some y => (a.extent? y).map fun extent => (start, extent)
    else none
  | _ => none

theorem infixed_ne_left (a b : Tree) (op : Op) : Tree.infixed a op b ≠ a := by
  intro h
  have hsize := congrArg sizeOf h
  simp only [Tree.infixed.sizeOf_spec] at hsize
  omega

theorem arguments?_start {op : Op} (h : op = .ofSign "," ∨ op = .ofWord "from") (a i : Tree) :
    a.arguments? (.infixed a op i) = some (i, none) := by
  unfold arguments?
  dsimp only
  rw [if_pos rfl, if_pos h]

theorem arguments?_range {first op : Op} (h : first = .ofSign "," ∧ op = .ofSign "," ∨
    first = .ofWord "from" ∧ op = .ofWord "for") (a i x : Tree) :
    a.arguments? (.infixed (.infixed a first i) op x) = some (i, some x) := by
  rw [arguments?, if_neg (infixed_ne_left a i first), if_pos ⟨rfl, h⟩]

theorem extent?_int (a : Tree) (n : Int) : a.extent? (.int n) = some (.length n) := by
  have hne : Tree.int n ≠ .apply "LEN" a := by
    unfold Tree.int
    dsimp only
    split <;> exact fun h => nomatch h
  rw [extent?, if_neg hne, int?_int]
  rfl

theorem extent?_len (a : Tree) : a.extent? (.apply "LEN" a) = some .whole := if_pos rfl

/-- A part from a position on is read back. -/
theorem part?_start {f : String} (hf : f = "SUBSTRING" ∨ f = "SUBSTR") {op : Op}
    (h : op = .ofSign "," ∨ op = .ofWord "from") (a : Tree) (start : Int) :
    a.part? (.apply f (.infixed a op (.int start))) = some (start, .toEnd) := by
  have hname : f.toList = "SUBSTRING".toList ∨ f.toList = "SUBSTR".toList :=
    hf.imp (congrArg String.toList) (congrArg String.toList)
  rw [Tree.apply, part?, if_pos hname, arguments?_start h, Option.bind_some, int?_int]
  rfl

/-- A part that does not go to the end is read back. -/
theorem part?_range {f : String} (hf : f = "SUBSTRING" ∨ f = "SUBSTR") {first op : Op}
    (h : first = .ofSign "," ∧ op = .ofSign "," ∨ first = .ofWord "from" ∧ op = .ofWord "for")
    {a x : Tree} {extent : Extent} (hx : a.extent? x = some extent) (start : Int) :
    a.part? (.apply f (.infixed (.infixed a first (.int start)) op x)) = some (start, extent) := by
  have hname : f.toList = "SUBSTRING".toList ∨ f.toList = "SUBSTR".toList :=
    hf.imp (congrArg String.toList) (congrArg String.toList)
  rw [Tree.apply, part?, if_pos hname, arguments?_range h, Option.bind_some, int?_int]
  dsimp only [Option.bind_some]
  rw [hx]
  rfl

end Tree

/-- How far a part goes that is written with a length or without one. -/
def Dialect.extent (d : Dialect) : Option Int → Extent
  | some n => .length n
  | none => if d.kind = .sqlserver then .whole else .toEnd

/-- **The form of each database is read back.** -/
theorem Dialect.part?_substringTree (d : Dialect) (start : Int) (length : Option Int) (a : Tree) :
    a.part? (d.substringTree start length a) = some (start, d.extent length) := by
  have hcommas : Op.ofSign "," = .ofSign "," ∧ Op.ofSign "," = .ofSign "," ∨
      Op.ofSign "," = .ofWord "from" ∧ Op.ofSign "," = .ofWord "for" := .inl ⟨rfl, rfl⟩
  have hwords : Op.ofWord "from" = .ofSign "," ∧ Op.ofWord "for" = .ofSign "," ∨
      Op.ofWord "from" = .ofWord "from" ∧ Op.ofWord "for" = .ofWord "for" := .inr ⟨rfl, rfl⟩
  unfold substringTree extent
  cases d.kind with
  | firebird | postgres =>
      cases length with
      | none => exact Tree.part?_start (.inl rfl) (.inr rfl) a start
      | some n => exact Tree.part?_range (.inl rfl) hwords (Tree.extent?_int a n) start
  | mysql =>
      cases length with
      | none => exact Tree.part?_start (.inl rfl) (.inl rfl) a start
      | some n => exact Tree.part?_range (.inl rfl) hcommas (Tree.extent?_int a n) start
  | sqlserver =>
      cases length with
      | none => exact Tree.part?_range (.inl rfl) hcommas (Tree.extent?_len a) start
      | some n => exact Tree.part?_range (.inl rfl) hcommas (Tree.extent?_int a n) start
  | sqlite =>
      cases length with
      | none => exact Tree.part?_start (.inr rfl) (.inl rfl) a start
      | some n => exact Tree.part?_range (.inr rfl) hcommas (Tree.extent?_int a n) start

/-- **A part of a column** is read as a part of what the column is read as. -/
theorem Scope.exists_part (s : Scope) (f : Field) (start : Int) (length : Option Int) :
    ∃ a tree, s.dialect.tree? (s.column f) = some a ∧
      s.dialect.tree? (s.dialect.substring (s.column f) start length) = some tree ∧
      a.part? tree = some (start, s.dialect.extent length) := by
  obtain ⟨hsimple, a, ha⟩ := s.simple_column f
  have hspells := spells_column s f
  have hreads := hsimple.reads
  rw [ha] at hreads
  obtain ⟨ms, hms, -, htree⟩ := applies_substring hspells start length
  have hread := htree a (hreads.mono (by decide))
  refine ⟨a, _, tree?_of_reads hspells hreads, ?_, s.dialect.part?_substringTree start length a⟩
  rw [Dialect.tree?, Grammar.readText_of_spells _ hms.spells, Option.join_some, hread]

/-! ### The arguments -/

namespace Portion

/-- The start among the arguments, if it is an integer. -/
def start? (vs : List Value) : Option Int64 := vs.head?.bind Value.toInt?

/-- The length among the arguments, if there is one and it is an integer. -/
def length? (vs : List Value) : Option Int64 := vs[1]?.bind Value.toInt?

/-- The arguments with a length that is an integer, or without a length. -/
def Measured (vs : List Value) : Prop := ∀ v, vs[1]? = some v → v.toInt?.isSome = true

variable {s : Scope} {vs : List Value} {sql text t : String} {i : Int64}

/-- **What the database is asked for**: the start has to be an integer, and so has the length. -/
theorem substringText_eq_ok_iff : s.substringText sql vs = .ok text ↔
    ∃ i, start? vs = some i ∧ Measured vs ∧
      text = s.dialect.substring sql (i.toInt + 1) ((length? vs).map Int64.toInt) := by
  constructor
  · intro h
    obtain ⟨i, length, hstart, hlength, rfl⟩ := s.substringText_eq_ok h
    refine ⟨i, hstart, fun v hv => ?_, ?_⟩
    · rw [hv, Option.map_some] at hlength
      cases length with
      | none => cases hlength
      | some n => rw [Option.some.inj hlength, Option.isSome_some]
    · have hsame : length? vs = length := by
        unfold length?
        cases hv : vs[1]? with
        | none =>
            rw [hv] at hlength
            cases length with
            | none => rfl
            | some n => cases hlength
        | some v =>
            rw [hv, Option.map_some] at hlength
            cases length with
            | none => cases hlength
            | some n => exact Option.some.inj hlength
      rw [hsame]
  · rintro ⟨i, hstart, hmeasured, rfl⟩
    unfold start? at hstart
    unfold Scope.substringText length?
    rw [hstart]
    cases hv : vs[1]? with
    | none => rfl
    | some v =>
        obtain ⟨n, hn⟩ := Option.isSome_iff_exists.1 (hmeasured v hv)
        rw [Option.bind_some, hn]
        dsimp only
        rw [hn]
        rfl

/-- The part of a text from a start on, for a length or to the end. -/
def part (t : List Char) (start : Int) (length : Option Int) : List Char :=
  match length with
  | some n => (t.drop start.toNat).take n.toNat
  | none => t.drop start.toNat

/-- **What is computed**: the start has to be an integer that is not negative. -/
theorem foldSubstring_eq_ok_iff : Fold.substring t vs = .ok text ↔
    ∃ i, start? vs = some i ∧ 0 ≤ i.toInt ∧
      text.toList = part t.toList i.toInt ((length? vs).map Int64.toInt) := by
  have hlist (cs : List Char) : String.ofList cs = text ↔ text.toList = cs := by
    rw [← String.toList_inj, String.toList_ofList, eq_comm]
  unfold Fold.substring start? length? part
  cases vs.head?.bind Value.toInt? with
  | none => simp
  | some i =>
      by_cases hi : i.toInt < 0
      · have hnot : ¬ 0 ≤ i.toInt := by omega
        simp [hi, hnot]
      · have hle : 0 ≤ i.toInt := by omega
        cases vs[1]?.bind Value.toInt? <;> simp [hi, hle, hlist]

/-- The requests that a database answers with what is computed: for a negative length it selects nothing,
and where it has to be told how long the text is, its length does not end the part early. -/
def Answered (d : Dialect) (db : Database) (t : List Char) (start : Int) : Option Int → Prop
  | some n => n < 0 → db.negative t (start + 1) n = some []
  | none => d.kind = .sqlserver → (t.length : Int) ≤ start + db.len t

/-- **The same characters** are selected and computed. -/
theorem select_eq_iff {d : Dialect} {db : Database} {t : List Char} {start : Int} (h : 0 ≤ start)
    (length : Option Int) : db.select t (start + 1) (d.extent length) = some (part t start length) ↔
      Answered d db t start length := by
  have hdrop : (start + 1 - 1).toNat = start.toNat := by omega
  have htake (n : Int) : (start + 1 + n - max (start + 1) 1).toNat = n.toNat := by omega
  cases length with
  | some n =>
      rw [Dialect.extent, Database.select, part, Answered]
      by_cases hn : n < 0
      · have hzero : n.toNat = 0 := by omega
        rw [if_pos hn, hzero, List.take_zero]
        exact ⟨fun hdb _ => hdb, fun hdb => hdb hn⟩
      · rw [if_neg hn, stretch_between, hdrop, htake]
        exact ⟨fun _ hneg => absurd hneg hn, fun _ => rfl⟩
  | none =>
      rw [Dialect.extent, part, Answered]
      by_cases hk : d.kind = .sqlserver
      · rw [if_pos hk, Database.select, stretch_between, hdrop, htake, Int.toNat_natCast,
          Option.some.injEq, List.take_eq_self_iff, List.length_drop]
        constructor
        · intro hle _
          omega
        · intro hle
          have := hle hk
          omega
      · rw [if_neg hk, Database.select, stretch_from, hdrop]
        exact ⟨fun _ hs => absurd hs hk, fun _ => rfl⟩

end Portion

/-! ### The two evaluations -/

namespace Scope

open Portion

variable {s : Scope} {name : String} {f : Field} {args : List Expr} {vs : List Value} {b c : Bindings}

theorem visit_substring_column (hf : s.model.field? name = some f)
    (hargs : s.visitAll args b = .ok (vs.map .value, c)) {r : Fragment × Bindings} :
    s.visit (.method .substring (.column name) args) b = .ok r ↔
      ∃ text, s.substringText (s.column f) vs = .ok text ∧ r = (.sql text, c) := by
  have hcolumn : s.visit (.column name) b = .ok (.column (s.column f) f.type, b) := by
    rw [visit_of_field hf]
    rfl
  obtain ⟨p, k⟩ := r
  rw [visit]
  constructor
  · intro h
    obtain ⟨target, m, ht, h⟩ := bind_eq_ok.1 h
    obtain ⟨ps, n, hps, h⟩ := bind_eq_ok.1 h
    rw [hcolumn] at ht
    cases ht
    rw [hargs] at hps
    cases hps
    rw [method_text s rfl] at h
    obtain ⟨sql, m, hsql, h⟩ := bind_eq_ok.1 h
    cases hsql
    obtain ⟨text, k, hstep, hr⟩ := bind_eq_ok.1 h
    obtain ⟨htext, rfl⟩ := outcome_eq_ok.1 hstep
    obtain ⟨rfl, rfl⟩ := pure_eq_ok.1 hr
    exact ⟨text, htext, rfl⟩
  · rintro ⟨text, htext, heq⟩
    cases heq
    have hmethod : s.method .substring (.column (s.column f) f.type) (vs.map .value) c =
        .ok (.sql text, c) := by
      rw [method_text s rfl]
      exact bind_eq_ok.2 ⟨_, c, rfl, bind_eq_ok.2 ⟨text, c, outcome_eq_ok.2 ⟨htext, rfl⟩, rfl⟩⟩
    exact bind_eq_ok.2 ⟨_, b, hcolumn, bind_eq_ok.2 ⟨_, c, hargs, hmethod⟩⟩

theorem visit_substring_constant (hargs : s.visitAll args b = .ok (vs.map .value, c)) {t : String}
    {r : Fragment × Bindings} :
    s.visit (.method .substring (.value (.text t)) args) b = .ok r ↔
      ∃ text, Fold.substring t vs = .ok text ∧ r = (.value (.text text), c) := by
  have hfold : Fold.method .substring (.text t) vs = (Fold.substring t vs).map .text := rfl
  obtain ⟨p, k⟩ := r
  rw [visit]
  constructor
  · intro h
    obtain ⟨target, m, ht, h⟩ := bind_eq_ok.1 h
    obtain ⟨ps, n, hps, h⟩ := bind_eq_ok.1 h
    rw [visit] at ht
    obtain ⟨rfl, rfl⟩ := pure_eq_ok.1 ht
    rw [hargs] at hps
    cases hps
    rw [method_constant, hfold] at h
    obtain ⟨w, k, hstep, hr⟩ := bind_eq_ok.1 h
    obtain ⟨hw, rfl⟩ := outcome_eq_ok.1 hstep
    obtain ⟨text, htext, rfl⟩ := map_eq_ok hw
    obtain ⟨rfl, rfl⟩ := pure_eq_ok.1 hr
    exact ⟨text, htext, rfl⟩
  · rintro ⟨text, htext, heq⟩
    cases heq
    have hmethod : s.method .substring (.value (.text t)) (vs.map .value) c =
        .ok (.value (.text text), c) := by
      rw [method_constant, hfold, htext]
      rfl
    exact bind_eq_ok.2 ⟨_, b, rfl, bind_eq_ok.2 ⟨_, c, hargs, hmethod⟩⟩

/-- **A part of a column and a part of a value.**  They are refused for the same arguments exactly when the
start is no integer, or when it is not negative while the length, if there is one, is an integer, or the
other way round.  Where none is refused, the text is read as a part of the column from the start on, counted
from one, and the database selects what is computed exactly when the length is not negative or it selects
nothing for it, and no blanks at the end are missing where it counts the text itself. -/
theorem substring_agrees_iff (hf : s.model.field? name = some f)
    (hargs : s.visitAll args b = .ok (vs.map .value, c))
    (hmax : ∀ i, start? vs = some i → i < Int64.maxValue) (t : String) (db : Database) :
    (((∃ r, s.visit (.method .substring (.column name) args) b = .ok r) ↔
        ∃ r, s.visit (.method .substring (.value (.text t)) args) b = .ok r) ↔
      ∀ i, start? vs = some i → (0 ≤ i.toInt ↔ Measured vs)) ∧
    ∀ p q, s.visit (.method .substring (.column name) args) b = .ok p →
      s.visit (.method .substring (.value (.text t)) args) b = .ok q →
      ∃ i text a tree r, start? vs = some i ∧ p = (.sql text, c) ∧ q = (.value (.text r), c) ∧
        s.dialect.tree? (s.column f) = some a ∧ s.dialect.tree? text = some tree ∧
        a.part? tree = some ((i + 1).toInt, s.dialect.extent ((length? vs).map Int64.toInt)) ∧
        (((a.part? tree).bind fun x => db.select t.toList x.1 x.2) = some r.toList ↔
          Answered s.dialect db t.toList i.toInt ((length? vs).map Int64.toInt)) := by
  have hcolumn : (∃ r, s.visit (.method .substring (.column name) args) b = .ok r) ↔
      ∃ i, start? vs = some i ∧ Measured vs := by
    constructor
    · rintro ⟨r, hr⟩
      obtain ⟨text, htext, -⟩ := (visit_substring_column hf hargs).1 hr
      obtain ⟨i, hi, hm, -⟩ := substringText_eq_ok_iff.1 htext
      exact ⟨i, hi, hm⟩
    · rintro ⟨i, hi, hm⟩
      exact ⟨_, (visit_substring_column hf hargs).2
        ⟨_, substringText_eq_ok_iff.2 ⟨i, hi, hm, rfl⟩, rfl⟩⟩
  have hconstant : (∃ r, s.visit (.method .substring (.value (.text t)) args) b = .ok r) ↔
      ∃ i, start? vs = some i ∧ 0 ≤ i.toInt := by
    constructor
    · rintro ⟨r, hr⟩
      obtain ⟨text, htext, -⟩ := (visit_substring_constant hargs).1 hr
      obtain ⟨i, hi, hle, -⟩ := foldSubstring_eq_ok_iff.1 htext
      exact ⟨i, hi, hle⟩
    · rintro ⟨i, hi, hle⟩
      exact ⟨_, (visit_substring_constant hargs).2
        ⟨_, foldSubstring_eq_ok_iff.2 ⟨i, hi, hle, String.toList_ofList⟩, rfl⟩⟩
  refine ⟨?_, fun p q hp hq => ?_⟩
  · rw [hcolumn, hconstant]
    constructor
    · intro h i hi
      constructor
      · intro hle
        obtain ⟨-, -, hm⟩ := h.2 ⟨i, hi, hle⟩
        exact hm
      · intro hm
        obtain ⟨j, hj, hle⟩ := h.1 ⟨i, hi, hm⟩
        rw [hi, Option.some.injEq] at hj
        rwa [hj]
    · intro h
      constructor
      · rintro ⟨i, hi, hm⟩
        exact ⟨i, hi, (h i hi).2 hm⟩
      · rintro ⟨i, hi, hle⟩
        exact ⟨i, hi, (h i hi).1 hle⟩
  · obtain ⟨text, htext, rfl⟩ := (visit_substring_column hf hargs).1 hp
    obtain ⟨r, hr, rfl⟩ := (visit_substring_constant hargs).1 hq
    obtain ⟨i, hi, -, rfl⟩ := substringText_eq_ok_iff.1 htext
    obtain ⟨j, hj, hle, hrest⟩ := foldSubstring_eq_ok_iff.1 hr
    rw [hi, Option.some.injEq] at hj
    subst hj
    obtain ⟨a, tree, ha, htree, hpart⟩ :=
      s.exists_part f (i.toInt + 1) ((length? vs).map Int64.toInt)
    -- no number of 64 bits is too small for the position
    have hnext : (i + 1).toInt = i.toInt + 1 := by
      have hlt : i.toInt < Int64.maxValue.toInt := Int64.lt_iff_toInt_lt.1 (hmax i hi)
      have hbound := Int64.toInt_maxValue
      have hone : (1 : Int64).toInt = 1 := rfl
      rw [Int64.toInt_add, hone, Int.bmod_eq_of_le] <;> omega
    refine ⟨i, _, a, tree, r, hi, rfl, rfl, ha, htree, ?_, ?_⟩
    · rw [hpart, hnext]
    · rw [hpart, Option.bind_some, hrest]
      exact select_eq_iff hle _

/-- Two characters of a name, from the second one on. -/
theorem substring_agrees_iff_name :
    let s : Scope := ⟨DialectKind.sqlite.dialect, Query.people, false, false⟩
    let b : Bindings := ⟨⟨[]⟩, 0⟩
    let f := Field.new "Name" .string
    let vs := [Value.int 1, .int 2]
    let args := [Expr.value (.int 1), .value (.int 2)]
    s.model.field? "Name" = some f ∧ s.visitAll args b = .ok (vs.map .value, b) ∧
      (∀ i, start? vs = some i → i < Int64.maxValue) ∧
      ((∃ r, s.visit (.method .substring (.column "Name") args) b = .ok r) ↔
        ∃ r, s.visit (.method .substring (.value (.text "Adam")) args) b = .ok r) ∧
      ∃ text a tree, s.visit (.method .substring (.column "Name") args) b = .ok (.sql text, b) ∧
        s.dialect.tree? (s.column f) = some a ∧ s.dialect.tree? text = some tree ∧
        ((a.part? tree).bind fun x => Database.sqlite.select "Adam".toList x.1 x.2) =
          some "da".toList := by
  intro s b f vs args
  have hf : s.model.field? "Name" = some f := rfl
  have hargs : s.visitAll args b = .ok (vs.map .value, b) := rfl
  have hmax : ∀ i, start? vs = some i → i < Int64.maxValue := by
    rintro i hi
    cases hi
    decide
  have hagree : ∀ i, start? vs = some i → (0 ≤ i.toInt ↔ Measured vs) := by
    rintro i hi
    cases hi
    refine ⟨fun _ v hv => ?_, fun _ => by decide⟩
    cases hv
    rfl
  obtain ⟨haccept, hselect⟩ := substring_agrees_iff hf hargs hmax "Adam" Database.sqlite
  obtain ⟨i, text, a, tree, r, hi, hp, hq, ha, htree, -, hsame⟩ := hselect
    (.sql (s.dialect.substring (s.column f) 2 (some 2)), b) (.value (.text "da"), b) rfl rfl
  cases hq
  refine ⟨hf, hargs, hmax, haccept.2 hagree, text, a, tree, hp ▸ rfl, ha, htree, hsame.2 ?_⟩
  exact fun hneg => absurd hneg (by decide)

/-- **Arguments that only one of them refuses**: a negative start is written into the statement and is an
error for a value, and a length that is a text is an error for a column and no length for a value. -/
theorem substring_disagrees :
    let s : Scope := ⟨DialectKind.sqlite.dialect, Query.people, false, false⟩
    let b : Bindings := ⟨⟨[]⟩, 0⟩
    let negative := [Expr.value (.int (-1))]
    let unmeasured := [Expr.value (.int 1), .value (.text "x")]
    s.visit (.method .substring (.column "Name") negative) b =
        .ok (.sql "SUBSTR(\"Name\", 0)", b) ∧
      s.visit (.method .substring (.value (.text "Ada")) negative) b = .error ⟨.negativeStart, b⟩ ∧
      s.visit (.method .substring (.column "Name") unmeasured) b = .error ⟨.lengthNotInteger, b⟩ ∧
      s.visit (.method .substring (.value (.text "Ada")) unmeasured) b =
        .ok (.value (.text "da"), b) :=
  ⟨rfl, rfl, rfl, rfl⟩

end Scope

end ModelSql
