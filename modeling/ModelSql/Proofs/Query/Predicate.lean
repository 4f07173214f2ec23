/-
**Conditions are read as they were built.**

Methods and memberships are written and read as operators are.  So every expression is, by induction: a
condition is read as its tree, unless a bare operand stands beside an infix operator in it.

Main results:

* `Scope.part_method`, `Scope.part_inList` — what methods and memberships make of parts;
* `Scope.visits` — **what every expression yields**;
* `Scope.predicate_tree_iff` — **the operands beside infix operators are closed exactly when they are not
  bare, and then a condition is read as its tree**.
-/

import Mathlib.Data.List.Forall2
import ModelSql.Proofs.Query.Computed
import ModelSql.Proofs.Query.Operation
import ModelSql.Proofs.Query.Reading

set_option relaxedAutoImplicit false
set_option autoImplicit false

namespace ModelSql

namespace Scope

variable {s : Scope} {e t : Expr} {p : Fragment} {b k m n c : Bindings} {sql text : String}
  {ns : List Nest}

/-! ### Arguments -/

/-- Arguments are all computed when no text is among their parts. -/
theorem allConstant_eq {es : List Expr} {ps : List Fragment} (hes : ∀ e ∈ es, s.Visits e)
    (h : s.visitAll es b = .ok (ps, c)) : Expr.allConstant es = (texts ps).isEmpty := by
  induction es generalizing b ps with
  | nil =>
      rw [visitAll] at h
      obtain ⟨rfl, -⟩ := pure_eq_ok.1 h
      rfl
  | cons e es ih =>
      obtain ⟨q, k, qs, hq, hqs, rfl⟩ := visitAll_cons h
      have hhead := (hes e List.mem_cons_self b q k hq).isConstant_eq
      have htail := ih (fun i hi => hes i (List.mem_cons_of_mem e hi)) hqs
      rw [Expr.allConstant, hhead, htail]
      -- an argument counts as a text exactly when it is no value
      cases q with
      | value v => rfl
      | _ => rfl

/-! ### Methods -/

/-- **A function of a part.** -/
theorem part_function {mth : StringMethod} {args : List Expr} {f : Tree → Tree}
    (hc : t.isConstant = false) (hm : mth.isTest = false)
    (ht : s.Compiles (.operand none) t b sql ns)
    (happ : Applies s.dialect sql ns text f)
    (hden : ∀ a, s.Denotes (.operand none) t a →
      ∀ hint, s.Denotes (.operand hint) (.method mth t args) (f a)) :
    s.Part (.method mth t args) b (.sql text) := by
  obtain ⟨ms, hdelimited, hneutral, hread⟩ := happ
  refine part_of_delimited (by simp [Expr.isConstant, hc]) (by simp [Expr.isBare, hm]) hdelimited
    (.of_neutral (hneutral ht.framed.balanced)) fun hg => ?_
  obtain ⟨a, ha, hda⟩ := ht.reads fun o v hv => hg o v (.inTarget hv)
  exact ⟨f a, hread a (ha.mono (by decide)), hden a hda⟩

/-- **A string match of a part.** -/
theorem part_pattern {mth : StringMethod} {args : List Expr} {before after : String} {vs : List Value}
    (hc : t.isConstant = false) (hm : mth.isTest = true)
    (hpattern : ∀ v : Value, before ++ Text.upper v.toText ++ after = mth.pattern v.toText)
    (ht : s.Compiles (.operand none) t b sql ns) (hargs : s.YieldsAll args (vs.map .value))
    (h : s.like mth sql before after vs m = .ok (text, c)) :
    s.Part (.method mth t args) b (.sql text) := by
  cases vs with
  | nil =>
      rw [like] at h
      exact absurd h fail_ne_ok
  | cons v vs =>
      simp only [like] at h
      obtain ⟨u, k, hu, hpure⟩ := bind_eq_ok.1 h
      obtain ⟨rfl, -⟩ := pure_eq_ok.1 hpure
      rw [hpattern v] at hu
      obtain ⟨ms, x, hs, hself, hneutral, hx⟩ := spells_bind rfl hu
      have hread : ReadsAt Precedence.negation ms (some x) := hx ▸ hself.reads
      have hupper := spells_apply "UPPER" (by decide) ht.spells
      have hfront := neutral_function "UPPER" (by decide) ht.framed.balanced
      have hbehind : Balanced (" LIKE " ++ u).toList :=
        Balanced.text_append (.quiet (by decide)) hneutral.balanced
      have hall : Neutral (s.dialect.upper sql ++ " LIKE " ++ u).toList := by
        rw [String.append_assoc, String.toList_append]
        exact hfront.append hbehind
      have hconst : (Expr.method mth t args).isConstant = false := by
        simp [Expr.isConstant, hc]
      have hbare : (Expr.method mth t args).isBare = true := by
        simp [Expr.isBare, hconst, hm]
      -- the word itself is what leaves the text open
      have hlike : wordNest "LIKE" ∈ [wordNest "UPPER", .group ns] ++ wordNest "LIKE" :: ms := by
        simp
      refine ⟨hconst, _, .of_isBare hbare ⟨_, hlike, by decide⟩, fun hint =>
        ⟨spells_like hupper hs, .of_neutral hall, .bare (isWrapped_of_head hall.head), fun hg => ?_⟩⟩
      obtain ⟨a, ha, hda⟩ := ht.reads fun o w hw => hg o w (.inTarget hw)
      exact ⟨_, (ReadsAt.like (ha.mono (by decide)) hread).mono (by decide),
        .pattern hc hm hargs hda ⟨m, u, k, hu, tree?_of_reads hs hread⟩⟩

/-- **A method of a part.** -/
theorem part_method (hnames : s.BracketFree) {mth : StringMethod} {args : List Expr}
    (ht : s.Visits t) (ha : ∀ e ∈ args, s.Visits e)
    (h : s.visit (.method mth t args) b = .ok (p, c)) : s.Part (.method mth t args) b p := by
  obtain ⟨x, k, ps, m, hx, hps, hstep⟩ := visit_method h
  have htarget := ht b x k hx
  have hconst := allConstant_eq ha hps
  -- no expression yields a list, values give a value, and a text gives a text
  rcases s.method_eq_ok hstep with ⟨items, -, rfl, -⟩ | ⟨v, w, rfl, htexts, hw, rfl, -⟩ |
    ⟨hvalue, htexts, sql, n, text, hsql, htext, rfl⟩
  · cases htarget.1
  · refine ⟨Fold.isScalar_method hw, ?_⟩
    rw [Expr.isConstant, htarget.2, hconst, htexts]
    rfl
  · have hc : t.isConstant = false := by
      rw [htarget.isConstant_eq, hvalue]
      rfl
    have hargs : s.YieldsAll args ((values ps).map .value) := by
      rw [← eq_map_value_of_texts htexts]
      exact ⟨k, m, hps⟩
    obtain ⟨ns, -, hcompiles⟩ := htarget.operand hnames hx hsql
    have hs := hcompiles.spells
    have hfunction {f : Tree → Tree} (happ : Applies s.dialect sql ns text f)
        (hf : s.dialect.functionTree? mth = some f) (hm : mth.isTest = false) :
        s.Part (.method mth t args) b (.sql text) :=
      part_function hc hm hcompiles happ fun a hda hint => .function hc hf hda
    cases mth with
    | trim =>
        obtain ⟨rfl, -⟩ := pure_eq_ok.1 htext
        exact hfunction (applies_trim hs) rfl rfl
    | trimStart =>
        obtain ⟨rfl, -⟩ := pure_eq_ok.1 htext
        exact hfunction (applies_trimStart hs) rfl rfl
    | trimEnd =>
        obtain ⟨rfl, -⟩ := pure_eq_ok.1 htext
        exact hfunction (applies_trimEnd hs) rfl rfl
    | toUpper =>
        obtain ⟨rfl, -⟩ := pure_eq_ok.1 htext
        exact hfunction (applies_apply "UPPER" (by decide) hs) rfl rfl
    | toLower =>
        obtain ⟨rfl, -⟩ := pure_eq_ok.1 htext
        exact hfunction (applies_apply "LOWER" (by decide) hs) rfl rfl
    | startsWith => exact part_pattern hc rfl (fun _ => rfl) hcompiles hargs htext
    | endsWith => exact part_pattern hc rfl (fun _ => rfl) hcompiles hargs htext
    | contains => exact part_pattern hc rfl (fun _ => rfl) hcompiles hargs htext
    | substring =>
        obtain ⟨hsub, -⟩ := outcome_eq_ok.1 htext
        obtain ⟨start, length, hstart, hlength, rfl⟩ := s.substringText_eq_ok hsub
        exact part_function hc rfl hcompiles (applies_substring hs _ _) fun a hda hint =>
          .substring hc hargs hstart hlength hda

/-! ### Memberships -/

/-- **The values of a membership**, with commas between them. -/
theorem exists_bindAll {hint : Option FieldType} {vs : List Value} {ts : List String}
    (hvs : ∀ v ∈ vs, v.isScalar = true) (h : s.bindAll hint vs b = .ok (ts, c)) :
    ∃ nss xs, List.Forall₂ (Spells s.dialect) ts nss ∧ (∀ t ∈ ts, Balanced t.toList) ∧
      List.Forall₂ (fun ns x => ReadsAt Precedence.word ns (some x)) nss xs ∧
        List.Forall₂ (s.Written hint) vs xs := by
  induction vs generalizing b ts with
  | nil =>
      obtain ⟨rfl, -⟩ := pure_eq_ok.1 h
      exact ⟨[], [], .nil, by simp, .nil, .nil⟩
  | cons v vs ih =>
      rw [bindAll] at h
      obtain ⟨u, m, hu, hrest⟩ := bind_eq_ok.1 h
      obtain ⟨us, n, hus, hpure⟩ := bind_eq_ok.1 hrest
      obtain ⟨rfl, rfl⟩ := pure_eq_ok.1 hpure
      obtain ⟨ns, x, hs, hself, hneutral, hx⟩ := spells_bind (hvs v List.mem_cons_self) hu
      have hread : ReadsAt Precedence.negation ns (some x) := hx ▸ hself.reads
      obtain ⟨nss, xs, hspells, hbal, hreads, hwritten⟩ :=
        ih (fun w hw => hvs w (List.mem_cons_of_mem v hw)) hus
      refine ⟨ns :: nss, x :: xs, .cons hs hspells, ?_, .cons (hread.mono (by decide)) hreads,
        .cons ⟨b, u, m, hu, tree?_of_reads hs hread⟩ hwritten⟩
      intro t ht
      rcases List.mem_cons.1 ht with rfl | ht
      · exact hneutral.balanced
      · exact hbal t ht

/-- **A membership in the values of a list.** -/
theorem reads_membership {hint : Option FieldType} {v : Value}
    (h : s.membership sql hint v b = .ok (text, c)) :
    ∃ u ms xs, text = sql ++ " IN (" ++ u ++ ")" ∧ Spells s.dialect u ms ∧ Balanced u.toList ∧
      sqlGrammar.read ms = some (Tree.items xs) ∧
        List.Forall₂ (fun w x => s.Written hint (coerce hint w) x) v.flatten xs := by
  rcases s.membership_eq_ok h with ⟨hitems, rfl, -⟩ | ⟨hitems, ts, hts, rfl⟩
  · -- a list without values is written as `NULL`
    have hnull : Spells s.dialect "NULL" [wordNest "NULL"] := .word (by decide)
    have hread : ReadsAt Precedence.operand [wordNest "NULL"] (some .null) := .leaf (by decide)
    exact ⟨"NULL", _, [], rfl, hnull, .quiet (by decide), hread.read_eq, hitems ▸ .nil⟩
  · -- each value is written in the form that its column stores, which is no list either
    have hcoerced : ∀ x ∈ v.flatten.map (coerce hint), x.isScalar = true := by
      intro x hx
      obtain ⟨y, hy, rfl⟩ := List.mem_map.1 hx
      exact Value.isScalar_coerce (Value.isScalar_of_mem_flatten hy)
    obtain ⟨nss, xs, hspells, hbal, hreads, hwritten⟩ := exists_bindAll hcoerced hts
    have hne : nss ≠ [] := by
      rintro rfl
      cases hreads
      exact hitems (List.map_eq_nil_iff.1 (List.forall₂_nil_right_iff.1 hwritten))
    refine ⟨_, _, xs, rfl, spells_items hspells, balanced_items hbal, ?_, ?_⟩
    · exact (ReadsAt.items hreads hne).read_eq
    · exact List.forall₂_map_left_iff.1 hwritten

/-- **A part before `IN`** and what stands in the parentheses behind it. -/
theorem part_in {o : Expr} {d : Bindings} {u : String} {ms : List Nest}
    (hc : e.isConstant = false) (hb : e.isBare = true) (hd : o.Delimits ns)
    (ho : s.Compiles (.operand none) o d sql ns) (hs : Spells s.dialect u ms)
    (hbal : Balanced u.toList)
    (hg : s.Guarded e b → o.isBare = false ∧ s.Guarded o d)
    (hread : s.Guarded e b → ∃ x, sqlGrammar.read ms = some x ∧
      ∀ a, s.Denotes (.operand none) o a → ∀ hint, s.Denotes (.operand hint) e (.member a x)) :
    s.Part e b (.sql (sql ++ " IN (" ++ u ++ ")")) := by
  have htext : sql ++ " IN (" ++ u ++ ")" = sql ++ (" IN " ++ ("(" ++ u ++ ")")) := by
    have hsplit : " IN (" = " IN " ++ "(" := by decide
    simp only [hsplit, String.append_assoc]
  have hbehind : Balanced (" IN " ++ ("(" ++ u ++ ")")).toList :=
    Balanced.text_append (.quiet (by decide)) hbal.text_group
  have hframed : Framed (sql ++ " IN (" ++ u ++ ")").toList := by
    rw [htext, String.toList_append]
    exact ho.framed.append hbehind
  -- behind the first group there is more, so that no pair of parentheses encloses all
  have hbare : isWrapped (sql ++ " IN (" ++ u ++ ")").toList = false := by
    rw [htext, String.toList_append]
    exact ho.framed.isWrapped_append (by simp)
  have hin : wordNest "IN" ∈ ns ++ wordNest "IN" :: [.group ms] := by simp
  refine ⟨hc, _, .of_isBare hb ⟨_, hin, by decide⟩, fun hint =>
    ⟨spells_in ho.spells hs, hframed, .bare hbare, fun hguard => ?_⟩⟩
  obtain ⟨hnot, hgo⟩ := hg hguard
  obtain ⟨a, ha, hda⟩ := ho.operand_reads hd hnot hgo
  obtain ⟨x, hx, hden⟩ := hread hguard
  exact ⟨_, (ReadsAt.member (ha.mono (by decide)) hx).mono (by decide), hden a hda hint⟩

/-- **Whether a list of values has a part.** -/
theorem part_element (hnames : s.BracketFree) {items : List Value} (he : s.Visits e)
    (h : s.visit (.method .contains (.value (.list items)) [e]) b = .ok (p, c)) :
    s.Part (.method .contains (.value (.list items)) [e]) b p := by
  obtain ⟨q, k, hq, hcontains⟩ := visit_element h
  have hpart := he b q k hq
  have hconst : (Expr.method .contains (.value (.list items)) [e]).isConstant = q.value?.isSome := by
    simp [Expr.isConstant, Expr.allConstant, hpart.isConstant_eq]
  rcases s.collectionContains_eq_ok hcontains with ⟨a, rfl, hlast, -⟩ |
    ⟨r, sql, n, text, hlast, hsql, hmember, rfl⟩
  · cases q with
    | value v => exact ⟨rfl, hconst⟩
    | sql u => cases hlast
    | column u type => cases hlast
  · have hvalue : q.value? = none ∧ r = q := by
      cases q with
      | value v => cases hlast
      | sql u => exact ⟨rfl, (Option.some.inj hlast).symm⟩
      | column u type => exact ⟨rfl, (Option.some.inj hlast).symm⟩
    obtain ⟨hnone, rfl⟩ := hvalue
    obtain ⟨ns, hd, hcompiles⟩ := hpart.operand hnames hq hsql
    obtain ⟨u, ms, xs, rfl, hs, hbal, hread, hwritten⟩ := reads_membership hmember
    have hnot : e.isConstant = false := by
      rw [hpart.isConstant_eq, hnone]
      rfl
    have hc : (Expr.method .contains (.value (.list items)) [e]).isConstant = false := by
      rw [hconst, hnone]
      rfl
    have hbare : (Expr.method .contains (.value (.list items)) [e]).isBare = true := by
      simp [Expr.isBare, hc, StringMethod.isTest]
    exact part_in hc hbare hd hcompiles hs hbal
      (fun hg => ⟨hg e sql (.element hq hnone hsql), fun o w hw => hg o w (.inElement hw)⟩)
      fun _ => ⟨_, hread, fun a hda hint => .element hnot ⟨_, _, hq⟩ hda hwritten⟩

/-! ### Lists of expressions -/

/-- **Parts with commas between them**, each with what guards it: the list is read when all the bindings
that its items are visited in guard them. -/
theorem exists_operands (hnames : s.BracketFree) {es : List Expr} {ps : List Fragment}
    {ts : List String} (hes : ∀ e ∈ es, s.Visits e) (hv : s.visitAll es b = .ok (ps, k))
    (h : s.operands ps m = .ok (ts, c)) :
    ∃ nss, List.Forall₂ (Spells s.dialect) ts nss ∧ (∀ t ∈ ts, Balanced t.toList) ∧
      ((∀ front e back qs j, es = front ++ e :: back → s.visitAll front b = .ok (qs, j) →
        s.Guarded e j) →
      ∃ xs, List.Forall₂ (fun ns x => ReadsAt Precedence.word ns (some x)) nss xs ∧
        List.Forall₂ (s.Denotes (.operand none)) es xs) := by
  -- what has been visited before an item is put in front of `front` for those behind it
  induction es generalizing b ps m ts with
  | nil =>
      rw [visitAll] at hv
      obtain ⟨rfl, -⟩ := pure_eq_ok.1 hv
      obtain ⟨rfl, -⟩ := pure_eq_ok.1 h
      exact ⟨[], .nil, by simp, fun _ => ⟨[], .nil, .nil⟩⟩
  | cons e es ih =>
      obtain ⟨p, i, qs, hp, hqs, rfl⟩ := visitAll_cons hv
      rw [operands] at h
      obtain ⟨u, n, hu, htail⟩ := bind_eq_ok.1 h
      obtain ⟨us, l, hus, hcons⟩ := bind_eq_ok.1 htail
      obtain ⟨rfl, rfl⟩ := pure_eq_ok.1 hcons
      obtain ⟨ns, -, hcompiles⟩ := (hes e List.mem_cons_self b p i hp).operand hnames hp hu
      obtain ⟨nss, hspells, hbal, hread⟩ := ih (fun w hw => hes w (List.mem_cons_of_mem e hw)) hqs hus
      refine ⟨ns :: nss, .cons hcompiles.spells hspells, ?_, fun hg => ?_⟩
      · intro t ht
        rcases List.mem_cons.1 ht with rfl | ht
        · exact hcompiles.framed.balanced
        · exact hbal t ht
      · obtain ⟨a, ha, hda⟩ := hcompiles.reads (hg [] e es [] b rfl rfl)
        obtain ⟨xs, hxs, hdxs⟩ := hread fun front o back rs g heq hrs => by
          refine hg (e :: front) o back (p :: rs) g (by rw [heq]; rfl) ?_
          rw [visitAll]
          exact bind_eq_ok.2 ⟨p, i, hp, bind_eq_ok.2 ⟨rs, g, hrs, rfl⟩⟩
        exact ⟨a :: xs, .cons (ha.mono (by decide)) hxs, .cons hda hdxs⟩

/-- **A membership of a part**, where the list may be anything that is read as the list of the
membership. -/
theorem part_inList (hnames : s.BracketFree) {v : Expr} (he : s.Visits e)
    (hlist : ∀ {x : Fragment} {k m n j : Bindings} {sql u : String} {q : Fragment},
      s.visit e b = .ok (x, k) → s.operand none x k = .ok (sql, m) → s.visit v m = .ok (q, n) →
      q.value? = none → s.operand none q n = .ok (u, j) →
      ∃ ms, Spells s.dialect u ms ∧ Balanced u.toList ∧
        (s.Guarded (.inList e v) b → ∃ x, sqlGrammar.read ms = some x ∧
          ∀ a, s.Denotes (.operand none) e a →
            ∀ hint, s.Denotes (.operand hint) (.inList e v) (.member a x)))
    (h : s.visit (.inList e v) b = .ok (p, c)) : s.Part (.inList e v) b p := by
  obtain ⟨x, k, sql, m, q, n, hx, hsql, hq, hstep⟩ := visit_inList h
  obtain ⟨ns, hd, hcompiles⟩ := (he b x k hx).operand hnames hx hsql
  have hguard (hg : s.Guarded (.inList e v) b) : e.isBare = false ∧ s.Guarded e b :=
    ⟨hg e sql (.member hx hsql), fun o w hw => hg o w (.inMember hw)⟩
  rcases hstep with ⟨w, text, rfl, htext, rfl⟩ | ⟨hvalue, u, hu, rfl⟩
  · obtain ⟨u, ms, xs, rfl, hs, hbal, hread, hwritten⟩ := reads_membership htext
    exact part_in rfl rfl hd hcompiles hs hbal hguard fun _ =>
      ⟨_, hread, fun a hda hint => .member ⟨b, k, hx⟩ hda ⟨m, n, hq⟩ hwritten⟩
  · obtain ⟨ms, hs, hbal, hread⟩ := hlist hx hsql hq hvalue hu
    exact part_in rfl rfl hd hcompiles hs hbal hguard hread

/-- A membership in a value. -/
theorem part_member (hnames : s.BracketFree) {v : Value} (he : s.Visits e)
    (h : s.visit (.inList e (.value v)) b = .ok (p, c)) : s.Part (.inList e (.value v)) b p := by
  refine part_inList hnames he (fun _ _ hq hvalue _ => ?_) h
  obtain ⟨rfl, -⟩ := visit_value hq
  cases hvalue

/-- **A membership in an expression.** -/
theorem part_memberIn (hnames : s.BracketFree) {v : Expr} (he : s.Visits e) (hv : s.Visits v)
    (h : s.visit (.inList e v) b = .ok (p, c)) : s.Part (.inList e v) b p := by
  refine part_inList hnames he (fun {_ _ m n _ _ _ q} hx hsql hq hvalue hu => ?_) h
  have hpart := hv m q n hq
  obtain ⟨ms, -, hcompiles⟩ := hpart.operand hnames hq hu
  refine ⟨ms, hcompiles.spells, hcompiles.framed.balanced, fun hg => ?_⟩
  obtain ⟨x, hread, hden⟩ := hcompiles.reads fun o w hw => hg o w (.inList hx hsql hw)
  have hc : v.isConstant = false := by
    rw [hpart.isConstant_eq, hvalue]
    rfl
  exact ⟨x, hread.read_eq, fun a hda hint => .memberIn hc hda hden⟩

/-- **A membership in a list of expressions.** -/
theorem part_memberOf (hnames : s.BracketFree) {items : List Expr} (he : s.Visits e)
    (hi : ∀ i ∈ items, s.Visits i) (h : s.visit (.inList e (.list items)) b = .ok (p, c)) :
    s.Part (.inList e (.list items)) b p := by
  refine part_inList hnames he (fun {_ _ m n _ _ u q} hx hsql hq hvalue hu => ?_) h
  rw [visit] at hq
  obtain ⟨ps, i, hps, hlist⟩ := bind_eq_ok.1 hq
  have hconst := allConstant_eq hi hps
  -- a list of values alone would be a value
  unfold listOf at hlist
  split at hlist
  · obtain ⟨rfl, -⟩ := pure_eq_ok.1 hlist
    cases hvalue
  · rename_i hall
    obtain ⟨ts, j, hts, hpure⟩ := bind_eq_ok.1 hlist
    obtain ⟨rfl, -⟩ := pure_eq_ok.1 hpure
    obtain ⟨rfl, -⟩ := pure_eq_ok.1 hu
    have hc : Expr.allConstant items = false := by
      rw [hconst, ← Bool.not_eq_true]
      intro hempty
      apply hall
      rw [List.isEmpty_iff] at hempty
      rw [eq_map_value_of_texts hempty]
      simp [Fragment.value?]
    obtain ⟨nss, hspells, hbal, hread⟩ := exists_operands hnames hi hps hts
    refine ⟨_, spells_items hspells, balanced_items hbal, fun hg => ?_⟩
    obtain ⟨xs, hxs, hdxs⟩ := hread fun front o back qs g heq hqs r w hw => by
      subst heq
      exact hg r w (.inItems hx hsql hqs hw)
    have hne : nss ≠ [] := by
      rintro rfl
      cases hxs
      cases hdxs
      cases hc
    exact ⟨_, (ReadsAt.items hxs hne).read_eq, fun a hda hint => .memberOf hc hda hdxs⟩

/-! ### All expressions -/

/-- **What every expression yields.** -/
theorem visits (hnames : s.BracketFree) (he : e.IsScalar) : s.Visits e := by
  induction he with
  | column name =>
      intro b p c h
      obtain ⟨f, hf, rfl, -⟩ := visit_column h
      exact ⟨name, f, rfl, hf, rfl, rfl⟩
  | value hv =>
      intro b p c h
      obtain ⟨rfl, -⟩ := visit_value h
      exact ⟨hv, rfl⟩
  | binary hop _ _ ihl ihr => exact fun b p c h => part_binary hnames hop ihl ihr h
  | unary op _ ih => exact fun b p c h => part_unary hnames ih h
  | method m _ _ iht iha => exact fun b p c h => part_method hnames iht iha h
  | element items _ ih => exact fun b p c h => part_element hnames ih h
  | member _ v ih => exact fun b p c h => part_member hnames ih h
  | memberOf _ _ iht ihi => exact fun b p c h => part_memberOf hnames iht ihi h
  | memberIn _ _ iht ihe => exact fun b p c h => part_memberIn hnames iht ihe h

/-! ### Conditions -/

/-- The operand of a part is closed exactly when its expression is not bare. -/
theorem isOperand_of_operand (hnames : s.BracketFree) (he : e.IsScalar)
    (hv : s.visit e b = .ok (p, k)) {hint : Option FieldType}
    (h : s.operand hint p m = .ok (text, c)) : s.dialect.IsOperand text ↔ e.isBare = false := by
  obtain ⟨ns, hd, hcompiles⟩ := (visits hnames he b p k hv).operand hnames hv h
  exact hd.isOperand_iff hcompiles.spells

/-- **An operand beside an infix operator is closed exactly when it is not bare.** -/
theorem isOperand_iff (hnames : s.BracketFree) {o : Expr} (he : e.IsScalar)
    (h : s.Beside e b o text) : s.dialect.IsOperand text ↔ o.isBare = false := by
  -- either the operator is that of the expression, or it is further inside
  induction h with
  | left hl hr hop h =>
      cases he with
      | binary hbits hsl hsr =>
          obtain ⟨i, ht, -⟩ := s.operandPair_eq_ok h
          exact isOperand_of_operand hnames hsl hl ht
  | right hl hr hop h =>
      cases he with
      | binary hbits hsl hsr =>
          obtain ⟨i, -, hu⟩ := s.operandPair_eq_ok h
          exact isOperand_of_operand hnames hsr hr hu
  | leftTested hl hr hvalue hop h =>
      cases he with
      | binary hbits hsl hsr => exact isOperand_of_operand hnames hsl hl h
  | rightTested hl hr hvalue hop h =>
      cases he with
      | binary hbits hsl hsr => exact isOperand_of_operand hnames hsr hr h
  | member hv h =>
      cases he with
      | member hs | memberOf hs | memberIn hs => exact isOperand_of_operand hnames hs hv h
  | element hv hvalue h =>
      cases he with
      | method m ht ha => exact isOperand_of_operand hnames (ha _ (by simp)) hv h
      | element items hs => exact isOperand_of_operand hnames hs hv h
  | inLeft _ ih =>
      cases he with
      | binary hbits hsl hsr => exact ih hsl
  | inRight _ _ ih =>
      cases he with
      | binary hbits hsl hsr => exact ih hsr
  | inUnary _ ih =>
      cases he with
      | unary op hs => exact ih hs
  | inTarget h ih =>
      cases he with
      | method m ht ha => exact ih ht
      | element items hs => cases h
  | inElement _ ih =>
      cases he with
      | method m ht ha => exact ih (ha _ (by simp))
      | element items hs => exact ih hs
  | inMember _ ih =>
      cases he with
      | member hs | memberOf hs | memberIn hs => exact ih hs
  | inList _ _ h ih =>
      cases he with
      | member hs => cases h
      | memberOf hs hi => cases h
      | memberIn hs hv => exact ih hv
  | inItems _ _ _ _ ih =>
      cases he with
      | memberOf hs hi => exact ih (hi _ (by simp))
      | memberIn hs hv => cases hv

/-- **A condition is read as its tree** when no bare operand stands beside an infix operator. -/
theorem tree?_of_guarded (hnames : s.BracketFree) (he : e.IsScalar)
    (h : s.predicate e b = .ok (text, c)) (hg : s.Guarded e b) :
    ∃ a, s.dialect.tree? text = some a ∧ s.Denotes .condition e a := by
  obtain ⟨p, k, hv, hrest⟩ := bind_eq_ok.1 h
  obtain ⟨u, m, hu, hpure⟩ := bind_eq_ok.1 hrest
  obtain ⟨rfl, -⟩ := pure_eq_ok.1 hpure
  obtain ⟨ns, hs, -, henc, hread⟩ := (visits hnames he b p k hv).condition hnames hv hu
  obtain ⟨a, ha, hden⟩ := hread hg
  obtain ⟨ms, hms, hsame⟩ := henc.strip hs fun ms => (ReadsAt.group ms).read_eq
  refine ⟨a, ?_, hden⟩
  rw [Dialect.tree?, Grammar.readText_of_spells _ hms, hsame, ha.read_eq]
  rfl

/-- **Operands are closed, and the condition is read as its tree, exactly when no inversion, membership or
string match stands beside an infix operator**, or before `IS` or `IN`, as an operand of it. -/
theorem predicate_tree_iff (hnames : s.BracketFree) (he : e.IsScalar)
    (h : s.predicate e b = .ok (text, c)) :
    ((∀ o u, s.Beside e b o u → s.dialect.IsOperand u) ∧
      ∃ a, s.dialect.tree? text = some a ∧ s.Denotes .condition e a) ↔
        ∀ o u, s.Beside e b o u → o.isBare = false := by
  constructor
  · rintro ⟨hall, -⟩ o u hu
    exact (isOperand_iff hnames he hu).1 (hall o u hu)
  · intro hg
    exact ⟨fun o u hu => (isOperand_iff hnames he hu).2 (hg o u hu),
      tree?_of_guarded hnames he h hg⟩

/-- The condition `Not Flag And (Age + 1) In (2, 3)`. -/
theorem predicate_tree_iff_sum :
    let s : Scope := ⟨DialectKind.sqlite.dialect, Query.people, false, false⟩
    let e := Expr.binary .and (.unary .not (.column "Flag"))
      (.inList (.binary .add (.column "Age") (.value (.int 1))) (.value (.list [.int 2, .int 3])))
    ∃ text c, s.BracketFree ∧ e.IsScalar ∧ s.predicate e ⟨⟨[]⟩, 0⟩ = .ok (text, c) ∧
      text = "NOT (\"Flag\" = 1) AND (\"Age\" + 1) IN (2,3)" ∧
      (∀ o u, s.Beside e ⟨⟨[]⟩, 0⟩ o u → o.isBare = false) ∧
      (∀ o u, s.Beside e ⟨⟨[]⟩, 0⟩ o u → s.dialect.IsOperand u) ∧
      ∃ a, s.dialect.tree? text = some a ∧ s.Denotes .condition e a := by
  intro s e
  have hnames : s.BracketFree := fun hk => nomatch hk
  have he : e.IsScalar := .binary rfl (.unary .not (.column "Flag"))
    (.member (.binary rfl (.column "Age") (.value rfl)) _)
  have hguard : ∀ o u, s.Beside e ⟨⟨[]⟩, 0⟩ o u → o.isBare = false := by
    intro o u h
    change s.Beside (.binary _ _ _) _ _ _ at h
    cases h with
    | left hl hr hop h | right hl hr hop h => simp [isInfix, BinaryOp.isLogical] at hop
    | leftTested hl hr hvalue hop h | rightTested hl hr hvalue hop h => cases hop
    | inLeft h =>
        cases h with
        | inUnary h => cases h
    | inRight hl h =>
        cases h with
        | member hs h => rfl
        | inMember h =>
            cases h with
            | inLeft h => cases h
            | inRight hl h => cases h
            | _ => rfl
        | inList hs hu h => cases h
  exact ⟨_, _, hnames, he, rfl, by decide, hguard, (predicate_tree_iff hnames he rfl).2 hguard⟩

/-- **An inversion is not closed**: the text of the test whether `Not Flag` is null is read as the inversion
of the test whether `Flag` is null. -/
theorem predicate_inverted_null :
    let s : Scope := ⟨DialectKind.sqlite.dialect, Query.people, false, false⟩
    let e := Expr.isNullTest (.unary .not (.column "Flag"))
    let flag := Tree.infixed (.leaf (.name "Flag".toList)) (.ofSign "=") (.leaf (.number ['1']))
    let text := "NOT (\"Flag\" = 1) IS NULL"
    e.IsScalar ∧ (∃ c, s.predicate e ⟨⟨[]⟩, 0⟩ = .ok (text, c)) ∧
      (∃ u, s.Beside e ⟨⟨[]⟩, 0⟩ (.unary .not (.column "Flag")) u ∧ ¬ s.dialect.IsOperand u) ∧
      s.dialect.tree? text = some (.prefixed (.ofWord "not") (.nullTest .eq flag)) ∧
      ¬ ∃ a, s.dialect.tree? text = some a ∧ s.Denotes .condition e a := by
  intro s e flag text
  have hnames : s.BracketFree := fun hk => nomatch hk
  have he : e.IsScalar := .binary rfl (.unary .not (.column "Flag")) (.value rfl)
  have hpred : ∃ c, s.predicate e ⟨⟨[]⟩, 0⟩ = .ok (text, c) := by
    obtain ⟨u, c, hu, rfl⟩ : ∃ u c, s.predicate e ⟨⟨[]⟩, 0⟩ = .ok (u, c) ∧ u = text :=
      ⟨_, _, rfl, by decide⟩
    exact ⟨c, hu⟩
  have hbeside : s.Beside e ⟨⟨[]⟩, 0⟩ (.unary .not (.column "Flag")) _ :=
    .leftTested rfl rfl rfl rfl rfl
  have hread : s.dialect.tree? text =
      some (.prefixed (.ofWord "not") (.nullTest .eq flag)) := by
    decide +kernel
  refine ⟨he, hpred, ⟨_, hbeside, fun h => nomatch (isOperand_iff hnames he hbeside).1 h⟩, hread, ?_⟩
  rintro ⟨a, ha, hden⟩
  rw [hread, Option.some.injEq] at ha
  subst ha
  change s.Denotes _ (.binary _ _ _) _ at hden
  generalize htree : Tree.prefixed _ _ = x at hden
  -- no tree of the expression has the inversion on top
  cases hden with
  | constant hy => cases htree
  | unknown hy => cases htree
  | plain hy hp hx =>
      cases hx with
      | value hy hw =>
          obtain ⟨b, c, hv⟩ := hy
          cases hv
      | operator hc hl hr hop hnull ha hb => cases htree
      | nullTest hc hl hr hnull ha => cases htree
      | connected hc hop ha hb => cases htree

end Scope

end ModelSql
