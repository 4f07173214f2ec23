/-
**The placeholders of expressions.**

While an expression is visited, values are bound under the next numbers, and what stands for them becomes
part of the text, with one exception: of the arguments of a search of a list only the last one is written.
What is bound for the others stays bound, and no placeholder refers to it.

Main definitions:

* `Expr.isSingle` — the expressions without searches of lists for several arguments;
* `Fragment.Cites` — the placeholders of a part;
* `Accounts`, `Scope.Accounted` — the placeholders of a part, next to what has been bound for it.

Main results:

* `Scope.cites_bind`, `Scope.cites_operand`, … — **what one step writes**: the placeholders of its parts,
  and of what it binds;
* `Scope.cites_visit` — the placeholders of an expression are among those bound for it, and are all of
  them unless an argument is dropped;
* `Scope.mentions_projection`, `Scope.mentions_predicate`, `Scope.mentions_sortKeys` — so are those of
  **the texts that clauses are made of**.
-/

import Mathlib.Order.Interval.Set.Basic
import ModelSql.Proofs.Query.Computed
import ModelSql.Proofs.Syntax.Parameter

set_option relaxedAutoImplicit false
set_option autoImplicit false

namespace ModelSql

/-! ### Numbers -/

/-- The numbers of what a step binds. -/
def Bindings.upTo (b c : Bindings) : Set Nat := Set.Ico b.counter c.counter

@[simp] theorem Bindings.upTo_self (b : Bindings) : b.upTo b = ∅ := Set.Ico_self b.counter

/-- A step binds nothing under numbers that it has passed. -/
theorem Binds.counter_le {α : Type} {d : Dialect} {on : Bool} {f : Compile α} (h : Binds d on f)
    {b c : Bindings} {a : α} (hf : f b = .ok (a, c)) : b.counter ≤ c.counter := by
  obtain ⟨vs, -, rfl⟩ := h.ok b a c hf
  exact Nat.le_add_right _ _

/-- The numbers of one step, and of the next one. -/
theorem Bindings.upTo_union {b m c : Bindings} (h : b.counter ≤ m.counter)
    (h' : m.counter ≤ c.counter) : b.upTo m ∪ m.upTo c = b.upTo c := by
  ext n
  simp only [upTo, Set.mem_union, Set.mem_Ico]
  omega

/-- The union of some sets of numbers. -/
def gathered : List (Set Nat) → Set Nat
  | [] => ∅
  | P :: Ps => P ∪ gathered Ps

/-! ### Parts -/

/-- The placeholders of a part; a value has none yet. -/
def Fragment.Cites (d : Dialect) (P : Set Nat) : Fragment → Prop
  | .value _ => P = ∅
  | .sql t | .column t _ => ModelSql.Cites d t P

namespace Scope

variable {s : Scope} {b c : Bindings} {t : String} {p q r : Fragment} {P Q : Set Nat}

theorem cites_literal_and (d : Dialect) (hint : Option FieldType) :
    (∀ v t, d.literal hint v = .ok t → Cites d t ∅) ∧
      ∀ vs ts, d.literals hint vs = .ok ts → ∀ t ∈ ts, Cites d t ∅ := by
  refine Literal.forms_and .form (fun {ts} h => ?_) hint
  induction ts with
  | nil => exact .empty
  | cons t ts ih =>
      exact ((h t List.mem_cons_self).joinCons (ih fun u hu => h u (List.mem_cons_of_mem t hu))).of_eq
        (Set.union_self ∅)

theorem cites_bindParameter_and (hint : Option FieldType) :
    (∀ v b t c, s.bindParameter hint v b = .ok (t, c) → Cites s.dialect t (b.upTo c)) ∧
      ∀ vs b ts c, s.bindParameters hint vs b = .ok (ts, c) →
        Cites s.dialect (Text.joinWith "," ts) (b.upTo c) := by
  apply Scope.bindParameter.mutual_induct
  case case1 =>
      intro b t c h
      rw [bindParameter] at h
      obtain ⟨hlit, rfl⟩ := outcome_eq_ok.1 h
      rw [Bindings.upTo_self]
      exact (cites_literal_and s.dialect hint).1 _ t hlit
  case case2 =>
      intro items ih b t c h
      rw [bindParameter] at h
      obtain ⟨ts, m, hts, hpure⟩ := bind_eq_ok.1 h
      obtain ⟨rfl, rfl⟩ := pure_eq_ok.1 hpure
      exact ih b ts c hts
  case case3 =>
      intro v hn hl b t c h
      rw [bindParameter] at h
      · simp only [placeholder, Except.ok.injEq, Prod.mk.injEq] at h
        obtain ⟨rfl, rfl⟩ := h
        refine (Cites.placeholder b.counter).of_eq ?_
        ext n
        simp only [Bindings.upTo, Set.mem_singleton_iff, Set.mem_Ico]
        omega
      all_goals assumption
  case case4 =>
      intro b ts c h
      rw [bindParameters] at h
      obtain ⟨rfl, rfl⟩ := pure_eq_ok.1 h
      rw [Bindings.upTo_self]
      exact .empty
  case case5 =>
      intro v vs ih ihs b ts c h
      rw [bindParameters] at h
      obtain ⟨t, m, ht, hrest⟩ := bind_eq_ok.1 h
      obtain ⟨us, n, hus, hpure⟩ := bind_eq_ok.1 hrest
      obtain ⟨rfl, rfl⟩ := pure_eq_ok.1 hpure
      refine ((ih b t m ht).joinCons (ihs m us _ hus)).of_eq (Bindings.upTo_union ?_ ?_)
      · exact ((s.binds_bindParameter_and hint).1 v).counter_le ht
      · exact ((s.binds_bindParameter_and hint).2 vs).counter_le hus

/-- **A value has the placeholders of what is bound for it.** -/
theorem cites_bind {hint : Option FieldType} {v : Value} (h : s.bind hint v b = .ok (t, c)) :
    Cites s.dialect t (b.upTo c) := by
  unfold bind at h
  split at h
  · exact (cites_bindParameter_and hint).1 v b t c h
  · obtain ⟨hlit, rfl⟩ := outcome_eq_ok.1 h
    rw [Bindings.upTo_self]
    exact (cites_literal_and s.dialect hint).1 v t hlit

theorem cites_bindAll {hint : Option FieldType} {vs : List Value} {ts : List String}
    (h : s.bindAll hint vs b = .ok (ts, c)) : Cites s.dialect (Text.joinWith "," ts) (b.upTo c) := by
  induction vs generalizing b ts with
  | nil =>
      obtain ⟨rfl, rfl⟩ := pure_eq_ok.1 h
      rw [Bindings.upTo_self]
      exact .empty
  | cons v vs ih =>
      obtain ⟨t, m, ht, hrest⟩ := bind_eq_ok.1 h
      obtain ⟨us, n, hus, hpure⟩ := bind_eq_ok.1 hrest
      obtain ⟨rfl, rfl⟩ := pure_eq_ok.1 hpure
      exact ((cites_bind ht).joinCons (ih hus)).of_eq (Bindings.upTo_union
        ((s.binds_bind hint v).counter_le ht) ((s.binds_bindAll hint vs).counter_le hus))

/-- **An operand has the placeholders of its part**, and of what is bound for it. -/
theorem cites_operand {hint : Option FieldType} (hp : p.Cites s.dialect P)
    (h : s.operand hint p b = .ok (t, c)) : Cites s.dialect t (P ∪ b.upTo c) := by
  cases p with
  | value v =>
      have hnone : P = ∅ := hp
      rw [hnone, Set.empty_union]
      exact cites_bind h
  | sql u | column u type =>
      obtain ⟨rfl, rfl⟩ := pure_eq_ok.1 h
      rw [Bindings.upTo_self, Set.union_empty]
      exact hp

theorem cites_operands {ps : List Fragment} {Ps : List (Set Nat)} {ts : List String}
    (hp : List.Forall₂ (Fragment.Cites s.dialect) Ps ps) (h : s.operands ps b = .ok (ts, c)) :
    Cites s.dialect (Text.joinWith "," ts) (gathered Ps ∪ b.upTo c) := by
  induction hp generalizing b ts with
  | nil =>
      obtain ⟨rfl, rfl⟩ := pure_eq_ok.1 h
      rw [Bindings.upTo_self, Set.union_empty]
      exact .empty
  | @cons P p Ps ps hp _ ih =>
      obtain ⟨t, m, ht, hrest⟩ := bind_eq_ok.1 h
      obtain ⟨us, n, hus, hpure⟩ := bind_eq_ok.1 hrest
      obtain ⟨rfl, rfl⟩ := pure_eq_ok.1 hpure
      refine ((cites_operand hp ht).joinCons (ih hus)).of_eq ?_
      rw [gathered, Set.union_union_union_comm, Bindings.upTo_union
        ((s.binds_operand none p).counter_le ht) ((s.binds_operands ps).counter_le hus)]

theorem cites_condition (hp : p.Cites s.dialect P) (h : s.condition p b = .ok (t, c)) :
    Cites s.dialect t (P ∪ b.upTo c) := by
  have hconstant {x : Bool} (hP : P = ∅) (hr : (pure (if x then "1=1" else "1=0") : Compile String) b =
      .ok (t, c)) : Cites s.dialect t (P ∪ b.upTo c) := by
    obtain ⟨rfl, rfl⟩ := pure_eq_ok.1 hr
    rw [hP, Bindings.upTo_self, Set.union_self]
    exact .truth x
  unfold condition at h
  split at h
  · exact hconstant hp h
  · exact hconstant (x := false) hp h
  · obtain ⟨u, m, hu, hpure⟩ := bind_eq_ok.1 h
    obtain ⟨rfl, rfl⟩ := pure_eq_ok.1 hpure
    exact Cites.equal hp (cites_bind hu)
  · exact cites_operand hp h

/-! ### Operators -/

theorem cites_binaryText {op : BinaryOp} (hp : p.Cites s.dialect P) (hq : q.Cites s.dialect Q)
    (h : s.binaryText op p q b = .ok (t, c)) : Cites s.dialect t (P ∪ Q ∪ b.upTo c) := by
  have hnull {x : Fragment} (hx : x.isNull = true) {R : Set Nat} (hR : x.Cites s.dialect R) : R = ∅ := by
    cases x with
    | value v => exact hR
    | sql u | column u type => cases hx
  unfold binaryText at h
  split at h
  · rename_i hlogical
    obtain ⟨l, m, hl, hrest⟩ := bind_eq_ok.1 h
    obtain ⟨r, n, hr, hpure⟩ := bind_eq_ok.1 hrest
    obtain ⟨rfl, rfl⟩ := pure_eq_ok.1 hpure
    refine ((cites_condition hp hl).logical (cites_condition hq hr) hlogical).of_eq ?_
    rw [Set.union_union_union_comm, Bindings.upTo_union ((s.binds_condition p).counter_le hl)
      ((s.binds_condition q).counter_le hr)]
  · rename_i hlogical
    split at h
    · rename_i htest
      -- the part that is null has no placeholders, and is not written
      obtain ⟨u, hu, rfl⟩ := s.nullTest_eq_ok h
      by_cases hl : p.isNull = true
      · rw [if_pos hl] at hu
        rw [hnull hl hp, Set.empty_union]
        exact .nullTest op (cites_operand hq hu)
      · rw [if_neg hl] at hu
        have hr : q.isNull = true := by
          simpa [hl] using htest.2
        rw [hnull hr hq, Set.union_empty]
        exact .nullTest op (cites_operand hp hu)
    · obtain ⟨⟨l, r⟩, m, hlr, hpure⟩ := bind_eq_ok.1 h
      obtain ⟨ht, rfl⟩ := pure_eq_ok.1 hpure
      obtain ⟨n, hl, hr⟩ := s.operandPair_eq_ok hlr
      have htext : t = s.dialect.operatorText op (p.isText || q.isText) l r := ht
      rw [htext]
      refine ((cites_operand hp hl).operator (cites_operand hq hr) _ (by simpa using hlogical)).of_eq ?_
      rw [Set.union_union_union_comm, Bindings.upTo_union ((s.binds_operand _ p).counter_le hl)
        ((s.binds_operand _ q).counter_le hr)]

theorem cites_binary {op : BinaryOp} (hp : p.Cites s.dialect P) (hq : q.Cites s.dialect Q)
    (h : s.binary op p q b = .ok (r, c)) : r.Cites s.dialect (P ∪ Q ∪ b.upTo c) := by
  rcases s.binary_eq_ok h with ⟨x, y, v, rfl, rfl, -, rfl, rfl⟩ | ⟨t, -, ht, rfl⟩
  · have hx : P = ∅ := hp
    have hy : Q = ∅ := hq
    rw [hx, hy, Bindings.upTo_self, Set.union_self, Set.union_self]
    rfl
  · exact cites_binaryText hp hq ht

theorem cites_unary {op : UnaryOp} (hp : p.Cites s.dialect P) (h : s.unary op p b = .ok (r, c)) :
    r.Cites s.dialect (P ∪ b.upTo c) := by
  rcases s.unary_eq_ok h with ⟨x, v, rfl, -, rfl, rfl⟩ | ⟨-, t, ht⟩
  · have hx : P = ∅ := hp
    rw [hx, Bindings.upTo_self, Set.union_self]
    rfl
  · cases op with
    | not =>
        obtain ⟨ht, rfl⟩ := ht
        exact Cites.not (Cites.wrap (cites_condition hp ht))
    | neg =>
        obtain ⟨ht, rfl⟩ := ht
        have hoperand := cites_operand hp ht
        split
        · exact Cites.negative hoperand
        · exact Cites.negative hoperand.wrap

/-! ### Membership and methods -/

theorem cites_membership {target : String} {hint : Option FieldType} {values : Value}
    (ht : Cites s.dialect target P) (h : s.membership target hint values b = .ok (t, c)) :
    Cites s.dialect t (P ∪ b.upTo c) := by
  rcases s.membership_eq_ok h with ⟨-, rfl, rfl⟩ | ⟨-, ts, hts, rfl⟩
  · rw [Bindings.upTo_self]
    exact ht.member (.word (by decide))
  · exact ht.member (cites_bindAll hts)

theorem cites_methodText {m : StringMethod} {sql : String} {args : List Value}
    (hsql : Cites s.dialect sql P) (h : s.methodText m sql args b = .ok (t, c)) :
    Cites s.dialect t (P ∪ b.upTo c) := by
  have hlike {before after : String} (h : s.like m sql before after args b = .ok (t, c)) :
      Cites s.dialect t (P ∪ b.upTo c) := by
    obtain ⟨v, u, hu, rfl⟩ := s.like_eq_ok h
    exact (hsql.apply "UPPER" (by decide)).like (cites_bind hu)
  have hpure {u : String} (hu : Cites s.dialect u P) (h : (pure u : Compile String) b = .ok (t, c)) :
      Cites s.dialect t (P ∪ b.upTo c) := by
    obtain ⟨rfl, rfl⟩ := pure_eq_ok.1 h
    rwa [Bindings.upTo_self, Set.union_empty]
  cases m with
  | trim => exact hpure hsql.trim h
  | trimStart => exact hpure hsql.trimStart h
  | trimEnd => exact hpure hsql.trimEnd h
  | toUpper => exact hpure (hsql.apply "UPPER" (by decide)) h
  | toLower => exact hpure (hsql.apply "LOWER" (by decide)) h
  | startsWith | endsWith | contains => exact hlike h
  | substring =>
      obtain ⟨hsub, rfl⟩ := outcome_eq_ok.1 h
      obtain ⟨start, length, -, -, rfl⟩ := s.substringText_eq_ok hsub
      rw [Bindings.upTo_self, Set.union_empty]
      exact hsql.substring _ _

/-! ### Arguments and items -/

variable {ps : List Fragment} {Ps : List (Set Nat)}

/-- Values alone have no placeholders. -/
theorem gathered_eq_empty {d : Dialect} (hp : List.Forall₂ (Fragment.Cites d) Ps ps)
    (h : texts ps = []) : gathered Ps = ∅ := by
  induction hp with
  | nil => rfl
  | @cons P p Ps ps hp _ ih =>
      cases p with
      | value v =>
          have hnone : P = ∅ := hp
          rw [gathered, hnone, ih h, Set.union_self]
      | sql t | column t type => cases h

/-- The placeholders of one of some parts, and of the only one. -/
theorem exists_cites_of_mem {d : Dialect} (hp : List.Forall₂ (Fragment.Cites d) Ps ps) (hmem : p ∈ ps) :
    ∃ P ⊆ gathered Ps, p.Cites d P ∧ (ps.length ≤ 1 → P = gathered Ps) := by
  induction hp with
  | nil => cases hmem
  | @cons Q q Qs qs hq hqs ih =>
      rcases List.mem_cons.1 hmem with rfl | hmem
      · refine ⟨Q, Set.subset_union_left, hq, fun hlen => ?_⟩
        obtain rfl : qs = [] := by simpa using hlen
        cases hqs
        rw [gathered, gathered, Set.union_empty]
      · obtain ⟨P, hsub, hP, -⟩ := ih hmem
        refine ⟨P, hsub.trans Set.subset_union_right, hP, fun hlen => ?_⟩
        have hpos := List.length_pos_of_mem hmem
        rw [List.length_cons] at hlen
        omega

theorem cites_listOf (hp : List.Forall₂ (Fragment.Cites s.dialect) Ps ps)
    (h : s.listOf ps b = .ok (r, c)) : r.Cites s.dialect (gathered Ps ∪ b.upTo c) := by
  unfold listOf at h
  split at h
  · rename_i hall
    obtain ⟨rfl, rfl⟩ := pure_eq_ok.1 h
    have htexts : texts ps = [] := texts_eq_nil_iff.2 fun p hp => List.all_eq_true.1 hall p hp
    rw [gathered_eq_empty hp htexts, Bindings.upTo_self, Set.union_self]
    rfl
  · obtain ⟨ts, m, hts, hpure⟩ := bind_eq_ok.1 h
    obtain ⟨rfl, rfl⟩ := pure_eq_ok.1 hpure
    exact cites_operands hp hts

/-- **The search of a list has the placeholders of one argument**; of an only argument, all of them. -/
theorem cites_collectionContains {items : List Value}
    (hp : List.Forall₂ (Fragment.Cites s.dialect) Ps ps)
    (h : s.collectionContains items (values ps) (texts ps) b = .ok (r, c)) :
    ∃ R ⊆ gathered Ps, r.Cites s.dialect (R ∪ b.upTo c) ∧ (ps.length ≤ 1 → R = gathered Ps) := by
  rcases s.collectionContains_eq_ok h with ⟨a, rfl, hlast, rfl⟩ | ⟨p, target, k, t, hlast, htarget, ht, rfl⟩
  · rw [gathered_eq_empty hp (List.getLast?_eq_none_iff.1 hlast)]
    refine ⟨∅, subset_rfl, ?_, fun _ => rfl⟩
    rw [Bindings.upTo_self, Set.union_self]
    rfl
  · have hmem : p ∈ ps := List.mem_of_mem_filter (List.mem_of_getLast? hlast)
    obtain ⟨P, hsub, hP, hwhole⟩ := exists_cites_of_mem hp hmem
    refine ⟨P, hsub, ?_, hwhole⟩
    refine (cites_membership (cites_operand hP htarget) ht).of_eq ?_
    rw [Set.union_assoc, Bindings.upTo_union ((s.binds_operand none p).counter_le htarget)
      ((s.binds_membership target p.type? _).counter_le ht)]

/-- **A method has the placeholders of its parts**, unless it searches a list for several arguments. -/
theorem cites_method {m : StringMethod} (hp : p.Cites s.dialect P)
    (hps : List.Forall₂ (Fragment.Cites s.dialect) Ps ps) (h : s.method m p ps b = .ok (r, c)) :
    ∃ R ⊆ P ∪ gathered Ps, r.Cites s.dialect (R ∪ b.upTo c) ∧
      ((∀ items, m = .contains → p = .value (.list items) → ps.length ≤ 1) → R = P ∪ gathered Ps) := by
  rcases s.method_eq_ok h with ⟨items, rfl, rfl, h⟩ | ⟨v, w, rfl, htexts, -, rfl, rfl⟩ |
    ⟨-, htexts, sql, k, t, hsql, ht, rfl⟩
  · have hnone : P = ∅ := hp
    rw [hnone, Set.empty_union]
    obtain ⟨R, hsub, hR, hwhole⟩ := cites_collectionContains hps h
    exact ⟨R, hsub, hR, fun hlen => hwhole (hlen items rfl rfl)⟩
  · have hnone : P = ∅ := hp
    rw [hnone, gathered_eq_empty hps htexts, Set.union_self]
    refine ⟨∅, subset_rfl, ?_, fun _ => rfl⟩
    rw [Bindings.upTo_self, Set.union_self]
    rfl
  · rw [gathered_eq_empty hps htexts, Set.union_empty]
    refine ⟨P, subset_rfl, ?_, fun _ => rfl⟩
    refine (cites_methodText (cites_operand hp hsql) ht).of_eq ?_
    rw [Set.union_assoc, Bindings.upTo_union ((s.binds_operand none p).counter_le hsql)
      ((s.binds_methodText m sql _).counter_le ht)]

end Scope

/-! ### Expressions without searches for several arguments -/

namespace Expr

/-- Whether a method searches a list that is computed. -/
def isSearch (m : StringMethod) (t : Expr) : Bool :=
  m == .contains && match t.value? with
    | some (.list _) => true
    | _ => false

mutual

/-- Whether every list in an expression is searched for one argument at most. -/
def isSingle : Expr → Bool
  | .column _ | .value _ | .deferred _ | .countAll => true
  | .binary _ l r => l.isSingle && r.isSingle
  | .unary _ e | .convert e | .convertWith _ e | .desc e | .named e _ | .aggregate _ e => e.isSingle
  | .method m t args =>
    t.isSingle && allSingle args && (!isSearch m t || decide (args.length ≤ 1))
  | .call _ args => allSingle args
  | .inList t values => t.isSingle && values.isSingle
  | .list items => allSingle items

/-- Whether this is so for all of some expressions. -/
def allSingle : List Expr → Bool
  | [] => true
  | e :: es => e.isSingle && allSingle es

end

/-- The parts of a method with one argument for each search of a list. -/
theorem isSingle_method {m : StringMethod} {t : Expr} {args : List Expr}
    (h : (method m t args).isSingle = true) :
    (t.isSingle = true ∧ allSingle args = true) ∧
      ∀ items, m = .contains → t.value? = some (.list items) → args.length ≤ 1 := by
  rw [isSingle, Bool.and_eq_true, Bool.and_eq_true] at h
  refine ⟨h.1, fun items hm ht => ?_⟩
  simpa [isSearch, hm, ht] using h.2

end Expr

/-! ### Accounts -/

/-- **The placeholders of a part, next to what has been bound for it**: they are among the numbers that have
been bound, and all of them if nothing is left out. -/
structure Accounts (whole : Prop) (b c : Bindings) (P : Set Nat) : Prop where
  le : b.counter ≤ c.counter
  subset : P ⊆ b.upTo c
  eq : whole → P = b.upTo c

namespace Accounts

variable {whole whole' : Prop} {b m c : Bindings} {P Q : Set Nat}

theorem none (whole : Prop) (b : Bindings) : Accounts whole b b ∅ :=
  ⟨le_rfl, Set.empty_subset _, fun _ => b.upTo_self.symm⟩

theorem imp (h : Accounts whole b c P) (hw : whole' → whole) : Accounts whole' b c P :=
  ⟨h.le, h.subset, fun hwhole => h.eq (hw hwhole)⟩

/-- One part behind another. -/
theorem append (h : Accounts whole b m P) (h' : Accounts whole' m c Q) :
    Accounts (whole ∧ whole') b c (P ∪ Q) where
  le := h.le.trans h'.le
  subset := by
    rw [← Bindings.upTo_union h.le h'.le]
    exact Set.union_subset_union h.subset h'.subset
  eq := fun ⟨hw, hw'⟩ => by
    rw [h.eq hw, h'.eq hw', Bindings.upTo_union h.le h'.le]

/-- A part with what is bound behind it. -/
theorem bind (h : Accounts whole b m P) (hle : m.counter ≤ c.counter) :
    Accounts whole b c (P ∪ m.upTo c) :=
  (h.append (⟨hle, subset_rfl, fun _ => rfl⟩ : Accounts True m c (m.upTo c))).imp
    fun hw => ⟨hw, trivial⟩

/-- Some of the placeholders, and all of them if nothing is left out. -/
theorem sub (h : Accounts whole b c P) (hsub : Q ⊆ P) (heq : whole' → whole ∧ Q = P) :
    Accounts whole' b c Q where
  le := h.le
  subset := hsub.trans h.subset
  eq := fun hw => (heq hw).2.trans (h.eq (heq hw).1)

end Accounts

/-! ### The visit -/

namespace Scope

/-- An expression whose placeholders account for what its visits bind. -/
def Accounted (s : Scope) (e : Expr) : Prop := ∀ b p c, s.visit e b = .ok (p, c) →
  ∃ P, p.Cites s.dialect P ∧ Accounts (e.isSingle = true) b c P

/-- Expressions whose placeholders together account for what their visits bind. -/
def AllAccounted (s : Scope) (es : List Expr) : Prop := ∀ b ps c, s.visitAll es b = .ok (ps, c) →
  ∃ Ps, List.Forall₂ (Fragment.Cites s.dialect) Ps ps ∧
    Accounts (Expr.allSingle es = true) b c (gathered Ps)

variable {s : Scope} {b c : Bindings} {p : Fragment} {e l r t : Expr} {es args : List Expr}

/-- An expression that yields nothing but values has no placeholders, and nothing is bound for it. -/
theorem accounted_of_value (h : ∀ b p c, s.visit e b = .ok (p, c) → ∃ v, p = .value v) :
    s.Accounted e := by
  intro b p c hvisit
  obtain ⟨v, rfl⟩ := h b p c hvisit
  obtain ⟨-, rfl⟩ := visit_value_iff.1 hvisit
  exact ⟨∅, rfl, .none _ c⟩

theorem accounted_column (s : Scope) (name : String) : s.Accounted (.column name) := by
  intro b p c h
  obtain ⟨f, -, rfl, rfl⟩ := visit_column h
  exact ⟨∅, .column s f, .none _ c⟩

theorem accounted_deferred (s : Scope) (r : Except Error Value) : s.Accounted (.deferred r) := by
  refine accounted_of_value fun b p c h => ?_
  rw [visit] at h
  obtain ⟨v, m, -, hpure⟩ := bind_eq_ok.1 h
  exact ⟨v, (pure_eq_ok.1 hpure).1⟩

theorem accounted_binary (hl : s.Accounted l) (hr : s.Accounted r) (op : BinaryOp) :
    s.Accounted (.binary op l r) := by
  intro b p c h
  obtain ⟨x, k, y, m, hx, hy, hstep⟩ := visit_binary h
  obtain ⟨P, hP, haccl⟩ := hl b x k hx
  obtain ⟨Q, hQ, haccr⟩ := hr k y m hy
  refine ⟨_, cites_binary hP hQ hstep, ?_⟩
  refine ((haccl.append haccr).bind ((s.binds_binary op x y).counter_le hstep)).imp fun hsingle => ?_
  rwa [Expr.isSingle, Bool.and_eq_true] at hsingle

theorem accounted_unary (he : s.Accounted e) (op : UnaryOp) : s.Accounted (.unary op e) := by
  intro b p c h
  obtain ⟨x, k, hx, hstep⟩ := visit_unary h
  obtain ⟨P, hP, hacc⟩ := he b x k hx
  exact ⟨_, cites_unary hP hstep, hacc.bind ((s.binds_unary op x).counter_le hstep)⟩

theorem accounted_convertWith (s : Scope) (f : HostFunction) (e : Expr) :
    s.Accounted (.convertWith f e) := by
  refine accounted_of_value fun b p c h => ?_
  rw [visit] at h
  obtain ⟨x, k, -, hstep⟩ := bind_eq_ok.1 h
  cases x with
  | value v =>
      obtain ⟨w, m, -, hpure⟩ := bind_eq_ok.1 hstep
      exact ⟨w, (pure_eq_ok.1 hpure).1⟩
  | sql t | column t type => exact absurd hstep fail_ne_ok

/-- **A method accounts for what is bound for it**, if it does not search a list for several arguments. -/
theorem accounted_method (ht : s.Accounted t) (hargs : s.AllAccounted args) (m : StringMethod) :
    s.Accounted (.method m t args) := by
  intro b p c h
  obtain ⟨x, k, ps, n, hx, hps, hstep⟩ := visit_method h
  obtain ⟨P, hP, hacc⟩ := ht b x k hx
  obtain ⟨Ps, hPs, haccs⟩ := hargs k ps n hps
  obtain ⟨R, hsub, hR, hwhole⟩ := cites_method hP hPs hstep
  -- where a list is searched, there is one argument at most
  have hlen (hsingle : (Expr.method m t args).isSingle = true) (items : List Value)
      (hm : m = .contains) (hlist : x = .value (.list items)) : ps.length ≤ 1 := by
    rw [hlist] at hx
    rw [← (visitAll_eq_ok hps).length_eq]
    exact (Expr.isSingle_method hsingle).2 items hm (visit_value_iff.1 hx).1
  have hall : Accounts ((Expr.method m t args).isSingle = true) b n R :=
    (hacc.append haccs).sub hsub fun hsingle =>
      ⟨(Expr.isSingle_method hsingle).1, hwhole (hlen hsingle)⟩
  exact ⟨_, hR, hall.bind ((s.binds_method m x ps).counter_le hstep)⟩

theorem accounted_call (s : Scope) (f : HostFunction) (args : List Expr) : s.Accounted (.call f args) := by
  refine accounted_of_value fun b p c h => ?_
  rw [visit] at h
  obtain ⟨vs, k, -, hrest⟩ := bind_eq_ok.1 h
  obtain ⟨w, m, -, hpure⟩ := bind_eq_ok.1 hrest
  exact ⟨w, (pure_eq_ok.1 hpure).1⟩

theorem accounted_inList (ht : s.Accounted t) (hl : s.Accounted l) : s.Accounted (.inList t l) := by
  intro b p c h
  obtain ⟨x, k, left, m, q, n, hx, hleft, hq, hstep⟩ := visit_inList h
  obtain ⟨P, hP, hacct⟩ := ht b x k hx
  obtain ⟨Q, hQ, haccl⟩ := hl m q n hq
  have htarget := cites_operand hP hleft
  have hacc : Accounts ((Expr.inList t l).isSingle = true) b n (P ∪ k.upTo m ∪ Q) :=
    ((hacct.bind ((s.binds_operand none x).counter_le hleft)).append haccl).imp fun hsingle => by
      rwa [Expr.isSingle, Bool.and_eq_true] at hsingle
  rcases hstep with ⟨w, text, rfl, htext, rfl⟩ | ⟨-, right, hright, rfl⟩
  · -- a list that is computed has no placeholders of its own
    have hnone : Q = ∅ := hQ
    rw [hnone, Set.union_empty] at hacc
    exact ⟨_, cites_membership htarget htext,
      hacc.bind ((s.binds_membership left x.type? w).counter_le htext)⟩
  · refine ⟨_, htarget.member (cites_operand hQ hright), ?_⟩
    rw [← Set.union_assoc]
    exact hacc.bind ((s.binds_operand none q).counter_le hright)

/-- An expression that is written around the operand of another one. -/
theorem accounted_around {e' : Expr} {f : String → String} (he : s.Accounted e)
    (hsingle : e'.isSingle = e.isSingle)
    (hf : ∀ {t P}, Cites s.dialect t P → Cites s.dialect (f t) P)
    (hvisit : s.visit e' = (do
      let p ← s.visit e
      let t ← s.operand none p
      return .sql (f t))) : s.Accounted e' := by
  intro b p c h
  obtain ⟨x, k, t, hx, ht, rfl⟩ := visit_around hvisit h
  obtain ⟨P, hP, hacc⟩ := he b x k hx
  rw [hsingle]
  exact ⟨_, hf (cites_operand hP ht), hacc.bind ((s.binds_operand none x).counter_le ht)⟩

theorem accounted_countAll (s : Scope) : s.Accounted .countAll := by
  intro b p c h
  rw [visit] at h
  obtain ⟨rfl, rfl⟩ := pure_eq_ok.1 h
  exact ⟨∅, Cites.countAll, .none _ c⟩

theorem accounted_list (h : s.AllAccounted es) : s.Accounted (.list es) := by
  intro b p c hvisit
  rw [visit] at hvisit
  obtain ⟨ps, k, hps, hlist⟩ := bind_eq_ok.1 hvisit
  obtain ⟨Ps, hPs, hacc⟩ := h b ps k hps
  exact ⟨_, cites_listOf hPs hlist, hacc.bind ((s.binds_listOf ps).counter_le hlist)⟩

theorem allAccounted_nil (s : Scope) : s.AllAccounted [] := by
  intro b ps c h
  rw [visitAll] at h
  obtain ⟨rfl, rfl⟩ := pure_eq_ok.1 h
  exact ⟨[], .nil, .none _ c⟩

theorem allAccounted_cons (he : s.Accounted e) (hes : s.AllAccounted es) :
    s.AllAccounted (e :: es) := by
  intro b ps c h
  obtain ⟨q, m, qs, hq, hqs, rfl⟩ := visitAll_cons h
  obtain ⟨P, hP, hacc⟩ := he b q m hq
  obtain ⟨Ps, hPs, haccs⟩ := hes m qs c hqs
  refine ⟨P :: Ps, .cons hP hPs, (hacc.append haccs).imp fun hsingle => ?_⟩
  rwa [Expr.allSingle, Bool.and_eq_true] at hsingle

/-- **Every expression accounts for what its visits bind**: one case for each form of an expression, and one
for each form of a list of them. -/
theorem accounted_and (s : Scope) :
    (∀ e, s.Accounted e) ∧ (∀ (_ : HostFunction) (_ : List Expr), True) ∧ ∀ es, s.AllAccounted es := by
  apply Scope.visit.mutual_induct <;> intros
  case case1 name => exact s.accounted_column name
  case case2 v => exact accounted_of_value fun b p c h => ⟨v, (visit_value h).1⟩
  case case3 r => exact s.accounted_deferred r
  case case4 op l r hl hr => exact accounted_binary hl hr op
  case case5 op e he => exact accounted_unary he op
  case case6 e he =>
      intro b p c h
      rw [visit] at h
      exact he b p c h
  case case7 f e _ => exact s.accounted_convertWith f e
  case case8 m t args ht hargs => exact accounted_method ht hargs m
  case case9 f args _ => exact s.accounted_call f args
  case case10 t l ht hl => exact accounted_inList ht hl
  case case11 e he => exact accounted_around he rfl Cites.desc (by rw [visit])
  case case12 e name he => exact accounted_around he rfl (Cites.named name) (by rw [visit])
  case case13 f e he =>
      exact accounted_around he rfl (Cites.apply f.sql (by cases f <;> decide)) (by rw [visit]; rfl)
  case case14 => exact s.accounted_countAll
  case case15 es hes => exact accounted_list hes
  case case16 | case17 => trivial
  case case18 => exact s.allAccounted_nil
  case case19 e es he hes => exact allAccounted_cons he hes

/-- **What a visit writes.**  The placeholders of what an expression yields are among those bound for it, and all
of them where lists are searched for one argument. -/
theorem cites_visit (h : s.visit e b = .ok (p, c)) :
    ∃ P, p.Cites s.dialect P ∧ Accounts (e.isSingle = true) b c P := s.accounted_and.1 e b p c h

/-! ### Clauses -/

theorem mentions_projection {e : Expr} {t : String} (h : s.projection e b = .ok (t, c)) :
    ∃ P, Mentions s.dialect t P ∧ Accounts (e.isSingle = true) b c P := by
  obtain ⟨p, m, hp, hrest⟩ := bind_eq_ok.1 h
  obtain ⟨u, n, hu, hpure⟩ := bind_eq_ok.1 hrest
  obtain ⟨rfl, rfl⟩ := pure_eq_ok.1 hpure
  obtain ⟨P, hP, hacc⟩ := cites_visit hp
  exact ⟨_, (cites_operand hP hu).mentions.stripOuter,
    hacc.bind ((s.binds_operand none p).counter_le hu)⟩

theorem mentions_predicate {e : Expr} {t : String} (h : s.predicate e b = .ok (t, c)) :
    ∃ P, Mentions s.dialect t P ∧ Accounts (e.isSingle = true) b c P := by
  obtain ⟨p, m, hp, hrest⟩ := bind_eq_ok.1 h
  obtain ⟨u, n, hu, hpure⟩ := bind_eq_ok.1 hrest
  obtain ⟨rfl, rfl⟩ := pure_eq_ok.1 hpure
  obtain ⟨P, hP, hacc⟩ := cites_visit hp
  exact ⟨_, (cites_condition hP hu).mentions.stripOuter,
    hacc.bind ((s.binds_condition p).counter_le hu)⟩

theorem mentions_sortKeys {direction : String} (hd : Text.isPlainName direction.toList = true)
    {es : List Expr} {ts : List String} (h : Query.sortKeys s direction es b = .ok (ts, c)) :
    ∃ P, Mentions s.dialect (Text.joinWith "," ts) P ∧ Accounts (Expr.allSingle es = true) b c P := by
  induction es generalizing b ts with
  | nil =>
      obtain ⟨rfl, rfl⟩ := pure_eq_ok.1 h
      exact ⟨∅, Cites.empty.mentions, .none _ c⟩
  | cons e es ih =>
      obtain ⟨t, m, ht, hrest⟩ := bind_eq_ok.1 h
      obtain ⟨us, n, hus, hpure⟩ := bind_eq_ok.1 hrest
      obtain ⟨rfl, rfl⟩ := pure_eq_ok.1 hpure
      obtain ⟨P, hP, hacc⟩ := mentions_projection ht
      obtain ⟨Q, hQ, haccs⟩ := ih hus
      have hkey : Mentions s.dialect (if e.isDesc then t else t ++ " " ++ direction) P := by
        split
        · exact hP
        · rw [String.append_assoc]
          exact hP.behind rfl hd
      refine ⟨_, hkey.joinCons hQ, (hacc.append haccs).imp fun hsingle => ?_⟩
      rwa [Expr.allSingle, Bool.and_eq_true] at hsingle

end Scope

end ModelSql
