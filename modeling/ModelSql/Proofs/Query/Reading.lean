/-
**The parts of a condition are read as they were built.**

Each expression is written as a text of some tokens and groups.  Unless the expression is bare, the text is
self-delimiting.  As long as no bare operand stands beside an infix operator, the text is read as the tree
of the expression, whether parentheses are put around it or taken off.

Main definitions:

* `Dialect.IsOperand` — a text that is self-delimiting;
* `Scope.Compiles`, `Scope.Part` — **what an expression is written as**, and what it yields.

Main results:

* `Scope.Part.operand`, `Scope.Part.condition` — what a part is written as at each place;
* `Scope.part_unary`, `Scope.part_binary` — **what operators make of parts**.
-/

import ModelSql.Proofs.Query.Operand

set_option relaxedAutoImplicit false
set_option autoImplicit false

namespace ModelSql

/-- A text that is an operand wherever it stands. -/
def Dialect.IsOperand (d : Dialect) (sql : String) : Prop :=
  ∃ ns, d.nests sql = some ns ∧ Nest.SelfDelimiting ns

/-- **What the text of an expression is closed by**: nothing when the expression is bare. -/
def Expr.Delimits (e : Expr) (ns : List Nest) : Prop :=
  if e.isBare then ∃ n ∈ ns, n.isKeyword = true else Nest.SelfDelimiting ns

theorem Expr.Delimits.of_isBare {e : Expr} {ns : List Nest} (hb : e.isBare = true)
    (h : ∃ n ∈ ns, n.isKeyword = true) : e.Delimits ns := by
  unfold Delimits
  rwa [if_pos hb]

theorem Expr.Delimits.of_selfDelimiting {e : Expr} {ns : List Nest} (hb : e.isBare = false)
    (h : Nest.SelfDelimiting ns) : e.Delimits ns := by
  unfold Delimits
  rwa [hb, if_neg (by simp)]

theorem Expr.Delimits.selfDelimiting {e : Expr} {ns : List Nest} (h : e.Delimits ns)
    (hb : e.isBare = false) : Nest.SelfDelimiting ns := by
  unfold Delimits at h
  rwa [hb, if_neg (by simp)] at h

/-- **A text is an operand when its expression is not bare, and only then.** -/
theorem Expr.Delimits.isOperand_iff {e : Expr} {ns : List Nest} {d : Dialect} {t : String}
    (h : e.Delimits ns) (hs : Spells d t ns) : d.IsOperand t ↔ e.isBare = false := by
  constructor
  · rintro ⟨ms, hms, hself⟩
    rw [nests_of_spells hs, Option.some.injEq] at hms
    subst hms
    cases hb : e.isBare with
    | false => rfl
    | true =>
        unfold Delimits at h
        rw [if_pos hb] at h
        obtain ⟨n, hn, hkey⟩ := h
        rw [hself.isKeyword n hn] at hkey
        cases hkey
  · intro hb
    exact ⟨ns, nests_of_spells hs, h.selfDelimiting hb⟩

namespace Scope

variable (s : Scope)

/-! ### Columns and values -/

/-- Whether no name on SQL Server has a closing bracket, where the test for outer parentheses would be
misled. -/
def BracketFree : Prop :=
  s.dialect.kind = .sqlserver → ∀ name f, s.model.field? name = some f →
    ∀ n ∈ s.path f, ']' ∉ n.toList

/-- Names with closing brackets do mislead it: these parentheses belong to two groups. -/
example : stripOuter "([a]](] + 1) IN ([y]])])" = "[a]](] + 1) IN ([y]])]" := by decide

/-- Names with points between them are balanced. -/
theorem balanced_column {f : Field} (h : s.dialect.kind = .sqlserver → ∀ n ∈ s.path f, ']' ∉ n.toList) :
    Balanced (s.column f).toList := by
  have hname {n : String} (hn : n ∈ s.path f) : Balanced (s.dialect.quoteName n).toList :=
    balanced_quoteName s.dialect fun hk => h hk n hn
  have hcolumn : Balanced (s.dialect.quotedField f).toList := hname (by simp [path])
  unfold column Dialect.quotedTable Dialect.qualified
  split
  · rename_i hq
    have htable : Balanced (s.dialect.quoteName (s.dialect.tableName s.model)).toList :=
      hname (by simp [path, hq])
    split
    · rename_i schema hschema
      have hs : Balanced (s.dialect.quoteName schema).toList := hname (by simp [path, hq, hschema])
      exact (hs.around (by decide) htable).around (by decide) hcolumn
    · exact htable.around (by decide) hcolumn
  · exact hcolumn

variable {s}

theorem framed_column {f : Field} (h : s.dialect.kind = .sqlserver → ∀ n ∈ s.path f, ']' ∉ n.toList) :
    Framed (s.column f).toList := by
  have hhead := s.head_column f ""
  rw [String.append_empty] at hhead
  refine ⟨?_, s.balanced_column h, .inl hhead⟩
  obtain ⟨name, rest, hcolumn⟩ := s.exists_column f
  obtain ⟨c, cs, hcs, -⟩ := head_quoteName s.dialect name
  rw [hcolumn, String.toList_append, hcs]
  simp

/-- **A value that is no list is written as a literal or as a placeholder**; either is self-delimiting. -/
theorem spells_bind {hint : Option FieldType} {v : Value} {b c : Bindings} {t : String}
    (hv : v.isScalar = true) (h : s.bind hint v b = .ok (t, c)) :
    ∃ ns a, Spells s.dialect t ns ∧ Nest.SelfDelimiting ns ∧ Neutral t.toList ∧
      sqlGrammar.read ns = some a := by
  have hliteral {v : Value} {t : String} (hv : v.isScalar = true)
      (h : s.dialect.literal hint v = .ok t) : ∃ ns a, Spells s.dialect t ns ∧
        Nest.SelfDelimiting ns ∧ Neutral t.toList ∧ sqlGrammar.read ns = some a := by
    have hform := Literal.form_literal (Value.ne_list_of_isScalar hv) h
    obtain ⟨ns, hs, hlit⟩ := spells_form hform
    obtain ⟨hself, a, ha⟩ := selfDelimiting_isLiteral hlit
    exact ⟨ns, a, hs, hself, neutral_form hform, ha⟩
  unfold bind at h
  split at h
  -- null is a literal also where values are bound
  · by_cases hnull : v = .null
    · subst hnull
      rw [bindParameter] at h
      exact hliteral rfl (outcome_eq_ok.1 h).1
    · rw [bindParameter] at h
      · simp only [placeholder, Except.ok.injEq, Prod.mk.injEq] at h
        obtain ⟨rfl, -⟩ := h
        have htoken : (s.dialect.parameterToken b.counter).isOperand = true := rfl
        exact ⟨_, _, spells_placeholder _, .inl (.token htoken), neutral_placeholder _ _,
          (ReadsAt.leaf htoken).read_eq⟩
      · exact hnull
      · exact Value.ne_list_of_isScalar hv
  · exact hliteral hv (outcome_eq_ok.1 h).1

/-! ### What expressions are written as -/

variable (s)

/-- **What an expression is written as at a place**: a text that parentheses may be put around, and that is
read as the tree of the expression when no bare operand stands beside an infix operator in it. -/
structure Compiles (place : Place) (e : Expr) (b : Bindings) (t : String) (ns : List Nest) : Prop where
  spells : Spells s.dialect t ns
  framed : Framed t.toList
  enclosed : Enclosed s.dialect t ns
  reads : s.Guarded e b → ∃ a, ReadsAt Precedence.inversion ns (some a) ∧ s.Denotes place e a

/-- **What an expression yields**: a value when it is computed, a column, or a text. -/
def Part (e : Expr) (b : Bindings) : Fragment → Prop
  | .value v => v.isScalar = true ∧ e.isConstant = true
  | .column t type => ∃ name f, e = .column name ∧ s.model.field? name = some f ∧
      t = s.column f ∧ type = f.type
  | .sql t => e.isConstant = false ∧ ∃ ns, e.Delimits ns ∧
      ∀ hint, s.Compiles (.operand hint) e b t ns

variable {s} {e : Expr} {p : Fragment} {b k m c : Bindings} {t : String} {ns : List Nest}

theorem Part.isConstant_eq (h : s.Part e b p) : e.isConstant = p.value?.isSome := by
  cases p with
  | value v => exact h.2
  | sql t => exact h.1
  | column t type =>
      obtain ⟨name, f, rfl, -⟩ := h
      rfl

/-- A self-delimiting text is read on its own, as an operand of every infix operator. -/
theorem Compiles.operand_reads {place : Place} (h : s.Compiles place e b t ns)
    (hd : e.Delimits ns) (hb : e.isBare = false) (hg : s.Guarded e b) :
    ∃ a, ReadsAt Precedence.negation ns (some a) ∧ s.Denotes place e a := by
  obtain ⟨a, ha, hden⟩ := h.reads hg
  have hread := (hd.selfDelimiting hb).reads
  rw [ha.read_eq] at hread
  exact ⟨a, hread, hden⟩

/-- What a self-delimiting text is read as. -/
theorem Compiles.of_delimited {place : Place} (hd : Delimited s.dialect t ns) (hf : Framed t.toList)
    (hread : s.Guarded e b → ∃ a, sqlGrammar.read ns = some a ∧ s.Denotes place e a) :
    s.Compiles place e b t ns := by
  refine ⟨hd.spells, hf, hd.enclosed, fun hg => ?_⟩
  obtain ⟨a, ha, hden⟩ := hread hg
  have hsimple := hd.simple.reads
  rw [ha] at hsimple
  exact ⟨a, hsimple.mono (by decide), hden⟩

/-- The text of a column. -/
theorem compiles_column {name : String} {f : Field} (hnames : s.BracketFree)
    (hf : s.model.field? name = some f) (hint : Option FieldType) :
    s.Compiles (.operand hint) (.column name) b (s.column f) (s.dialect.pathNests (s.path f)) := by
  have hhead := s.head_column f ""
  rw [String.append_empty] at hhead
  have hspells := spells_column s f
  -- a column starts with a name, so that it has no outer parentheses
  obtain ⟨hsimple, a, ha⟩ := s.simple_column f
  refine .of_delimited ⟨hspells, hsimple, .bare (isWrapped_of_head hhead)⟩
    (framed_column fun hk => hnames hk name f hf) fun _ => ⟨a, ha, .column hf ?_⟩
  exact tree?_of_reads hspells (ha ▸ hsimple.reads)

/-- **What a part is written as beside an infix operator.** -/
theorem Part.operand (hnames : s.BracketFree) (hp : s.Part e b p) (hv : s.visit e b = .ok (p, k))
    {hint : Option FieldType} (h : s.operand hint p m = .ok (t, c)) :
    ∃ ns, e.Delimits ns ∧ s.Compiles (.operand hint) e b t ns := by
  cases p with
  | value v =>
      obtain ⟨hscalar, hconst⟩ := hp
      obtain ⟨ns, a, hs, hself, hneutral, ha⟩ := spells_bind hscalar h
      have hread : ReadsAt Precedence.negation ns (some a) := ha ▸ hself.reads
      refine ⟨ns, .of_selfDelimiting (Expr.isBare_of_isConstant hconst) hself, hs,
        .of_neutral hneutral, .bare (isWrapped_of_head hneutral.head), fun _ => ?_⟩
      exact ⟨a, hread.mono (by decide), .value ⟨b, k, hv⟩ ⟨m, t, c, h, tree?_of_reads hs hread⟩⟩
  | sql u =>
      obtain ⟨rfl, -⟩ := pure_eq_ok.1 h
      obtain ⟨-, ns, hd, hcompiles⟩ := hp
      exact ⟨ns, hd, hcompiles hint⟩
  | column u type =>
      obtain ⟨rfl, -⟩ := pure_eq_ok.1 h
      obtain ⟨name, f, rfl, hf, rfl, rfl⟩ := hp
      exact ⟨_, .of_selfDelimiting rfl (.inl (s.simple_column f).1), compiles_column hnames hf hint⟩

/-- A truth value as a condition. -/
theorem compiles_truth {v : Bool} (hden : s.Denotes .condition e (.truth v)) :
    s.Compiles .condition e b (if v then "1=1" else "1=0") (truthNests v) := by
  have hquiet : (if v then "1=1" else "1=0").toList.all isQuiet = true := by
    cases v <;> decide
  have hneutral : Neutral (if v then "1=1" else "1=0").toList := .quiet (by cases v <;> decide) hquiet
  exact ⟨spells_truth v, .of_neutral hneutral, .bare (isWrapped_of_head hneutral.head),
    fun _ => ⟨_, (ReadsAt.truth v).mono (by decide), hden⟩⟩

/-- **What a part is written as where a condition stands.** -/
theorem Part.condition (hnames : s.BracketFree) (hp : s.Part e b p)
    (hv : s.visit e b = .ok (p, k)) (h : s.condition p m = .ok (t, c)) :
    ∃ ns, s.Compiles .condition e b t ns := by
  generalize hstep : s.condition p = step at h
  unfold Scope.condition at hstep
  split at hstep
  · rename_i v
    subst hstep
    obtain ⟨rfl, -⟩ := pure_eq_ok.1 h
    exact ⟨_, compiles_truth (.constant ⟨b, k, hv⟩)⟩
  · subst hstep
    obtain ⟨rfl, -⟩ := pure_eq_ok.1 h
    exact ⟨_, compiles_truth (v := false) (.unknown ⟨b, k, hv⟩)⟩
  · rename_i u
    subst hstep
    obtain ⟨w, n, hw, hpure⟩ := bind_eq_ok.1 h
    obtain ⟨rfl, -⟩ := pure_eq_ok.1 hpure
    obtain ⟨name, f, rfl, hf, rfl, htype⟩ := hp
    have hcolumn := compiles_column (b := b) hnames hf none
    obtain ⟨ms, x, hs, hself, hneutral, hx⟩ := spells_bind rfl hw
    have hread : ReadsAt Precedence.negation ms (some x) := hx ▸ hself.reads
    have htail : Balanced (" = " ++ w).toList :=
      Balanced.text_append (.quiet (by decide)) hneutral.balanced
    have hframed := hcolumn.framed.append htail
    have hhead := s.head_column f (" = " ++ w)
    rw [← String.toList_append, ← String.append_assoc] at hframed
    rw [← String.append_assoc] at hhead
    refine ⟨_, spells_equal hcolumn.spells hs, hframed, .bare (isWrapped_of_head hhead), fun hg => ?_⟩
    obtain ⟨a, ha, -⟩ := hcolumn.reads hg
    obtain ⟨hsimple, -⟩ := s.simple_column f
    -- the comparison is read at the level of its sign, which is tighter than `NOT`
    have hleft := hsimple.reads
    rw [ha.read_eq] at hleft
    have hequal := (hleft.mono (by decide : Precedence.comparison ≤ _)).infixed
      (t := .sign ['=']) rfl (by decide) (hread.mono (by decide))
    exact ⟨_, hequal.mono (by decide), .flag hf htype.symm (tree?_of_reads hcolumn.spells ha)
      ⟨m, w, n, hw, tree?_of_reads hs hread⟩⟩
  · rename_i hbool hnull hcolumn
    subst hstep
    obtain ⟨ns, -, hs, hframed, henc, hread⟩ := hp.operand hnames hv h
    have hplain : p.isPlain = true := by
      unfold Fragment.isPlain
      split
      · exact absurd rfl (hbool _)
      · exact absurd rfl hnull
      · exact absurd rfl (hcolumn _)
      · rfl
    refine ⟨ns, hs, hframed, henc, fun hg => ?_⟩
    obtain ⟨a, ha, hden⟩ := hread hg
    exact ⟨a, ha, .plain ⟨b, k, hv⟩ hplain hden⟩

/-! ### Operators -/

section

variable (s) in
/-- **What every visit of an expression yields**, whatever has been written before. -/
def Visits (e : Expr) : Prop := ∀ b p c, s.visit e b = .ok (p, c) → s.Part e b p

variable {q : Fragment} {l r : Expr} {u : String} {n : Bindings}

/-- A text of an expression that is neither bare nor computed. -/
theorem part_of_delimited {ns : List Nest} (hc : e.isConstant = false) (hb : e.isBare = false)
    (hd : Delimited s.dialect t ns) (hf : Framed t.toList)
    (hread : s.Guarded e b → ∃ a, sqlGrammar.read ns = some a ∧ ∀ hint, s.Denotes (.operand hint) e a) :
    s.Part e b (.sql t) := by
  refine ⟨hc, ns, .of_selfDelimiting hb (.inl hd.simple), fun hint => .of_delimited hd hf fun hg => ?_⟩
  obtain ⟨a, ha, hden⟩ := hread hg
  exact ⟨a, ha, hden hint⟩

/-- **A sign in front of a part.** -/
theorem part_negated (hnames : s.BracketFree) (hp : s.Part e b p) (hv : s.visit e b = .ok (p, k))
    (hvalue : p.value? = none) (h : s.operand none p m = .ok (t, c)) :
    s.Part (.unary .neg e) b (.sql ("-" ++ if p.type?.isSome then t else wrap t)) := by
  have hc : e.isConstant = false := by
    rw [hp.isConstant_eq, hvalue]
    rfl
  obtain ⟨ns, hd, hs, hframed, henc, hread⟩ := hp.operand hnames hv h
  have hminus : "-".toList.all isQuiet = true := by decide
  -- a column is left as it is, and any other text becomes a group
  obtain ⟨u, ms, hu, hms, hsimple, hbal, hsame⟩ : ∃ u ms,
      u = (if p.type?.isSome then t else wrap t) ∧ Spells s.dialect u ms ∧ Nest.Simple ms ∧
        Balanced u.toList ∧ sqlGrammar.read ms = sqlGrammar.read ns := by
    cases p with
    | value v => cases hvalue
    | column w type =>
        obtain ⟨name, f, rfl, hf, rfl, rfl⟩ := hp
        obtain ⟨rfl, -⟩ := pure_eq_ok.1 h
        have hnests := nests_of_spells hs
        rw [nests_of_spells (spells_column s f), Option.some.injEq] at hnests
        subst hnests
        exact ⟨_, _, rfl, hs, (s.simple_column f).1, hframed.balanced, rfl⟩
    | sql w =>
        obtain ⟨ms, hms, hsame⟩ := henc.wrap hs fun ms => (ReadsAt.group ms).read_eq
        exact ⟨wrap t, _, rfl, hms, .group ms, hframed.balanced.wrap,
          (ReadsAt.group ms).read_eq.trans hsame⟩
  rw [← hu]
  have hneutral : Neutral ("-" ++ u).toList := by
    rw [String.toList_append]
    exact (Neutral.quiet (by decide) hminus).append hbal
  refine ⟨hc, _, .of_selfDelimiting (by simp [Expr.isBare]) (.inr ⟨ms, rfl, hsimple⟩), fun hint =>
    ⟨hms.negative, .of_neutral hneutral, .bare (isWrapped_of_head hneutral.head), fun hg => ?_⟩⟩
  obtain ⟨a, ha, hden⟩ := hread fun o v ho => hg o v (.inUnary ho)
  have hoperand := hsimple.reads
  rw [hsame, ha.read_eq] at hoperand
  exact ⟨_, hoperand.negated.mono (by decide), .negated hc hden⟩

/-- **An inversion of a part.** -/
theorem part_inverted (hnames : s.BracketFree) (hp : s.Part e b p) (hv : s.visit e b = .ok (p, k))
    (hvalue : p.value? = none) (h : s.condition p m = .ok (t, c)) :
    s.Part (.unary .not e) b (.sql ("NOT " ++ wrap t)) := by
  have hc : e.isConstant = false := by
    rw [hp.isConstant_eq, hvalue]
    rfl
  obtain ⟨ns, hs, hframed, henc, hread⟩ := hp.condition hnames hv h
  -- whatever parentheses the condition has, its text becomes a group
  obtain ⟨ms, hms, hsame⟩ := henc.wrap hs fun ms => (ReadsAt.group ms).read_eq
  have hneutral : Neutral ("NOT " ++ wrap t).toList := by
    rw [String.toList_append]
    exact (Neutral.quiet (by decide) (by decide)).append hframed.balanced.wrap
  have hbare : (Expr.unary .not e).isBare = true := by
    simp [Expr.isBare, Expr.isConstant, hc]
  refine ⟨hc, _, .of_isBare hbare ⟨wordNest "NOT", List.mem_cons_self, by decide⟩, fun hint =>
    ⟨spells_not hms, .of_neutral hneutral, .bare (isWrapped_of_head hneutral.head), fun hg => ?_⟩⟩
  obtain ⟨a, ha, hden⟩ := hread fun o v ho => hg o v (.inUnary ho)
  have hgroup := ReadsAt.group ms
  rw [hsame, ha.read_eq] at hgroup
  exact ⟨_, (hgroup.mono (by decide)).inverted, .inverted hc hden⟩

/-- **An operator in front of a part.** -/
theorem part_unary (hnames : s.BracketFree) {op : UnaryOp} (he : s.Visits e)
    (h : s.visit (.unary op e) b = .ok (p, c)) : s.Part (.unary op e) b p := by
  obtain ⟨q, k, hq, hrest⟩ := visit_unary h
  have hpart := he b q k hq
  rcases s.unary_eq_ok hrest with ⟨x, v, rfl, hv, rfl, -⟩ | ⟨hvalue, t, ht⟩
  · exact ⟨Value.isScalar_unary hv, hpart.2⟩
  · cases op with
    | not =>
        obtain ⟨ht, rfl⟩ := ht
        exact part_inverted hnames hpart hq hvalue ht
    | neg =>
        obtain ⟨ht, rfl⟩ := ht
        exact part_negated hnames hpart hq hvalue ht

variable (s) in
/-- Two parts that an operator stands between, in the order in which they are visited. -/
structure Operands (op : BinaryOp) (l r : Expr) (b k m : Bindings) (p q : Fragment) : Prop where
  left : s.visit l b = .ok (p, k)
  right : s.visit r k = .ok (q, m)
  leftPart : s.Part l b p
  rightPart : s.Part r k q
  mixed : p.value? = none ∨ q.value? = none

theorem Operands.isConstant {op : BinaryOp} (h : s.Operands op l r b k m p q) :
    (Expr.binary op l r).isConstant = false := by
  rw [Expr.isConstant, h.leftPart.isConstant_eq, h.rightPart.isConstant_eq]
  rcases h.mixed with hvalue | hvalue
  · simp [hvalue]
  · simp [hvalue]

/-- **A connective between two conditions.** -/
theorem part_connected (hnames : s.BracketFree) {op : BinaryOp} (hop : op.isLogical = true)
    (ho : s.Operands op l r b k m p q) {j : Bindings} (hu : s.condition p m = .ok (t, n))
    (hw : s.condition q n = .ok (u, j)) :
    s.Part (.binary op l r) b (.sql (Dialect.infixText t op.sign u)) := by
  obtain ⟨ns, hl⟩ := ho.leftPart.condition hnames ho.left hu
  obtain ⟨ms, hr⟩ := ho.rightPart.condition hnames ho.right hw
  -- conditions are read at the level of `NOT`, and both connectives are looser
  obtain ⟨i, hi, htoken, hat, hne, hquiet⟩ : ∃ i, i < Precedence.inversion ∧
      op.token.operator? = some op.connective ∧ sqlGrammar.isAt op.connective i = true ∧
        op ≠ .coalesce ∧ op.sign.toList.all isQuiet = true := by
    cases op with
    | and => exact ⟨3, by decide⟩
    | or => exact ⟨2, by decide⟩
    | _ => cases hop
  refine part_of_delimited ho.isConstant (by simp [Expr.isBare])
    (delimited_infixText (spells_operator hne) hl.spells hr.spells)
    (framed_infixText hquiet hl.framed.balanced hr.framed.balanced) fun hg => ?_
  obtain ⟨a, ha, hda⟩ := hl.reads fun o v hv => hg o v (.inLeft hv)
  obtain ⟨x, hx, hdx⟩ := hr.reads fun o v hv => hg o v (.inRight ho.left hv)
  have hread := (ha.mono (Nat.le_of_lt hi)).infixed htoken hat (hx.mono hi)
  refine ⟨.infixed a op.connective x, ?_, fun _ => .connected ho.isConstant hop hda hdx⟩
  rw [(ReadsAt.group _).read_eq, hread.read_eq]
  rfl

/-- **A test of a part for null**, where the part is an operand of the test. -/
theorem part_tested (hnames : s.BracketFree) {op : BinaryOp} {o : Expr} {d j : Bindings}
    (hc : (Expr.binary op l r).isConstant = false) (hp : s.Part o d p)
    (hv : s.visit o d = .ok (p, j)) (h : s.nullTest op p m = .ok (t, c))
    (hin : s.Guarded (.binary op l r) b → s.Guarded o d)
    (hbeside : ∀ u n, s.operand none p m = .ok (u, n) → s.Beside (.binary op l r) b o u)
    (hden : ∀ a, s.Denotes (.operand none) o a →
      ∀ hint, s.Denotes (.operand hint) (.binary op l r) (.nullTest op a)) :
    s.Part (.binary op l r) b (.sql t) := by
  obtain ⟨u, hu, rfl⟩ := s.nullTest_eq_ok h
  obtain ⟨ns, hd, hcompiles⟩ := hp.operand hnames hv hu
  have hs := hcompiles.spells
  have htext : "(" ++ u ++ (if op = .eq then " IS NULL" else " IS NOT NULL") ++ ")" =
      "(" ++ (u ++ (if op = .eq then " IS NULL" else " IS NOT NULL")) ++ ")" := by
    simp only [String.append_assoc]
  have hword : (if op = .eq then " IS NULL" else " IS NOT NULL").toList.all isQuiet = true := by
    split <;> decide
  have hframed := Framed.group (hcompiles.framed.balanced.text_append (.quiet hword))
  refine part_of_delimited hc (by simp [Expr.isBare])
    ⟨spells_nullTest op hs, .group _, .group htext (spells_isNull op hs) rfl⟩ ?_ fun hg => ?_
  · rw [htext, String.toList_append, String.toList_append]
    exact hframed
  -- the part stands beside `IS`, so that it is closed
  · obtain ⟨a, ha, hda⟩ := hcompiles.operand_reads hd (hg o u (hbeside u c hu)) (hin hg)
    have hread := ReadsAt.nullTest op (ha.mono (by decide))
    refine ⟨_, ?_, hden a hda⟩
    rw [(ReadsAt.group _).read_eq, hread.read_eq]

/-- **An operator between two operands.** -/
theorem part_operator (hnames : s.BracketFree) {op : BinaryOp} (hlogical : op.isLogical = false)
    (hbits : op.isBitwise = false) (hnull : op.testsNull p q = false)
    (ho : s.Operands op l r b k m p q) (h : s.operandPair p q m = .ok ((t, u), n)) :
    s.Part (.binary op l r) b
      (.sql (s.dialect.operatorText op (p.isText || q.isText) t u)) := by
  obtain ⟨i, ht, hu⟩ := s.operandPair_eq_ok h
  obtain ⟨ns, hdl, hl⟩ := ho.leftPart.operand hnames ho.left ht
  obtain ⟨ms, hdr, hr⟩ := ho.rightPart.operand hnames ho.right hu
  obtain ⟨ks, hdelimited, hframed, hread⟩ :=
    combines_operator hlogical hbits (p.isText || q.isText) hl.spells hr.spells
  refine part_of_delimited ho.isConstant (by cases op <;> simp [Expr.isBare]) hdelimited
    (hframed hl.framed.balanced hr.framed.balanced) fun hg => ?_
  have hgl : s.Guarded l b := fun o x hx => hg o x (.inLeft hx)
  have hgr : s.Guarded r k := fun o x hx => hg o x (.inRight ho.left hx)
  -- beside a sign the operands have to be closed, and between the parentheses of a function they need not
  have hlevel {e : Expr} {d : Bindings} {v : String} {ns : List Nest} {hint : Option FieldType}
      (hcompiles : s.Compiles (.operand hint) e d v ns) (hd : e.Delimits ns) (hge : s.Guarded e d)
      (hbare : s.isInfix op p q = true → e.isBare = false) :
      ∃ a, ReadsAt (s.dialect.operandLevel op (p.isText || q.isText)) ns (some a) ∧
        s.Denotes (.operand hint) e a := by
    unfold Dialect.operandLevel
    split
    · rename_i hbetween
      refine hcompiles.operand_reads hd (hbare ?_) hge
      rcases ho.mixed with hvalue | hvalue <;>
        simp [isInfix, hvalue, hlogical, hnull, hbetween]
    · obtain ⟨a, ha, hden⟩ := hcompiles.reads hge
      exact ⟨a, ha.mono (by decide), hden⟩
  obtain ⟨a, ha, hda⟩ := hlevel hl hdl hgl fun hop => hg l _ (.left ho.left ho.right hop h)
  obtain ⟨x, hx, hdx⟩ := hlevel hr hdr hgr fun hop => hg r _ (.right ho.left ho.right hop h)
  exact ⟨_, hread a x ha hx, fun _ =>
    .operator ho.isConstant ⟨b, k, ho.left⟩ ⟨k, m, ho.right⟩ hlogical hnull hda hdx⟩

/-- **A test for null**, where the part that is null may be on either side. -/
theorem part_nullTest (hnames : s.BracketFree) {op : BinaryOp} (hnull : op.testsNull p q = true)
    (ho : s.Operands op l r b k m p q)
    (h : s.nullTest op (if p.isNull then q else p) m = .ok (t, c)) :
    s.Part (.binary op l r) b (.sql t) := by
  -- the part that is null is a value, so that the other one is none
  by_cases hp : p.isNull = true
  · have hvalue : q.value? = none := by
      cases p with
      | value v => simpa [Fragment.value?] using ho.mixed
      | _ => cases hp
    rw [if_pos hp] at h
    refine part_tested hnames ho.isConstant ho.rightPart ho.right h
      (fun hg o w hw => hg o w (.inRight ho.left hw))
      (fun u n hu => .rightTested ho.left ho.right hvalue hnull hu) fun a ha hint => ?_
    refine .nullTest ho.isConstant ⟨b, k, ho.left⟩ ⟨k, m, ho.right⟩ hnull ?_
    rwa [if_pos hp]
  · have hq : q.isNull = true := by
      have hside := hnull
      rw [BinaryOp.testsNull, Bool.and_eq_true, Bool.or_eq_true p.isNull] at hside
      exact hside.2.resolve_left hp
    have hvalue : p.value? = none := by
      cases q with
      | value v => simpa [Fragment.value?] using ho.mixed
      | _ => cases hq
    rw [if_neg hp] at h
    refine part_tested hnames ho.isConstant ho.leftPart ho.left h
      (fun hg o w hw => hg o w (.inLeft hw))
      (fun u n hu => .leftTested ho.left ho.right hvalue hnull hu) fun a ha hint => ?_
    refine .nullTest ho.isConstant ⟨b, k, ho.left⟩ ⟨k, m, ho.right⟩ hnull ?_
    rwa [if_neg hp]

/-- **The text of an operator between two parts.** -/
theorem part_binaryText (hnames : s.BracketFree) {op : BinaryOp} (hbits : op.isBitwise = false)
    (ho : s.Operands op l r b k m p q) (h : s.binaryText op p q m = .ok (t, c)) :
    s.Part (.binary op l r) b (.sql t) := by
  unfold binaryText at h
  split at h
  · rename_i hlogical
    obtain ⟨u, n, hu, hrest⟩ := bind_eq_ok.1 h
    obtain ⟨w, j, hw, hpure⟩ := bind_eq_ok.1 hrest
    obtain ⟨rfl, -⟩ := pure_eq_ok.1 hpure
    exact part_connected hnames hlogical ho hu hw
  · rename_i hlogical
    split at h
    · rename_i htest
      exact part_nullTest hnames (by simpa [BinaryOp.testsNull] using htest) ho h
    · rename_i htest
      have hnull : op.testsNull p q = false := by
        rw [← Bool.not_eq_true]
        simpa [BinaryOp.testsNull] using htest
      obtain ⟨⟨u, w⟩, n, huw, hpure⟩ := bind_eq_ok.1 h
      obtain ⟨htext, -⟩ := pure_eq_ok.1 hpure
      have hoperator : t = s.dialect.operatorText op (p.isText || q.isText) u w := htext
      rw [hoperator]
      exact part_operator hnames (by simpa using hlogical) hbits hnull ho huw

/-- **An operator between two parts.** -/
theorem part_binary (hnames : s.BracketFree) {op : BinaryOp} (hbits : op.isBitwise = false)
    (hl : s.Visits l) (hr : s.Visits r) (h : s.visit (.binary op l r) b = .ok (p, c)) :
    s.Part (.binary op l r) b p := by
  obtain ⟨x, k, y, m, hx, hy, hstep⟩ := visit_binary h
  have hleft := hl b x k hx
  have hright := hr k y m hy
  rcases s.binary_eq_ok hstep with ⟨v, w, z, rfl, rfl, hz, rfl, -⟩ | ⟨t, hmixed, ht, rfl⟩
  · have hconst : (Expr.binary op l r).isConstant = true := by
      rw [Expr.isConstant, hleft.2, hright.2]
      rfl
    exact ⟨Value.isScalar_binary hleft.1 hright.1 hz, hconst⟩
  · exact part_binaryText hnames hbits ⟨hx, hy, hleft, hright, hmixed⟩ ht

end

end Scope

end ModelSql
