/-
**Inserting a row with a session.**

An insertion goes through the fields once.  A field is left out, or its value is read from the row,
or the next value of its sequence is drawn, written back into the row and kept as the last one.  The
names of the fields differ, so nothing that is drawn for one field changes what is read for another,
and the statement agrees with the row that the insertion leaves behind.

Main definitions:

* `Dialect.draws`, `Dialect.lists` — the fields that a value is drawn for, and those that the statement
  names;
* `Dialect.AsksFor` — the query for the next value of a field;
* `Dialect.Inserted` — **what an insertion does**: its queries, the row, the last value, the columns.

Main results:

* `Dialect.insertValue_cases` — what happens to one field;
* `Dialect.inserted_insertColumns`, `Dialect.exists_inserted` — what happens to all of them;
* `Dialect.inserted_insertRow` — **an insertion that succeeds does what it should**.
-/

import Mathlib.Data.List.Forall2
import ModelSql.Dialect.RowStatement
import ModelSql.Proofs.Model.Built

set_option relaxedAutoImplicit false
set_option autoImplicit false

namespace ModelSql.Dialect

/-! ### The fields of an insertion -/

/-- Whether an insertion with a session draws a value for a field. -/
def draws (d : Dialect) (m : Model) (allowed : List String) (f : Field) : Bool :=
  !f.isComputed && selects allowed f && (d.sequence? m f).isSome

/-- Whether an insertion with a session names a field: one that it draws a value for, or one that the
database does not make. -/
def lists (d : Dialect) (m : Model) (allowed : List String) (f : Field) : Bool :=
  d.draws m allowed f || (!f.isComputed && selects allowed f && !f.isGenerated)

variable {d : Dialect} {m : Model} {allowed : List String} {f : Field} {fs : List Field}
  {name : String}

theorem isGenerated_of_sequence? (h : d.sequence? m f = some name) : f.isGenerated = true := by
  unfold sequence? at h
  split at h
  · rename_i s hs
    simp [Field.isGenerated, hs]
  · split at h
    · rename_i hauto
      simp only [Bool.and_eq_true] at hauto
      simp [Field.isGenerated, hauto.1]
    · cases h

theorem lists_of_draws (h : d.draws m allowed f = true) : d.lists m allowed f = true := by
  simp [lists, h]

/-! ### Sequences that are created -/

theorem mem_firstOnes {seen ns : List String} :
    name ∈ firstOnes seen ns ↔ name ∈ ns ∧ name ∉ seen := by
  induction ns generalizing seen with
  | nil => simp [firstOnes]
  | cons n ns ih =>
      rw [firstOnes]
      by_cases hn : seen.contains n = true
      · rw [if_pos hn, ih]
        have : n ∈ seen := by simpa using hn
        constructor
        · rintro ⟨h, hseen⟩
          exact ⟨List.mem_cons_of_mem _ h, hseen⟩
        · rintro ⟨h, hseen⟩
          rcases List.mem_cons.1 h with rfl | h
          · exact absurd this hseen
          · exact ⟨h, hseen⟩
      · rw [if_neg hn, List.mem_cons, ih, List.mem_cons, List.mem_cons]
        have : n ∉ seen := by simpa using hn
        by_cases hname : name = n
        · simp [hname, this]
        · simp [hname]

/-- The sequence that a field draws from is one that is created with the model. -/
theorem createSequence_mem (hf : f ∈ m.fields) (h : d.sequence? m f = some name) :
    d.createSequence name ∈ d.createSequences m :=
  List.mem_map_of_mem (mem_firstOnes.2 ⟨List.mem_filterMap.2 ⟨f, hf, h⟩, List.not_mem_nil⟩)

/-- The query for the next value of a field, which names a sequence that is created with the model. -/
def AsksFor (d : Dialect) (m : Model) (f : Field) (call : Call) : Prop :=
  ∃ name sql, d.sequence? m f = some name ∧ d.createSequence name ∈ d.createSequences m ∧
    d.nextValue name = .ok sql ∧ call = ⟨true, sql, 0⟩

/-! ### Answers and the values written back -/

/-- An answer that is an integer. -/
def Answers (a : Except Error Value) (n : Int64) : Prop := ∃ v, a = .ok v ∧ v.toInt? = some n

/-- An integer can only come from an answer: when the answers have run out, a query finds null. -/
theorem answers_query {s : Session} {sql : String} {v : Value} {n : Int64}
    (h : (s.query sql).1 = .ok v) (hn : v.toInt? = some n) :
    ∃ a, s.answers = [a] ++ (s.query sql).2.answers ∧ Answers a n := by
  cases hs : s.answers with
  | nil =>
      simp only [Session.query, hs, List.head?_nil, Option.getD_none, Except.ok.injEq] at h
      rw [← h] at hn
      cases hn
  | cons a rest =>
      simp only [Session.query, hs, List.head?_cons, Option.getD_some] at h
      exact ⟨a, by simp [Session.query, hs], v, h, hn⟩

/-- A value that is written back stands under its name, and everything else stays. -/
theorem write_eq_ok {r r' : Row} {name : String} {v : Value} (h : r.write name v = .ok r') :
    r' = { r with record := r.record.set name v } := by
  unfold Row.write Record.write at h
  split at h
  · cases h
  · split at h
    · cases h
    · cases h
      rfl

/-- **A value that is drawn** is the integer that the query for the next one has found.  It is written into
the row and kept. -/
theorem drawNext_eq_ok {i i₁ : Insertion} {s : Session} {v : Value}
    (h : d.drawNext s name f i = (.ok v, i₁)) :
    ∃ query answer n, d.nextValue name = .ok query ∧ (s.query query).1 = .ok answer ∧
      answer.toInt? = some n ∧ v = .int n ∧
      i₁ = ⟨{ i.row with record := i.row.record.set f.name (.int n) }, some (s.query query).2, some n⟩ := by
  unfold drawNext at h
  split at h
  · cases h
  rename_i query hquery
  simp only at h
  split at h
  · cases h
  rename_i answer hanswer
  split at h
  · cases h
  rename_i n hn
  split at h
  · cases h
  rename_i row hrow
  cases h
  obtain rfl := write_eq_ok hrow
  exact ⟨query, answer, n, hquery, hanswer, hn, rfl, rfl⟩

/-! ### What an insertion does -/

/-- **What an insertion does with some fields**: it leads from `i` and its session `s` to `i'` and `s'`,
draws the integers `ns` and makes the columns `cs`. -/
structure Inserted (d : Dialect) (m : Model) (allowed : List String) (fs : List Field)
    (i : Insertion) (s : Session) (i' : Insertion) (s' : Session) (ns : List Int64)
    (cs : List (String × String)) : Prop where
  session : i'.session = some s'
  /-- One query for each field that a value is drawn for, in order, and no other call. -/
  calls : ∃ calls, s'.log = s.log ++ calls ∧
    List.Forall₂ (d.AsksFor m) (fs.filter (d.draws m allowed)) calls
  /-- The integers are the answers to these queries. -/
  answers : ∃ answers, s.answers = answers ++ s'.answers ∧ List.Forall₂ Answers answers ns
  rowCounts : s'.rowCounts = s.rowCounts
  /-- The fields hold the integers that were drawn for them. -/
  drawn : List.Forall₂ (fun f n => i'.row.record.get? f.name = some (.int n))
    (fs.filter (d.draws m allowed)) ns
  /-- Nothing else in the row has changed. -/
  kept : ∀ name, (∀ f ∈ fs, d.draws m allowed f = true → f.name ≠ name) →
    i'.row.record.get? name = i.row.record.get? name
  readOnly : i'.row.readOnly = i.row.readOnly
  /-- The integer drawn last is kept, if there is one. -/
  last : i'.last = ns.getLast?.or i.last
  /-- The columns are those of the fields that the statement names, each with the literal of the value
  that the row holds in the end. -/
  columns : List.Forall₂
    (fun f c => c.1 = d.quotedField f ∧ d.fieldLiteral f (i'.row.value f.name) = .ok c.2)
    (fs.filter (d.lists m allowed)) cs

namespace Inserted

variable {gs : List Field} {i i₁ i₂ : Insertion} {s s₁ s₂ : Session} {ns ns' : List Int64}
  {cs cs' : List (String × String)}

/-- The statement names the columns of the listed fields, in order. -/
theorem map_fst (h : Inserted d m allowed fs i s i₁ s₁ ns cs) :
    cs.map (·.1) = (fs.filter (d.lists m allowed)).map d.quotedField :=
  map_eq_of_forall₂ (fun _ _ hc => hc.1) h.columns

/-- **Insertions of fields with other names follow each other.** -/
theorem append (h₁ : Inserted d m allowed fs i s i₁ s₁ ns cs)
    (h₂ : Inserted d m allowed gs i₁ s₁ i₂ s₂ ns' cs')
    (hne : ∀ f ∈ fs, ∀ g ∈ gs, g.name ≠ f.name) :
    Inserted d m allowed (fs ++ gs) i s i₂ s₂ (ns ++ ns') (cs ++ cs') := by
  -- what was written or read for the fields before is not touched again
  have hkept : ∀ f ∈ fs, i₂.row.record.get? f.name = i₁.row.record.get? f.name :=
    fun f hf => h₂.kept f.name fun g hg _ => hne f hf g hg
  have hvalue : ∀ f ∈ fs, i₂.row.value f.name = i₁.row.value f.name :=
    fun f hf => congrArg (·.getD .null) (hkept f hf)
  have hdrawn : List.Forall₂ (fun f n => i₂.row.record.get? f.name = some (.int n))
      (fs.filter (d.draws m allowed)) ns :=
    ((List.forall₂_and_left _ _).2 ⟨fun f hf => hkept f (List.mem_of_mem_filter hf), h₁.drawn⟩).imp
      fun f n h => h.1.trans h.2
  have hcolumns : List.Forall₂
      (fun f c => c.1 = d.quotedField f ∧ d.fieldLiteral f (i₂.row.value f.name) = .ok c.2)
      (fs.filter (d.lists m allowed)) cs :=
    ((List.forall₂_and_left _ _).2
      ⟨fun f hf => hvalue f (List.mem_of_mem_filter hf), h₁.columns⟩).imp
      fun f c h => ⟨h.2.1, h.1 ▸ h.2.2⟩
  obtain ⟨calls₁, hlog₁, hcalls₁⟩ := h₁.calls
  obtain ⟨calls₂, hlog₂, hcalls₂⟩ := h₂.calls
  obtain ⟨answers₁, hanswers₁, hints₁⟩ := h₁.answers
  obtain ⟨answers₂, hanswers₂, hints₂⟩ := h₂.answers
  refine
    { session := h₂.session
      calls := ⟨calls₁ ++ calls₂, by rw [hlog₂, hlog₁, List.append_assoc], ?_⟩
      answers := ⟨answers₁ ++ answers₂, by rw [hanswers₁, hanswers₂, List.append_assoc],
        List.rel_append hints₁ hints₂⟩
      rowCounts := h₂.rowCounts.trans h₁.rowCounts
      drawn := ?_
      kept := fun name hname => ?_
      readOnly := h₂.readOnly.trans h₁.readOnly
      last := ?_
      columns := ?_ }
  · rw [List.filter_append]
    exact List.rel_append hcalls₁ hcalls₂
  · rw [List.filter_append]
    exact List.rel_append hdrawn h₂.drawn
  · rw [h₂.kept name fun g hg => hname g (List.mem_append_right _ hg),
      h₁.kept name fun f hf => hname f (List.mem_append_left _ hf)]
  · rw [h₂.last, h₁.last, List.getLast?_append, Option.or_assoc]
  · rw [List.filter_append]
    exact List.rel_append hcolumns h₂.columns

/-! ### One field -/

/-- Where nothing is drawn, session and row stay as they are. -/
theorem undrawn (hdraws : ∀ f ∈ fs, d.draws m allowed f = false) (hs : i.session = some s)
    (hcolumns : List.Forall₂
      (fun f c => c.1 = d.quotedField f ∧ d.fieldLiteral f (i.row.value f.name) = .ok c.2)
      (fs.filter (d.lists m allowed)) cs) :
    Inserted d m allowed fs i s i s [] cs := by
  have hnone : fs.filter (d.draws m allowed) = [] :=
    List.filter_eq_nil_iff.2 fun f hf => by simp [hdraws f hf]
  exact
    { session := hs
      calls := ⟨[], by simp, by rw [hnone]; exact .nil⟩
      answers := ⟨[], rfl, .nil⟩
      rowCounts := rfl
      drawn := by rw [hnone]; exact .nil
      kept := fun _ _ => rfl
      readOnly := rfl
      last := by simp
      columns := hcolumns }

/-- **Drawing a value for a field**: one query, whose answer is an integer that is written back and
kept as the last one. -/
theorem drawn_drawNext {name sql : String} {v : Value} (hf : f ∈ m.fields)
    (hseq : d.sequence? m f = some name) (hdraws : d.draws m allowed f = true)
    (h : d.drawNext s name f i = (.ok v, i₁)) (hsql : d.fieldLiteral f v = .ok sql) :
    ∃ s₁ n, Inserted d m allowed [f] i s i₁ s₁ [n] [(d.quotedField f, sql)] := by
  obtain ⟨query, answer, n, hquery, hanswer, hn, rfl, rfl⟩ := drawNext_eq_ok h
  obtain ⟨a, hanswers, ha⟩ := answers_query hanswer hn
  have hone : [f].filter (d.draws m allowed) = [f] := by simp [hdraws]
  have hlisted : [f].filter (d.lists m allowed) = [f] := by simp [lists_of_draws hdraws]
  refine ⟨(s.query query).2, n, ?_⟩
  exact
    { session := rfl
      calls := ⟨[⟨true, query, 0⟩], s.log_query query, by
        rw [hone]
        exact .cons ⟨name, query, hseq, createSequence_mem hf hseq, hquery, rfl⟩ .nil⟩
      answers := ⟨[a], hanswers, .cons ha .nil⟩
      rowCounts := rfl
      drawn := by
        rw [hone]
        exact .cons (by simp) .nil
      kept := fun other hother => by
        have hne := hother f List.mem_cons_self hdraws
        simp [hne.symm]
      readOnly := rfl
      last := by simp
      columns := by
        rw [hlisted]
        exact .cons ⟨rfl, by simpa [Row.value, Record.value] using hsql⟩ .nil }

end Inserted

/-- **What happens to a field**: it is left out, its value is read, or a value is drawn for it. -/
theorem insertValue_cases {i i₁ : Insertion} {s : Session} {r : Option Value}
    (hs : i.session = some s) (h : d.insertValue m allowed f i = (.ok r, i₁)) :
    (d.lists m allowed f = false ∧ r = none ∧ i₁ = i) ∨
      (d.draws m allowed f = false ∧ d.lists m allowed f = true ∧
        r = some (i.row.value f.name) ∧ i₁ = i) ∨
      ∃ name v, d.sequence? m f = some name ∧ d.draws m allowed f = true ∧
        d.drawNext s name f i = (.ok v, i₁) ∧ r = some v := by
  unfold insertValue at h
  by_cases hskip : (f.isComputed || !selects allowed f) = true
  · rw [if_pos hskip] at h
    cases h
    refine .inl ⟨?_, rfl, rfl⟩
    cases hc : f.isComputed <;> simp_all [lists, draws]
  rw [if_neg hskip] at h
  obtain ⟨hcomputed, hselects⟩ : f.isComputed = false ∧ selects allowed f = true := by
    simpa using hskip
  by_cases hgenerated : f.isGenerated = true
  · rw [if_pos hgenerated, hs] at h
    cases hseq : d.sequence? m f with
    | none =>
        rw [hseq] at h
        cases h
        exact .inl ⟨by simp [lists, draws, hseq, hgenerated], rfl, rfl⟩
    | some name =>
        rw [hseq] at h
        cases hdraw : d.drawNext s name f i with
        | mk outcome i₂ =>
            simp only [hdraw] at h
            cases outcome with
            | error e => cases h
            | ok v =>
                cases h
                have hdraws : d.draws m allowed f = true := by
                  simp [draws, hcomputed, hselects, hseq]
                exact .inr (.inr ⟨name, v, rfl, hdraws, hdraw, rfl⟩)
  · rw [if_neg hgenerated] at h
    cases h
    rw [Bool.not_eq_true] at hgenerated
    have hseq : d.sequence? m f = none := by
      cases hseq : d.sequence? m f with
      | none => rfl
      | some name => rw [isGenerated_of_sequence? hseq] at hgenerated; cases hgenerated
    have hlists : d.lists m allowed f = true := by simp [lists, hcomputed, hselects, hgenerated]
    exact .inr (.inl ⟨by simp [draws, hseq], hlists, rfl, rfl⟩)

/-- An insertion that succeeds makes a column for a field that has a value, and goes on. -/
theorem insertColumns_cons {i i₁ i' : Insertion} {r : Option Value} {cs : List (String × String)}
    (hv : d.insertValue m allowed f i = (.ok r, i₁))
    (h : d.insertColumns m allowed (f :: fs) i = (.ok cs, i')) :
    ∃ rest, d.insertColumns m allowed fs i₁ = (.ok rest, i') ∧
      match r with
      | none => cs = rest
      | some v => ∃ sql, d.fieldLiteral f v = .ok sql ∧ cs = (d.quotedField f, sql) :: rest := by
  rw [insertColumns] at h
  simp only [hv] at h
  cases r with
  | none => exact ⟨cs, h, rfl⟩
  | some v =>
      simp only at h
      cases hsql : d.fieldLiteral f v with
      | error e =>
          rw [hsql] at h
          cases h
      | ok sql =>
          cases hrest : d.insertColumns m allowed fs i₁ with
          | mk outcome i₂ =>
              simp only [hsql, hrest, Prod.mk.injEq] at h
              obtain ⟨hmap, rfl⟩ := h
              cases outcome with
              | error e => cases hmap
              | ok rest =>
                  cases hmap
                  exact ⟨rest, rfl, sql, hsql, rfl⟩

/-- **The first field of an insertion**, and what is left to insert. -/
theorem inserted_head {i i' : Insertion} {s : Session} {cs : List (String × String)}
    (hf : f ∈ m.fields) (hs : i.session = some s)
    (h : d.insertColumns m allowed (f :: fs) i = (.ok cs, i')) :
    ∃ i₁ s₁ ns cs₁ rest, Inserted d m allowed [f] i s i₁ s₁ ns cs₁ ∧
      d.insertColumns m allowed fs i₁ = (.ok rest, i') ∧ cs = cs₁ ++ rest := by
  obtain ⟨r, i₁, hv⟩ : ∃ r i₁, d.insertValue m allowed f i = (.ok r, i₁) := by
    rw [insertColumns] at h
    cases hv : d.insertValue m allowed f i with
    | mk outcome i₁ =>
        cases outcome with
        | error e => simp [hv] at h
        | ok r => exact ⟨r, i₁, rfl⟩
  obtain ⟨rest, hrest, hcolumn⟩ := insertColumns_cons hv h
  obtain ⟨hlists, rfl, rfl⟩ | ⟨hdraws, hlists, rfl, rfl⟩ | ⟨name, v, hseq, hdraws, hdraw, rfl⟩ :=
    insertValue_cases hs hv
  · have hnone : d.draws m allowed f = false :=
      Bool.eq_false_iff.2 fun hdraws => by rw [lists_of_draws hdraws] at hlists; cases hlists
    have hinserted : Inserted d m allowed [f] i₁ s i₁ s [] [] :=
      .undrawn (by simpa using hnone) hs (by simp [hlists])
    exact ⟨i₁, s, [], [], rest, hinserted, hrest, hcolumn⟩
  · obtain ⟨sql, hsql, rfl⟩ := hcolumn
    have hinserted : Inserted d m allowed [f] i₁ s i₁ s [] [(d.quotedField f, sql)] :=
      .undrawn (by simpa using hdraws) hs (by simp [hlists, hsql])
    exact ⟨i₁, s, [], _, rest, hinserted, hrest, rfl⟩
  · obtain ⟨sql, hsql, rfl⟩ := hcolumn
    obtain ⟨s₁, n, hinserted⟩ := Inserted.drawn_drawNext hf hseq hdraws hdraw hsql
    exact ⟨i₁, s₁, [n], _, rest, hinserted, hrest, rfl⟩

/-! ### All fields -/

/-- **An insertion of fields with names of their own.** -/
theorem inserted_insertColumns {i i' : Insertion} {s : Session} {cs : List (String × String)}
    (hfs : ∀ f ∈ fs, f ∈ m.fields) (hnames : (fs.map (·.name)).Nodup) (hs : i.session = some s)
    (h : d.insertColumns m allowed fs i = (.ok cs, i')) :
    ∃ s' ns, Inserted d m allowed fs i s i' s' ns cs := by
  induction fs generalizing i s cs with
  | nil =>
      cases h
      exact ⟨s, [], .undrawn (by simp) hs .nil⟩
  | cons f fs ih =>
      rw [List.map_cons, List.nodup_cons] at hnames
      obtain ⟨i₁, s₁, ns, cs₁, rest, hhead, hrest, rfl⟩ :=
        inserted_head (hfs f List.mem_cons_self) hs h
      obtain ⟨s', ns', htail⟩ :=
        ih (fun g hg => hfs g (List.mem_cons_of_mem _ hg)) hnames.2 hhead.session hrest
      refine ⟨s', ns ++ ns', hhead.append htail ?_⟩
      intro f' hf' g hg heq
      rw [List.mem_singleton.1 hf'] at heq
      exact hnames.1 (List.mem_map.2 ⟨g, hg, heq⟩)

/-- An insertion of a row of a model whose fields have names of their own. -/
theorem exists_inserted {row : Row} {s : Session} {last : Option Int64} {i' : Insertion} {sql : String}
    (hnames : (m.fields.map (·.name)).Nodup)
    (h : d.insertRow m allowed ⟨row, some s, last⟩ = (.ok sql, i')) :
    ∃ s' ns cs, Inserted d m allowed m.fields ⟨row, some s, last⟩ s i' s' ns cs ∧
      sql = d.insertText m cs := by
  cases hcolumns : d.insertColumns m allowed m.fields ⟨row, some s, last⟩ with
  | mk outcome i₁ =>
      simp only [insertRow, hcolumns, Prod.mk.injEq] at h
      obtain ⟨hmap, rfl⟩ := h
      cases outcome with
      | error e => cases hmap
      | ok cs =>
          cases hmap
          obtain ⟨s', ns, hinserted⟩ :=
            inserted_insertColumns (fun f hf => hf) hnames rfl hcolumns
          exact ⟨s', ns, cs, hinserted, rfl⟩

/-- **What an insertion of a row does**, if it succeeds: one query for each stored and allowed field
with a sequence, in order; the answers stand in the row, and nothing else in it has changed; the last
of them is kept; and the statement names these fields and the stored and allowed ones that the database
does not make, each with the literal of what the row holds in the end. -/
theorem inserted_insertRow {m b : Model} {row : Row} {s : Session} {last : Option Int64}
    {i' : Insertion} {sql : String} (hb : m.build = .ok b)
    (h : d.insertRow b allowed ⟨row, some s, last⟩ = (.ok sql, i')) :
    ∃ s' ns cs, Inserted d b allowed b.fields ⟨row, some s, last⟩ s i' s' ns cs ∧
      sql = d.insertText b cs :=
  exists_inserted (Model.distinctFields_of_build hb).names h

/-- Orders with two sequences, a name between them, and a computed sum. -/
def orders : Model :=
  { Model.new "Order" with
    fields :=
      [{ (Field.new "Id" .int64).primaryKey with sequence := some "order_seq" },
        Field.new "Name" .string,
        { Field.new "Number" .int32 with sequence := some "number_seq" },
        { Field.new "Total" .int64 with isComputed := true }] }

/-- A row with a name and a number that the sequence replaces. -/
def orderRow : Row :=
  .ofRecord ((Record.empty.set "Name" (.text "Ann")).set "Number" (.int 7))

/-- A session with two answers. -/
def orderSession : Session := .new [] [.ok (.int 41), .ok (.int 42)]

/-- Two values are drawn, and the statement holds both of them. -/
theorem inserted_insertRow_orders :
    let d := DialectKind.postgres.dialect
    let i : Insertion := ⟨orderRow, some orderSession, none⟩
    let i' := (d.insertRow orders [] i).2
    let sql := "INSERT INTO \"Order\" (\"Id\",\"Name\",\"Number\") VALUES (41,'Ann',42)"
    orders.build = .ok orders ∧ d.insertRow orders [] i = (.ok sql, i') ∧ i'.last = some 42 ∧
      ∃ s' ns cs, Inserted d orders [] orders.fields i orderSession i' s' ns cs ∧
        sql = d.insertText orders cs := by
  intro d i i' sql
  have hb : orders.build = .ok orders := by rfl
  have h : d.insertRow orders [] i = (.ok sql, i') :=
    Prod.ext (by decide +kernel) rfl
  exact ⟨hb, h, by decide +kernel, inserted_insertRow hb h⟩

end ModelSql.Dialect
