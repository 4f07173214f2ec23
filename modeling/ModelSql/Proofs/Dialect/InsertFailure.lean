/-
**What an insertion leaves behind when it fails.**

An insertion goes through the fields once.  The integers that it draws are written into the row and kept
as the last one drawn at once, before it is known whether there is a statement in the end.  An insertion
that fails has stopped at one field: its sequence gave no integer, the row refused the integer, or its
value has no literal.  What was drawn for the fields before it stays, in the row and as the last integer,
and so does an integer that was drawn for the field itself and has no literal.  Nothing else has changed,
and nothing at all where no integer was drawn before.

Main definitions:

* `Row.fill` — a row with integers in some fields;
* `Dialect.Fetched` — **what is drawn for some fields**: the row, the last integer, the answers;
* `Dialect.Refuses` — the ways in which no integer comes into the row;
* `Dialect.FailsAt` — **an insertion that stops at a field**.

Main results:

* `Dialect.insertValue_eq_error`, `Dialect.fetched_insertValue` — one field;
* `Dialect.insertColumns_eq_error` — the fields in order;
* `Dialect.insertRow_eq_error` — **what a failing insertion leaves behind**.
-/

import ModelSql.Proofs.Dialect.LastValue
import ModelSql.Proofs.Query.Binding

set_option relaxedAutoImplicit false
set_option autoImplicit false

namespace ModelSql

/-! ### Integers in a row -/

/-- The row with integers in some fields, one after the other. -/
def Row.fill (row : Row) : List (Field × Int64) → Row
  | [] => row
  | (f, n) :: rest => fill { row with record := row.record.set f.name (.int n) } rest

@[simp] theorem Row.fill_nil (row : Row) : row.fill [] = row := rfl

theorem Row.fill_append (row : Row) (ps qs : List (Field × Int64)) :
    row.fill (ps ++ qs) = (row.fill ps).fill qs := by
  induction ps generalizing row with
  | nil => rfl
  | cons p ps ih => exact ih _

@[simp] theorem Row.value_fill_singleton (row : Row) (f : Field) (n : Int64) :
    (row.fill [(f, n)]).value f.name = .int n := by
  simp [fill, value, Record.value]

/-- The answer that a query gets next. -/
def Session.nextAnswer (s : Session) : Except Error Value := s.answers.head?.getD (.ok .null)

@[simp] theorem Session.query_fst (s : Session) (sql : String) : (s.query sql).1 = s.nextAnswer := rfl

/-- What fails after a change of the result has failed before it. -/
theorem map_eq_error {α β : Type} {x : Except Error α} {g : α → β} {e : Error} (h : x.map g = .error e) :
    x = .error e := by
  cases x with
  | error e' => exact congrArg _ (Except.error.inj h)
  | ok a => cases h

namespace Dialect

/-! ### What is drawn -/

/-- **What is drawn for some fields**, from `i` and its session `s` to `i'` and `s'`: the next answers are
the integers `ns`, one for each field that a value is drawn for.  The row has them in these fields and is
the same otherwise, and the last of them is kept. -/
structure Fetched (d : Dialect) (m : Model) (allowed : List String) (fs : List Field)
    (i : Insertion) (s : Session) (i' : Insertion) (s' : Session) (ns : List Int64) : Prop where
  session : i'.session = some s'
  answers : ∃ answers, s.answers = answers ++ s'.answers ∧ List.Forall₂ Answers answers ns
  count : (fs.filter (d.draws m allowed)).length = ns.length
  row : i'.row = i.row.fill ((fs.filter (d.draws m allowed)).zip ns)
  last : i'.last = ns.getLast?.or i.last

/-- Why no integer comes into a row that an answer was drawn for: the query failed, its answer is no
integer, or the row does not take it. -/
inductive Refuses (d : Dialect) (m : Model) (f : Field) (row : Row) (answer : Except Error Value) :
    Error → Prop
  | failed {e : Error} (h : answer = .error e) : Refuses d m f row answer e
  | noInteger {name : String} {v : Value} (hname : d.sequence? m f = some name) (h : answer = .ok v)
      (hv : v.toInt? = none) : Refuses d m f row answer (.sequenceAnswer name v.kind)
  | unwritten {v : Value} {n : Int64} {e : Error} (h : answer = .ok v) (hv : v.toInt? = some n)
      (hwrite : row.write f.name (.int n) = .error e) : Refuses d m f row answer e

/-- **An insertion that stops at a field**, with the error `e` and in the state it leaves behind: what
was drawn for the fields before is there, and what was drawn for the field itself where there is no
literal for it. -/
inductive FailsAt (d : Dialect) (m : Model) (allowed : List String) (i : Insertion) (s : Session)
    (before : List Field) (f : Field) (ns : List Int64) (e : Error) : Insertion → Prop
  | refused {i₁ : Insertion} {s₁ s₂ : Session} (fetched : d.Fetched m allowed before i s i₁ s₁ ns)
      (draws : d.draws m allowed f = true) (refuses : d.Refuses m f i₁.row s₁.nextAnswer e) :
      FailsAt d m allowed i s before f ns e { i₁ with session := some s₂ }
  | unspelled {i₁ : Insertion} {s₁ : Session} (fetched : d.Fetched m allowed (before ++ [f]) i s i₁ s₁ ns)
      (lists : d.lists m allowed f = true)
      (literal : d.fieldLiteral f (i₁.row.value f.name) = .error e) :
      FailsAt d m allowed i s before f ns e i₁

variable {d : Dialect} {m : Model} {allowed : List String} {f : Field} {fs gs : List Field}
  {i i' i₁ i₂ : Insertion} {s s₁ s₂ : Session} {ns ns' : List Int64} {e : Error}

namespace Fetched

/-- Where nothing is drawn, nothing changes. -/
theorem refl (hs : i.session = some s) (hdraws : fs.filter (d.draws m allowed) = []) :
    d.Fetched m allowed fs i s i s [] where
  session := hs
  answers := ⟨[], rfl, .nil⟩
  count := by rw [hdraws]; rfl
  row := by rw [hdraws]; rfl
  last := rfl

/-- **What is drawn for one list of fields and then for another.** -/
theorem append (h₁ : d.Fetched m allowed fs i s i₁ s₁ ns) (h₂ : d.Fetched m allowed gs i₁ s₁ i₂ s₂ ns') :
    d.Fetched m allowed (fs ++ gs) i s i₂ s₂ (ns ++ ns') := by
  obtain ⟨answers₁, hanswers₁, hints₁⟩ := h₁.answers
  obtain ⟨answers₂, hanswers₂, hints₂⟩ := h₂.answers
  refine ⟨h₂.session, ⟨answers₁ ++ answers₂, ?_, List.rel_append hints₁ hints₂⟩, ?_, ?_, ?_⟩
  · rw [hanswers₁, hanswers₂, List.append_assoc]
  · rw [List.filter_append, List.length_append, List.length_append, h₁.count, h₂.count]
  · rw [List.filter_append, List.zip_append h₁.count, Row.fill_append, ← h₁.row, h₂.row]
  · rw [h₂.last, h₁.last, List.getLast?_append, Option.or_assoc]

/-- Where nothing was drawn, row and last integer are as before. -/
theorem unchanged (h : d.Fetched m allowed fs i s i' s₁ []) : i'.row = i.row ∧ i'.last = i.last := by
  refine ⟨?_, h.last⟩
  rw [h.row, List.zip_nil_right, Row.fill_nil]

end Fetched

/-! ### One field -/

/-- A field draws values where the database has sequences or generators. -/
theorem kind_of_sequence? {name : String} (h : d.sequence? m f = some name) :
    d.kind.rules.hasSequences = true ∨ d.kind.rules.identity = .generator := by
  unfold sequence? at h
  split at h
  · split at h
    · rename_i hsequences
      exact .inl hsequences
    · cases h
  · split at h
    · rename_i hgenerator
      exact .inr (beq_iff_eq.1 (Bool.and_eq_true_iff.1 hgenerator).2)
    · cases h

/-- Where a field draws values, there is a query for the next one. -/
theorem exists_nextValue {name : String} (h : d.sequence? m f = some name) :
    ∃ sql, d.nextValue name = .ok sql := by
  have hkind := kind_of_sequence? h
  unfold nextValue
  revert hkind
  cases d.kind with
  | firebird => exact fun _ => ⟨_, rfl⟩
  | postgres => exact fun _ => ⟨_, rfl⟩
  | sqlserver => exact fun _ => ⟨_, rfl⟩
  | mysql => exact fun hkind => absurd hkind (by decide)
  | sqlite => exact fun hkind => absurd hkind (by decide)

/-- Drawing a value fails where no integer comes into the row, which stays as it is. -/
theorem drawNext_eq_error {name : String} (hname : d.sequence? m f = some name)
    (h : d.drawNext s name f i = (.error e, i')) :
    d.Refuses m f i.row s.nextAnswer e ∧ ∃ s', i' = { i with session := some s' } := by
  obtain ⟨sql, hsql⟩ := exists_nextValue hname
  unfold drawNext at h
  rw [hsql] at h
  simp only [Session.query_fst] at h
  split at h
  · rename_i e' hanswer
    cases h
    exact ⟨.failed hanswer, _, rfl⟩
  rename_i v hanswer
  split at h
  · rename_i hv
    cases h
    exact ⟨.noInteger hname hanswer hv, _, rfl⟩
  rename_i n hv
  split at h
  · rename_i e' hwrite
    cases h
    exact ⟨.unwritten hanswer hv hwrite, _, rfl⟩
  · cases h

/-- **A field fails by itself only where a value is drawn for it.** -/
theorem insertValue_eq_error (hs : i.session = some s)
    (h : d.insertValue m allowed f i = (.error e, i')) :
    d.draws m allowed f = true ∧ d.Refuses m f i.row s.nextAnswer e ∧
      ∃ s', i' = { i with session := some s' } := by
  unfold insertValue at h
  split at h
  · cases h
  rename_i hskip
  obtain ⟨hcomputed, hselects⟩ : f.isComputed = false ∧ selects allowed f = true := by
    simpa using hskip
  rw [hs] at h
  split at h
  · cases hname : d.sequence? m f with
    | none =>
        rw [hname] at h
        cases h
    | some name =>
        rw [hname] at h
        obtain ⟨herror, rfl⟩ := Prod.mk.inj h
        exact ⟨by simp [draws, hcomputed, hselects, hname],
          drawNext_eq_error hname (Prod.ext (map_eq_error herror) rfl)⟩
  · cases h

/-- **A field that does not fail by itself** has drawn an integer or changed nothing; its value is the one
that the row holds then. -/
theorem fetched_insertValue {r : Option Value} (hs : i.session = some s)
    (h : d.insertValue m allowed f i = (.ok r, i₁)) :
    ∃ s₁ ns, d.Fetched m allowed [f] i s i₁ s₁ ns ∧
      ∀ v, r = some v → d.lists m allowed f = true ∧ v = i₁.row.value f.name := by
  rcases insertValue_cases hs h with ⟨hlists, rfl, rfl⟩ | ⟨hdraws, hlists, rfl, rfl⟩ |
    ⟨name, v, hname, hdraws, hdraw, rfl⟩
  · have hdraws : d.draws m allowed f = false := by
      by_contra hdraws
      rw [lists_of_draws (by simpa using hdraws)] at hlists
      cases hlists
    exact ⟨s, [], .refl hs (by simp [hdraws]), nofun⟩
  · exact ⟨s, [], .refl hs (by simp [hdraws]), fun v hv => ⟨hlists, (Option.some.inj hv).symm⟩⟩
  · have hone : [f].filter (d.draws m allowed) = [f] := by simp [hdraws]
    obtain ⟨query, answer, n, -, hanswer, hn, rfl, rfl⟩ := drawNext_eq_ok hdraw
    obtain ⟨a, hanswers, ha⟩ := answers_query hanswer hn
    refine ⟨(s.query query).2, [n], ?_, fun v hv => ⟨lists_of_draws hdraws, ?_⟩⟩
    · exact ⟨rfl, ⟨[a], hanswers, .cons ha .nil⟩, by rw [hone]; rfl, by rw [hone]; rfl, rfl⟩
    · rw [← Option.some.inj hv]
      exact (i.row.value_fill_singleton f n).symm

/-! ### All fields -/

namespace FailsAt

/-- What is drawn before an insertion fails is there when it has failed. -/
theorem prepend (hfs : d.Fetched m allowed fs i s i₁ s₁ ns)
    (h : d.FailsAt m allowed i₁ s₁ gs f ns' e i') :
    d.FailsAt m allowed i s (fs ++ gs) f (ns ++ ns') e i' := by
  cases h with
  | refused fetched draws refuses => exact .refused (hfs.append fetched) draws refuses
  | unspelled fetched lists literal =>
      have hall := hfs.append fetched
      rw [← List.append_assoc] at hall
      exact .unspelled hall lists literal

/-- **Where no integer was drawn, a failing insertion changes neither the row nor the last integer.** -/
theorem unchanged (h : d.FailsAt m allowed i s gs f [] e i') : i'.row = i.row ∧ i'.last = i.last := by
  cases h with
  | refused fetched => exact fetched.unchanged
  | unspelled fetched => exact fetched.unchanged

end FailsAt

/-- **An insertion that fails stops at one of the fields.** -/
theorem insertColumns_eq_error (hs : i.session = some s)
    (h : d.insertColumns m allowed fs i = (.error e, i')) :
    ∃ before g after ns, fs = before ++ g :: after ∧ d.FailsAt m allowed i s before g ns e i' := by
  induction fs generalizing i s with
  | nil => cases h
  | cons f fs ih =>
      rw [insertColumns] at h
      cases hvalue : d.insertValue m allowed f i with
      | mk outcome i₁ =>
          rw [hvalue] at h
          cases outcome with
          | error e' =>
              obtain ⟨he, rfl⟩ := Prod.mk.inj h
              obtain rfl := Except.error.inj he
              obtain ⟨hdraws, hrefuses, s', rfl⟩ := insertValue_eq_error hs hvalue
              exact ⟨[], f, fs, [], rfl, .refused (.refl hs rfl) hdraws hrefuses⟩
          | ok r =>
              obtain ⟨s₁, ns, hfetched, hvalue⟩ := fetched_insertValue hs hvalue
              -- the fields behind this one start with what has been drawn for it
              have hrest (h : d.insertColumns m allowed fs i₁ = (.error e, i')) :
                  ∃ before g after ns, f :: fs = before ++ g :: after ∧
                    d.FailsAt m allowed i s before g ns e i' := by
                obtain ⟨before, g, after, ns', rfl, hfails⟩ := ih hfetched.session h
                exact ⟨f :: before, g, after, ns ++ ns', rfl, hfails.prepend hfetched⟩
              cases r with
              | none => exact hrest h
              | some v =>
                  obtain ⟨hlists, rfl⟩ := hvalue v rfl
                  simp only at h
                  cases hliteral : d.fieldLiteral f (i₁.row.value f.name) with
                  | error e' =>
                      rw [hliteral] at h
                      obtain ⟨he, rfl⟩ := Prod.mk.inj h
                      obtain rfl := Except.error.inj he
                      exact ⟨[], f, fs, ns, rfl, .unspelled hfetched hlists hliteral⟩
                  | ok sql =>
                      rw [hliteral] at h
                      obtain ⟨he, rfl⟩ := Prod.mk.inj h
                      exact hrest (Prod.ext (map_eq_error he) rfl)

/-! ### Without a session -/

/-- Without a session, no value is drawn. -/
theorem insertValue_of_none (hs : i.session = none) (f : Field) :
    (d.insertValue m allowed f i).2 = i := by
  unfold insertValue
  rw [hs]
  split
  · rfl
  split
  · cases d.sequence? m f <;> rfl
  · rfl

/-- **Without a session, an insertion changes nothing.** -/
theorem insertColumns_of_none (hs : i.session = none) (fs : List Field) :
    (d.insertColumns m allowed fs i).2 = i := by
  induction fs with
  | nil => rfl
  | cons f fs ih =>
      have hvalue : (d.insertValue m allowed f i).2 = i := insertValue_of_none hs f
      rw [insertColumns]
      simp only [hvalue]
      split
      · rfl
      · exact ih
      · split
        · rfl
        · exact ih

/-! ### Rows -/

/-- **What a failing insertion leaves behind.**  Without a session, everything as it was.  With one, it
has stopped at some field: the integers drawn for the fields before are in the row and the last of them is
kept, and so is one drawn for the field itself that has no literal.  Where no integer was drawn, row and
last integer are as they were. -/
theorem insertRow_eq_error (h : d.insertRow m allowed i = (.error e, i')) :
    (i.session = none → i' = i) ∧
      ∀ s, i.session = some s → ∃ before f after ns, m.fields = before ++ f :: after ∧
        d.FailsAt m allowed i s before f ns e i' ∧
          (ns = [] → i'.row = i.row ∧ i'.last = i.last) := by
  rw [insertRow] at h
  obtain ⟨he, rfl⟩ := Prod.mk.inj h
  refine ⟨fun hs => insertColumns_of_none hs m.fields, fun s hs => ?_⟩
  obtain ⟨before, f, after, ns, hfields, hfails⟩ :=
    insertColumns_eq_error hs (Prod.ext (map_eq_error he) rfl)
  refine ⟨before, f, after, ns, hfields, hfails, ?_⟩
  rintro rfl
  exact hfails.unchanged

/-- A ticket whose number cannot be drawn: its key has been, and stays in the row. -/
theorem insertRow_eq_error_ticket :
    let d := DialectKind.firebird.dialect
    let s := Session.new [] [.ok (.int 41)]
    let i : Insertion := ⟨.ofRecord .empty, some s, some 7⟩
    let e := Error.sequenceAnswer "Ticket_Number_GEN" .null
    let r := d.insertRow ticket [] i
    r.1 = .error e ∧ r.2.row.record.get? "Id" = some (.int 41) ∧ r.2.last = some 41 ∧
      ∃ before f after ns, ticket.fields = before ++ f :: after ∧
        d.FailsAt ticket [] i s before f ns e r.2 := by
  intro d s i e r
  have herror : r.1 = .error e := by decide +kernel
  have hfails : d.insertRow ticket [] i = (.error e, r.2) := Prod.ext herror rfl
  obtain ⟨before, f, after, ns, hfields, hfails, -⟩ := (insertRow_eq_error hfails).2 s rfl
  exact ⟨herror, by rfl, by decide +kernel, before, f, after, ns, hfields, hfails⟩

/-- **A failing insertion may change the row and the last integer**: the key of a visitor is drawn before
the pass turns out to be no identifier. -/
theorem insertRow_changed_by_error :
    let d := DialectKind.firebird.dialect
    let call := visit (.text "abc") [.ok (.int 2)]
    let r := d.runInsert call none
    visitor.build = .ok visitor ∧ r.1 = .error (.notAGuid "abc") ∧
      call.row.record.get? "Id" = none ∧ r.2.row.record.get? "Id" = some (.int 2) ∧
      r.2.last = some 2 :=
  ⟨by rfl, by decide +kernel, by rfl, by rfl, by decide +kernel⟩

end Dialect

end ModelSql
