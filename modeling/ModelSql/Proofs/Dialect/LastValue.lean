/-
**The value kept by insertions.**

A dialect keeps one integer for all the insertions that it is asked for: the one that was drawn last from
a sequence, for whichever field of whichever model, and whether or not the statement could be written in
the end.  An insertion never looks at it, so a run of insertions keeps what the last drawing one among
them has drawn last.  Where there is no query for the key of the row inserted last, this integer is the
answer, and it is that key only if no other field and no other insertion has drawn since.

Main definitions:

* `InsertCall`, `Dialect.runInsert` — an insertion that is asked for, and what comes of it;
* `Dialect.keptAfter` — **the value kept after a run of insertions**;
* `Dialect.drawnBy` — the integer that an insertion draws last.

Main results:

* `Dialect.insertColumns_keeping` — an insertion does not look at the value kept before it;
* `Dialect.keptAfter_eq` — **what a run keeps** is what was drawn last;
* `Dialect.exists_field_of_drawnBy` — what is drawn stands in the row, in a field that draws;
* `Dialect.last_of_runInsert` — what an insertion that succeeds leaves kept;
* `Dialect.lastInsertId_keptAfter` — **what the key of the row inserted last is said to be**.
-/

import ModelSql.Proofs.Dialect.Insertion
import ModelSql.Proofs.Model.Acceptance

set_option relaxedAutoImplicit false
set_option autoImplicit false

namespace ModelSql

/-- An insertion that is asked for: a row of a model, the fields that are allowed, and a session to draw
values with. -/
structure InsertCall where
  model : Model
  allowed : List String
  row : Row
  session : Session

/-- An outcome in an instance that held a value before: it holds that value still if nothing was
drawn. -/
def Insertion.keeping {α : Type} (r : α × Insertion) (last : Option Int64) : α × Insertion :=
  (r.1, { r.2 with last := r.2.last.or last })

namespace Dialect

open Insertion (keeping)

variable {d : Dialect} {m : Model} {allowed : List String} {f : Field} {fs : List Field} {row : Row}
  {session : Option Session} {last : Option Int64}

/-! ### Insertions do not look at the value kept -/

theorem drawNext_keeping (d : Dialect) (s : Session) (name : String) (f : Field) (row : Row)
    (session : Option Session) (last : Option Int64) :
    d.drawNext s name f ⟨row, session, last⟩ =
      keeping (d.drawNext s name f ⟨row, session, none⟩) last := by
  unfold drawNext
  cases d.nextValue name with
  | error e => rfl
  | ok sql =>
      simp only
      cases (s.query sql).1 with
      | error e => rfl
      | ok v =>
          simp only
          cases v.toInt? with
          | none => rfl
          | some n =>
              simp only
              cases row.write f.name (.int n) with
              | error e => rfl
              | ok row' => rfl

theorem insertValue_keeping (d : Dialect) (m : Model) (allowed : List String) (f : Field) (row : Row)
    (session : Option Session) (last : Option Int64) :
    d.insertValue m allowed f ⟨row, session, last⟩ =
      keeping (d.insertValue m allowed f ⟨row, session, none⟩) last := by
  unfold insertValue
  split
  · rfl
  split
  · cases d.sequence? m f with
    | none => rfl
    | some name =>
        cases session with
        | none => rfl
        | some s =>
            simp only
            rw [drawNext_keeping]
            rfl
  · rfl

/-- **An insertion does not look at the value kept before it.** -/
theorem insertColumns_keeping (d : Dialect) (m : Model) (allowed : List String) (fs : List Field)
    (row : Row) (session : Option Session) (last : Option Int64) :
    d.insertColumns m allowed fs ⟨row, session, last⟩ =
      keeping (d.insertColumns m allowed fs ⟨row, session, none⟩) last := by
  induction fs generalizing row session last with
  | nil => rfl
  | cons f fs ih =>
      rw [insertColumns, insertColumns, insertValue_keeping]
      -- what follows the first field starts with the value that it has drawn, if there is one
      have hrest (i : Insertion) : d.insertColumns m allowed fs { i with last := i.last.or last } =
          keeping (d.insertColumns m allowed fs i) last := by
        obtain ⟨row₁, session₁, last₁⟩ := i
        rw [ih row₁ session₁ (last₁.or last), ih row₁ session₁ last₁, keeping, keeping, keeping,
          Option.or_assoc]
      generalize d.insertValue m allowed f ⟨row, session, none⟩ = r
      obtain ⟨outcome, i⟩ := r
      cases outcome with
      | error e => rfl
      | ok v =>
          cases v with
          | none => exact hrest i
          | some v =>
              simp only [keeping]
              cases d.fieldLiteral f v with
              | error e => rfl
              | ok sql =>
                  simp only [hrest i]
                  rfl

/-! ### Runs -/

/-- **What comes of an insertion** in an instance that holds a value. -/
def runInsert (d : Dialect) (c : InsertCall) (last : Option Int64) : Except Error String × Insertion :=
  d.insertRow c.model c.allowed ⟨c.row, some c.session, last⟩

/-- The value kept after a run of insertions, of which some may fail. -/
def keptAfter (d : Dialect) : List InsertCall → Option Int64 → Option Int64
  | [], last => last
  | c :: cs, last => keptAfter d cs (d.runInsert c last).2.last

/-- The integer that an insertion draws last, if it draws any: the one held after it by an instance that
held none before. -/
def drawnBy (d : Dialect) (c : InsertCall) : Option Int64 := (d.runInsert c none).2.last

/-- An insertion gives the same statement and the same row whatever was kept, and keeps what it has drawn
last. -/
theorem runInsert_keeping (d : Dialect) (c : InsertCall) (last : Option Int64) :
    d.runInsert c last = keeping (d.runInsert c none) last := by
  rw [runInsert, runInsert, insertRow, insertRow, insertColumns_keeping]
  rfl

theorem last_runInsert (d : Dialect) (c : InsertCall) (last : Option Int64) :
    (d.runInsert c last).2.last = (d.drawnBy c).or last := by
  rw [runInsert_keeping]
  rfl

/-- **What a run keeps** is what was drawn last, or what was kept before. -/
theorem keptAfter_eq (d : Dialect) (cs : List InsertCall) (last : Option Int64) :
    d.keptAfter cs last = (cs.filterMap d.drawnBy).getLast?.or last := by
  induction cs generalizing last with
  | nil => rfl
  | cons c cs ih =>
      rw [keptAfter, ih, last_runInsert]
      cases hc : d.drawnBy c with
      | none => rw [List.filterMap_cons_none hc, Option.none_or]
      | some n =>
          rw [List.filterMap_cons_some hc, List.getLast?_cons, Option.some_or]
          cases (cs.filterMap d.drawnBy).getLast? with
          | none => rfl
          | some k => rfl

theorem keptAfter_append (d : Dialect) (cs cs' : List InsertCall) (last : Option Int64) :
    d.keptAfter (cs ++ cs') last = d.keptAfter cs' (d.keptAfter cs last) := by
  induction cs generalizing last with
  | nil => rfl
  | cons c cs ih => exact ih _

/-! ### What is drawn stands in the row -/

/-- What a field does to an insertion, whatever the outcome: nothing, or it draws an integer that stands
in the row under its name and is kept. -/
structure Drew (d : Dialect) (m : Model) (allowed : List String) (f : Field) (i i' : Insertion)
    (n : Int64) : Prop where
  draws : d.draws m allowed f = true
  row : i'.row = { i.row with record := i.row.record.set f.name (.int n) }
  last : i'.last = some n

theorem drawNext_drew {s : Session} {name : String} {i i' : Insertion} {r : Except Error Value}
    (hdraws : d.draws m allowed f = true) (h : d.drawNext s name f i = (r, i')) :
    (i'.row = i.row ∧ i'.last = i.last) ∨ ∃ n, Drew d m allowed f i i' n := by
  unfold drawNext at h
  split at h
  · cases h
    exact .inl ⟨rfl, rfl⟩
  simp only at h
  split at h
  · cases h
    exact .inl ⟨rfl, rfl⟩
  split at h
  · cases h
    exact .inl ⟨rfl, rfl⟩
  rename_i n hn
  split at h
  · cases h
    exact .inl ⟨rfl, rfl⟩
  · rename_i row hrow
    cases h
    exact .inr ⟨n, hdraws, write_eq_ok hrow, rfl⟩

theorem insertValue_drew (d : Dialect) (m : Model) (allowed : List String) (f : Field) (i : Insertion) :
    ((d.insertValue m allowed f i).2.row = i.row ∧ (d.insertValue m allowed f i).2.last = i.last) ∨
      ∃ n, Drew d m allowed f i (d.insertValue m allowed f i).2 n := by
  unfold insertValue
  split
  · exact .inl ⟨rfl, rfl⟩
  rename_i hskip
  obtain ⟨hcomputed, hselects⟩ : f.isComputed = false ∧ selects allowed f = true := by
    simpa using hskip
  split
  · split
    · rename_i name s hname hs
      exact drawNext_drew (by simp [draws, hcomputed, hselects, hname]) rfl
    · exact .inl ⟨rfl, rfl⟩
  · exact .inl ⟨rfl, rfl⟩

/-- The first field of an insertion ends it, or what follows starts where it has led. -/
theorem insertColumns_cons_cases {i i' : Insertion} {r : Except Error (List (String × String))}
    (h : d.insertColumns m allowed (f :: fs) i = (r, i')) :
    (d.insertValue m allowed f i).2 = i' ∨
      ∃ r', d.insertColumns m allowed fs (d.insertValue m allowed f i).2 = (r', i') := by
  rw [insertColumns] at h
  simp only at h
  split at h
  · cases h
    exact .inl rfl
  · exact .inr ⟨r, h⟩
  · split at h
    · cases h
      exact .inl rfl
    · cases h
      exact .inr ⟨_, rfl⟩

/-- Only the fields that are inserted are written to. -/
theorem insertColumns_kept {i i' : Insertion} {r : Except Error (List (String × String))}
    (h : d.insertColumns m allowed fs i = (r, i')) {name : String} (hname : ∀ f ∈ fs, f.name ≠ name) :
    i'.row.record.get? name = i.row.record.get? name := by
  induction fs generalizing i r with
  | nil =>
      cases h
      rfl
  | cons f fs ih =>
      have hfirst : (d.insertValue m allowed f i).2.row.record.get? name = i.row.record.get? name := by
        obtain ⟨hrow, -⟩ | ⟨n, hdrew⟩ := insertValue_drew d m allowed f i
        · rw [hrow]
        · rw [hdrew.row]
          simp [(hname f List.mem_cons_self).symm]
      obtain rfl | ⟨r', hrest⟩ := insertColumns_cons_cases h
      · exact hfirst
      · rw [ih hrest fun g hg => hname g (List.mem_cons_of_mem f hg), hfirst]

/-- **What fields of names of their own leave kept**: the value from before, or an integer that one of
them has drawn and that stands in the row. -/
theorem insertColumns_drew {i i' : Insertion} {r : Except Error (List (String × String))}
    (hnames : (fs.map (·.name)).Nodup) (h : d.insertColumns m allowed fs i = (r, i')) :
    i'.last = i.last ∨ ∃ f ∈ fs, d.draws m allowed f = true ∧
      ∃ n, i'.last = some n ∧ i'.row.record.get? f.name = some (.int n) := by
  induction fs generalizing i r with
  | nil =>
      cases h
      exact .inl rfl
  | cons f fs ih =>
      rw [List.map_cons, List.nodup_cons] at hnames
      have hother : ∀ g ∈ fs, g.name ≠ f.name := fun g hg heq =>
        hnames.1 (List.mem_map.2 ⟨g, hg, heq⟩)
      have hfirst := insertValue_drew d m allowed f i
      obtain rfl | ⟨r', hrest⟩ := insertColumns_cons_cases h
      · obtain ⟨-, hlast⟩ | ⟨n, hdrew⟩ := hfirst
        · exact .inl hlast
        · exact .inr ⟨f, List.mem_cons_self, hdrew.draws, n, hdrew.last, by rw [hdrew.row]; simp⟩
      · obtain hkept | ⟨g, hg, hdraws⟩ := ih hnames.2 hrest
        · obtain ⟨-, hlast⟩ | ⟨n, hdrew⟩ := hfirst
          · exact .inl (hkept.trans hlast)
          · refine .inr ⟨f, List.mem_cons_self, hdrew.draws, n, hkept.trans hdrew.last, ?_⟩
            rw [insertColumns_kept hrest hother, hdrew.row]
            simp
        · exact .inr ⟨g, List.mem_cons_of_mem f hg, hdraws⟩

/-- **What an insertion draws last stands in its row**, whether it succeeds or not. -/
theorem exists_field_of_drawnBy {b : Model} {c : InsertCall} {n : Int64} (hb : b.build = .ok c.model)
    (h : d.drawnBy c = some n) :
    ∃ f ∈ c.model.fields, d.draws c.model c.allowed f = true ∧
      ∀ last, (d.runInsert c last).2.row.record.get? f.name = some (.int n) := by
  have hrun : d.insertColumns c.model c.allowed c.model.fields ⟨c.row, some c.session, none⟩ =
      (_, _) := rfl
  obtain hnone | ⟨f, hf, hdraws, n', hlast, hvalue⟩ :=
    insertColumns_drew (Model.distinctFields_of_build hb).names hrun
  · exact absurd (h.symm.trans hnone) nofun
  · obtain rfl : n = n' := Option.some.inj (h.symm.trans hlast)
    exact ⟨f, hf, hdraws, fun last => by rw [runInsert_keeping]; exact hvalue⟩

/-! ### The key of the row inserted last -/

/-- What stands beside an item of a list. -/
theorem exists_of_forall₂ {α β : Type} {R : α → β → Prop} {before after : List α} {x : α} {ys : List β}
    (h : List.Forall₂ R (before ++ x :: after) ys) :
    ∃ ys₁ y ys₂, ys = ys₁ ++ y :: ys₂ ∧ R x y ∧ List.Forall₂ R after ys₂ := by
  induction before generalizing ys with
  | nil =>
      obtain ⟨y, ys₂, hy, hys₂, rfl⟩ := List.forall₂_cons_left_iff.1 h
      exact ⟨[], y, ys₂, rfl, hy, hys₂⟩
  | cons x' before ih =>
      obtain ⟨y', ys', -, hys', rfl⟩ := List.forall₂_cons_left_iff.1 h
      obtain ⟨ys₁, y, ys₂, rfl, hy, hys₂⟩ := ih hys'
      exact ⟨y' :: ys₁, y, ys₂, rfl, hy, hys₂⟩

/-- **What an insertion that succeeds leaves kept**, where a value is drawn for some field: the integer
that its row holds for the last of these fields. -/
theorem last_of_runInsert {b : Model} {c : InsertCall} {sql : String} (hb : b.build = .ok c.model)
    (hf : f ∈ c.model.fields) (hdraws : d.draws c.model c.allowed f = true)
    (h : (d.runInsert c last).1 = .ok sql) :
    ∃ n g k, (d.runInsert c last).2.row.record.get? f.name = some (.int n) ∧
      (c.model.fields.filter (d.draws c.model c.allowed)).getLast? = some g ∧
      (d.runInsert c last).2.row.record.get? g.name = some (.int k) ∧
      d.drawnBy c = some k := by
  rw [runInsert_keeping] at h ⊢
  have hc : d.runInsert c none = (.ok sql, (d.runInsert c none).2) := Prod.ext h rfl
  obtain ⟨s', ns, cs, hinserted, -⟩ :=
    exists_inserted (Model.distinctFields_of_build hb).names hc
  have hmem : f ∈ c.model.fields.filter (d.draws c.model c.allowed) := List.mem_filter.2 ⟨hf, hdraws⟩
  obtain ⟨g, hg⟩ := Option.ne_none_iff_exists'.1
    fun hnone => List.ne_nil_of_mem hmem (List.getLast?_eq_none_iff.1 hnone)
  obtain ⟨before, hlast⟩ := List.getLast?_eq_some_iff.1 hg
  obtain ⟨first, rest, hsplit⟩ := List.append_of_mem hmem
  have hdrawn := hinserted.drawn
  -- the key stands somewhere among the fields that draw, and `g` at their end
  obtain ⟨-, n, -, -, hn, -⟩ := exists_of_forall₂ (hsplit ▸ hdrawn)
  obtain ⟨ns₁, k, ns₂, rfl, hk, hns₂⟩ := exists_of_forall₂ (hlast ▸ hdrawn)
  obtain rfl := List.forall₂_nil_left_iff.1 hns₂
  refine ⟨n, g, k, hn, hg, hk, ?_⟩
  rw [drawnBy, hinserted.last, List.getLast?_append]
  rfl

theorem lastInsertId_some (hd : d.kind = .firebird) (s : Session) (n : Int64) :
    d.lastInsertId s (some n) = (.ok n, s) := by
  rw [lastInsertId, hd]

/-- **What the key of the row inserted last is said to be** after a run of insertions.  Take one that
succeeds and draws a value for its key, with any others before and after it.  The answer is the integer
that the last drawing insertion after it has drawn last, which stands in the row of that insertion; or
else, the integer that its own row holds for the last field that it draws for.  So it is its key where the
key is that field and no insertion after it has drawn. -/
theorem lastInsertId_keptAfter {c : InsertCall} {sql : String} (hd : d.kind = .firebird)
    (before later : List InsertCall) (last : Option Int64)
    (hmodels : ∀ c' ∈ before ++ c :: later, ∃ m : Model, m.build = .ok c'.model)
    (hf : f ∈ c.model.primaryKeys) (hdraws : d.draws c.model c.allowed f = true)
    (h : (d.runInsert c (d.keptAfter before last)).1 = .ok sql) (s : Session) :
    ∃ n g k,
      (d.runInsert c (d.keptAfter before last)).2.row.record.get? f.name = some (.int n) ∧
      (c.model.fields.filter (d.draws c.model c.allowed)).getLast? = some g ∧
      (d.runInsert c (d.keptAfter before last)).2.row.record.get? g.name = some (.int k) ∧
      d.lastInsertId s (d.keptAfter (before ++ c :: later) last) =
        (.ok ((later.filterMap d.drawnBy).getLast?.getD k), s) ∧
      (∀ c' ∈ later, ∀ n', d.drawnBy c' = some n' →
        ∃ f' ∈ c'.model.fields, d.draws c'.model c'.allowed f' = true ∧
          ∀ last', (d.runInsert c' last').2.row.record.get? f'.name = some (.int n')) ∧
      (g = f → (∀ c' ∈ later, d.drawnBy c' = none) →
        d.lastInsertId s (d.keptAfter (before ++ c :: later) last) = (.ok n, s)) := by
  obtain ⟨m, hb⟩ := hmodels c (List.mem_append_right before List.mem_cons_self)
  have hfield : f ∈ c.model.fields := by
    obtain ⟨-, -, -, -, hkey⟩ := Model.build_eq_ok_iff.1 hb
    exact ((Model.mem_primaryKeys_iff (Model.distinctFields_of_build hb).names
      (Model.keySound_of_settleKey hkey)).1 hf).1
  obtain ⟨n, g, k, hn, hg, hk, hdrawn⟩ := last_of_runInsert hb hfield hdraws h
  have hanswer : d.lastInsertId s (d.keptAfter (before ++ c :: later) last) =
      (.ok ((later.filterMap d.drawnBy).getLast?.getD k), s) := by
    rw [keptAfter_append, keptAfter, last_runInsert, hdrawn, keptAfter_eq, Option.some_or]
    cases (later.filterMap d.drawnBy).getLast? with
    | none => exact lastInsertId_some hd s k
    | some v => exact lastInsertId_some hd s v
  refine ⟨n, g, k, hn, hg, hk, hanswer, fun c' hc' n' hn' => ?_, fun hlast hnone => ?_⟩
  · obtain ⟨m', hb'⟩ := hmodels c' (List.mem_append_right before (List.mem_cons_of_mem c hc'))
    exact exists_field_of_drawnBy hb' hn'
  · subst hlast
    have heq : n = k := by simpa using hn.symm.trans hk
    rw [hanswer, List.filterMap_eq_nil_iff.2 hnone, heq]
    rfl

/-- Tickets with a generated key, and a number that is generated too. -/
def ticket : Model :=
  { Model.new "Ticket" with
    fields :=
      [{ (Field.new "Id" .int64).primaryKey with autoIncrement := true },
        { Field.new "Number" .int64 with autoIncrement := true }] }

/-- Visitors with a generated key and a pass. -/
def visitor : Model :=
  { Model.new "Visitor" with
    fields :=
      [{ (Field.new "Id" .int64).primaryKey with autoIncrement := true }, Field.new "Pass" .guid] }

/-- A visitor without a pass, and with one that is no identifier. -/
def visit (pass : Value) (answers : List (Except Error Value)) : InsertCall :=
  ⟨visitor, [], .ofRecord (Record.empty.set "Pass" pass), .new [] answers⟩

/-- A ticket, whose two values are drawn. -/
def newTicket : InsertCall :=
  ⟨ticket, [], .ofRecord .empty, .new [] [.ok (.int 41), .ok (.int 42)]⟩

/-- The visitor inserted last is the second one: for the third, nothing could be drawn. -/
theorem lastInsertId_keptAfter_visitors :
    let d := DialectKind.firebird.dialect
    let first := visit .null [.ok (.int 1)]
    let second := visit .null [.ok (.int 2)]
    let third := visit .null []
    let i := (d.runInsert second (d.keptAfter [first] none)).2
    visitor.build = .ok visitor ∧ visitor.primaryKeys.map (·.name) = ["Id"] ∧
      d.runInsert second (d.keptAfter [first] none) =
        (.ok "INSERT INTO Visitor (Id,Pass) VALUES (2,NULL)", i) ∧
      i.row.record.get? "Id" = some (.int 2) ∧ d.drawnBy third = none ∧
      d.lastInsertId third.session (d.keptAfter [first, second, third] none) =
        (.ok 2, third.session) := by
  intro d first second third i
  have hb : visitor.build = .ok visitor := by rfl
  have hmodels : ∀ c ∈ [first] ++ second :: [third], ∃ m : Model, m.build = .ok c.model := by
    intro c hc
    obtain rfl | rfl | rfl : c = first ∨ c = second ∨ c = third := by simpa using hc
    all_goals exact ⟨visitor, hb⟩
  have hkey : visitor.primaryKeys =
      [{ (Field.new "Id" .int64).primaryKey with autoIncrement := true }] := by
    decide +kernel
  have hrun : d.runInsert second (d.keptAfter [first] none) =
      (.ok "INSERT INTO Visitor (Id,Pass) VALUES (2,NULL)", i) := Prod.ext (by decide +kernel) rfl
  have hvalue : i.row.record.get? "Id" = some (.int 2) := by rfl
  have hnone : d.drawnBy third = none := by decide +kernel
  obtain ⟨n, g, k, hn, hg, -, -, -, hanswer⟩ :=
    lastInsertId_keptAfter (d := d) (f := { (Field.new "Id" .int64).primaryKey with autoIncrement := true })
      rfl [first] [third] none hmodels (hkey ▸ List.mem_singleton_self _) (by decide +kernel)
      (congrArg Prod.fst hrun) third.session
  refine ⟨hb, by rw [hkey]; rfl, hrun, hvalue, hnone, ?_⟩
  obtain rfl : n = 2 := by simpa using hn.symm.trans hvalue
  refine hanswer ?_ (by simpa using hnone)
  have hlast : (visitor.fields.filter (d.draws visitor [])).getLast? =
      some { (Field.new "Id" .int64).primaryKey with autoIncrement := true } := by decide +kernel
  exact Option.some.inj (hg.symm.trans hlast)

/-- **The key of the row inserted last is not always the answer**: a ticket draws its number after its key,
and a visitor that cannot be inserted draws a key before that is noticed. -/
theorem lastInsertId_ne_key :
    let d := DialectKind.firebird.dialect
    let first := visit .null [.ok (.int 1)]
    let refused := visit (.text "abc") [.ok (.int 2)]
    let i := (d.runInsert newTicket none).2
    let i' := (d.runInsert first none).2
    ticket.build = .ok ticket ∧ visitor.build = .ok visitor ∧
      (d.runInsert newTicket none).1 = .ok "INSERT INTO Ticket (Id,Number) VALUES (41,42)" ∧
      i.row.record.get? "Id" = some (.int 41) ∧
      (d.lastInsertId newTicket.session (d.keptAfter [newTicket] none)).1 = .ok 42 ∧
      (d.runInsert first none).1 = .ok "INSERT INTO Visitor (Id,Pass) VALUES (1,NULL)" ∧
      i'.row.record.get? "Id" = some (.int 1) ∧
      (d.runInsert refused (d.keptAfter [first] none)).1 = .error (.notAGuid "abc") ∧
      (d.lastInsertId first.session (d.keptAfter [first, refused] none)).1 = .ok 2 :=
  ⟨by rfl, by rfl, by decide +kernel, by rfl, by decide +kernel, by decide +kernel, by rfl,
    by decide +kernel, by decide +kernel⟩

end Dialect

end ModelSql
