/-
**Keys that the database answers with.**

The next value of a sequence and the key of the row inserted last are integers that are taken out of
answers of the database.  An answer that is no whole number is refused, and so is a decimal that needs more
than 64 bits.  A float that needs more is not: the integer that is taken for it is the nearest one, which is
another number than the answer.

Main definitions:

* `Dialect.Takes` — **the integers that an insertion takes**, with the answers that they are taken from.

Main results:

* `Dialect.fetched_insertColumns`, `Dialect.exists_fetched` — what an insertion draws, whatever comes of it;
* `Dialect.exists_takes` — **each integer is taken from one answer**;
* `Dialect.lastInsertId_eq_ok` — and so is the key of the row inserted last;
* `Dialect.taken_exact_iff` — **when an integer is what the database answered**.
-/

import ModelSql.Proofs.Dialect.InsertFailure
import ModelSql.Proofs.Value.Number

set_option relaxedAutoImplicit false
set_option autoImplicit false

namespace ModelSql.Dialect

variable {d : Dialect} {m : Model} {allowed : List String} {fs : List Field} {i i' : Insertion}
  {s s' : Session} {n : Int64} {last : Option Int64}

/-! ### Insertions -/

/-- **An insertion that succeeds has drawn for all fields.** -/
theorem fetched_insertColumns {cs : List (String × String)} (hs : i.session = some s)
    (h : d.insertColumns m allowed fs i = (.ok cs, i')) :
    ∃ s' ns, d.Fetched m allowed fs i s i' s' ns := by
  induction fs generalizing i s cs with
  | nil =>
      cases h
      exact ⟨s, [], .refl hs rfl⟩
  | cons f fs ih =>
      cases hv : d.insertValue m allowed f i with
      | mk outcome i₁ =>
          cases outcome with
          | error e => simp [insertColumns, hv] at h
          | ok r =>
              obtain ⟨rest, hrest, -⟩ := insertColumns_cons hv h
              obtain ⟨s₁, ns, hfirst, -⟩ := fetched_insertValue hs hv
              obtain ⟨s', ns', hfetched⟩ := ih hfirst.session hrest
              exact ⟨s', ns ++ ns', hfirst.append hfetched⟩

/-- **What an insertion has drawn**, whether it succeeds or not: the next values of some fields at the
front. -/
theorem exists_fetched {r : Except Error (List (String × String))} (hs : i.session = some s)
    (h : d.insertColumns m allowed fs i = (r, i')) :
    ∃ before after i₁ s₁ ns, fs = before ++ after ∧ d.Fetched m allowed before i s i₁ s₁ ns ∧
      i'.row = i₁.row ∧ i'.last = i₁.last := by
  cases r with
  | ok cs =>
      obtain ⟨s', ns, hfetched⟩ := fetched_insertColumns hs h
      exact ⟨fs, [], i', s', ns, (List.append_nil fs).symm, hfetched, rfl, rfl⟩
  | error e =>
      obtain ⟨before, f, after, ns, rfl, hfails⟩ := insertColumns_eq_error hs h
      cases hfails with
      | refused fetched => exact ⟨before, f :: after, _, _, ns, rfl, fetched, rfl, rfl⟩
      | unspelled fetched =>
          exact ⟨before ++ [f], after, _, _, ns, by simp, fetched, rfl, rfl⟩

/-- **The integers that an insertion takes**, each for a field, from the values that the database answers
with: they are the next values of the first fields that draw, they stand in the row, and the last of them is
kept. -/
structure Takes (d : Dialect) (m : Model) (allowed : List String) (i : Insertion) (s : Session)
    (i' : Insertion) (ps : List (Field × Int64)) (vs : List Value) : Prop where
  fields : ps.map (·.1) <+: m.fields.filter (d.draws m allowed)
  answers : vs.map .ok <+: s.answers
  row : i'.row = i.row.fill ps
  last : i'.last = (ps.map (·.2)).getLast?.or i.last

/-- Answers that are integers are values. -/
theorem exists_values {answers : List (Except Error Value)} {ns : List Int64}
    (h : List.Forall₂ Answers answers ns) :
    ∃ vs, answers = vs.map .ok ∧ List.Forall₂ (fun n v => Value.toInt? v = some n) ns vs := by
  induction h with
  | nil => exact ⟨[], rfl, .nil⟩
  | cons h _ ih =>
      obtain ⟨v, rfl, hv⟩ := h
      obtain ⟨vs, rfl, hvs⟩ := ih
      exact ⟨v :: vs, rfl, .cons hv hvs⟩

/-- **Each integer that an insertion takes is taken from one answer.** -/
theorem exists_takes {r : Except Error String} (hs : i.session = some s)
    (h : d.insertRow m allowed i = (r, i')) :
    ∃ ps vs, d.Takes m allowed i s i' ps vs ∧
      List.Forall₂ (fun p v => Value.toInt? v = some p.2) ps vs := by
  rw [insertRow] at h
  obtain ⟨-, rfl⟩ := Prod.mk.inj h
  obtain ⟨before, after, i₁, s₁, ns, hfields, hfetched, hrow, hlast⟩ := exists_fetched hs rfl
  obtain ⟨answers, hanswers, hints⟩ := hfetched.answers
  obtain ⟨vs, rfl, hvs⟩ := exists_values hints
  let ps := (before.filter (d.draws m allowed)).zip ns
  have hfst : ps.map (·.1) = before.filter (d.draws m allowed) :=
    List.map_fst_zip (Nat.le_of_eq hfetched.count)
  have hsnd : ps.map (·.2) = ns := List.map_snd_zip (Nat.le_of_eq hfetched.count.symm)
  refine ⟨ps, vs, ?_, ?_⟩
  · exact
      { fields := by
          rw [hfst, hfields, List.filter_append]
          exact List.prefix_append _ _
        answers := ⟨s₁.answers, hanswers.symm⟩
        row := hrow.trans hfetched.row
        last := by rw [hsnd, hlast, hfetched.last] }
  · rw [← hsnd] at hvs
    exact List.forall₂_map_left_iff.1 hvs

/-! ### The key of the row inserted last -/

/-- **The key of the row inserted last** is the value drawn last, where there is no query for it, and
otherwise the integer of an answer. -/
theorem lastInsertId_eq_ok (h : d.lastInsertId s last = (.ok n, s')) :
    (d.kind = .firebird ∧ last = some n) ∨
      d.kind ≠ .firebird ∧ ∃ v, s.nextAnswer = .ok v ∧ v.toInt? = some n := by
  unfold lastInsertId at h
  split at h
  · rename_i hkind
    cases last with
    | none => cases h
    | some k =>
        cases h
        exact .inl ⟨hkind, rfl⟩
  · rename_i hkind
    refine .inr ⟨hkind, ?_⟩
    split at h
    · cases h
    simp only [Session.query_fst] at h
    split at h
    · cases h
    rename_i v hanswer
    split at h
    · rename_i k hv
      cases h
      exact ⟨v, hanswer, hv⟩
    · cases h

/-! ### Integers and answers -/

/-- **When an integer is what the database answered.**  The integer of a value is its number, unless the
value is a float that needs more than 64 bits, and a number that is an integer of 64 bits is taken as it
is.  So each integer that an insertion takes, and the key of the row inserted last, is the number that the
database has answered with, unless that is such a float. -/
theorem taken_exact_iff (d : Dialect) (m : Model) (allowed : List String) :
    (∀ v n, Value.toInt? v = some n → (v.number? = some (n.toInt : ℚ) ↔ ¬ v.IsBeyond)) ∧
    (∀ v (n : Int64), Value.number? v = some (n.toInt : ℚ) → v.toInt? = some n) ∧
    (∀ i s r i', i.session = some s → d.insertRow m allowed i = (r, i') →
      ∃ ps vs, d.Takes m allowed i s i' ps vs ∧
        List.Forall₂ (fun p v => Value.toInt? v = some p.2 ∧
          (v.number? = some (p.2.toInt : ℚ) ↔ ¬ v.IsBeyond)) ps vs) ∧
    (∀ s last n s', d.lastInsertId s last = (.ok n, s') →
      (d.kind = .firebird ∧ last = some n) ∨
        d.kind ≠ .firebird ∧ ∃ v, s.nextAnswer = .ok v ∧ v.toInt? = some n ∧
          (v.number? = some (n.toInt : ℚ) ↔ ¬ v.IsBeyond)) := by
  refine ⟨fun v n => Value.number?_iff_of_toInt?, fun v n => Value.toInt?_of_number?,
    fun i s r i' hs h => ?_, fun s last n s' h => ?_⟩
  · obtain ⟨ps, vs, htakes, hints⟩ := exists_takes hs h
    exact ⟨ps, vs, htakes, hints.imp fun p v hv => ⟨hv, Value.number?_iff_of_toInt? hv⟩⟩
  · refine (lastInsertId_eq_ok h).imp_right ?_
    rintro ⟨hkind, v, hanswer, hv⟩
    exact ⟨hkind, v, hanswer, hv, Value.number?_iff_of_toInt? hv⟩

/-- A float that is a whole number is a key like any other. -/
theorem taken_exact_iff_whole :
    let d := DialectKind.sqlite.dialect
    let s := Session.new [] [.ok (.float 42)]
    (d.lastInsertId s none).1 = .ok 42 ∧ Value.number? (.float 42) = some ((42 : Int64).toInt : ℚ) := by
  intro d s
  have hkey : (d.lastInsertId s none).1 = .ok 42 := by decide +kernel
  obtain ⟨-, -, -, hlast⟩ := taken_exact_iff d visitor []
  refine ⟨hkey, ?_⟩
  rcases hlast s none 42 _ (Prod.ext hkey rfl) with ⟨hkind, -⟩ | ⟨-, v, hanswer, -, hexact⟩
  · cases hkind
  · obtain rfl : .float 42 = v := Except.ok.inj hanswer
    apply hexact.2
    rintro ⟨x, hx, hbounds⟩
    have hfloat : Numeric.Binary.ofFloat 42 = .finite false (42 * 2 ^ 47) (-47) := by decide +kernel
    rw [hfloat, Numeric.Binary.value?, Option.some.injEq] at hx
    norm_num at hx
    subst hx
    norm_num at hbounds

/-- **A key that is no answer**: for a float of `10 ^ 19` the largest integer of 64 bits is taken, as the
next value of a sequence and as the key of the row inserted last. -/
theorem taken_not_exact :
    let v : Value := .float 1e19
    let call := visit .null [.ok v]
    let r := DialectKind.firebird.dialect.runInsert call none
    v.number? = some (10 ^ 19) ∧ v.toInt? = some Int64.maxValue ∧
      (Int64.maxValue.toInt : ℚ) ≠ 10 ^ 19 ∧
      r.1 = .ok "INSERT INTO Visitor (Id,Pass) VALUES (9223372036854775807,NULL)" ∧
      r.2.last = some Int64.maxValue ∧
      (DialectKind.sqlite.dialect.lastInsertId call.session none).1 = .ok Int64.maxValue := by
  intro v call r
  have hfloat : Numeric.Binary.ofFloat 1e19 = .finite false 4882812500000000 11 := by decide +kernel
  have hnumber : v.number? = some (10 ^ 19) := by
    rw [Value.number?, hfloat, Numeric.Binary.value?]
    norm_num
  refine ⟨hnumber, by decide +kernel, ?_, by decide +kernel, by decide +kernel, by decide +kernel⟩
  rw [Int64.toInt_maxValue]
  norm_num

end ModelSql.Dialect
