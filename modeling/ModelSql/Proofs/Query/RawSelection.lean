/-
**Raw selections that ask for equal rows once.**

A raw selection is a text that nobody takes apart.  One thing has to be known about it all the same: where
paging needs an order and equal rows are selected once, the void order is no choice, and the first column
gives the order instead.  So the first word of the text is looked at.  It is taken for `DISTINCT` in any
letter case, and behind any blanks, but only with a space behind it: with another blank there, a tab or the
end of a line, the void order is written.

The mark that the text leaves is what later clauses of paging go by.  No call changes it but one that
selects something else, and an attempt to do so that fails does not either.

Main definitions:

* `Text.firstWord`, `Text.behindFirstWord` — the first word of a text, and what stands behind it;
* `Query.StartsDistinct` — **the lists that ask for equal rows once**.

Main results:

* `Query.distinct_selectRaw_iff` — the mark that a raw list leaves;
* `Query.distinct_perform`, `Query.distinct_run` — **it lasts**, along one call and along a run;
* `Query.pagingText_of_sqlserver` — paging without an order;
* `Query.pagingText_selectRaw_iff` — **paging behind a raw selection**.
-/

import ModelSql.Proofs.Dialect.Window
import ModelSql.Proofs.Query.Replay
import ModelSql.Proofs.Text.Words

set_option relaxedAutoImplicit false
set_option autoImplicit false

namespace ModelSql

/-! ### The first word -/

namespace Text

/-- The first word of a text. -/
def firstWord (s : String) : List Char := (dropBlanks s.toList).takeWhile fun c => !isBlank c

/-- What stands behind the first word of a text, from the blank that ends the word. -/
def behindFirstWord (s : String) : List Char := (dropBlanks s.toList).dropWhile fun c => !isBlank c

theorem isBlank_toLower (c : Char) : isBlank c.toLower = isBlank c := toLower_congr (by decide) c

theorem toLower_eq_space_iff (c : Char) : c.toLower = ' ' ↔ c = ' ' := by
  have h := toLower_congr (q := fun c => c == ' ') (by decide) c
  rw [Bool.eq_iff_iff, beq_iff_eq, beq_iff_eq] at h
  exact h

/-- **A text starts with a word and a space behind it**, up to the case of letters, exactly when that word
is its first one and a space stands behind it. -/
theorem map_take_eq_iff {w : List Char} (hw : ∀ c ∈ w, isBlank c = false) (cs : List Char) :
    (cs.take (w.length + 1)).map Char.toLower = w ++ [' '] ↔
      (cs.takeWhile fun c => !isBlank c).map Char.toLower = w ∧
        (cs.dropWhile fun c => !isBlank c).head? = some ' ' := by
  induction cs generalizing w with
  | nil => simp
  | cons c cs ih =>
      cases hc : isBlank c with
      | true =>
          -- the first word is empty, and a letter of `w` is no blank
          cases w with
          | nil => simp [hc, toLower_eq_space_iff]
          | cons x w =>
              have hne : c.toLower ≠ x := by
                rintro rfl
                have hx := hw _ List.mem_cons_self
                rw [isBlank_toLower, hc] at hx
                cases hx
              simp [hc, hne]
      | false =>
          cases w with
          | nil =>
              have hne : c ≠ ' ' := by
                rintro rfl
                cases hc
              simp [hc, toLower_eq_space_iff, hne]
          | cons x w =>
              have hrest := ih fun e he => hw e (List.mem_cons_of_mem x he)
              simp only [List.length_cons, List.take_succ_cons, List.map_cons, List.cons_append,
                List.takeWhile_cons, List.dropWhile_cons, hc, Bool.not_false, reduceIte, List.cons.injEq,
                hrest, and_assoc]

end Text

namespace Query

variable {q : Query} {list : String} {ops : List Operation}

/-! ### The mark of a raw list -/

/-- **The lists that ask for equal rows once**: the first word is `DISTINCT` in any letter case, and some
blank stands behind it. -/
def StartsDistinct (list : String) : Prop :=
  Text.equalsIgnoringCase (String.ofList (Text.firstWord list)) "DISTINCT" = true ∧
    Text.behindFirstWord list ≠ []

instance (list : String) : Decidable (StartsDistinct list) :=
  inferInstanceAs (Decidable (_ ∧ _))

/-- **The mark that a raw list leaves** is set when it asks for equal rows once with a space. -/
theorem distinct_selectRaw_iff (q : Query) (list : String) :
    (q.selectRaw list).distinct = true ↔
      StartsDistinct list ∧ (Text.behindFirstWord list).head? = some ' ' := by
  have hletters : ("distinct".toList.all fun c => !Text.isBlank c) = true := by decide
  have hword : ∀ c ∈ "distinct".toList, Text.isBlank c = false := fun c hc => by
    simpa using List.all_eq_true.1 hletters c hc
  have htake := Text.map_take_eq_iff hword (Text.dropBlanks list.toList)
  have hlower : "DISTINCT".toList.map Char.toLower = "distinct".toList := by decide
  have hspace : "DISTINCT ".toList.map Char.toLower = "distinct".toList ++ [' '] := by decide
  have hmark : (q.selectRaw list).distinct = true ↔
      ((Text.dropBlanks list.toList).take 9).map Char.toLower = "distinct".toList ++ [' '] := by
    simp only [selectRaw, Text.equalsIgnoringCase, Text.trimStart, String.toList_ofList, hspace, beq_iff_eq]
  have hfirst : StartsDistinct list ↔ (Text.firstWord list).map Char.toLower = "distinct".toList ∧
      Text.behindFirstWord list ≠ [] := by
    simp only [StartsDistinct, Text.equalsIgnoringCase, String.toList_ofList, hlower, beq_iff_eq]
  rw [hmark, hfirst, and_assoc]
  refine htake.trans (and_congr_right fun _ => ⟨fun h => ⟨?_, h⟩, fun h => h.2⟩)
  rintro hnil
  rw [Text.behindFirstWord] at hnil
  rw [hnil] at h
  cases h

/-! ### What a call does to the mark -/

/-- Parameters have nothing to do with the mark. -/
theorem SameClauses.distinct_eq {q' : Query} (h : SameClauses q q') : q'.distinct = q.distinct := by
  rw [h]

/-- A call that writes a clause, and then nothing that is in the way of the mark. -/
theorem distinct_settle_write {α : Type} {c : Clause} {extend : Bool} {step : Compile α}
    {f : α × Query → Query} (hf : ∀ p, (f p).distinct = p.2.distinct) :
    (settle ((q.write c extend step).map f)).2.distinct = q.distinct := by
  obtain ⟨q', hsame, hq | ⟨r, hq⟩⟩ := q.settle_write_cases c extend step f
  · rw [hq, hsame.distinct_eq]
  · rw [hq, hf, hsame.distinct_eq]

/-- A call that computes something first. -/
theorem distinct_settle_attempt {α : Type} {r : Except Error α} {f : α → Query}
    (hf : ∀ a, (f a).distinct = q.distinct) :
    (settle ((q.attempt r).map f)).2.distinct = q.distinct := by
  cases r with
  | error e => rfl
  | ok a => exact hf a

/-- A call that leaves the descriptor as it was, or rewrites a clause. -/
theorem distinct_of_cases {q' : Query} {c : Clause} (h : q' = q ∨ ∃ vs, q' = q.rewrite c false vs) :
    q'.distinct = q.distinct := by
  rcases h with rfl | ⟨vs, rfl⟩ <;> rfl

/-- **No call changes the mark but one that selects.** -/
theorem distinct_perform {op : Operation} (hop : op.clause? ≠ some .select) :
    (q.perform op).2.distinct = q.distinct := by
  cases op with
  | select | selectRaw => exact absurd rfl hop
  | filter | and | or | filterRaw | groupBy | having | havingRaw | orderBy | thenBy =>
      exact distinct_settle_write fun _ => rfl
  | updateOnly | insertOnly => exact distinct_settle_attempt fun _ => rfl
  | qualified on =>
      simp only [perform, setQualified]
      split <;> rfl
  | update row => exact distinct_of_cases (q.updateStatement_cases row)
  | insert row => exact distinct_of_cases (q.insertStatement_cases row)
  | clearFilter | groupByRaw | orderByRaw | limit | limitRows | clearLimit | updateAll | insertAll
  | parameterized => rfl

/-- An attempt to select that fails does not change it either. -/
theorem distinct_perform_of_error {op : Operation} {e : Error} (h : (q.perform op).1 = .error e) :
    (q.perform op).2.distinct = q.distinct := by
  by_cases hop : op.clause? = some .select
  · have hfallible : op.isFallible = true := by
      cases op with
      | select => rfl
      | selectRaw => cases h
      | _ => cases hop
    rw [perform_eq_error hfallible h]
  · exact distinct_perform hop

/-- The dialect is that of the descriptor, whatever is called. -/
theorem dialect_perform (q : Query) (op : Operation) : (q.perform op).2.dialect = q.dialect := by
  rcases q.perform_cases op with h | ⟨c, extend, vs, -, h⟩
  · exact h.dialect
  · exact h.dialect

theorem dialect_run (q : Query) (ops : List Operation) : (q.run ops).dialect = q.dialect := by
  induction ops generalizing q with
  | nil => rfl
  | cons op ops ih => exact (ih (q.perform op).2).trans (q.dialect_perform op)

/-- **The mark lasts** as long as no call of a run that succeeds selects something else. -/
theorem distinct_run (hops : ∀ op ∈ q.successes ops, op.clause? ≠ some .select) :
    (q.run ops).distinct = q.distinct := by
  induction ops generalizing q with
  | nil => rfl
  | cons op ops ih =>
      simp only [successes] at hops
      cases hop : (q.perform op).1 with
      | ok _ =>
          rw [hop, List.forall_mem_cons] at hops
          exact (ih hops.2).trans (distinct_perform hops.1)
      | error e =>
          rw [hop] at hops
          exact (ih hops).trans (distinct_perform_of_error hop)

/-! ### Paging -/

/-- Whether rows are skipped, or their number is bounded. -/
def IsPaged (q : Query) : Prop := q.skip ≠ none ∨ q.rows ≠ none

instance (q : Query) : Decidable q.IsPaged := inferInstanceAs (Decidable (_ ∨ _))

/-- The paging clause of a descriptor, behind an order. -/
def orderedPaging (q : Query) : String :=
  q.dialect.paging (q.skip.map UInt64.toNat) (q.rows.map UInt64.toNat) true

/-- **Paging without an order** on SQL Server: the first column gives one where equal rows are selected
once, and otherwise it is void. -/
theorem pagingText_of_sqlserver (hd : q.dialect.kind = .sqlserver) (hkeys : q.orderKeys = [])
    (hpaged : q.IsPaged) :
    q.pagingText = (if q.distinct then "ORDER BY 1 " else "ORDER BY (SELECT NULL) ") ++
      q.orderedPaging := by
  have hstyle : q.dialect.rules.limitStyle = .offsetFetch := by
    rw [Dialect.rules, hd]
    rfl
  have hsome : q.skip.map UInt64.toNat ≠ none ∨ q.rows.map UInt64.toNat ≠ none := by
    simpa only [IsPaged, ne_eq, Option.map_eq_none_iff] using hpaged
  simp only [pagingText, orderedPaging, hkeys, hstyle]
  cases q.distinct with
  | true => simp [Dialect.isEmpty_paging hstyle hsome]
  | false => simp [Dialect.paging_unordered hstyle hsome]

/-- **Behind a raw selection** paging goes by the first word of the list, as long as a space stands behind
the word: a list that asks for equal rows once with another blank is taken for one that does not. -/
theorem pagingText_selectRaw_iff (hd : q.dialect.kind = .sqlserver)
    (hops : ∀ op ∈ (q.perform (.selectRaw list)).2.successes ops, op.clause? ≠ some .select)
    (hkeys : ((q.perform (.selectRaw list)).2.run ops).orderKeys = [])
    (hpaged : ((q.perform (.selectRaw list)).2.run ops).IsPaged) :
    let q' := (q.perform (.selectRaw list)).2.run ops
    q'.pagingText = (if StartsDistinct list then "ORDER BY 1 " else "ORDER BY (SELECT NULL) ") ++
        q'.orderedPaging ↔
      (StartsDistinct list → (Text.behindFirstWord list).head? = some ' ') := by
  intro q'
  have hd' : q'.dialect.kind = .sqlserver := by rw [dialect_run, dialect_perform, hd]
  have hmark : q'.distinct = (q.selectRaw list).distinct := distinct_run hops
  have hne : "ORDER BY (SELECT NULL) " ≠ "ORDER BY 1 " := by decide
  rw [pagingText_of_sqlserver hd' hkeys hpaged, hmark, String.append_left_inj]
  simp only [distinct_selectRaw_iff]
  by_cases hlist : StartsDistinct list
  · by_cases hspace : (Text.behindFirstWord list).head? = some ' '
    · simp [hlist, hspace]
    · simp [hlist, hspace, hne]
  · simp [hlist]

/-- A list with `DISTINCT` in lower case and a space, and an attempt to select something else that fails. -/
theorem pagingText_selectRaw_iff_space :
    let q := new DialectKind.sqlserver.dialect people
    let list := "  distinct [Age]"
    let ops := [Operation.limit 10 5, .select true (.column "Missing"), .qualified true]
    let q' := (q.perform (.selectRaw list)).2.run ops
    q.dialect.kind = .sqlserver ∧
      (∀ op ∈ (q.perform (.selectRaw list)).2.successes ops, op.clause? ≠ some .select) ∧
      q'.orderKeys = [] ∧ q'.IsPaged ∧
      q'.pagingText = "ORDER BY 1 OFFSET 10 ROWS FETCH NEXT 5 ROWS ONLY" := by
  intro q list ops q'
  have hops : ∀ op ∈ (q.perform (.selectRaw list)).2.successes ops, op.clause? ≠ some .select := by
    have hsuccesses : (q.perform (.selectRaw list)).2.successes ops = [.limit 10 5, .qualified true] := rfl
    rw [hsuccesses]
    simp [Operation.clause?]
  have hkeys : q'.orderKeys = [] := by decide
  have hpaged : q'.IsPaged := by decide
  have htext := (pagingText_selectRaw_iff rfl hops hkeys hpaged).2 fun _ => by decide
  exact ⟨rfl, hops, hkeys, hpaged, htext.trans (by decide)⟩

/-- **A list with a tab behind the word** gets the void order, which is not the one that equal rows selected
once have. -/
theorem pagingText_selectRaw_tab :
    let list := "DISTINCT\t[Age]"
    let q := ((new DialectKind.sqlserver.dialect people).perform (.selectRaw list)).2.run [.limit 10 5]
    let q' := ((new DialectKind.sqlserver.dialect people).perform (.select true (.column "Age"))).2.run
      [.limit 10 5]
    StartsDistinct list ∧ q.orderKeys = [] ∧ q.IsPaged ∧
      q.select = "SELECT DISTINCT\t[Age] \nFROM [Person]" ∧
      q'.select = "SELECT DISTINCT [Age] \nFROM [Person]" ∧
      q.pagingText = "ORDER BY (SELECT NULL) OFFSET 10 ROWS FETCH NEXT 5 ROWS ONLY" ∧
      q'.pagingText = "ORDER BY 1 OFFSET 10 ROWS FETCH NEXT 5 ROWS ONLY" := by
  refine ⟨by decide, rfl, by decide, by decide, by decide, by decide, by decide⟩

end Query

end ModelSql
