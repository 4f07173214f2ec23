/-
**The depth of parentheses.**

A statement is scanned as its database reads it: texts between single quotes, names between the quotes
of the database, a doubled quote inside either, escapes where there are some, and parentheses outside
of both.  The scan fails as soon as more parentheses close than are open.

Main definitions:

* `ScanMode` — where in a statement the scan stands;
* `Dialect.scanChar`, `Dialect.scan` — **the scan**, one character and all of them;
* `Dialect.Closes` — a statement that **closes whatever it opens**;
* `Dialect.Level` — a part of a statement that neither goes deeper nor leaves a quotation open.

Main results:

* `Dialect.Quotes.scan_eq` — the scan of a quotation stands where its reader stops;
* `Dialect.scan_quotation`, `Dialect.scan_quotedName` — so it passes over texts and quoted names;
* `Dialect.Level.append`, `Dialect.Level.group` — parts put together;
* `Dialect.level_quotation`, `Dialect.level_quoteName` — **texts and names are level**.
-/

import ModelSql.Proofs.Syntax.Quotation

set_option relaxedAutoImplicit false
set_option autoImplicit false

namespace ModelSql

/-! ### The scan -/

/-- Where in a statement a scan stands.  Behind a quote that may end a text or a name is a place of its
own, since only the next character tells. -/
inductive ScanMode
  | outside | text | escape | textEnd | name | nameEnd
  deriving DecidableEq, Repr

/-- Whether no text and no name is open. -/
def ScanMode.isOutside : ScanMode → Bool
  | .outside | .textEnd | .nameEnd => true
  | .text | .escape | .name => false

namespace Dialect

variable (d : Dialect)

/-- A character outside of texts and names. -/
def scanOutside (depth : Nat) (c : Char) : Option (ScanMode × Nat) :=
  if c = '\'' then some (.text, depth)
  else if c = d.rules.openQuote then some (.name, depth)
  else if c = '(' then some (.outside, depth + 1)
  else if c = ')' then if depth = 0 then none else some (.outside, depth - 1)
  else some (.outside, depth)

/-- **One character**, from a place at a depth. -/
def scanChar : ScanMode → Nat → Char → Option (ScanMode × Nat)
  | .outside, depth, c => d.scanOutside depth c
  | .text, depth, c =>
    if c = '\'' then some (.textEnd, depth)
    else if d.escapes && c == '\\' then some (.escape, depth)
    else some (.text, depth)
  | .escape, depth, _ => some (.text, depth)
  | .textEnd, depth, c => if c = '\'' then some (.text, depth) else d.scanOutside depth c
  | .name, depth, c => if c = d.rules.closeQuote then some (.nameEnd, depth) else some (.name, depth)
  | .nameEnd, depth, c =>
    if c = d.rules.closeQuote then some (.name, depth) else d.scanOutside depth c

/-- **The scan of some characters**; there is none when the depth would fall below zero. -/
def scan : ScanMode → Nat → List Char → Option (ScanMode × Nat)
  | p, depth, [] => some (p, depth)
  | p, depth, c :: cs =>
    match d.scanChar p depth c with
    | none => none
    | some (q, n) => scan q n cs

/-- **A statement that closes whatever it opens**: the scan of it never falls below depth zero, and ends
there, outside of texts and names. -/
def Closes (sql : String) : Prop :=
  ∃ p, d.scan .outside 0 sql.toList = some (p, 0) ∧ p.isOutside = true

section

variable {d} {p q : ScanMode} {depth n : Nat} {c : Char}

theorem scan_cons (h : d.scanChar p depth c = some (q, n)) (cs : List Char) :
    d.scan p depth (c :: cs) = d.scan q n cs := by
  rw [scan, h]

theorem scan_append {cs : List Char} (h : d.scan p depth cs = some (q, n)) (ds : List Char) :
    d.scan p depth (cs ++ ds) = d.scan q n ds := by
  induction cs generalizing p depth with
  | nil =>
      cases h
      rfl
  | cons c cs ih =>
      rw [scan] at h
      cases hc : d.scanChar p depth c with
      | none =>
          rw [hc] at h
          cases h
      | some r =>
          rw [hc] at h
          rw [List.cons_append, scan_cons hc]
          exact ih h

/-! ### Outside of texts and names -/

/-- The quotes of names are none of the other signs. -/
theorem quotes_ne (hc : c ∈ ['\'', '(', ')']) :
    c ≠ d.rules.openQuote ∧ c ≠ d.rules.closeQuote := by
  have hall (k : DialectKind) : (['\'', '(', ')'].all fun x =>
      x != k.rules.openQuote && x != k.rules.closeQuote) = true := by
    cases k <;> rfl
  have hne := List.all_eq_true.1 (hall d.kind) c hc
  rw [Bool.and_eq_true, bne_iff_ne, bne_iff_ne] at hne
  exact hne

/-- A character that is no quote ends the text or the name that it stands behind. -/
theorem scanChar_of_ne (hp : p.isOutside = true) (ht : c ≠ '\'') (hn : c ≠ d.rules.closeQuote) :
    d.scanChar p depth c = d.scanOutside depth c := by
  cases p with
  | outside => rfl
  | textEnd => rw [scanChar, if_neg ht]
  | nameEnd => rw [scanChar, if_neg hn]
  | text | escape | name => cases hp

/-- A single quote opens a text, or goes on with one that seemed to have ended. -/
theorem scanChar_quote (hp : p.isOutside = true) :
    d.scanChar p depth '\'' = some (.text, depth) := by
  have hclose : '\'' ≠ d.rules.closeQuote := (quotes_ne (by decide)).2
  cases p with
  | outside | textEnd => rfl
  | nameEnd =>
      rw [scanChar, if_neg hclose]
      rfl
  | text | escape | name => cases hp

/-- The quote of a name opens one, or goes on with one that seemed to have ended. -/
theorem scanChar_openQuote (hp : p.isOutside = true) :
    d.scanChar p depth d.rules.openQuote = some (.name, depth) := by
  have hopen : d.rules.openQuote ≠ '\'' := (quotes_ne (by decide)).1.symm
  have houtside : d.scanOutside depth d.rules.openQuote = some (.name, depth) := by
    rw [scanOutside, if_neg hopen, if_pos rfl]
  cases p with
  | outside => exact houtside
  | textEnd => rw [scanChar, if_neg hopen, houtside]
  | nameEnd => rw [scanChar, houtside, ite_self]
  | text | escape | name => cases hp

theorem scanChar_opening (hp : p.isOutside = true) :
    d.scanChar p depth '(' = some (.outside, depth + 1) := by
  obtain ⟨hopen, hclose⟩ : '(' ≠ d.rules.openQuote ∧ '(' ≠ d.rules.closeQuote :=
    quotes_ne (by decide)
  rw [scanChar_of_ne hp (by decide) hclose, scanOutside, if_neg (by decide), if_neg hopen,
    if_pos rfl]

theorem scanChar_closing_eq (hp : p.isOutside = true) :
    d.scanChar p depth ')' = if depth = 0 then none else some (.outside, depth - 1) := by
  obtain ⟨hopen, hclose⟩ : ')' ≠ d.rules.openQuote ∧ ')' ≠ d.rules.closeQuote :=
    quotes_ne (by decide)
  rw [scanChar_of_ne hp (by decide) hclose, scanOutside, if_neg (by decide), if_neg hopen,
    if_neg (by decide), if_pos rfl]

theorem scanChar_closing (hp : p.isOutside = true) :
    d.scanChar p (depth + 1) ')' = some (.outside, depth) := scanChar_closing_eq hp

/-- There is no scan of a parenthesis that closes none. -/
theorem scan_closing_zero (hp : p.isOutside = true) (cs : List Char) : d.scan p 0 (')' :: cs) = none := by
  rw [scan, scanChar_closing_eq hp, if_pos rfl]

/-- A quiet character changes nothing.  On SQL Server a closing bracket is one, which a name may go on
with. -/
theorem scanChar_quiet (hd : d.kind ≠ .sqlserver) (hp : p.isOutside = true)
    (hc : isQuiet c = true) : d.scanChar p depth c = some (.outside, depth) := by
  obtain ⟨hsame, hquote⟩ := quotes_of_ne hd
  simp only [isQuiet, Bool.and_eq_true, Option.isNone_iff_eq_none, bne_iff_ne, ne_eq] at hc
  obtain ⟨⟨hnone, hopening⟩, hclosing⟩ := hc
  have htext : c ≠ '\'' := by
    rintro rfl
    cases hnone
  have hname : c ≠ d.rules.closeQuote := by
    rintro rfl
    rw [hquote] at hnone
    cases hnone
  rw [scanChar_of_ne hp htext hname, scanOutside, if_neg htext, hsame, if_neg hname,
    if_neg hopening, if_neg hclosing]

end

/-! ### Texts and names -/

/-- **The two places of a quotation**: inside of it, and behind a quote that may be its last one. -/
structure Quotes (escapes : Bool) (close : Char) (inside ending : ScanMode) : Prop where
  ends : ∀ depth, d.scanChar inside depth close = some (ending, depth)
  goesOn : ∀ depth, d.scanChar ending depth close = some (inside, depth)
  escape : ∀ depth c e cs, c ≠ close → (escapes && c == '\\') = true →
    d.scan inside depth (c :: e :: cs) = d.scan inside depth cs
  plain : ∀ depth c, c ≠ close → ¬ (escapes && c == '\\') = true →
    d.scanChar inside depth c = some (inside, depth)

theorem quotes_text : d.Quotes d.escapes '\'' .text .textEnd where
  ends _ := rfl
  goesOn _ := rfl
  escape depth c e cs hc hb := by
    have hstep : d.scanChar .text depth c = some (.escape, depth) := by
      rw [scanChar, if_neg hc, if_pos hb]
    rw [scan_cons hstep]
    rfl
  plain depth c hc hb := by rw [scanChar, if_neg hc, if_neg hb]

theorem quotes_name : d.Quotes false d.rules.closeQuote .name .nameEnd where
  ends _ := if_pos rfl
  goesOn _ := if_pos rfl
  escape _ _ _ _ _ hb := by cases hb
  plain _ _ hc _ := if_neg hc

variable {d}

/-- **The scan of a quotation stands where its reader stops.** -/
theorem Quotes.scan_eq {escapes : Bool} {close : Char} {inside ending : ScanMode}
    (hq : d.Quotes escapes close inside ending) {cs v rest : List Char} {depth : Nat}
    (h : Quotation.read escapes close cs = some (v, rest)) :
    d.scan inside depth cs = d.scan ending depth rest := by
  -- one case for each way in which the reader goes on
  induction cs using Quotation.read.induct escapes close generalizing v with
  | case1 => cases h
  | case2 =>
      rw [Quotation.read_close (by simp)] at h
      cases h
      exact scan_cons (hq.ends depth) []
  | case3 c hc =>
      rw [Quotation.read, if_neg hc] at h
      cases h
  | case4 cs ih =>
      rw [Quotation.read_doubled, Option.map_eq_some_iff] at h
      obtain ⟨r, hread, heq⟩ := h
      cases heq
      rw [scan_cons (hq.ends depth), scan_cons (hq.goesOn depth)]
      exact ih hread
  | case5 e cs he =>
      rw [Quotation.read_close (by simpa using he)] at h
      cases h
      exact scan_cons (hq.ends depth) _
  | case6 c e cs hc hb ih =>
      rw [Quotation.read, if_neg hc, if_pos hb, Option.map_eq_some_iff] at h
      obtain ⟨r, hread, heq⟩ := h
      cases heq
      rw [hq.escape depth c e cs hc hb]
      exact ih hread
  | case7 c e cs hc hb ih =>
      rw [Quotation.read, if_neg hc, if_neg hb, Option.map_eq_some_iff] at h
      obtain ⟨r, hread, heq⟩ := h
      cases heq
      rw [scan_cons (hq.plain depth c hc hb)]
      exact ih hread

/-- **The scan of a text** stands behind its last quote. -/
theorem scan_quotation {p : ScanMode} (hp : p.isOutside = true) (depth : Nat) (qs cs : List Char) :
    d.scan p depth (d.quotation qs ++ cs) = d.scan .textEnd depth cs := by
  have hend : ([] : List Char).head? ≠ some '\'' := by simp
  have htext : d.scan .text depth (doubleQuotes '\'' (d.escape qs) ++ ['\'']) = some (.textEnd, depth) := by
    rw [d.quotes_text.scan_eq (d.read_quoted hend qs)]
    rfl
  rw [quotation, List.cons_append, List.cons_append, scan_cons (scanChar_quote hp)]
  exact scan_append htext cs

/-- **The scan of a quoted name** stands behind its last quote, as long as there is not another one behind
it. -/
theorem scan_quotedName {p : ScanMode} (hp : p.isOutside = true) (depth : Nat) (n : List Char)
    {cs : List Char} (hcs : cs.head? ≠ some d.rules.closeQuote) :
    d.scan p depth (d.rules.openQuote :: doubleQuotes d.rules.closeQuote n ++ d.rules.closeQuote :: cs) =
      d.scan .nameEnd depth cs := by
  rw [List.cons_append, scan_cons (scanChar_openQuote hp)]
  exact d.quotes_name.scan_eq (Quotation.read_doubleQuotes hcs n)

/-! ### Level parts -/

variable (d)

/-- **A part of a statement that is level**: read from outside of texts and names, it ends outside of
them, at the depth where it started, and never below it. -/
def Level (cs : List Char) : Prop :=
  ∀ p depth, p.isOutside = true → ∃ q, q.isOutside = true ∧ d.scan p depth cs = some (q, depth)

variable {d}

namespace Level

theorem nil : d.Level [] := fun p _ hp => ⟨p, hp, rfl⟩

theorem append {cs ds : List Char} (hc : d.Level cs) (hd : d.Level ds) : d.Level (cs ++ ds) := by
  intro p depth hp
  obtain ⟨q, hq, hscan⟩ := hc p depth hp
  obtain ⟨r, hr, hrest⟩ := hd q depth hq
  exact ⟨r, hr, (scan_append hscan ds).trans hrest⟩

/-- **A level part between parentheses.** -/
theorem group {cs : List Char} (h : d.Level cs) : d.Level ('(' :: cs ++ [')']) := by
  intro p depth hp
  obtain ⟨q, hq, hscan⟩ := h .outside (depth + 1) rfl
  refine ⟨.outside, rfl, ?_⟩
  rw [List.cons_append, scan_cons (scanChar_opening hp), scan_append hscan,
    scan_cons (scanChar_closing hq)]
  rfl

theorem quiet {c : Char} (hd : d.kind ≠ .sqlserver) (hc : isQuiet c = true) : d.Level [c] :=
  fun _ _ hp => ⟨.outside, rfl, scan_cons (scanChar_quiet hd hp hc) []⟩

/-- A level statement closes whatever it opens. -/
theorem closes {sql : String} (h : d.Level sql.toList) : d.Closes sql := by
  obtain ⟨p, hp, hscan⟩ := h .outside 0 rfl
  exact ⟨p, hscan, hp⟩

end Level

variable (d)

/-- **Texts are level**, whatever stands between their quotes. -/
theorem level_quotation (cs : List Char) : d.Level (d.quotation cs) := by
  intro p depth hp
  have hscan : d.scan p depth (d.quotation cs ++ []) = some (.textEnd, depth) :=
    scan_quotation hp depth cs []
  rw [List.append_nil] at hscan
  exact ⟨.textEnd, rfl, hscan⟩

/-- **Names are level**, whatever characters they have. -/
theorem level_quoteName (hd : d.kind ≠ .sqlserver) (name : String) :
    d.Level (d.quoteName name).toList := by
  unfold quoteName
  split
  · intro p depth hp
    rw [escapeName, String.toList_ofList]
    exact ⟨.nameEnd, rfl, scan_quotedName hp depth name.toList (by simp)⟩
  · rename_i hq
    have hplain := isPlainName_of_not_needsQuotes hq
    have hparts := List.all_eq_true.1 (all_isNamePart hplain)
    generalize name.toList = cs at hparts
    induction cs with
    | nil => exact .nil
    | cons c cs ih =>
        have hc := Level.quiet hd (isQuiet_of_isNamePart (hparts c List.mem_cons_self))
        exact hc.append (ih fun x hx => hparts x (List.mem_cons_of_mem c hx))

end Dialect

end ModelSql
