/-
**Files after they were written.**

Each file that is not up to date is staged beside its place and then moved there, one after another.  So
a run that succeeds leaves at every place what the last file that came by left there: its text, or
nothing where it was staged.  The name it is staged under is asked of nobody: a file of that name is lost,
unless it is itself written later.

Main definitions:

* `staging`, `Touches`, `laid` — where a text is staged, and **what lies at a location afterwards**;
* `stale` — the files that are not up to date;
* `Settled` — what writing files promises;
* `Apart` — no two files share a place, and none is staged where a file stands.

Main results:

* `replaced_of_run`, `writtenAll_of_run` — writing one file, and writing several;
* `laid_iff` — what the last file that came by decides;
* `applyOutputs_settled_iff` — **writing keeps its promise exactly for files that are apart**.
-/

import ModelSql.CommandLine.Output
import ModelSql.Proofs.Files.FileSystem

set_option relaxedAutoImplicit false
set_option autoImplicit false

namespace ModelSql

/-! ### Runs in a world -/

namespace World

variable {ε α β : Type} {w w' : World}

/-- What comes of a run that starts in a world. -/
def run (w : World) (x : ExceptT ε (StateM World) α) : Except ε α × World := StateT.run x.run w

theorem run_eq {x : ExceptT ε (StateM World) α} {r : Except ε α} (h : (w.run x).1 = r) :
    w.run x = (r, (w.run x).2) := Prod.ext h rfl

/-- **A run goes on where its first step ends**, unless that fails. -/
theorem run_bind (x : ExceptT ε (StateM World) α) (f : α → ExceptT ε (StateM World) β) (w : World) :
    w.run (x >>= f) = match w.run x with
      | (.ok a, v) => v.run (f a)
      | (.error e, v) => (.error e, v) := by
  have hbind : w.run (x >>= f) = ExceptT.bindCont f (w.run x).1 (w.run x).2 := rfl
  rw [hbind]
  obtain ⟨r, v⟩ := w.run x
  cases r <;> rfl

theorem run_bind_eq_ok {x : ExceptT ε (StateM World) α} {f : α → ExceptT ε (StateM World) β}
    {b : β} : w.run (x >>= f) = (.ok b, w') ↔
      ∃ a v, w.run x = (.ok a, v) ∧ v.run (f a) = (.ok b, w') := by
  rw [run_bind]
  obtain ⟨r, v⟩ := w.run x
  cases r with
  | error e =>
      constructor
      · intro h
        cases h
      · rintro ⟨a, v', h, -⟩
        cases h
  | ok a =>
      constructor
      · intro h
        exact ⟨a, v, rfl, h⟩
      · rintro ⟨a', v', h, h'⟩
        cases h
        exact h'

theorem run_lift_bind (x : StateM World α) (f : α → ExceptT ε (StateM World) β) (w : World) :
    w.run (ExceptT.lift x >>= f) = (x w).2.run (f (x w).1) := rfl

theorem change_eq_ok {r : FileSystem → Except FileError FileSystem} (h : change r w = (.ok (), w')) :
    ∃ fs, r w.files = .ok fs ∧ w' = { w with files := fs } := by
  rw [change] at h
  split at h
  · rename_i fs hfs
    exact ⟨fs, hfs, (Prod.mk.inj h).2.symm⟩
  · cases h

theorem makeDirectories_eq {p : Path} {r : Except FileError Unit}
    (h : (Host.makeDirectories p : StateM World (Except FileError Unit)) w = (r, w')) :
    w' = { w with files := (w.files.makeDirectories p).2 } :=
  (congrArg Prod.snd h).symm

end World

namespace CommandLine

open World

variable {w w' : World}

/-- A request answers what the machine answers, a refusal as a failure. -/
theorem run_request {α : Type} (failure : FileError → Failure) (r : StateM World (Except FileError α))
    (w : World) : w.run (request failure r) = ((r w).1.mapError failure, (r w).2) := by
  simp only [run, request, ExceptT.run, ExceptT.mk, StateT.run, bind, StateT.bind]
  obtain ⟨outcome, v⟩ := r w
  cases outcome <;> rfl

theorem run_request_eq_ok {α : Type} {failure : FileError → Failure}
    {r : StateM World (Except FileError α)} {a : α}
    (h : w.run (request failure r) = (.ok a, w')) : r w = (.ok a, w') := by
  rw [run_request] at h
  generalize r w = answer at h ⊢
  obtain ⟨outcome, v⟩ := answer
  cases outcome with
  | error e => cases h
  | ok a' =>
      obtain ⟨ha, rfl⟩ := Prod.mk.inj h
      rw [Except.ok.inj ha]

/-! ### One file -/

/-- The location that a text is staged at, for a file at `l`. -/
def staging (l : Location) : Location :=
  l.dropLast ++ ["." ++ l.getLast?.getD "" ++ ".partial"]

variable {fs fs' fs'' : FileSystem} {o : Output} {l : Location}

theorem length_stagedName (name : String) :
    ("." ++ name ++ ".partial").length = name.length + 9 := by
  have hdot : ".".length = 1 := rfl
  have hpartial : ".partial".length = 8 := rfl
  rw [String.length_append, String.length_append, hdot, hpartial]
  omega

/-- Nothing is staged where it is to go. -/
theorem staging_ne (l : Location) : staging l ≠ l := by
  intro heq
  have hlast := congrArg List.getLast? heq
  rw [staging, List.getLast?_concat] at hlast
  have hlength := congrArg String.length (congrArg (·.getD "") hlast)
  rw [Option.getD_some, length_stagedName] at hlength
  omega

/-- What writing one file does. -/
structure Replaced (o : Output) (fs fs' : FileSystem) : Prop where
  grows : fs.Grows fs'
  leads : fs'.Leads o.path (fs.place o.path)
  file : ∀ l, fs'.file? l =
    if l = fs.place o.path then some (.text o.text)
    else if l = staging (fs.place o.path) then none
    else fs.file? l

/-- A text is staged beside the file it is for. -/
theorem place_stagedPath {name : String} (h : fs.Leads o.path l)
    (hname : o.path.fileName? = some name) :
    fs.place (stagedPath (o.path.directory?.getD ⟨"."⟩) name) = staging l := by
  obtain ⟨xs, last, hpieces, hlast, hup, hl⟩ := h.exists_pieces
  obtain rfl : last = name :=
    Option.some.inj ((Path.fileName?_of_pieces hpieces hlast hup).symm.trans hname)
  have hlength := length_stagedName last
  have hslash : '/' ∉ ("." ++ last ++ ".partial").toList := by
    have hfree : '/' ∉ last.toList := Path.slash_not_mem_of_mem_pieces (p := o.path)
      (by rw [hpieces]; exact List.mem_append_right xs (List.mem_singleton.2 rfl))
    simp [hfree]
  have hne {s : String} (hs : s.length < 9) : "." ++ last ++ ".partial" ≠ s := by
    rintro rfl
    omega
  have hvoid : Path.isVoid ("." ++ last ++ ".partial") = false := by
    rw [Path.isVoid, beq_false_of_ne (hne (by decide)), beq_false_of_ne (hne (by decide))]
    rfl
  rw [stagedPath, h.place_beside hslash hvoid (hne (by decide)), staging, hl, List.getLast?_concat,
    Option.getD_some]

/-- **Writing one file** puts its text into its place and leaves nothing where it was staged. -/
theorem replaced_of_run (h : w.run (replaceFile o) = (.ok (), w')) :
    Replaced o w.files w'.files := by
  rw [replaceFile, run_bind_eq_ok] at h
  obtain ⟨⟨⟩, w₁, hmake, h⟩ := h
  obtain rfl := makeDirectories_eq (run_request_eq_ok hmake)
  cases hname : o.path.fileName? with
  | none =>
      rw [hname] at h
      cases h
  | some name =>
      simp only [hname, run_bind_eq_ok] at h
      obtain ⟨⟨⟩, w₂, hwrite, hmove⟩ := h
      obtain ⟨fs₂, hwritten, rfl⟩ := change_eq_ok (run_request_eq_ok hwrite)
      obtain ⟨fs₃, hmoved, rfl⟩ := change_eq_ok (run_request_eq_ok hmove)
      have hmade := FileSystem.furnished_makeDirectories w.files (o.path.directory?.getD ⟨"."⟩)
      obtain ⟨s, hs, hsfree, rfl⟩ := FileSystem.writeText_eq_ok hwritten
      obtain ⟨s', m, n, hs', hm, hn, hmfree, rfl⟩ := FileSystem.moveFile_eq_ok hmoved
      -- the text is staged beside the place it is for, and is moved from where it was staged
      have hput := FileSystem.Grows.put hs.ne_nil hsfree (.text o.text)
      obtain rfl : s' = s := by rw [hs'.eq_place, hput.place, ← hs.eq_place]
      have hplace : m = w.files.place o.path := by
        rw [hm.eq_place, hput.place, hmade.grows.place]
      have hstaged : s' = staging m := by rw [hs'.eq_place, place_stagedPath hm hname]
      obtain rfl : n = .text o.text := by
        rw [FileSystem.file?_put hs.ne_nil (by simp), if_pos rfl] at hn
        exact (Option.some.inj hn).symm
      have hmove := FileSystem.Grows.move hs.ne_nil hm.ne_nil
        (by rw [(FileSystem.file?_eq_some.1 hn).1]; simp) hmfree (.text o.text)
      refine ⟨hmade.grows.trans (hput.trans hmove), ?_, fun l => ?_⟩
      · rw [← hplace]
        exact hm.mono hmove
      · rw [FileSystem.file?_put hm.ne_nil (by simp), FileSystem.file?_remove hs.ne_nil,
          FileSystem.file?_put hs.ne_nil (by simp), hmade.file, ← hplace, hstaged]
        split
        · rfl
        · split <;> rfl

/-! ### Several files -/

/-- Files that are written pass by a location if it is the place of one or staged for one. -/
def Touches (place : Path → Location) (l : Location) (p : Pending) : Prop :=
  l = place p.output.path ∨ l = staging (place p.output.path)

/-- **What lies at a location** after files were written one after another, if `n` lay there. -/
def laid (place : Path → Location) (l : Location) : List Pending → Option FileNode → Option FileNode
  | [], n => n
  | p :: ps, n =>
    laid place l ps <|
      if l = place p.output.path then some (.text p.output.text)
      else if l = staging (place p.output.path) then none
      else n

variable {place : Path → Location} {p : Pending} {ps : List Pending} {os : List Output}
  {n : Option FileNode}

theorem laid_append (ps qs : List Pending) (n : Option FileNode) :
    laid place l (ps ++ qs) n = laid place l qs (laid place l ps n) := by
  induction ps generalizing n with
  | nil => rfl
  | cons p ps ih => exact ih _

/-- Files that do not come by change nothing. -/
theorem laid_of_not_touches (h : ∀ p ∈ ps, ¬ Touches place l p) (n : Option FileNode) :
    laid place l ps n = n := by
  induction ps with
  | nil => rfl
  | cons p ps ih =>
      obtain ⟨hplace, hstaging⟩ := not_or.1 (h p List.mem_cons_self)
      rw [laid, if_neg hplace, if_neg hstaging]
      exact ih fun q hq => h q (List.mem_cons_of_mem p hq)

/-- The last file that comes by, if there is one. -/
theorem exists_last_touch (place : Path → Location) (l : Location) (ps : List Pending) :
    (∀ p ∈ ps, ¬ Touches place l p) ∨ ∃ before p after, ps = before ++ p :: after ∧
      Touches place l p ∧ ∀ q ∈ after, ¬ Touches place l q := by
  induction ps with
  | nil => exact .inl fun p hp => by cases hp
  | cons p ps ih =>
      rcases ih with hnone | ⟨before, q, after, rfl, hq, hafter⟩
      · by_cases hp : Touches place l p
        · exact .inr ⟨[], p, ps, rfl, hp, hnone⟩
        · exact .inl (List.forall_mem_cons.2 ⟨hp, hnone⟩)
      · exact .inr ⟨p :: before, q, after, rfl, hq, hafter⟩

/-- It decides what lies there. -/
theorem laid_of_last {before after : List Pending} (hafter : ∀ q ∈ after, ¬ Touches place l q)
    (hp : Touches place l p) : laid place l (before ++ p :: after) n =
      if l = place p.output.path then some (.text p.output.text) else none := by
  rw [laid_append, laid, laid_of_not_touches hafter]
  split
  · rfl
  · rename_i hplace
    rw [if_pos (hp.resolve_left hplace)]

/-- Where nothing lies and nothing is put, nothing lies afterwards. -/
theorem laid_none (h : ∀ p ∈ ps, place p.output.path ≠ l) : laid place l ps none = none := by
  induction ps with
  | nil => rfl
  | cons p ps ih =>
      rw [laid, if_neg (h p List.mem_cons_self).symm, ite_self]
      exact ih fun q hq => h q (List.mem_cons_of_mem p hq)

/-- What writing several files does. -/
structure WrittenAll (ps : List Pending) (fs fs' : FileSystem) : Prop where
  grows : fs.Grows fs'
  leads : ∀ p ∈ ps, fs'.Leads p.output.path (fs.place p.output.path)
  file : ∀ l, fs'.file? l = laid fs.place l ps (fs.file? l)

/-- **Writing several files** writes one after another. -/
theorem writtenAll_of_run (h : w.run (writeAll ps) = (.ok (), w')) :
    WrittenAll ps w.files w'.files := by
  induction ps generalizing w with
  | nil =>
      obtain rfl := (Prod.mk.inj h).2
      exact ⟨.refl _, fun p hp => (nomatch hp), fun _ => rfl⟩
  | cons p ps ih =>
      rw [writeAll, run_bind_eq_ok] at h
      obtain ⟨⟨⟩, w₁, hfirst, h⟩ := h
      rw [run_bind_eq_ok] at h
      obtain ⟨⟨⟩, w₂, hprint, h⟩ := h
      obtain rfl := (Prod.mk.inj hprint).2
      have hfirst := replaced_of_run hfirst
      have hrest := ih h
      have hplace : FileSystem.place w₁.files = w.files.place := funext hfirst.grows.place
      refine ⟨hfirst.grows.trans hrest.grows, fun q hq => ?_, fun l => ?_⟩
      · rcases List.mem_cons.1 hq with rfl | hq
        · exact hfirst.leads.mono hrest.grows
        · rw [← hplace]
          exact hrest.leads q hq
      · rw [hrest.file, hfirst.file, laid, ← hplace]

/-! ### What the last file that comes by decides -/

/-- No two files share a place unless they share their text, and no file is staged where one stands: the
file that stands there is written later, or there is none. -/
structure Apart (place : Path → Location) (lies : Location → Option FileNode) (os : List Output)
    (ps : List Pending) : Prop where
  agree : ∀ o ∈ os, ∀ o' ∈ os, place o.path = place o'.path → o.text = o'.text
  staged : ∀ before p after, ps = before ++ p :: after →
    (∃ q ∈ after, place q.output.path = staging (place p.output.path)) ∨
      lies (staging (place p.output.path)) = none ∧
        ∀ o ∈ os, place o.path ≠ staging (place p.output.path)

section

variable {lies : Location → Option FileNode}

/-- Where files are apart, a location that is passed by ends up with the text of a file that has its
place there, or as empty as before. -/
theorem Apart.laid_cases (h : Apart place lies os ps) (hps : ∀ p ∈ ps, p.output ∈ os) (l : Location) :
    laid place l ps (lies l) = lies l ∧
        ((∀ p ∈ ps, place p.output.path ≠ l) ∨ ∀ o ∈ os, place o.path ≠ l) ∨
      ∃ o ∈ os, place o.path = l ∧ laid place l ps (lies l) = some (.text o.text) := by
  rcases exists_last_touch place l ps with hnone | ⟨before, p, after, rfl, hp, hafter⟩
  · refine .inl ⟨laid_of_not_touches hnone (lies l), .inl fun p hp heq => ?_⟩
    exact hnone p hp (.inl heq.symm)
  · rw [laid_of_last hafter hp]
    have hmem : p.output ∈ os := hps p (List.mem_append_right before List.mem_cons_self)
    by_cases hplace : l = place p.output.path
    · rw [if_pos hplace]
      exact .inr ⟨p.output, hmem, hplace.symm, rfl⟩
    · rw [if_neg hplace]
      obtain rfl := hp.resolve_left hplace
      rcases h.staged before p after rfl with ⟨q, hq, hlater⟩ | ⟨hlies, hos⟩
      · exact absurd (.inl hlater.symm) (hafter q hq)
      · exact .inl ⟨hlies.symm, .inr hos⟩

/-- **What the last file that comes by decides**: every file ends up with its text and all else is as it
was exactly if the files are apart. -/
theorem laid_iff (hps : ∀ p ∈ ps, p.output ∈ os)
    (hos : ∀ o ∈ os, lies (place o.path) = some (.text o.text) ∨ ∃ p ∈ ps, p.output = o) :
    ((∀ o ∈ os, laid place (place o.path) ps (lies (place o.path)) = some (.text o.text)) ∧
      ∀ l, (∀ o ∈ os, place o.path ≠ l) → laid place l ps (lies l) = lies l) ↔
      Apart place lies os ps := by
  constructor
  · rintro ⟨hlisted, hunlisted⟩
    refine ⟨fun o ho o' ho' heq => ?_, fun before p after hsplit => ?_⟩
    · have htext := hlisted o ho
      rw [heq, hlisted o' ho'] at htext
      exact (FileNode.text.inj (Option.some.inj htext)).symm
    · refine or_iff_not_imp_left.2 fun hlater => ?_
      have hmem : p.output ∈ os := hps p (hsplit ▸ List.mem_append_right before List.mem_cons_self)
      -- what was staged is gone, and nothing is put there any more
      have hgone : laid place (staging (place p.output.path)) ps
          (lies (staging (place p.output.path))) = none := by
        rw [hsplit, laid_append, laid, if_neg (staging_ne _), if_pos rfl]
        exact laid_none fun q hq heq => hlater ⟨q, hq, heq⟩
      have hfree : ∀ o ∈ os, place o.path ≠ staging (place p.output.path) := by
        intro o ho heq
        have htext := hlisted o ho
        rw [heq, hgone] at htext
        cases htext
      exact ⟨(hunlisted _ hfree).symm.trans hgone, hfree⟩
  · intro h
    refine ⟨fun o ho => ?_, fun l hl => ?_⟩
    · rcases h.laid_cases hps (place o.path) with ⟨hlaid, hnone | hnone⟩ | ⟨o', ho', hplace, hlaid⟩
      · rcases hos o ho with hlies | ⟨p, hp, rfl⟩
        · exact hlaid.trans hlies
        · exact absurd rfl (hnone p hp)
      · exact absurd rfl (hnone o ho)
      · rw [hlaid, h.agree o' ho' o ho hplace]
    · rcases h.laid_cases hps l with ⟨hlaid, -⟩ | ⟨o, ho, hplace, -⟩
      · exact hlaid
      · exact absurd hplace (hl o ho)

end

/-! ### The files that are not up to date -/

/-- **The files that are not up to date**, in the order of their paths. -/
def stale (fs : FileSystem) (os : List Output) : List Pending :=
  (os.filterMap fun o => o.pending? (fs.readText o.path)).mergeSort Pending.le

theorem pending?_eq_none {r : Except FileError String} : o.pending? r = none ↔ r = .ok o.text := by
  rw [Output.pending?.eq_def]
  split
  · rename_i s
    simp
  · simp

theorem output_of_pending? {r : Except FileError String} (h : o.pending? r = some p) :
    p.output = o := by
  rw [Output.pending?.eq_def] at h
  split at h
  · split at h
    · cases h
    · obtain rfl := Option.some.inj h
      rfl
  · obtain rfl := Option.some.inj h
    rfl

theorem mem_stale : p ∈ stale fs os ↔ ∃ o ∈ os, o.pending? (fs.readText o.path) = some p := by
  rw [stale, List.mem_mergeSort, List.mem_filterMap]

theorem output_mem_of_stale (h : p ∈ stale fs os) : p.output ∈ os := by
  obtain ⟨o, ho, hsome⟩ := mem_stale.1 h
  rwa [output_of_pending? hsome]

/-- A file is up to date if it has its text, or else it is among those that are not. -/
theorem upToDate_or_stale (fs : FileSystem) (ho : o ∈ os) :
    fs.Leads o.path (fs.place o.path) ∧ fs.file? (fs.place o.path) = some (.text o.text) ∨
      ∃ p ∈ stale fs os, p.output = o := by
  cases hpending : o.pending? (fs.readText o.path) with
  | none =>
      obtain ⟨l, hleads, hfile⟩ := FileSystem.readText_eq_ok.1 (pending?_eq_none.1 hpending)
      obtain rfl := hleads.eq_place
      exact .inl ⟨hleads, hfile⟩
  | some p => exact .inr ⟨p, mem_stale.2 ⟨o, ho, hpending⟩, output_of_pending? hpending⟩

theorem stale_eq_nil : stale fs os = [] ↔ ∀ o ∈ os, fs.readText o.path = .ok o.text := by
  rw [List.eq_nil_iff_forall_not_mem]
  constructor
  · intro h o ho
    rw [← pending?_eq_none, Option.eq_none_iff_forall_not_mem]
    exact fun p hp => h p (mem_stale.2 ⟨o, ho, hp⟩)
  · intro h p hp
    obtain ⟨o, ho, hsome⟩ := mem_stale.1 hp
    rw [pending?_eq_none.2 (h o ho)] at hsome
    cases hsome

theorem pendingOf_eq (os : List Output) (w : World) :
    (pendingOf os : StateM World (List Pending)) w =
      (os.filterMap fun o => o.pending? (w.files.readText o.path), w) := by
  induction os with
  | nil => rfl
  | cons o os ih =>
      show (((o.pending? (w.files.readText o.path)).toList ++
        ((pendingOf os : StateM World (List Pending)) w).1,
          ((pendingOf os : StateM World (List Pending)) w).2) : List Pending × World) = _
      rw [ih, List.filterMap_cons]
      cases o.pending? (w.files.readText o.path) <;> rfl

/-- Dealing with files starts with finding those that are not up to date. -/
theorem run_applyOutputs (mode : OutputMode) (os : List Output) (w : World) :
    w.run (applyOutputs mode os) = w.run (match mode with
      | .write => writeAll (stale w.files os)
      | .report => reportAll (stale w.files os)
      | .check =>
        if (stale w.files os).isEmpty then return ()
        else throw (.outOfDate ((stale w.files os).map (·.output.path)))) := by
  have hpending : (pending os : StateM World (List Pending)) w = (stale w.files os, w) := by
    show ((((pendingOf os : StateM World (List Pending)) w).1.mergeSort Pending.le,
      ((pendingOf os : StateM World (List Pending)) w).2) : List Pending × World) = _
    rw [pendingOf_eq]
    rfl
  rw [applyOutputs, run_lift_bind]
  generalize (pending os : StateM World (List Pending)) w = found at hpending ⊢
  subst hpending
  rfl

theorem files_run_reportAll (ps : List Pending) (w : World) :
    (w.run (reportAll ps)).2.files = w.files := by
  induction ps generalizing w with
  | nil => rfl
  | cons p ps ih => exact ih _

/-! ### What writing promises -/

/-- **What writing promises**: every file listed has its text and no other file is touched, so that
checking finds nothing out of date and writing again writes nothing. -/
structure Settled (os : List Output) (w w' : World) : Prop where
  listed : ∀ o ∈ os, w'.files.readText o.path = .ok o.text
  unlisted : ∀ l, (∀ o ∈ os, w.files.place o.path ≠ l) → w'.files.file? l = w.files.file? l
  checks : w'.run (applyOutputs .check os) = (.ok (), w')
  rests : w'.run (applyOutputs .write os) = (.ok (), w')

/-- Files that have their texts are left alone. -/
theorem run_applyOutputs_of_listed {mode : OutputMode}
    (h : ∀ o ∈ os, w.files.readText o.path = .ok o.text) :
    w.run (applyOutputs mode os) = (.ok (), w) := by
  rw [run_applyOutputs, stale_eq_nil.2 h]
  cases mode <;> rfl

/-- A file that was written, or was up to date, is read where its path leads. -/
theorem readText_of_writtenAll (h : WrittenAll (stale fs os) fs fs') (ho : o ∈ os) :
    fs'.readText o.path = .ok o.text ↔
      laid fs.place (fs.place o.path) (stale fs os) (fs.file? (fs.place o.path)) =
        some (.text o.text) := by
  rw [← h.file, FileSystem.readText_eq_ok]
  have hplace {l : Location} (hl : fs'.Leads o.path l) : l = fs.place o.path :=
    hl.eq_place.trans (h.grows.place o.path)
  constructor
  · rintro ⟨l, hleads, hfile⟩
    rwa [← hplace hleads]
  · intro hfile
    refine ⟨fs.place o.path, ?_, hfile⟩
    rcases upToDate_or_stale fs ho with ⟨hleads, -⟩ | ⟨p, hp, rfl⟩
    · exact hleads.mono h.grows
    · exact h.leads p hp

/-- **Writing keeps its promise exactly for files that are apart**; reporting and checking change no
file. -/
theorem applyOutputs_settled_iff (os : List Output) (w : World) :
    (∀ mode, mode ≠ .write → (w.run (applyOutputs mode os)).2.files = w.files) ∧
      ∀ w', w.run (applyOutputs .write os) = (.ok (), w') →
        (Settled os w w' ↔ Apart w.files.place w.files.file? os (stale w.files os)) := by
  refine ⟨fun mode hmode => ?_, fun w' hrun => ?_⟩
  · rw [run_applyOutputs]
    cases mode with
    | write => exact absurd rfl hmode
    | report => exact files_run_reportAll (stale w.files os) w
    | check =>
        show (w.run (if (stale w.files os).isEmpty then pure () else _)).2.files = w.files
        split <;> rfl
  · rw [run_applyOutputs] at hrun
    have hwritten := writtenAll_of_run hrun
    have hos : ∀ o ∈ os, w.files.file? (w.files.place o.path) = some (.text o.text) ∨
        ∃ p ∈ stale w.files os, p.output = o := fun o ho =>
      (upToDate_or_stale w.files ho).imp_left And.right
    rw [← laid_iff (fun p hp => output_mem_of_stale hp) hos]
    constructor
    · intro h
      refine ⟨fun o ho => (readText_of_writtenAll hwritten ho).1 (h.listed o ho), fun l hl => ?_⟩
      rw [← hwritten.file]
      exact h.unlisted l hl
    · rintro ⟨hlisted, hunlisted⟩
      have hread : ∀ o ∈ os, w'.files.readText o.path = .ok o.text := fun o ho =>
        (readText_of_writtenAll hwritten ho).2 (hlisted o ho)
      refine ⟨hread, fun l hl => ?_, run_applyOutputs_of_listed hread,
        run_applyOutputs_of_listed hread⟩
      rw [hwritten.file]
      exact hunlisted l hl

/-- One script in an empty directory is written, and stays. -/
theorem applyOutputs_settled_iff_single :
    let os : List Output := [⟨⟨"a.sql"⟩, "A"⟩]
    let w : World := ⟨FileSystem.startingAt ["home"], ""⟩
    ∃ w', w.run (applyOutputs .write os) = (.ok (), w') ∧ Settled os w w' := by
  intro os w
  have hrun : (w.run (applyOutputs .write os)).1 = .ok () := by decide +kernel
  refine ⟨_, run_eq hrun, ((applyOutputs_settled_iff os w).2 _ (run_eq hrun)).2 ?_⟩
  refine ⟨fun o ho o' ho' _ => ?_, fun before p after hsplit => .inr ?_⟩
  · rw [List.mem_singleton.1 ho, List.mem_singleton.1 ho']
  · have hp : p ∈ stale w.files os := hsplit ▸ List.mem_append_right before List.mem_cons_self
    have hfree : ∀ p ∈ stale w.files os,
        w.files.file? (staging (w.files.place p.output.path)) = none ∧
          ∀ o ∈ os, w.files.place o.path ≠ staging (w.files.place p.output.path) := by
      decide +kernel
    exact hfree p hp

/-- **The name of a staged text is asked of nobody**: a script of that name is lost behind the script that
is staged there, although writing both succeeds, and so is a file that is no script at all. -/
theorem applyOutputs_not_settled :
    (let os : List Output := [⟨⟨".a.sql.partial"⟩, "B"⟩, ⟨⟨"a.sql"⟩, "A"⟩]
      let w : World := ⟨FileSystem.startingAt ["home"], ""⟩
      ∃ w', w.run (applyOutputs .write os) = (.ok (), w') ∧
        w'.files.readText ⟨".a.sql.partial"⟩ = .error .missing ∧
        (w'.run (applyOutputs .check os)).1 = .error (.outOfDate [⟨".a.sql.partial"⟩])) ∧
      let os : List Output := [⟨⟨"a.sql"⟩, "A"⟩]
      let w : World :=
        ⟨(FileSystem.startingAt ["home"]).put ["home", ".a.sql.partial"] (.text "kept"), ""⟩
      ∃ w', w.run (applyOutputs .write os) = (.ok (), w') ∧
        w.files.readText ⟨".a.sql.partial"⟩ = .ok "kept" ∧
        w'.files.readText ⟨".a.sql.partial"⟩ = .error .missing := by
  refine ⟨?_, ?_⟩
  · intro os w
    have hstale : stale w.files os = os.map (⟨·, false⟩) :=
      List.mergeSort_of_pairwise (by decide +kernel)
    have hrun : w.run (applyOutputs .write os) = w.run (writeAll (os.map (⟨·, false⟩))) := by
      rw [run_applyOutputs, hstale]
    rw [hrun]
    have hok : (w.run (writeAll (os.map (⟨·, false⟩)))).1 = .ok () := by decide +kernel
    exact ⟨_, run_eq hok, by decide +kernel, by decide +kernel⟩
  · intro os w
    have hok : (w.run (applyOutputs .write os)).1 = .ok () := by decide +kernel
    exact ⟨_, run_eq hok, by decide +kernel, by decide +kernel⟩

end CommandLine

end ModelSql
