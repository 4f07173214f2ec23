/-
**What requests about files change.**

A request that is granted puts a file at one location, or takes it from one location to another; making
directories adds directories and nothing else.  No request takes a directory away, so a path that leads
to a place for a file goes on leading there.

Main definitions:

* `FileSystem.file?` — the file at a location;
* `FileSystem.Leads`, `FileSystem.place` — **the place that a path leads to**, and where that is;
* `FileSystem.Grows`, `FileSystem.Furnished` — no directory is lost; only directories are new.

Main results:

* `FileSystem.Leads.mono`, `FileSystem.Leads.eq_place` — a path leads to one place, and goes on doing
  so;
* `FileSystem.Leads.place_beside` — another name in the directory of a file;
* `FileSystem.readText_eq_ok`, `FileSystem.writeText_eq_ok`, `FileSystem.moveFile_eq_ok`,
  `FileSystem.furnished_makeDirectories` — **what each request does** if it is granted.
-/

import ModelSql.Proofs.Files.Path

set_option relaxedAutoImplicit false
set_option autoImplicit false

namespace ModelSql

namespace FileSystem

variable {fs fs' fs'' : FileSystem} {p q : Path} {l m : Location} {n : FileNode} {s : String}
  {xs : List String}

/-! ### What lies at a location -/

theorem lookup_filter_ne (nodes : List (Location × FileNode)) (l m : Location) :
    (nodes.filter fun e => e.1 != l).lookup m = if m = l then none else nodes.lookup m := by
  induction nodes with
  | nil => simp
  | cons e nodes ih =>
      obtain ⟨k, n⟩ := e
      by_cases hk : k = l
      · subst hk
        rw [List.filter_cons_of_neg (by simp), ih]
        split
        · rfl
        · rename_i hm
          rw [List.lookup_cons, beq_false_of_ne hm]
      · rw [List.filter_cons_of_pos (by simpa using hk), List.lookup_cons, List.lookup_cons, ih]
        by_cases hm : m = k
        · simp only [hm, beq_self_eq_true, if_neg hk]
        · rw [beq_false_of_ne hm]

theorem get?_eq_lookup (h : l ≠ []) : fs.get? l = fs.nodes.lookup l := by
  cases l with
  | nil => exact absurd rfl h
  | cons x l => rfl

theorem get?_remove (hl : l ≠ []) (m : Location) :
    (fs.remove l).get? m = if m = l then none else fs.get? m := by
  by_cases hm : m = []
  · subst hm
    rw [if_neg hl.symm]
    rfl
  · rw [get?_eq_lookup hm, get?_eq_lookup hm]
    exact lookup_filter_ne fs.nodes l m

theorem get?_put (hl : l ≠ []) (n : FileNode) (m : Location) :
    (fs.put l n).get? m = if m = l then some n else fs.get? m := by
  by_cases hm : m = []
  · subst hm
    rw [if_neg hl.symm]
    rfl
  · have hlookup := lookup_filter_ne fs.nodes l m
    rw [get?_eq_lookup hm, get?_eq_lookup hm, put, remove]
    show List.lookup m (List.filter (fun e => e.1 != l) fs.nodes ++ [(l, n)]) = _
    rw [List.lookup_append, hlookup]
    by_cases heq : m = l
    · subst heq
      rw [if_pos rfl, if_pos rfl, Option.none_or, List.lookup_cons, beq_self_eq_true]
    · rw [if_neg heq, if_neg heq, List.lookup_cons, beq_false_of_ne heq, List.lookup_nil,
        Option.or_none]

/-- The file at a location. -/
def file? (fs : FileSystem) (l : Location) : Option FileNode :=
  (fs.get? l).filter (· != .directory)

theorem file?_remove (hl : l ≠ []) (m : Location) :
    (fs.remove l).file? m = if m = l then none else fs.file? m := by
  rw [file?, get?_remove hl]
  split <;> rfl

theorem file?_put (hl : l ≠ []) (hn : n ≠ .directory) (m : Location) :
    (fs.put l n).file? m = if m = l then some n else fs.file? m := by
  rw [file?, get?_put hl]
  split
  · rw [Option.filter_some, if_pos (by simpa using hn)]
  · rfl

theorem file?_eq_some : fs.file? l = some n ↔ fs.get? l = some n ∧ n ≠ .directory := by
  rw [file?, Option.filter_eq_some_iff, bne_iff_ne]

/-! ### Directories stay -/

/-- No directory is lost, and relative paths start where they did. -/
structure Grows (fs fs' : FileSystem) : Prop where
  start : fs'.start = fs.start
  directory : ∀ l, fs.get? l = some .directory → fs'.get? l = some .directory

namespace Grows

theorem refl (fs : FileSystem) : fs.Grows fs := ⟨rfl, fun _ h => h⟩

theorem trans (h : fs.Grows fs') (h' : fs'.Grows fs'') : fs.Grows fs'' :=
  ⟨h'.start.trans h.start, fun l hl => h'.directory l (h.directory l hl)⟩

theorem put (hl : l ≠ []) (h : fs.get? l ≠ some .directory) (n : FileNode) :
    fs.Grows (fs.put l n) := by
  refine ⟨rfl, fun m hm => ?_⟩
  rw [get?_put hl, if_neg, hm]
  rintro rfl
  exact h hm

theorem remove (hl : l ≠ []) (h : fs.get? l ≠ some .directory) : fs.Grows (fs.remove l) := by
  refine ⟨rfl, fun m hm => ?_⟩
  rw [get?_remove hl, if_neg, hm]
  rintro rfl
  exact h hm

theorem move (hl : l ≠ []) (hm : m ≠ []) (h : fs.get? l ≠ some .directory)
    (h' : fs.get? m ≠ some .directory) (n : FileNode) : fs.Grows ((fs.remove l).put m n) := by
  refine (remove hl h).trans (put hm ?_ n)
  rw [get?_remove hl]
  split
  · simp
  · exact h'

theorem origin (h : fs.Grows fs') (p : Path) : fs'.origin p = fs.origin p := by
  rw [FileSystem.origin, FileSystem.origin, h.start]

end Grows

/-- Only directories are new. -/
structure Furnished (fs fs' : FileSystem) : Prop where
  grows : fs.Grows fs'
  file : ∀ l, fs'.file? l = fs.file? l

namespace Furnished

theorem refl (fs : FileSystem) : fs.Furnished fs := ⟨.refl fs, fun _ => rfl⟩

theorem trans (h : fs.Furnished fs') (h' : fs'.Furnished fs'') : fs.Furnished fs'' :=
  ⟨h.grows.trans h'.grows, fun l => (h'.file l).trans (h.file l)⟩

end Furnished

/-! ### Where paths lead -/

/-- A computation that goes on from an answer ends well if both parts do. -/
theorem bind_eq_ok {α β : Type} {x : Except FileError α} {f : α → Except FileError β} {b : β} :
    x >>= f = .ok b ↔ ∃ a, x = .ok a ∧ f a = .ok b := by
  cases x with
  | error e => simp [bind, Except.bind]
  | ok a => simp [bind, Except.bind]

theorem entry_eq_ok {name : String} : entry l name = .ok m ↔
    ¬ nameLimit < name.utf8ByteSize ∧ m = l ++ [name] := by
  rw [entry]
  split
  · rename_i hlong
    exact ⟨fun h => (nomatch h), fun h => absurd hlong h.1⟩
  · rename_i hshort
    exact ⟨fun h => ⟨hshort, (Except.ok.inj h).symm⟩, fun h => by rw [h.2]⟩

/-- **One step** stays, goes up, or goes to what lies under a name. -/
theorem step_eq_ok {piece : String} : fs.step l piece = .ok (m, n) ↔
    (piece = "." ∧ m = l ∧ n = .directory) ∨ (piece = ".." ∧ m = l.dropLast ∧ n = .directory) ∨
      (piece ≠ "." ∧ piece ≠ ".." ∧ entry l piece = .ok m ∧ fs.get? m = some n) := by
  rw [step, entry_eq_ok]
  by_cases hhere : piece = "."
  · subst hhere
    simp [eq_comm]
  · by_cases hup : piece = ".."
    · subst hup
      simp [eq_comm]
    · rw [if_neg hhere, if_neg hup]
      by_cases hlong : nameLimit < piece.utf8ByteSize
      · simp [hhere, hup, hlong]
      · rw [if_neg hlong]
        cases hget : fs.get? (l ++ [piece]) with
        | none =>
            simp only [hhere, hup, hlong, reduceCtorEq, false_and, false_or, not_false_eq_true,
              true_and, false_iff]
            rintro ⟨-, -, rfl, hsome⟩
            rw [hget] at hsome
            cases hsome
        | some k =>
            simp only [hhere, hup, hlong, false_and, false_or, not_false_eq_true, true_and, ne_eq]
            constructor
            · intro h
              obtain ⟨rfl, rfl⟩ := Prod.mk.inj (Except.ok.inj h)
              exact ⟨rfl, hget⟩
            · rintro ⟨rfl, hsome⟩
              rw [hget] at hsome
              rw [Option.some.inj hsome]

/-- A step goes where its piece leads. -/
theorem eq_follow_of_step {piece : String} (h : piece ≠ "") (hstep : fs.step l piece = .ok (m, n)) :
    m = follow l [piece] := by
  rcases step_eq_ok.1 hstep with ⟨rfl, rfl, -⟩ | ⟨rfl, rfl, -⟩ | ⟨hhere, hup, hentry, -⟩
  · rfl
  · rfl
  · rw [follow_name (by simp [Path.isVoid, h, hhere]) hup]
    exact (entry_eq_ok.1 hentry).2

/-- A step to a directory goes there again where no directory was lost. -/
theorem Grows.step {piece : String} (h : fs.Grows fs')
    (hstep : fs.step l piece = .ok (m, .directory)) : fs'.step l piece = .ok (m, .directory) := by
  rw [step_eq_ok] at hstep ⊢
  exact hstep.imp_right <| .imp_right fun ⟨hhere, hup, hentry, hget⟩ =>
    ⟨hhere, hup, hentry, h.directory m hget⟩

theorem walk_cons_eq_ok {piece : String} : fs.walk l (piece :: xs) = .ok m ↔
    ∃ k, fs.step l piece = .ok (k, .directory) ∧ fs.walk k xs = .ok m := by
  rw [walk]
  constructor
  · intro h
    split at h
    · rename_i k hstep
      exact ⟨k, hstep, h⟩
    · cases h
    · cases h
  · rintro ⟨k, hstep, h⟩
    rw [hstep]
    exact h

/-- A walk goes where its pieces lead. -/
theorem walk_eq_ok (hxs : ∀ x ∈ xs, x ≠ "") (h : fs.walk l xs = .ok m) : m = follow l xs := by
  induction xs generalizing l with
  | nil => exact (Except.ok.inj h).symm
  | cons x xs ih =>
      obtain ⟨k, hstep, hwalk⟩ := walk_cons_eq_ok.1 h
      rw [ih (fun y hy => hxs y (List.mem_cons_of_mem x hy)) hwalk,
        eq_follow_of_step (hxs x List.mem_cons_self) hstep, ← follow_append, List.singleton_append]

theorem Grows.walk (h : fs.Grows fs') (hwalk : fs.walk l xs = .ok m) :
    fs'.walk l xs = .ok m := by
  induction xs generalizing l with
  | nil => exact hwalk
  | cons x xs ih =>
      obtain ⟨k, hstep, hwalk⟩ := walk_cons_eq_ok.1 hwalk
      exact walk_cons_eq_ok.2 ⟨k, h.step hstep, ih hwalk⟩

theorem slot_eq_ok {t : Slot} : fs.slot p = .ok t ↔ checkPath p = .ok () ∧
    fs.walk (fs.origin p) (steps p).dropLast = .ok t.directory ∧
    t.name = ((steps p).getLast?.filter fun s => s != "." && s != "..") ∧
    t.closed = Text.endsWith p.text "/" := by
  obtain ⟨directory, name, closed⟩ := t
  rw [slot, bind_eq_ok]
  simp only [bind_eq_ok]
  constructor
  · rintro ⟨⟨⟩, hcheck, k, hwalk, hslot⟩
    obtain ⟨rfl, rfl, rfl⟩ := Slot.mk.inj (Except.ok.inj hslot)
    exact ⟨hcheck, hwalk, rfl, rfl⟩
  · rintro ⟨hcheck, hwalk, rfl, rfl⟩
    exact ⟨(), hcheck, directory, hwalk, rfl⟩

/-- **A path leads to a place for a file**: a name in a directory. -/
def Leads (fs : FileSystem) (p : Path) (l : Location) : Prop :=
  ∃ directory name, fs.slot p = .ok ⟨directory, some name, false⟩ ∧ entry directory name = .ok l

/-- The location that a path leads to, if every step is to a directory. -/
def place (fs : FileSystem) (p : Path) : Location := follow (fs.origin p) p.pieces

theorem Grows.place (h : fs.Grows fs') (p : Path) : fs'.place p = fs.place p := by
  rw [FileSystem.place, FileSystem.place, h.origin]

namespace Leads

/-- A path that leads to a place for a file ends with the name of the file. -/
theorem exists_pieces (h : fs.Leads p l) : ∃ xs name, p.pieces = xs ++ [name] ∧
    Path.isVoid name = false ∧ name ≠ ".." ∧ l = follow (fs.origin p) xs ++ [name] := by
  obtain ⟨directory, name, hslot, hentry⟩ := h
  obtain ⟨hcheck, hwalk, hname, hclosed⟩ := slot_eq_ok.1 hslot
  have htext : p.text ≠ "" := by
    intro hempty
    rw [checkPath, hempty] at hcheck
    exact absurd hcheck (by decide)
  obtain ⟨xs, last, hpieces, hlast⟩ := Path.exists_last_pieces htext hclosed.symm
  have hsteps : steps p = xs.filter (· != "") ++ [last] := by
    rw [steps, hpieces, List.filter_append, List.filter_cons_of_pos (by simpa using hlast),
      List.filter_nil]
  rw [hsteps, List.getLast?_concat] at hname
  obtain ⟨hsome, hkept⟩ := Option.filter_eq_some_iff.1 hname.symm
  obtain rfl := Option.some.inj hsome
  simp only [Bool.and_eq_true, bne_iff_ne, ne_eq] at hkept
  rw [hsteps, List.dropLast_concat] at hwalk
  have hdirectory := walk_eq_ok (fun x hx => by simpa using (List.mem_filter.1 hx).2) hwalk
  rw [follow_filter_ne_empty] at hdirectory
  refine ⟨xs, last, hpieces, by simp [Path.isVoid, hlast, hkept.1], hkept.2, ?_⟩
  rw [← hdirectory]
  exact (entry_eq_ok.1 hentry).2

theorem eq_place (h : fs.Leads p l) : l = fs.place p := by
  obtain ⟨xs, name, hpieces, hname, hup, rfl⟩ := h.exists_pieces
  rw [place, hpieces, follow_append, follow_name hname hup]

theorem ne_nil (h : fs.Leads p l) : l ≠ [] := by
  obtain ⟨xs, name, -, -, -, rfl⟩ := h.exists_pieces
  exact List.concat_ne_nil _ _

theorem mono (h : fs.Leads p l) (hgrows : fs.Grows fs') : fs'.Leads p l := by
  obtain ⟨directory, name, hslot, hentry⟩ := h
  obtain ⟨hcheck, hwalk, hrest⟩ := slot_eq_ok.1 hslot
  refine ⟨directory, name, slot_eq_ok.2 ⟨hcheck, ?_, hrest⟩, hentry⟩
  rw [hgrows.origin]
  exact hgrows.walk hwalk

/-- **Another name in the directory of a file** is there beside it. -/
theorem place_beside {name : String} (h : fs.Leads p l) (hslash : '/' ∉ name.toList)
    (hname : Path.isVoid name = false) (hup : name ≠ "..") :
    fs.place ((p.directory?.getD ⟨"."⟩).join ⟨name⟩) = l.dropLast ++ [name] := by
  obtain ⟨xs, last, hpieces, hlast, -, rfl⟩ := h.exists_pieces
  obtain ⟨htext, habsolute, hfollow⟩ := Path.follow_directory hpieces hlast
  have hrelative : (⟨name⟩ : Path).isAbsolute = false := by
    by_contra hslashed
    rw [Bool.not_eq_false] at hslashed
    obtain ⟨s, rfl⟩ : ∃ s, name = "/" ++ s := Path.isAbsolute_iff.1 hslashed
    exact hslash (by simp)
  rw [place, Path.follow_join htext hrelative, Path.pieces_of_not_mem hslash,
    follow_name hname hup, hfollow, List.dropLast_concat, origin, origin,
    Path.isAbsolute_join htext hrelative, habsolute]

end Leads

/-! ### Requests -/

/-- A path is located at a file if it leads to its place. -/
theorem locate_eq_ok (hn : n ≠ .directory) :
    fs.locate p = .ok (l, n) ↔ fs.Leads p l ∧ fs.get? l = some n := by
  rw [locate, bind_eq_ok]
  simp only [bind_eq_ok]
  constructor
  · rintro ⟨⟨⟩, hcheck, directory, hwalk, h⟩
    cases hlast : (steps p).getLast? with
    | none =>
        rw [hlast] at h
        obtain ⟨-, rfl⟩ := Prod.mk.inj (Except.ok.inj h)
        exact absurd rfl hn
    | some piece =>
        simp only [hlast, bind_eq_ok] at h
        obtain ⟨⟨k, o⟩, hstep, h⟩ := h
        split at h
        · cases h
        · rename_i hclosed
          obtain ⟨rfl, rfl⟩ := Prod.mk.inj (Except.ok.inj h)
          have hopen : Text.endsWith p.text "/" = false := by simpa [hn] using hclosed
          rcases step_eq_ok.1 hstep with ⟨-, -, ho⟩ | ⟨-, -, ho⟩ | ⟨hhere, hup, hentry, hget⟩
          · exact absurd ho hn
          · exact absurd ho hn
          · refine ⟨⟨directory, piece, slot_eq_ok.2 ⟨hcheck, hwalk, ?_, hopen.symm⟩, hentry⟩, hget⟩
            rw [hlast, Option.filter_some, if_pos (by simp [hhere, hup])]
  · rintro ⟨⟨directory, name, hslot, hentry⟩, hget⟩
    obtain ⟨hcheck, hwalk, hname, hclosed⟩ := slot_eq_ok.1 hslot
    obtain ⟨hlast, hkept⟩ := Option.filter_eq_some_iff.1 hname.symm
    simp only [Bool.and_eq_true, bne_iff_ne, ne_eq] at hkept
    refine ⟨(), hcheck, directory, hwalk, ?_⟩
    simp only [hlast, bind_eq_ok]
    refine ⟨(l, n), step_eq_ok.2 (.inr (.inr ⟨hkept.1, hkept.2, hentry, hget⟩)), ?_⟩
    simp [← hclosed]

/-- **Reading** a file. -/
theorem readText_eq_ok : fs.readText p = .ok s ↔
    ∃ l, fs.Leads p l ∧ fs.file? l = some (.text s) := by
  rw [readText, bind_eq_ok]
  constructor
  · rintro ⟨⟨l, n⟩, hlocate, h⟩
    cases n with
    | text t =>
        obtain rfl := Except.ok.inj h
        obtain ⟨hleads, hget⟩ := (locate_eq_ok (by simp)).1 hlocate
        exact ⟨l, hleads, file?_eq_some.2 ⟨hget, by simp⟩⟩
    | binary bytes => cases h
    | directory => cases h
  · rintro ⟨l, hleads, hfile⟩
    obtain ⟨hget, hn⟩ := file?_eq_some.1 hfile
    exact ⟨(l, .text s), (locate_eq_ok hn).2 ⟨hleads, hget⟩, rfl⟩

/-- **Writing** a file puts it where the path leads. -/
theorem writeText_eq_ok (h : fs.writeText p s = .ok fs') : ∃ l, fs.Leads p l ∧
    fs.get? l ≠ some .directory ∧ fs' = fs.put l (.text s) := by
  obtain ⟨⟨directory, name?, closed⟩, hslot, h⟩ := bind_eq_ok.1 h
  cases name? with
  | none => cases h
  | some name =>
      cases closed with
      | true => cases h
      | false =>
          obtain ⟨l, hentry, h⟩ := bind_eq_ok.1 h
          split at h
          · cases h
          · rename_i hfile
            exact ⟨l, ⟨directory, name, hslot, hentry⟩, hfile, (Except.ok.inj h).symm⟩

/-- **Moving** a file takes it from where one path leads to where the other does. -/
theorem moveFile_eq_ok (h : fs.moveFile p q = .ok fs') : ∃ l m n, fs.Leads p l ∧ fs.Leads q m ∧
    fs.file? l = some n ∧ fs.get? m ≠ some .directory ∧ fs' = (fs.remove l).put m n := by
  rw [moveFile, bind_eq_ok] at h
  obtain ⟨⟨source, old?, sourceClosed⟩, hp, h⟩ := h
  rw [bind_eq_ok] at h
  obtain ⟨⟨target, new?, targetClosed⟩, hq, h⟩ := h
  cases old? with
  | none => cases h
  | some old =>
      cases new? with
      | none => cases h
      | some new =>
          rw [bind_eq_ok] at h
          obtain ⟨l, hl, h⟩ := h
          simp only at hl h
          split at h
          · cases h
          · cases h
          · rename_i n hn hfile
            rw [bind_eq_ok] at h
            obtain ⟨m, hm, h⟩ := h
            split at h
            · cases h
            · rename_i hopen
              simp only [Bool.or_eq_true, not_or, Bool.not_eq_true] at hopen
              obtain ⟨rfl, rfl⟩ := hopen
              split at h
              · cases h
              · rename_i hm'
                exact ⟨l, m, n, ⟨source, old, hp, hl⟩, ⟨target, new, hq, hm⟩,
                  file?_eq_some.2 ⟨hfile, hn⟩, hm', (Except.ok.inj h).symm⟩

/-! ### Making directories -/

/-- A directory where nothing lay is no file. -/
theorem Furnished.put (hl : l ≠ []) (h : fs.get? l = none) : fs.Furnished (fs.put l .directory) := by
  refine ⟨.put hl (by simp [h]) .directory, fun m => ?_⟩
  rw [file?, file?, get?_put hl]
  split
  · rename_i hm
    rw [hm, h]
    rfl
  · rfl

theorem furnished_makeDirectory (h : fs.makeDirectory p = .ok fs') : fs.Furnished fs' := by
  obtain ⟨⟨directory, name?, closed⟩, -, h⟩ := bind_eq_ok.1 h
  cases name? with
  | none => cases h
  | some name =>
      obtain ⟨l, hentry, h⟩ := bind_eq_ok.1 h
      split at h
      · cases h
      · rename_i hfree
        obtain rfl := Except.ok.inj h
        rw [Option.not_isSome_iff_eq_none] at hfree
        refine .put ?_ hfree
        rw [(entry_eq_ok.1 hentry).2]
        exact List.concat_ne_nil _ _

theorem furnished_ensureDirectory (h : fs.ensureDirectory p = .ok fs') : fs.Furnished fs' := by
  rw [ensureDirectory] at h
  split at h
  · rename_i made hmade
    obtain rfl := Except.ok.inj h
    exact furnished_makeDirectory hmade
  · split at h
    · obtain rfl := Except.ok.inj h
      exact .refl fs
    · cases h

theorem furnished_makeDirectoriesFrom (fuel : Nat) (fs : FileSystem) (p : Path) :
    fs.Furnished (makeDirectoriesFrom fuel fs p).2 := by
  induction fuel generalizing fs p with
  | zero => exact .refl fs
  | succ fuel ih =>
      rw [makeDirectoriesFrom]
      split
      · exact .refl fs
      · split
        · rename_i made hmade
          exact furnished_ensureDirectory hmade
        · split
          · exact .refl fs
          · rename_i q hq
            -- first the directories that this one lies in
            have hparents := ih fs q
            split
            · rename_i e made hmade
              rwa [hmade] at hparents
            · rename_i made hmade
              rw [hmade] at hparents
              split
              · rename_i last hlast
                exact hparents.trans (furnished_ensureDirectory hlast)
              · exact hparents
        · exact .refl fs

/-- **Making directories**, granted or not, adds directories and nothing else. -/
theorem furnished_makeDirectories (fs : FileSystem) (p : Path) :
    fs.Furnished (fs.makeDirectories p).2 :=
  furnished_makeDirectoriesFrom (p.text.length + 1) fs p

end FileSystem

end ModelSql
