/-
**Where pieces of a path lead.**

Piece by piece a path leads down to a name, up, or nowhere: the pieces that add no component change
nothing.  So a path and what is put together from its parts lead to the same location, although their
texts need not agree: the directory of a file is written without the pieces that are void, and as `.`
where nothing is left of it.

Main definitions:

* `FileSystem.follow` — the location that pieces lead to, if every step is to a directory.

Main results:

* `Path.follow_join` — a path seen from a directory goes on where the directory is;
* `Path.follow_directory` — **the directory of a file** is where the pieces before its name lead;
* `Path.fileName?_of_pieces` — the name of the file is its last piece.
-/

import Mathlib.Data.List.TakeWhile
import ModelSql.Files.FileSystem
import ModelSql.Proofs.Text.Words

set_option relaxedAutoImplicit false
set_option autoImplicit false

namespace ModelSql

namespace FileSystem

/-- The location that pieces of a path lead to, if every step is to a directory. -/
def follow (l : Location) : List String → Location
  | [] => l
  | piece :: rest =>
    if Path.isVoid piece then follow l rest
    else if piece = ".." then follow l.dropLast rest
    else follow (l ++ [piece]) rest

variable {l : Location} {piece : String} {xs ys : List String}

@[simp] theorem follow_nil : follow l [] = l := rfl

theorem follow_cons_void (h : Path.isVoid piece = true) :
    follow l (piece :: xs) = follow l xs := by
  rw [follow, if_pos h]

/-- A name is where its directory ends. -/
theorem follow_name (h : Path.isVoid piece = false) (hup : piece ≠ "..") :
    follow l [piece] = l ++ [piece] := by
  rw [follow, h, if_neg Bool.false_ne_true, if_neg hup, follow_nil]

theorem follow_append (l : Location) (xs ys : List String) :
    follow l (xs ++ ys) = follow (follow l xs) ys := by
  fun_induction follow l xs with
  | case1 => rfl
  | case2 l piece rest hvoid ih => rw [List.cons_append, follow, if_pos hvoid, ih]
  | case3 l rest hvoid ih => rw [List.cons_append, follow, if_neg hvoid, if_pos rfl, ih]
  | case4 l piece rest hvoid hup ih => rw [List.cons_append, follow, if_neg hvoid, if_neg hup, ih]

/-- Void pieces lead nowhere. -/
theorem follow_of_void (h : ∀ x ∈ xs, Path.isVoid x = true) : follow l xs = l := by
  induction xs with
  | nil => rfl
  | cons x xs ih =>
      rw [follow_cons_void (h x List.mem_cons_self)]
      exact ih fun y hy => h y (List.mem_cons_of_mem x hy)

/-- Empty pieces may be left out. -/
theorem follow_filter_ne_empty (l : Location) (xs : List String) :
    follow l (xs.filter (· != "")) = follow l xs := by
  fun_induction follow l xs with
  | case1 => rfl
  | case2 l piece rest hvoid ih =>
      by_cases hpiece : piece = ""
      · rw [List.filter_cons_of_neg (by simp [hpiece]), ih]
      · rw [List.filter_cons_of_pos (by simpa using hpiece), follow_cons_void hvoid, ih]
  | case3 l rest hvoid ih =>
      rw [List.filter_cons_of_pos (by decide), follow, if_neg hvoid, if_pos rfl, ih]
  | case4 l piece rest hvoid hup ih =>
      have hpiece : piece ≠ "" := by
        rintro rfl
        exact hvoid rfl
      rw [List.filter_cons_of_pos (by simpa using hpiece), follow, if_neg hvoid, if_neg hup, ih]

/-- Void pieces at the end may be left out. -/
theorem follow_dropVoid (l : Location) (xs : List String) :
    follow l (Path.dropVoid xs) = follow l xs := by
  have hsplit : xs = Path.dropVoid xs ++ (xs.reverse.takeWhile Path.isVoid).reverse := by
    rw [Path.dropVoid, ← List.reverse_append, List.takeWhile_append_dropWhile, List.reverse_reverse]
  conv_rhs => rw [hsplit, follow_append]
  refine (follow_of_void fun x hx => ?_).symm
  exact List.mem_takeWhile_imp (List.mem_reverse.1 hx)

end FileSystem

namespace Path

open FileSystem

variable {p q : Path} {l : Location} {name : String} {xs zs : List String}

/-! ### Texts and pieces -/

theorem isAbsolute_iff : p.isAbsolute = true ↔ ∃ s, p.text = "/" ++ s := by
  rw [isAbsolute, Text.startsWith, List.isPrefixOf_iff_prefix]
  constructor
  · rintro ⟨cs, h⟩
    exact ⟨String.ofList cs, String.toList_inj.1 (by simp [← h])⟩
  · rintro ⟨s, h⟩
    exact ⟨s.toList, by rw [h, String.toList_append]⟩

theorem endsWith_slash_iff {s : String} : Text.endsWith s "/" = true ↔ ∃ t, s = t ++ "/" := by
  rw [Text.endsWith, List.isSuffixOf_iff_suffix]
  constructor
  · rintro ⟨cs, h⟩
    exact ⟨String.ofList cs, String.toList_inj.1 (by simp [← h])⟩
  · rintro ⟨t, h⟩
    exact ⟨t.toList, by rw [h, String.toList_append]⟩

/-- A separator parts the pieces before it from those behind it. -/
theorem pieces_append (s t : String) :
    (⟨s ++ "/" ++ t⟩ : Path).pieces = (⟨s⟩ : Path).pieces ++ (⟨t⟩ : Path).pieces :=
  Text.splitOnChar_append rfl s t

theorem pieces_of_isAbsolute (h : p.isAbsolute = true) :
    ∃ s, p.pieces = "" :: (⟨s⟩ : Path).pieces := by
  obtain ⟨s, hs⟩ := isAbsolute_iff.1 h
  have hpieces := pieces_append "" s
  rw [String.empty_append, ← hs] at hpieces
  exact ⟨s, hpieces⟩

/-- A relative path that is not empty starts with a piece that is not empty. -/
theorem pieces_of_relative (h : p.isAbsolute = false) (htext : p.text ≠ "") :
    ∃ piece rest, p.pieces = piece :: rest ∧ piece ≠ "" := by
  rw [pieces, Text.splitOnChar]
  rw [isAbsolute, Text.startsWith] at h
  cases hcs : p.text.toList with
  | nil => exact absurd (String.toList_eq_nil_iff.1 hcs) htext
  | cons c cs =>
      rw [hcs] at h
      have hc : (c == '/') = false := by
        have hslash : "/".toList = ['/'] := rfl
        rw [hslash, List.isPrefixOf_cons_cons, List.isPrefixOf_nil_left, Bool.and_true] at h
        rw [BEq.comm]
        exact h
      obtain ⟨v, rest, hpieces⟩ :
          ∃ v rest, Text.piecesFrom (· == '/') [c] cs = ([c] ++ v) :: rest :=
        Text.exists_head_piecesFrom [c] cs
      refine ⟨String.ofList (c :: v), rest.map String.ofList, ?_, by simp⟩
      rw [Text.piecesFrom, hc, if_neg Bool.false_ne_true, List.nil_append, hpieces]
      rfl

/-- A path that does not end with a separator ends with a piece that is not empty. -/
theorem exists_last_pieces (htext : p.text ≠ "") (h : Text.endsWith p.text "/" = false) :
    ∃ xs name, p.pieces = xs ++ [name] ∧ name ≠ "" := by
  obtain ⟨cs, c, hcs⟩ : ∃ cs c, p.text.toList = cs ++ [c] := by
    have hne : p.text.toList ≠ [] := fun hnil => htext (String.toList_eq_nil_iff.1 hnil)
    exact ⟨_, _, (List.dropLast_append_getLast hne).symm⟩
  have hc : (c == '/') = false := by
    refine beq_false_of_ne ?_
    rintro rfl
    have hends : Text.endsWith p.text "/" = true := by
      refine endsWith_slash_iff.2 ⟨String.ofList cs, String.toList_inj.1 ?_⟩
      rw [hcs, String.toList_append, String.toList_ofList]
      rfl
    rw [h] at hends
    cases hends
  obtain ⟨front, v, hpieces⟩ :
      ∃ front v, Text.piecesFrom (· == '/') [] (cs ++ [c]) = front ++ [v ++ [c]] :=
    Text.exists_last_piecesFrom (fun x hx => by rw [List.mem_singleton.1 hx, hc]) [] cs
  refine ⟨front.map String.ofList, String.ofList (v ++ [c]), ?_, by simp⟩
  rw [pieces, Text.splitOnChar, hcs, hpieces, List.map_append, List.map_singleton]

/-- No piece has a separator in it. -/
theorem slash_not_mem_of_mem_pieces {x : String} (h : x ∈ p.pieces) : '/' ∉ x.toList :=
  Text.not_mem_of_mem_splitOnChar h

/-- A text without a separator is one piece. -/
theorem pieces_of_not_mem (h : '/' ∉ name.toList) : (⟨name⟩ : Path).pieces = [name] :=
  Text.splitOnChar_of_not_mem h

/-- Joined pieces lead where they do one by one. -/
theorem follow_joinWith (h : ∀ z ∈ zs, '/' ∉ z.toList) :
    follow l (⟨Text.joinWith "/" zs⟩ : Path).pieces = follow l zs := by
  by_cases hne : zs = []
  · subst hne
    rfl
  · exact congrArg (follow l) (Text.splitOnChar_joinWith rfl hne h)

/-! ### Putting together -/

/-- **A path seen from a directory** goes on where the directory is. -/
theorem follow_join (hp : p.text ≠ "") (hq : q.isAbsolute = false) (l : Location) :
    follow l (p.join q).pieces = follow (follow l p.pieces) q.pieces := by
  rw [join, hq, if_neg Bool.false_ne_true]
  split
  · rename_i hends
    rw [Bool.or_eq_true, decide_eq_true_eq] at hends
    obtain ⟨s, hs⟩ := endsWith_slash_iff.1 (hends.resolve_left hp)
    -- the empty piece behind the separator at the end is left out
    have hpieces : p.pieces = (⟨s⟩ : Path).pieces ++ [""] := by
      have hsplit := pieces_append s ""
      rw [String.append_empty, ← hs] at hsplit
      exact hsplit
    rw [hs, pieces_append, hpieces, follow_append, follow_append, follow_cons_void rfl, follow_nil]
  · rw [pieces_append, follow_append]

theorem isAbsolute_append (h : p.text ≠ "") (s : String) :
    (⟨p.text ++ s⟩ : Path).isAbsolute = p.isAbsolute := by
  have hslash : "/".toList = ['/'] := rfl
  simp only [isAbsolute, Text.startsWith, String.toList_append, hslash]
  cases hcs : p.text.toList with
  | nil => exact absurd (String.toList_eq_nil_iff.1 hcs) h
  | cons c cs => simp [List.isPrefixOf_cons_cons]

/-- It starts where the directory does. -/
theorem isAbsolute_join (hp : p.text ≠ "") (hq : q.isAbsolute = false) :
    (p.join q).isAbsolute = p.isAbsolute := by
  rw [join, hq, if_neg Bool.false_ne_true]
  split
  · exact isAbsolute_append hp q.text
  · rw [String.append_assoc]
    exact isAbsolute_append hp ("/" ++ q.text)

/-! ### Taking apart -/

theorem dropVoid_append (xs : List String) (h : isVoid name = false) :
    dropVoid (xs ++ [name]) = xs ++ [name] := by
  rw [dropVoid, List.reverse_concat, List.dropWhile_cons_of_neg (by simp [h]),
    List.reverse_cons, List.reverse_reverse]

theorem isPrefix_dropVoid (xs : List String) : dropVoid xs <+: xs := by
  rw [dropVoid, ← List.reverse_suffix, List.reverse_reverse]
  exact List.dropWhile_suffix isVoid

/-- The body of a file's path ends with its name; what stands before leads where all the pieces before
the name do. -/
theorem body_of_pieces (h : p.pieces = xs ++ [name]) (hname : isVoid name = false) :
    ∃ ys, p.body = ys ++ [name] ∧ ys <:+ xs ∧ (∀ l, follow l ys = follow l xs) ∧
      (p.isAbsolute = false → p.startsHere = false → ys = xs) := by
  by_cases hfront : (p.isAbsolute || p.startsHere) = true
  · obtain ⟨x, ys, hxs, hx⟩ : ∃ x ys, p.pieces = x :: ys ∧ isVoid x = true := by
      rcases Bool.or_eq_true_iff.1 hfront with habsolute | hhere
      · obtain ⟨s, hs⟩ := pieces_of_isAbsolute habsolute
        exact ⟨"", _, hs, rfl⟩
      · rw [startsHere, beq_iff_eq] at hhere
        obtain ⟨ys, hys⟩ := List.head?_eq_some_iff.1 hhere
        exact ⟨".", ys, hys, rfl⟩
    cases xs with
    | nil =>
        rw [hxs] at h
        obtain ⟨rfl, -⟩ := List.cons.inj h
        rw [hx] at hname
        cases hname
    | cons z zs =>
        rw [hxs, List.cons_append] at h
        obtain ⟨rfl, rfl⟩ := List.cons.inj h
        refine ⟨zs, ?_, List.suffix_cons x zs, fun l => (follow_cons_void hx).symm, ?_⟩
        · rw [body, if_pos hfront, hxs, List.drop_one, List.tail_cons]
        · intro habsolute hhere
          rw [habsolute, hhere] at hfront
          cases hfront
  · exact ⟨xs, by rw [body, if_neg hfront, h], List.suffix_rfl, fun _ => rfl, fun _ _ => rfl⟩

/-- The name of a file is its last piece. -/
theorem fileName?_of_pieces (h : p.pieces = xs ++ [name]) (hname : isVoid name = false)
    (hup : name ≠ "..") : p.fileName? = some name := by
  obtain ⟨ys, hbody, -⟩ := body_of_pieces h hname
  have hpart : partOf name = some (.name name) := by
    rw [partOf, hname, if_neg Bool.false_ne_true, if_neg hup]
  rw [fileName?, parts, hbody, List.filterMap_append, List.filterMap_cons_some hpart,
    List.filterMap_nil, ← List.append_assoc, List.getLast?_concat]

/-- The pieces of a path with the same front lead where its body does. -/
theorem follow_withBody (hzs : ∀ z ∈ zs, '/' ∉ z.toList) (l : Location) :
    follow l (p.withBody zs).pieces = follow l zs := by
  rw [withBody]
  split
  · have hpieces := pieces_append "" (Text.joinWith "/" zs)
    rw [String.empty_append] at hpieces
    rw [hpieces]
    exact (follow_cons_void rfl).trans (follow_joinWith hzs)
  · split
    · rw [follow_joinWith, follow_cons_void rfl]
      intro z hz
      rcases List.mem_cons.1 hz with rfl | hz
      · decide
      · exact hzs z hz
    · exact follow_joinWith hzs

theorem text_ne_empty_of_pieces (h : p.pieces = xs ++ [name]) (hname : isVoid name = false) :
    p.text ≠ "" := by
  intro htext
  have hpieces : p.pieces = [] ++ [""] := by rw [pieces, htext]; rfl
  obtain ⟨-, hlast⟩ := List.append_inj' (hpieces.symm.trans h) rfl
  obtain ⟨rfl, -⟩ := List.cons.inj hlast
  cases hname

/-- A path with the same front as that of a file, and pieces of it after that, starts where the file
does. -/
theorem isAbsolute_withBody (h : p.pieces = xs ++ [name]) (hname : isVoid name = false)
    (hzs : p.isAbsolute = false → p.startsHere = false → zs <+: xs) :
    (p.withBody zs).isAbsolute = p.isAbsolute := by
  rw [withBody]
  split
  · rename_i habsolute
    exact (isAbsolute_iff.2 ⟨_, rfl⟩).trans habsolute.symm
  · rename_i habsolute
    rw [Bool.not_eq_true] at habsolute
    rw [habsolute]
    split
    · cases zs with
      | nil => decide
      | cons z zs =>
          rw [Text.joinWith_cons_cons, String.append_assoc]
          exact isAbsolute_append (p := ⟨"."⟩) (by decide) _
    · rename_i hhere
      rw [Bool.not_eq_true] at hhere
      obtain ⟨ws, hws⟩ := hzs habsolute hhere
      cases zs with
      | nil => decide
      | cons z zs =>
          -- the first piece of a relative path is not empty
          obtain ⟨piece, rest, hpieces, hne⟩ :=
            pieces_of_relative habsolute (text_ne_empty_of_pieces h hname)
          rw [h, ← hws, List.cons_append, List.cons_append] at hpieces
          obtain ⟨rfl, -⟩ := List.cons.inj hpieces
          by_contra hjoined
          rw [Bool.not_eq_false] at hjoined
          obtain ⟨s, hs⟩ := pieces_of_isAbsolute hjoined
          have hfree : ∀ w ∈ z :: zs, '/' ∉ w.toList := fun w hw =>
            slash_not_mem_of_mem_pieces (p := p) (by
              rw [h, ← hws]
              exact List.mem_append_left _ (List.mem_append_left _ hw))
          rw [pieces, Text.splitOnChar_joinWith rfl (List.cons_ne_nil z zs) hfree] at hs
          exact hne (List.cons.inj hs).1

/-- **The directory of a file** is where the pieces before its name lead. -/
theorem follow_directory (h : p.pieces = xs ++ [name]) (hname : isVoid name = false) :
    (p.directory?.getD ⟨"."⟩).text ≠ "" ∧
      (p.directory?.getD ⟨"."⟩).isAbsolute = p.isAbsolute ∧
      ∀ l, follow l (p.directory?.getD ⟨"."⟩).pieces = follow l xs := by
  obtain ⟨ys, hbody, hsuffix, hys, hrelative⟩ := body_of_pieces h hname
  have hparent : p.parent? = some (p.withBody (dropVoid ys)) := by
    rw [parent?, hbody, dropVoid_append ys hname]
    cases ys with
    | nil => rfl
    | cons y ys =>
        rw [List.cons_append]
        show some (p.withBody (dropVoid (y :: ys ++ [name]).dropLast)) = _
        rw [List.dropLast_concat]
  have hfree : ∀ z ∈ dropVoid ys, '/' ∉ z.toList := fun z hz =>
    slash_not_mem_of_mem_pieces (p := p) (by
      rw [h]
      exact List.mem_append_left _ (hsuffix.subset ((isPrefix_dropVoid ys).subset hz)))
  have hfollow (l : Location) : follow l (p.withBody (dropVoid ys)).pieces = follow l xs := by
    rw [follow_withBody hfree, follow_dropVoid, hys]
  have habsolute : (p.withBody (dropVoid ys)).isAbsolute = p.isAbsolute :=
    isAbsolute_withBody h hname fun ha hh => hrelative ha hh ▸ isPrefix_dropVoid ys
  by_cases htext : (p.withBody (dropVoid ys)).text = ""
  · -- nothing is left of it, so that it is where the path starts
    have hempty : p.withBody (dropVoid ys) = ⟨""⟩ := congrArg Path.mk htext
    rw [hempty] at hfollow habsolute
    rw [directory?, hparent, hempty]
    exact ⟨by decide, habsolute, hfollow⟩
  · rw [directory?, hparent, Option.filter_some, if_pos (by simpa using htext), Option.getD_some]
    exact ⟨htext, habsolute, hfollow⟩

end Path

end ModelSql
