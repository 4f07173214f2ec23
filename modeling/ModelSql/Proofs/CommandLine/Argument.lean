/-
**The two spellings of an option.**

The value of an option is the argument behind it, or stands in the same argument, behind an equals sign.
In the second spelling the name of the option and the equals sign are taken away as often as they stand in
front, so that a value that starts with them comes out shorter than it was.  Otherwise the two spellings
say the same, whatever surrounds them and however much the value looks like an option itself.

Main definitions:

* `NoneWaits` — arguments **after which no option waits for its value**;
* `optionsOf` — the options of a command that take values.

Main results:

* `words_append`, `words_joined` — arguments one after the other, and an option joined with its value;
* `ofArguments_joined` — **what the second spelling says** in terms of the first;
* `spellings_agree_iff` — **when the two spellings say the same**.
-/

import Mathlib.Data.List.DropRight
import ModelSql.CommandLine.Arguments

set_option relaxedAutoImplicit false
set_option autoImplicit false

namespace ModelSql

/-! ### What a text starts with -/

namespace Text

section

variable {head cs : List Char}

/-- Once every copy is gone, further attempts change nothing. -/
theorem dropCopies_of_le (hne : head ≠ []) {fuel fuel' : Nat} (hle : cs.length ≤ fuel)
    (hle' : cs.length ≤ fuel') : dropCopies head fuel cs = dropCopies head fuel' cs := by
  induction fuel generalizing fuel' cs with
  | zero =>
      obtain rfl : cs = [] := by simpa using hle
      cases fuel' with
      | zero => rfl
      | succ n => simp [dropCopies, hne]
  | succ n ih =>
      cases fuel' with
      | zero =>
          obtain rfl : cs = [] := by simpa using hle'
          simp [dropCopies, hne]
      | succ n' =>
          have hlength : 0 < head.length := List.length_pos_of_ne_nil hne
          rw [dropCopies, dropCopies]
          split
          · apply ih <;> simp only [List.length_drop] <;> omega
          · rfl

theorem length_dropCopies_le (head : List Char) (fuel : Nat) (cs : List Char) :
    (dropCopies head fuel cs).length ≤ cs.length := by
  induction fuel generalizing cs with
  | zero => exact Nat.le_refl _
  | succ n ih =>
      rw [dropCopies]
      split
      · have hrest := ih (cs.drop head.length)
        simp only [List.length_drop] at hrest
        omega
      · exact Nat.le_refl _

end

variable {head s : String}

theorem startsWith_append (head s : String) : startsWith (head ++ s) head = true := by
  simp [startsWith]

/-- **A copy in front goes with the others.** -/
theorem dropRepeated_append (hne : head.toList ≠ []) (s : String) :
    dropRepeated head (head ++ s) = dropRepeated head s := by
  have hlength : 0 < head.toList.length := List.length_pos_of_ne_nil hne
  obtain ⟨n, hn⟩ : ∃ n, (head ++ s).length = n + 1 := by
    refine Nat.exists_eq_succ_of_ne_zero ?_
    rw [← String.length_toList, String.toList_append, List.length_append]
    omega
  have hle : s.toList.length ≤ n := by
    have hall : (head.toList ++ s.toList).length = n + 1 := by
      rw [← String.toList_append, String.length_toList, hn]
    rw [List.length_append] at hall
    omega
  have hfront : (head.toList.isPrefixOf (head.toList ++ s.toList) && !head.toList.isEmpty) = true := by
    simpa using hne
  rw [dropRepeated, dropRepeated, hn, String.toList_append, dropCopies, if_pos hfront, List.drop_left]
  exact congrArg String.ofList (dropCopies_of_le hne hle (String.length_toList ▸ Nat.le_refl _))

/-- A text that does not start that way is left as it is. -/
theorem dropRepeated_of_not_startsWith (h : startsWith s head = false) : dropRepeated head s = s := by
  have hcopies (fuel : Nat) : dropCopies head.toList fuel s.toList = s.toList := by
    cases fuel with
    | zero => rfl
    | succ n =>
        rw [startsWith] at h
        rw [dropCopies, h]
        rfl
  rw [dropRepeated, hcopies, String.ofList_toList]

/-- **A text that starts that way comes out shorter.** -/
theorem dropRepeated_ne (hne : head.toList ≠ []) (h : startsWith s head = true) :
    dropRepeated head s ≠ s := by
  obtain ⟨t, ht⟩ := List.isPrefixOf_iff_prefix.1 h
  have hs : s = head ++ String.ofList t := by
    rw [← String.toList_inj, String.toList_append, String.toList_ofList, ht]
  have hlength : 0 < head.toList.length := List.length_pos_of_ne_nil hne
  rw [hs, dropRepeated_append hne, ← String.toList_inj.ne, dropRepeated, String.toList_ofList]
  intro heq
  have hle := length_dropCopies_le head.toList (String.ofList t).length (String.ofList t).toList
  rw [heq, String.toList_append, List.length_append] at hle
  omega

/-- The names in front of an equals sign are compared as a whole. -/
theorem eq_of_startsWith_equals {o o' v : String} (ho : '=' ∉ o.toList) (ho' : '=' ∉ o'.toList)
    (h : startsWith (o ++ "=" ++ v) (o' ++ "=") = true) : o' = o := by
  obtain ⟨t, ht⟩ := List.isPrefixOf_iff_prefix.1 h
  have hfront {xs ys : List Char} (hxs : '=' ∉ xs) :
      (xs ++ '=' :: ys).takeWhile (· != '=') = xs := by
    have hall (x : Char) (hx : x ∈ xs) : (x != '=') = true := bne_iff_ne.2 fun heq => hxs (heq ▸ hx)
    rw [List.takeWhile_append_of_pos hall]
    simp
  have hboth := congrArg (List.takeWhile (· != '=')) ht
  have hsign : "=".toList = ['='] := rfl
  simp only [String.toList_append, hsign, List.append_assoc, List.singleton_append] at hboth
  rw [hfront ho', hfront ho] at hboth
  exact String.toList_inj.1 hboth

end Text

namespace CommandLine

/-! ### The words of arguments -/

/-- Whether a word is an option without a value. -/
def Word.waits : Word → Bool
  | .unvalued _ => true
  | _ => false

/-- **Arguments after which no option waits for its value.** -/
def NoneWaits (options as : List String) : Prop := ∀ w ∈ words options as, w.waits = false

instance (options as : List String) : Decidable (NoneWaits options as) :=
  inferInstanceAs (Decidable (∀ w ∈ words options as, w.waits = false))

/-- The word that an argument is when it is no option on its own: an option with its value, or a plain
argument. -/
def wordOf (options : List String) (a : String) : Word :=
  match options.find? fun o => Text.startsWith a (o ++ "=") with
  | some o => .valued o (Text.dropRepeated (o ++ "=") a)
  | none => .plain a

section

variable {options as : List String} {o a : String}

theorem words_cons_option (ho : o ∈ options) (v : String) (as : List String) :
    words options (o :: v :: as) = .valued o v :: words options as := by
  rw [words, if_pos (List.contains_iff_mem.2 ho)]

theorem words_cons_of_not_mem (ha : a ∉ options) (as : List String) :
    words options (a :: as) = wordOf options a :: words options as := by
  have hno : ¬ options.contains a = true := by simpa using ha
  unfold wordOf
  cases as with
  | nil =>
      simp only [words, if_neg hno]
      cases options.find? fun o => Text.startsWith a (o ++ "=") <;> rfl
  | cons b bs =>
      rw [words, if_neg hno]
      cases options.find? fun o => Text.startsWith a (o ++ "=") <;> rfl

/-- The arguments behind a word are settled if all are. -/
theorem NoneWaits.tail {w : Word} {bs : List String} (h : NoneWaits options as)
    (hwords : words options as = w :: words options bs) : NoneWaits options bs := by
  intro x hx
  apply h
  rw [hwords]
  exact List.mem_cons_of_mem w hx

/-- **The words of arguments one after the other**, where the second ones do not begin with a value. -/
theorem words_append (h : NoneWaits options as) (bs : List String) :
    words options (as ++ bs) = words options as ++ words options bs := by
  have hplain {a : String} {as : List String} (ha : ¬ options.contains a = true)
      (ih : NoneWaits options as → words options (as ++ bs) = words options as ++ words options bs)
      (h : NoneWaits options (a :: as)) :
      words options (a :: as ++ bs) = words options (a :: as) ++ words options bs := by
    have hno : a ∉ options := by simpa using ha
    rw [List.cons_append, words_cons_of_not_mem hno, words_cons_of_not_mem hno,
      ih (h.tail (words_cons_of_not_mem hno as)), List.cons_append]
  -- one case for each kind of word in front
  induction as using words.induct options with
  | case1 => rfl
  | case2 a ha =>
      have hwaits : Word.waits (.unvalued a) = false := by
        apply h
        rw [words, if_pos ha]
        exact List.mem_singleton.2 rfl
      cases hwaits
  | case3 o ho v rest ih =>
      have hmem : o ∈ options := List.contains_iff_mem.1 ho
      rw [List.cons_append, List.cons_append, words_cons_option hmem, words_cons_option hmem,
        ih (h.tail (words_cons_option hmem v rest)), List.cons_append]
  | case4 a as ha o hfind ih => exact hplain ha ih h
  | case5 a as ha hfind ih => exact hplain ha ih h

variable (hoptions : ∀ x ∈ options, '=' ∉ x.toList) (ho : '=' ∉ o.toList)

include hoptions ho

/-- **An option joined with its value** is the option with what is left of the value. -/
theorem words_joined (hmem : o ∈ options) (v : String) (as : List String) :
    words options ((o ++ "=" ++ v) :: as) =
      .valued o (Text.dropRepeated (o ++ "=") v) :: words options as := by
  have hno : o ++ "=" ++ v ∉ options := fun h => hoptions _ h (by simp)
  have hfind : (options.find? fun x => Text.startsWith (o ++ "=" ++ v) (x ++ "=")) = some o := by
    cases h : options.find? fun x => Text.startsWith (o ++ "=" ++ v) (x ++ "=") with
    | none =>
        have hstart := List.find?_eq_none.1 h o hmem
        exact absurd (Text.startsWith_append (o ++ "=") v) hstart
    | some x =>
        have hx : Text.startsWith (o ++ "=" ++ v) (x ++ "=") = true := by
          simpa using List.find?_some h
        rw [Text.eq_of_startsWith_equals ho (hoptions x (List.mem_of_find?_eq_some h)) hx]
  rw [words_cons_of_not_mem hno, wordOf, hfind]
  simp only [Text.dropRepeated_append (show (o ++ "=").toList ≠ [] by simp)]

/-- What is joined by an equals sign with something else than an option is a plain argument. -/
theorem words_joined_of_not_mem (hmem : o ∉ options) (v : String) (as : List String) :
    words options ((o ++ "=" ++ v) :: as) = .plain (o ++ "=" ++ v) :: words options as := by
  have hno : o ++ "=" ++ v ∉ options := fun h => hoptions _ h (by simp)
  have hfind : (options.find? fun x => Text.startsWith (o ++ "=" ++ v) (x ++ "=")) = none := by
    refine List.find?_eq_none.2 fun x hx hstart => hmem ?_
    rw [← Text.eq_of_startsWith_equals ho (hoptions x hx) hstart]
    exact hx
  rw [words_cons_of_not_mem hno, wordOf, hfind]

end

/-! ### What is read from words -/

section

variable {xs ys : List Word}

/-- Words that a request is read from alike are so behind any others. -/
theorem readScripts_congr (h : ∀ r, (readScripts r xs).toOption = (readScripts r ys).toOption)
    (r : ScriptRequest) (ws : List Word) :
    (readScripts r (ws ++ xs)).toOption = (readScripts r (ws ++ ys)).toOption := by
  induction r, ws using readScripts.induct with
  | case1 r => exact h r
  | case2 r v ws ih => exact ih
  | case3 r v ws ih => exact ih
  | case4 r o v ws hconfig hschema e he =>
      simp only [List.cons_append, readScripts, he]
  | case5 r o v ws hconfig hschema k hk ih =>
      simp only [List.cons_append, readScripts, hk]
      exact ih
  | case6 r o ws => rfl
  | case7 r a ws ha => simp only [List.cons_append, readScripts, if_pos ha]
  | case8 r ws ha ih => exact ih
  | case9 r ws ha hdry ih => exact ih
  | case10 r a ws ha hdry hcheck =>
      simp only [List.cons_append, readScripts, if_neg ha, if_neg hdry, if_neg hcheck]

/-- So it is with the request for a new project. -/
theorem readStart_congr (h : ∀ p, (readStart p xs).toOption = (readStart p ys).toOption) (p : Path)
    (ws : List Word) : (readStart p (ws ++ xs)).toOption = (readStart p (ws ++ ys)).toOption := by
  induction ws generalizing p with
  | nil => exact h p
  | cons w ws ih =>
      cases w with
      | valued o v => exact ih ⟨v⟩
      | unvalued o => rfl
      | plain a => rfl

end

/-! ### Names of dialects -/

/-- No database has a name that starts with a dash. -/
theorem dialectOf_dash {v : String} (h : v.toList.head? = some '-') : (dialectOf v).toOption = none := by
  have hdrop : Text.dropBlanks v.toList = v.toList := by
    obtain ⟨cs, hcs⟩ := List.head?_eq_some_iff.1 h
    rw [hcs, Text.dropBlanks, List.dropWhile_cons_of_neg (by decide)]
  -- what is left of the text after trimming is empty, or starts with the dash still
  have hhead : ∀ c, (Text.asciiLower (Text.trim v)).toList.head? = some c → c = '-' := by
    obtain ⟨t, ht⟩ := List.rdropWhile_prefix Text.isBlank v.toList
    intro c hc
    rw [Text.asciiLower, Text.trim, String.toList_ofList, String.toList_ofList, hdrop,
      List.head?_map] at hc
    have hfront : Text.dropTrailingBlanks v.toList = List.rdropWhile Text.isBlank v.toList := rfl
    rw [hfront] at hc
    cases hr : List.rdropWhile Text.isBlank v.toList with
    | nil =>
        rw [hr] at hc
        cases hc
    | cons x xs =>
        rw [hr] at hc ht
        rw [← ht] at h
        cases h
        cases hc
        rfl
  have hnames : (DialectKind.userNames.all fun p => p.1.toList.head?.any (· != '-')) = true := by decide
  have hnone : DialectKind.userNames.lookup (Text.asciiLower (Text.trim v)) = none := by
    cases hk : DialectKind.userNames.lookup (Text.asciiLower (Text.trim v)) with
    | none => rfl
    | some k =>
        obtain ⟨before, after, hall, -⟩ := List.lookup_eq_some_iff.1 hk
        have hfirst := List.all_eq_true.1 hnames (_, k)
          (hall ▸ List.mem_append_right before List.mem_cons_self)
        cases hc : (Text.asciiLower (Text.trim v)).toList.head? with
        | none => simp [hc] at hfirst
        | some c => exact absurd (hhead c hc) (by simpa [hc] using hfirst)
  rw [dialectOf, DialectKind.ofText, hnone]
  rfl

/-! ### The two spellings -/

/-- The options of a command that take values. -/
def optionsOf (command : String) : List String :=
  if command = "ddl" then ["--config", "--dialect", "--schema"] else ["--config"]

section

variable {c o v : String} {before after : List String}

theorem equals_not_mem_optionsOf (c : String) : ∀ x ∈ optionsOf c, '=' ∉ x.toList := by
  unfold optionsOf
  split <;> decide

theorem ofArguments_ddl (as : List String) :
    Command.ofArguments ("ddl" :: as) = readScripts {} (words (optionsOf "ddl") as) := rfl

theorem ofArguments_init (as : List String) :
    Command.ofArguments ("init" :: as) = readStart defaultProject (words (optionsOf "init") as) := rfl

/-- **Arguments whose words begin alike** say the same if what follows is read alike. -/
theorem ofArguments_congr (hc : c = "ddl" ∨ c = "init") {as bs : List String} {ws xs ys : List Word}
    (has : words (optionsOf c) as = ws ++ xs) (hbs : words (optionsOf c) bs = ws ++ ys)
    (hscripts : c = "ddl" → ∀ r, (readScripts r xs).toOption = (readScripts r ys).toOption)
    (hstart : c = "init" → ∀ p, (readStart p xs).toOption = (readStart p ys).toOption) :
    (Command.ofArguments (c :: as)).toOption = (Command.ofArguments (c :: bs)).toOption := by
  rcases hc with rfl | rfl
  · rw [ofArguments_ddl, ofArguments_ddl, has, hbs]
    exact readScripts_congr (hscripts rfl) {} ws
  · rw [ofArguments_init, ofArguments_init, has, hbs]
    exact readStart_congr (hstart rfl) defaultProject ws

/-- **What an option joined with its value says**: it is the option in front of what is left of the
value. -/
theorem ofArguments_joined (hc : c = "ddl" ∨ c = "init") (ho : o ∈ optionsOf c)
    (h : NoneWaits (optionsOf c) before) (v : String) (after : List String) :
    Command.ofArguments (c :: (before ++ (o ++ "=" ++ v) :: after)) =
      Command.ofArguments (c :: (before ++ o :: Text.dropRepeated (o ++ "=") v :: after)) := by
  have hwords : words (optionsOf c) (before ++ (o ++ "=" ++ v) :: after) =
      words (optionsOf c) (before ++ o :: Text.dropRepeated (o ++ "=") v :: after) := by
    rw [words_append h, words_append h, words_cons_option ho,
      words_joined (equals_not_mem_optionsOf c) (equals_not_mem_optionsOf c o ho) ho]
  rcases hc with rfl | rfl
  · rw [ofArguments_ddl, ofArguments_ddl, hwords]
  · rw [ofArguments_init, ofArguments_init, hwords]

/-- The value for the dialect is the only one that is checked. -/
theorem readScripts_dialect (r : ScriptRequest) (v : String) (ws : List Word) :
    readScripts r (.valued "--dialect" v :: ws) = match dialectOf v with
      | .error e => .error e
      | .ok k => readScripts { r with dialect := some k } ws := by
  cases hv : dialectOf v with
  | error e => simp [readScripts, hv]
  | ok k => simp [readScripts, hv]

theorem readScripts_refused {r : ScriptRequest} {ws : List Word} (hv : (dialectOf v).toOption = none) :
    (readScripts r (.valued "--dialect" v :: ws)).toOption = none := by
  rw [readScripts_dialect]
  cases hd : dialectOf v with
  | error e => rfl
  | ok k =>
      rw [hd] at hv
      cases hv

/-- A dialect that is named alone is asked for. -/
theorem ofArguments_dialect (v : String) : (Command.ofArguments ["ddl", "--dialect", v]).toOption =
    (dialectOf v).toOption.map fun k => .scripts { dialect := some k } := by
  rw [ofArguments_ddl, words_cons_option (by decide), words, readScripts_dialect]
  cases dialectOf v <;> rfl

/-- A command with the path of a file tells the paths apart. -/
theorem ofArguments_injective (hc : c = "ddl" ∨ c = "init") (ho : o ∈ ["--config", "--schema"])
    (hmem : o ∈ optionsOf c) : Function.Injective fun v => (Command.ofArguments [c, o, v]).toOption := by
  simp only [List.mem_cons, List.not_mem_nil, or_false] at ho
  rcases hc with rfl | rfl
  · rcases ho with rfl | rfl
    · intro v u h
      have hread (x : String) : (Command.ofArguments ["ddl", "--config", x]).toOption =
          some (.scripts { project := ⟨x⟩ }) := rfl
      simpa [hread] using h
    · intro v u h
      have hread (x : String) : (Command.ofArguments ["ddl", "--schema", x]).toOption =
          some (.scripts { schema := some ⟨x⟩ }) := rfl
      simpa [hread] using h
  · rcases ho with rfl | rfl
    · intro v u h
      have hread (x : String) : (Command.ofArguments ["init", "--config", x]).toOption =
          some (.start ⟨x⟩) := rfl
      simpa [hread] using h
    · exact absurd hmem (by decide)

/-- No argument with an equals sign asks for help. -/
theorem asksHelp_of_mem {a : String} (h : '=' ∈ a.toList) : asksHelp a = false := by
  have hne (b : String) (hb : '=' ∉ b.toList) : (a == b) = false := beq_false_of_ne fun heq => hb (heq ▸ h)
  rw [asksHelp, hne "-h" (by decide), hne "--help" (by decide)]
  rfl

/-- A command that does not know an option refuses it in both spellings. -/
theorem agree_of_not_mem (ho : o ∈ ["--dialect", "--schema"]) (h : NoneWaits (optionsOf "init") before)
    (v : String) (after : List String) :
    (Command.ofArguments ("init" :: (before ++ o :: v :: after))).toOption =
      (Command.ofArguments ("init" :: (before ++ (o ++ "=" ++ v) :: after))).toOption := by
  have hall : ∀ x ∈ ["--dialect", "--schema"], x ∉ optionsOf "init" ∧
      wordOf (optionsOf "init") x = .plain x ∧ asksHelp x = false ∧ '=' ∉ x.toList := by decide
  obtain ⟨hmem, hplain, hname, hequals⟩ := hall o ho
  have hjoined : asksHelp (o ++ "=" ++ v) = false := asksHelp_of_mem (by simp)
  have hrefused {a : String} (ha : asksHelp a = false) (p : Path) (ws : List Word) :
      (readStart p (.plain a :: ws)).toOption = none := by
    rw [readStart, ha]
    rfl
  refine ofArguments_congr (.inr rfl) (words_append h _) (words_append h _) ?_ ?_
  · intro hddl
    exact absurd hddl (by decide)
  · intro _ p
    rw [words_cons_of_not_mem hmem, hplain,
      words_joined_of_not_mem (equals_not_mem_optionsOf "init") hequals hmem, hrefused hname,
      hrefused hjoined]

/-- Values for the dialect that no database has as a name are refused in both spellings. -/
theorem agree_of_refused (hv : (dialectOf v).toOption = none)
    (hu : (dialectOf (Text.dropRepeated ("--dialect" ++ "=") v)).toOption = none)
    (h : NoneWaits (optionsOf "ddl") before) (after : List String) :
    (Command.ofArguments ("ddl" :: (before ++ "--dialect" :: v :: after))).toOption =
      (Command.ofArguments ("ddl" :: (before ++ ("--dialect" ++ "=" ++ v) :: after))).toOption := by
  have hmem : "--dialect" ∈ optionsOf "ddl" := by decide
  refine ofArguments_congr (.inl rfl) (words_append h _) (words_append h _) ?_ ?_
  · intro _ r
    rw [words_cons_option hmem,
      words_joined (equals_not_mem_optionsOf "ddl") (by decide) hmem, readScripts_refused hv,
      readScripts_refused hu]
  · intro hinit
    exact absurd hinit (by decide)

/-- **When the two spellings of an option say the same**, in every place where an option is read: exactly
if the value does not start with the option and an equals sign.  The one exception is a value for the
dialect that is refused in both spellings; and a command that does not know the option refuses both. -/
theorem spellings_agree_iff (hc : c = "ddl" ∨ c = "init") (ho : o ∈ ["--config", "--dialect", "--schema"])
    (v : String) :
    (∀ before after, NoneWaits (optionsOf c) before →
      (Command.ofArguments (c :: (before ++ o :: v :: after))).toOption =
        (Command.ofArguments (c :: (before ++ (o ++ "=" ++ v) :: after))).toOption) ↔
    (o ∈ optionsOf c → Text.startsWith v (o ++ "=") = true →
      o = "--dialect" ∧ (dialectOf (Text.dropRepeated (o ++ "=") v)).toOption = none) := by
  have hdash (hstart : Text.startsWith v ("--dialect" ++ "=") = true) : (dialectOf v).toOption = none := by
    obtain ⟨t, ht⟩ := List.isPrefixOf_iff_prefix.1 hstart
    exact dialectOf_dash (ht ▸ rfl)
  have hddl (hmem : "--dialect" ∈ optionsOf c) : c = "ddl" :=
    hc.resolve_right fun hinit => absurd (hinit ▸ hmem) (by decide)
  constructor
  · -- the option with nothing around it tells the two values apart
    intro hall hmem hstart
    have hnone : NoneWaits (optionsOf c) [] := fun w hw => absurd hw List.not_mem_nil
    have halone := hall [] [] hnone
    rw [ofArguments_joined hc hmem hnone, List.nil_append, List.nil_append] at halone
    by_cases hdialect : o = "--dialect"
    · subst hdialect
      obtain rfl := hddl hmem
      generalize Text.dropRepeated ("--dialect" ++ "=") v = u at halone ⊢
      rw [ofArguments_dialect, ofArguments_dialect, hdash hstart, Option.map_none] at halone
      exact ⟨rfl, Option.map_eq_none_iff.1 halone.symm⟩
    · have hpath : o ∈ ["--config", "--schema"] := by
        simp only [List.mem_cons, List.not_mem_nil, or_false] at ho ⊢
        exact ho.imp_right fun h => h.resolve_left hdialect
      exact absurd (ofArguments_injective hc hpath hmem halone.symm)
        (Text.dropRepeated_ne (by simp) hstart)
  · intro h before after hbefore
    by_cases hmem : o ∈ optionsOf c
    · cases hstart : Text.startsWith v (o ++ "=") with
      | false =>
          rw [ofArguments_joined hc hmem hbefore, Text.dropRepeated_of_not_startsWith hstart]
      | true =>
          obtain ⟨rfl, hrefused⟩ := h hmem hstart
          obtain rfl := hddl hmem
          exact agree_of_refused (hdash hstart) hrefused hbefore after
    · -- only the command for a new project does not know one of the options
      obtain rfl : c = "init" := hc.resolve_left fun hscripts => hmem (hscripts ▸ ho)
      refine agree_of_not_mem ?_ hbefore v after
      simp only [List.mem_cons, List.not_mem_nil, or_false] at ho ⊢
      exact ho.resolve_left fun hconfig => hmem (hconfig ▸ by decide)

/-- The path of a schema that looks like another option, with more around it. -/
theorem spellings_agree_iff_schema :
    Command.ofArguments ["ddl", "--check", "--schema", "--config=a.toml", "--config", "b.toml"] =
        .ok (.scripts { project := ⟨"b.toml"⟩, schema := some ⟨"--config=a.toml"⟩, check := true }) ∧
      (Command.ofArguments ["ddl", "--check", "--schema" ++ "=" ++ "--config=a.toml", "--config",
          "b.toml"]).toOption =
        (Command.ofArguments ["ddl", "--check", "--schema", "--config=a.toml", "--config",
          "b.toml"]).toOption := by
  have hvalue : Text.startsWith "--config=a.toml" ("--schema" ++ "=") = false := by decide +kernel
  have hagree := (spellings_agree_iff (c := "ddl") (o := "--schema") (.inl rfl) (by decide)
    "--config=a.toml").2 fun _ hstart => absurd (hvalue.symm.trans hstart) Bool.false_ne_true
  exact ⟨by decide +kernel, (hagree ["--check"] ["--config", "b.toml"] (by decide +kernel)).symm⟩

/-- **A value that starts with the option and an equals sign** loses them in the second spelling. -/
theorem spellings_differ :
    Command.ofArguments ["ddl", "--config", "--config=db.toml"] =
        .ok (.scripts { project := ⟨"--config=db.toml"⟩ }) ∧
      Command.ofArguments ["ddl", "--config" ++ "=" ++ "--config=db.toml"] =
        .ok (.scripts { project := ⟨"db.toml"⟩ }) ∧
      (Command.ofArguments ["ddl", "--config", "--config=db.toml"]).toOption ≠
        (Command.ofArguments ["ddl", "--config" ++ "=" ++ "--config=db.toml"]).toOption := by
  decide +kernel

end

end CommandLine
end ModelSql
