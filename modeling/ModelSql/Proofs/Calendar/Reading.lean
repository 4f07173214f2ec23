/-
**Dates and times that are read back.**

The texts of dates and times are made of numbers of a fixed width with marks between them, and they are
read number by number.  A date is read back as it was.  A time to the millisecond loses what is behind
the millisecond, and nothing else unless it is a leap second inside a minute: that one is written like
the second after it, and is read as that.

Main definitions:

* `TimeOfDay.truncated`, `DateTime.truncated` — to the millisecond;
* `TimeOfDay.IsProper` — a leap second, if it is one, is the last of its minute;
* `TimeOfDay.shown`, `DateTime.shown` — **what hours, minutes and seconds show**.

Main results:

* `Calendar.readNumber_padNat`, `Calendar.readYear_yearText` — numbers and years are read back;
* `Date.ofText?_toText` — **a date is read back**;
* `TimeOfDay.ofText?_toMillis` — **a time to the millisecond is read as what it shows**.
-/

import Mathlib.Data.List.TakeWhile
import ModelSql.Calendar.Reader
import ModelSql.Proofs.Text.Digits

set_option relaxedAutoImplicit false
set_option autoImplicit false

namespace ModelSql

namespace Calendar

open Text

variable {w n low high : Nat} {ds rest : List Char}

/-! ### Reading numbers -/

/-- A text that does not go on with a digit. -/
def Stops (rest : List Char) : Prop := rest.takeWhile Char.isDigit = []

theorem stops_nil : Stops [] := rfl

theorem stops_cons {c : Char} (h : c.isDigit = false) : Stops (c :: rest) := by
  rw [Stops, List.takeWhile_cons, h]
  rfl

/-- Digits are cut off where they stop. -/
theorem takeWhile_digits (hds : ∀ c ∈ ds, c.isDigit = true) (hrest : Stops rest) :
    (ds ++ rest).takeWhile Char.isDigit = ds := by
  rw [List.takeWhile_append_of_pos hds, hrest, List.append_nil]

/-- No digit is a blank. -/
theorem dropBlanks_digits (hne : ds ≠ []) (hds : ∀ c ∈ ds, c.isDigit = true) :
    dropBlanks (ds ++ rest) = ds ++ rest := by
  obtain ⟨c, cs, rfl⟩ := List.exists_cons_of_ne_nil hne
  have hdigit : 48 ≤ c.toNat ∧ c.toNat ≤ 57 := Char.isDigit_iff_toNat.1 (hds c List.mem_cons_self)
  have hblank : isBlank c = false := by
    simp only [isBlank, Bool.or_eq_false_iff, Bool.and_eq_false_iff, decide_eq_false_iff_not,
      beq_eq_false_iff_ne]
    omega
  rw [dropBlanks, List.cons_append, List.dropWhile_cons, hblank]
  rfl

theorem readDigits_append (hne : ds ≠ []) (hds : ∀ c ∈ ds, c.isDigit = true) (hw : ds.length ≤ w)
    (hrest : Stops rest) : readDigits w (ds ++ rest) = some (natOfDigits ds, rest) := by
  have hempty : ds.isEmpty = false := by simpa using hne
  rw [readDigits]
  simp only [takeWhile_digits hds hrest, List.take_of_length_le hw, hempty, Bool.false_eq_true,
    if_false, List.drop_left]

/-- **A number within bounds is read back.** -/
theorem readNumber_padNat (hw : 0 < w) (hn : n < 10 ^ w) (hlow : low ≤ n) (hhigh : n ≤ high)
    (hrest : Stops rest) : readNumber w low high ((padNat w n).toList ++ rest) = some (n, rest) := by
  have hlength := Nat.le_of_eq (length_padNat hw hn)
  rw [readNumber, dropBlanks_digits (padNat_ne_nil w n) (isDigit_padNat w n),
    readDigits_append (padNat_ne_nil w n) (isDigit_padNat w n) hlength hrest, Option.bind_some,
    natOfDigits_padNat]
  exact if_pos ⟨hlow, hhigh⟩

/-! ### Dates -/

/-- **A year is read back.** -/
theorem readYear_yearText (y : Int) (hrest : Stops rest) :
    readYear ((Date.yearText y).toList ++ rest) = some (y, rest) := by
  have hdigits := isDigit_padNat 4
  have hne := padNat_ne_nil 4
  -- behind a sign all digits are taken
  have hsigned (n : Nat) : readDigits ((padNat 4 n).toList ++ rest).length ((padNat 4 n).toList ++ rest) =
      some (n, rest) := by
    rw [readDigits_append (hne n) (hdigits n) (by simp) hrest, natOfDigits_padNat]
  unfold Date.yearText
  split
  · rename_i hy
    have hlength := Nat.le_of_eq (length_padNat (w := 4) (n := y.toNat) (by omega) (by omega))
    have hread : readDigits 4 ((padNat 4 y.toNat).toList ++ rest) = some (y.toNat, rest) := by
      rw [readDigits_append (hne _) (hdigits _) hlength hrest, natOfDigits_padNat]
    have hcast : ((y.toNat : Nat) : Int) = y := Int.toNat_of_nonneg hy.1
    rw [readYear, dropBlanks_digits (hne _) (hdigits _)]
    obtain ⟨c, cs, hcons⟩ := List.exists_cons_of_ne_nil (hne y.toNat)
    have hc : c.isDigit = true := hdigits y.toNat c (hcons ▸ List.mem_cons_self)
    rw [hcons, List.cons_append] at hread ⊢
    split
    · rename_i heq
      obtain ⟨rfl, -⟩ := List.cons.inj heq
      cases hc
    · rename_i heq
      obtain ⟨rfl, -⟩ := List.cons.inj heq
      cases hc
    · rw [hread, Option.map_some, hcast]
  · rename_i hy
    by_cases hneg : y < 0
    · have hcast : -((y.natAbs : Nat) : Int) = y := by omega
      rw [if_pos hneg, String.toList_append, List.append_assoc]
      change (readDigits ((padNat 4 y.natAbs).toList ++ rest).length
        ((padNat 4 y.natAbs).toList ++ rest)).map (fun r => (-(r.1 : Int), r.2)) = _
      rw [hsigned, Option.map_some, hcast]
    · have hcast : ((y.natAbs : Nat) : Int) = y := by omega
      rw [if_neg hneg, String.toList_append, List.append_assoc]
      change (readDigits ((padNat 4 y.natAbs).toList ++ rest).length
        ((padNat 4 y.natAbs).toList ++ rest)).map (fun r => ((r.1 : Int), r.2)) = _
      rw [hsigned, Option.map_some, hcast]

theorem readMark_self {c : Char} (h : isBlank c = false) : readMark c (c :: rest) = some rest := by
  rw [readMark, dropBlanks, List.dropWhile_cons, h]
  exact if_pos rfl

end Calendar

/-- A month has no more than 31 days. -/
theorem daysInMonth_le (year : Int) (month : Nat) : daysInMonth year month ≤ 31 := by
  unfold daysInMonth
  split
  · split <;> omega
  · split <;> omega

namespace Date

/-- The bounds of month and day. -/
theorem bounds (d : Date) : (1 ≤ d.month ∧ d.month ≤ 12) ∧ 1 ≤ d.day ∧ d.day ≤ 31 := by
  have hvalid := d.valid
  have hmost := daysInMonth_le d.year d.month
  simp only [isDate, Bool.and_eq_true, decide_eq_true_eq] at hvalid
  omega

/-- The day of the parts of a day is that day. -/
theorem ofParts?_self (d : Date) : ofParts? d.year d.month d.day = some d := dif_pos d.valid

open Calendar in
/-- **A date is read back** in front of anything but a digit. -/
theorem readDate_toText (d : Date) {rest : List Char} (hrest : Stops rest) :
    readDate (d.toText.toList ++ rest) = some (d, rest) := by
  obtain ⟨⟨hmonth, hmonth'⟩, hday, hday'⟩ := d.bounds
  have hdash : Text.isBlank '-' = false := by decide
  have hstops (cs : List Char) : Stops ('-' :: cs) := stops_cons (by decide)
  have htext : d.toText.toList ++ rest = (yearText d.year).toList ++
      '-' :: ((Text.padNat 2 d.month).toList ++ '-' :: ((Text.padNat 2 d.day).toList ++ rest)) := by
    simp [toText]
  rw [htext, readDate, readYear_yearText _ (hstops _), Option.bind_some, readMark_self hdash,
    Option.bind_some, readNumber_padNat (by omega) (by omega) hmonth hmonth' (hstops _),
    Option.bind_some, readMark_self hdash, Option.bind_some,
    readNumber_padNat (by omega) (by omega) hday hday' hrest, Option.bind_some, ofParts?_self]
  rfl

/-- **A date is read back from its text.** -/
theorem ofText?_toText (d : Date) : ofText? d.toText = some d := by
  have hread := d.readDate_toText Calendar.stops_nil
  rw [List.append_nil] at hread
  rw [ofText?, hread]
  rfl

end Date

/-! ### Times of day -/

namespace TimeOfDay

/-- The bounds of the parts. -/
theorem bounds (t : TimeOfDay) :
    t.hour < 24 ∧ t.minute < 60 ∧ t.second < 60 ∧ t.nanosecond < 2000000000 := by
  have hvalid := t.valid
  simp only [isTimeOfDay, Bool.and_eq_true, decide_eq_true_eq] at hvalid
  omega

theorem isTimeOfDay_of_lt {hour minute second nanosecond : Nat}
    (h : hour < 24 ∧ minute < 60 ∧ second < 60 ∧ nanosecond < 2000000000) :
    isTimeOfDay hour minute second nanosecond = true := by
  simp only [isTimeOfDay, Bool.and_eq_true, decide_eq_true_eq]
  omega

/-- **To the millisecond**: what is behind it is taken away. -/
def truncated (t : TimeOfDay) : TimeOfDay where
  hour := t.hour
  minute := t.minute
  second := t.second
  nanosecond := t.nanosecond / 1000000 * 1000000
  valid := by
    have hbounds := t.bounds
    exact isTimeOfDay_of_lt (by omega)

/-- **A leap second, if it is one, is the last of its minute.** -/
def IsProper (t : TimeOfDay) : Prop := t.nanosecond < 1000000000 ∨ t.second = 59

instance (t : TimeOfDay) : Decidable t.IsProper :=
  inferInstanceAs (Decidable (t.nanosecond < 1000000000 ∨ t.second = 59))

/-- **What hours, minutes and seconds show**: the time itself, but for a leap second inside a minute, which
looks like the second after it. -/
def shown (t : TimeOfDay) : TimeOfDay :=
  if h : t.IsProper then t
  else
    { hour := t.hour
      minute := t.minute
      second := t.second + 1
      nanosecond := t.nanosecond - 1000000000
      valid := by
        have hbounds := t.bounds
        unfold IsProper at h
        exact isTimeOfDay_of_lt (by omega) }

theorem shown_of_isProper {t : TimeOfDay} (h : t.IsProper) : t.shown = t := dif_pos h

/-- What a time to the millisecond shows is that time exactly for proper ones. -/
theorem truncated_shown_eq_iff {t : TimeOfDay} : t.shown.truncated = t.truncated ↔ t.IsProper := by
  constructor
  · intro h
    by_contra hproper
    have hsecond := congrArg TimeOfDay.second h
    rw [shown, dif_neg hproper] at hsecond
    simp only [truncated] at hsecond
    omega
  · intro h
    rw [shown_of_isProper h]

/-- The milliseconds as they are written. -/
def shownMillis (t : TimeOfDay) : Nat := t.nanosecond / 1000000 % 1000

/-- Second and nanoseconds that are read where a second and milliseconds are written. -/
def readSecond (second millis : Nat) : Nat × Nat :=
  if second = 60 then (59, millis * 1000000 + 1000000000) else (second, millis * 1000000)

open Calendar in
theorem readSecondAndFraction_millis {second millis : Nat} (hsecond : second ≤ 60)
    (hmillis : millis < 1000) : readSecondAndFraction
      (':' :: ((Text.padNat 2 second).toList ++ '.' :: (Text.padNat 3 millis).toList)) =
        some (readSecond second millis, []) := by
  have hcolon : Text.isBlank ':' = false := by decide
  have hpoint : Stops ('.' :: (Text.padNat 3 millis).toList) := stops_cons (by decide)
  have hdigits := Text.isDigit_padNat 3 millis
  have hlength : (Text.padNat 3 millis).toList.length = 3 := Text.length_padNat (by omega) (by omega)
  have htake : (Text.padNat 3 millis).toList.takeWhile Char.isDigit = (Text.padNat 3 millis).toList :=
    List.takeWhile_eq_self_iff.2 hdigits
  have hempty : (Text.padNat 3 millis).toList.isEmpty = false :=
    List.isEmpty_eq_false_iff.2 (Text.padNat_ne_nil 3 millis)
  have hkept : (Text.padNat 3 millis).toList.take 9 = (Text.padNat 3 millis).toList :=
    List.take_of_length_le (by omega)
  have hdrop : (Text.padNat 3 millis).toList.drop 3 = [] := List.drop_of_length_le (by omega)
  have hfraction : readFraction ('.' :: (Text.padNat 3 millis).toList) =
      some (millis * 1000000, []) := by
    simp only [readFraction, htake, hempty, hkept, Text.natOfDigits_padNat, hlength, hdrop]
    rfl
  rw [readSecondAndFraction, readMark_self hcolon, Option.bind_some,
    readNumber_padNat (by omega) (by omega) (Nat.zero_le second) hsecond hpoint, Option.bind_some,
    hfraction]
  rfl

open Calendar in
theorem readHourAndMinute_append (t : TimeOfDay) {rest : List Char} (hrest : Stops rest) :
    readHourAndMinute ((Text.padNat 2 t.hour).toList ++ ':' ::
      ((Text.padNat 2 t.minute).toList ++ rest)) = some ((t.hour, t.minute), rest) := by
  obtain ⟨hhour, hminute, -, -⟩ := t.bounds
  have hcolon : Text.isBlank ':' = false := by decide
  rw [readHourAndMinute, readNumber_padNat (by omega) (by omega) (Nat.zero_le _) (by omega)
    (stops_cons (by decide)), Option.bind_some, readMark_self hcolon, Option.bind_some,
    readNumber_padNat (by omega) (by omega) (Nat.zero_le _) (by omega) hrest]
  rfl

/-- What is read where a time is written to the millisecond. -/
theorem ofParts?_readSecond (t : TimeOfDay) :
    ofParts? t.hour t.minute (readSecond t.shownSecond t.shownMillis).1
      (readSecond t.shownSecond t.shownMillis).2 = some t.shown.truncated := by
  obtain ⟨hhour, hminute, hsecond, hnanosecond⟩ := t.bounds
  have hparts : t.shown.truncated.hour = t.hour ∧ t.shown.truncated.minute = t.minute ∧
      t.shown.truncated.second = (readSecond t.shownSecond t.shownMillis).1 ∧
      t.shown.truncated.nanosecond = (readSecond t.shownSecond t.shownMillis).2 := by
    unfold readSecond shownSecond shownMillis
    by_cases hproper : t.IsProper
    · rw [shown_of_isProper hproper]
      unfold IsProper at hproper
      simp only [truncated, true_and]
      split
      · constructor <;> omega
      · constructor <;> omega
    · rw [shown, dif_neg hproper]
      unfold IsProper at hproper
      simp only [truncated, true_and]
      split
      · omega
      · constructor <;> omega
  obtain ⟨hhour', hminute', hsecond', hnanosecond'⟩ := hparts
  rw [← hsecond', ← hnanosecond', ← hhour', ← hminute']
  exact dif_pos t.shown.truncated.valid

open Calendar in
/-- **A time to the millisecond is read as what it shows**, to the millisecond. -/
theorem ofText?_toMillis (t : TimeOfDay) : ofText? t.toMillis = some t.shown.truncated := by
  obtain ⟨hhour, hminute, hsecond, hnanosecond⟩ := t.bounds
  have hshown : t.shownSecond ≤ 60 := by
    unfold shownSecond
    omega
  have hmillis : t.shownMillis < 1000 := Nat.mod_lt _ (by omega)
  have htext : t.toMillis.toList = (Text.padNat 2 t.hour).toList ++ ':' ::
      ((Text.padNat 2 t.minute).toList ++ ':' :: ((Text.padNat 2 t.shownSecond).toList ++
        '.' :: (Text.padNat 3 t.shownMillis).toList)) := by
    simp [toMillis, toSeconds, shownMillis]
  rw [ofText?, htext, readHourAndMinute_append t (stops_cons (by decide)), Option.bind_some]
  simp only [readSecondAndFraction_millis hshown hmillis]
  rw [ofParts?_readSecond]
  rfl

/-- Only what is shown to the millisecond is written. -/
theorem toMillis_shown_truncated (t : TimeOfDay) : t.shown.truncated.toMillis = t.toMillis := by
  obtain ⟨hhour, hminute, hsecond, hnanosecond⟩ := t.bounds
  by_cases hproper : t.IsProper
  · have hsecond : t.nanosecond / 1000000 * 1000000 / 1000000000 = t.nanosecond / 1000000000 := by
      omega
    have hmillis : t.nanosecond / 1000000 * 1000000 / 1000000 = t.nanosecond / 1000000 := by omega
    rw [shown_of_isProper hproper]
    simp only [toMillis, toSeconds, shownSecond, truncated, hsecond, hmillis]
  · rw [shown, dif_neg hproper]
    unfold IsProper at hproper
    have hsecond : t.second + 1 + (t.nanosecond - 1000000000) / 1000000 * 1000000 / 1000000000 =
        t.second + t.nanosecond / 1000000000 := by omega
    have hmillis : (t.nanosecond - 1000000000) / 1000000 * 1000000 / 1000000 % 1000 =
        t.nanosecond / 1000000 % 1000 := by omega
    simp only [toMillis, toSeconds, shownSecond, truncated, hsecond, hmillis]

theorem shown_truncated_midnight : midnight.shown.truncated = midnight := by decide

end TimeOfDay

namespace DateTime

/-- A date-time **to the millisecond**. -/
def truncated (t : DateTime) : DateTime := ⟨t.date, t.time.truncated⟩

/-- **What the parts of a date-time show.** -/
def shown (t : DateTime) : DateTime := ⟨t.date, t.time.shown⟩

/-- What a date-time to the millisecond shows is that date-time exactly for proper times. -/
theorem truncated_shown_eq_iff {t : DateTime} : t.shown.truncated = t.truncated ↔ t.time.IsProper := by
  rw [← TimeOfDay.truncated_shown_eq_iff]
  simp [shown, truncated]

end DateTime

end ModelSql
