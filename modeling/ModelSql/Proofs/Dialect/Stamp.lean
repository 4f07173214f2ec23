/-
**Literals of date-times that are read back.**

A literal of a date-time stands in one of two shapes, and its reader tells them apart by the blank
between date and time.  What it reads is the date-time to the millisecond, as hours, minutes and seconds
show it.  Only a leap second inside a minute, which those cannot show, is read as another date-time: as
the second after it.  So literals that are equal come from date-times that agree to the millisecond,
unless one of them is such a leap second.

Main definitions:

* `DateTime.ofStamp?` — **the reader of the two shapes**.

Main results:

* `DateTime.ofStamp?_dateTime` — a literal is read as what it shows;
* `Literal.dateTime_eq_iff` — **literals that are equal**;
* `Literal.dateTime_readBack` — both, for literals between quotes.
-/

import ModelSql.Proofs.Calendar.Reading
import ModelSql.Proofs.Dialect.Form
import ModelSql.Proofs.Text.Words

set_option relaxedAutoImplicit false
set_option autoImplicit false

namespace ModelSql

/-! ### Two shapes -/

/-- Whether a text ends with a point and three digits. -/
def Text.endsInMillis (s : String) : Bool :=
  match s.toList.reverse with
  | c :: b :: a :: '.' :: _ => a.isDigit && b.isDigit && c.isDigit
  | _ => false

/-- **The date-time that a literal stands for**: a date alone, or a date and, after a blank, hours,
minutes and seconds with three places. -/
def DateTime.ofStamp? (s : String) : Option DateTime :=
  match Text.splitOnChar s ' ' with
  | [date] => (Date.ofText? date).map fun d => ⟨d, .midnight⟩
  | [date, time] =>
    if Text.endsInMillis time then
      (Date.ofText? date).bind fun d => (TimeOfDay.ofText? time).map fun t => ⟨d, t⟩
    else none
  | _ => none

namespace Text

/-- No stamp has a quote in it. -/
theorem IsStamp.quote {s : String} (h : IsStamp s) : '\'' ∉ s.toList := by
  intro hmem
  exact absurd (List.all_eq_true.1 h _ hmem) (by decide)

end Text

open Text in
theorem Date.blank_toText (t : Date) : ' ' ∉ t.toText.toList := by
  have hyear : ' ' ∉ (yearText t.year).toList := by
    unfold yearText
    split
    · exact not_mem_padNat rfl
    · rw [String.toList_append, List.mem_append, not_or]
      refine ⟨?_, not_mem_padNat rfl⟩
      split <;> decide
  have hmonth : ' ' ∉ (padNat 2 t.month).toList := not_mem_padNat rfl
  have hday : ' ' ∉ (padNat 2 t.day).toList := not_mem_padNat rfl
  simp [toText, hyear, hmonth, hday]

namespace TimeOfDay

open Text

theorem blank_toMillis (t : TimeOfDay) : ' ' ∉ t.toMillis.toList := by
  have hpart (w n : Nat) : ' ' ∉ (padNat w n).toList := not_mem_padNat rfl
  simp [toMillis, toSeconds, hpart]

/-- A time to the millisecond ends with its milliseconds. -/
theorem endsInMillis_toMillis (t : TimeOfDay) : endsInMillis t.toMillis = true := by
  have hlength : (padNat 3 (t.nanosecond / 1000000 % 1000)).toList.length = 3 :=
    length_padNat (by omega) (by omega)
  obtain ⟨a, b, c, habc⟩ := List.length_eq_three.1 hlength
  have hdigits := isDigit_padNat 3 (t.nanosecond / 1000000 % 1000)
  rw [habc] at hdigits
  have ha : a.isDigit = true := hdigits a (by simp)
  have hb : b.isDigit = true := hdigits b (by simp)
  have hc : c.isDigit = true := hdigits c (by simp)
  have hreverse : t.toMillis.toList.reverse = c :: b :: a :: '.' :: t.toSeconds.toList.reverse := by
    simp [toMillis, habc]
  simp only [endsInMillis, hreverse, ha, hb, hc, Bool.and_self]

end TimeOfDay

namespace DateTime

open Literal

variable {t u : DateTime}

theorem isStamp_dateTime (t : DateTime) : Text.IsStamp (dateTime t) := by
  unfold dateTime
  split
  · exact t.date.isStamp_toText
  · exact t.isStamp_toMillis

/-- The parts of a literal of a date-time. -/
theorem splitOnChar_dateTime (t : DateTime) : Text.splitOnChar (dateTime t) ' ' =
    if t.time = TimeOfDay.midnight then [t.date.toText] else [t.date.toText, t.time.toMillis] := by
  have hdate := t.date.blank_toText
  have htime := t.time.blank_toMillis
  unfold dateTime
  split
  · rw [← Text.joinWith_singleton " " t.date.toText]
    refine Text.splitOnChar_joinWith rfl (by simp) ?_
    simpa using hdate
  · have hjoined : t.toMillis = Text.joinWith " " [t.date.toText, t.time.toMillis] := by
      rw [Text.joinWith_cons_cons, Text.joinWith_singleton]
      rfl
    rw [hjoined]
    refine Text.splitOnChar_joinWith rfl (by simp) ?_
    simpa using ⟨hdate, htime⟩

/-- **A literal is read as what it shows**, to the millisecond. -/
theorem ofStamp?_dateTime (t : DateTime) : ofStamp? (dateTime t) = some t.shown.truncated := by
  rw [ofStamp?, splitOnChar_dateTime]
  by_cases hmidnight : t.time = TimeOfDay.midnight
  · have hshown : t.shown.truncated = ⟨t.date, .midnight⟩ := by
      rw [shown, truncated, hmidnight, TimeOfDay.shown_truncated_midnight]
    rw [if_pos hmidnight, hshown]
    simp only [Date.ofText?_toText, Option.map_some]
  · rw [if_neg hmidnight]
    simp only [TimeOfDay.endsInMillis_toMillis, if_true, Date.ofText?_toText, Option.bind_some,
      TimeOfDay.ofText?_toMillis, Option.map_some]
    rfl

/-- **A literal is read as its date-time to the millisecond** exactly for proper times. -/
theorem ofStamp?_dateTime_eq_iff : ofStamp? (dateTime t) = some t.truncated ↔ t.time.IsProper := by
  rw [ofStamp?_dateTime, Option.some_inj, truncated_shown_eq_iff]

end DateTime

/-! ### Equal literals -/

namespace Literal

variable {t u : DateTime}

/-- The date alone stands for midnight, and for no other time. -/
theorem exists_dateTime_eq_toText_iff : (∃ d : Date, dateTime t = d.toText) ↔ t.time = .midnight := by
  constructor
  · rintro ⟨d, hd⟩
    by_contra hmidnight
    have hblank : ' ' ∈ (dateTime t).toList := by
      rw [dateTime, if_neg hmidnight, DateTime.toMillis]
      simp
    rw [hd] at hblank
    exact d.blank_toText hblank
  · intro hmidnight
    exact ⟨t.date, if_pos hmidnight⟩

/-- **Literals that are equal** show the same millisecond in the same shape. -/
theorem dateTime_eq_iff : dateTime t = dateTime u ↔
    t.shown.truncated = u.shown.truncated ∧ (t.time = .midnight ↔ u.time = .midnight) := by
  constructor
  · intro h
    have hread : some t.shown.truncated = some u.shown.truncated := by
      rw [← DateTime.ofStamp?_dateTime, ← DateTime.ofStamp?_dateTime, h]
    refine ⟨Option.some.inj hread, ?_⟩
    rw [← exists_dateTime_eq_toText_iff, ← exists_dateTime_eq_toText_iff, h]
  · rintro ⟨hshown, hshape⟩
    obtain ⟨hdate, htime⟩ := DateTime.mk.inj hshown
    change t.date = u.date at hdate
    have hmillis : t.time.toMillis = u.time.toMillis := by
      rw [← t.time.toMillis_shown_truncated, ← u.time.toMillis_shown_truncated]
      exact congrArg TimeOfDay.toMillis htime
    simp only [dateTime, DateTime.toMillis, hshape, hdate, hmillis]

/-- Quotes around stamps change none of them into another. -/
theorem quoteText_eq_iff {r s : String} (hr : Text.IsStamp r) (hs : Text.IsStamp s) :
    quoteText r = quoteText s ↔ r = s := by
  constructor
  · intro h
    rw [quoteText, quoteText, Dialect.doubleQuotes_of_not_mem hr.quote,
      Dialect.doubleQuotes_of_not_mem hs.quote] at h
    have hlists := congrArg String.toList h
    rw [String.toList_ofList, String.toList_ofList, List.append_left_inj, List.cons.injEq] at hlists
    exact String.toList_inj.1 hlists.2
  · rintro rfl
    rfl

/-- **The literal of a date-time, read back.**  It is the date alone exactly at midnight.  It is read as
the date-time to the millisecond exactly where a leap second is the last of its minute, and elsewhere as
the second after it.  Literals that are equal show the same millisecond in the same shape, so that
date-times with proper times agree to the millisecond. -/
theorem dateTime_readBack (d : Dialect) (hint : Option FieldType) (t : DateTime) :
    d.literal hint (.datetime t) = .ok (quoteText (dateTime t)) ∧
    ((∃ date : Date, dateTime t = date.toText) ↔ t.time = .midnight) ∧
    (DateTime.ofStamp? (dateTime t) = some t.truncated ↔ t.time.IsProper) ∧
    (¬ t.time.IsProper → DateTime.ofStamp? (dateTime t) = some t.shown.truncated) ∧
    ∀ u : DateTime,
      (d.literal hint (.datetime t) = d.literal hint (.datetime u) ↔
        t.shown.truncated = u.shown.truncated ∧ (t.time = .midnight ↔ u.time = .midnight)) ∧
      (t.time.IsProper → u.time.IsProper →
        d.literal hint (.datetime t) = d.literal hint (.datetime u) → t.truncated = u.truncated) := by
  have hliteral (u : DateTime) : d.literal hint (.datetime u) = .ok (quoteText (dateTime u)) := rfl
  have hequal (u : DateTime) : d.literal hint (.datetime t) = d.literal hint (.datetime u) ↔
      t.shown.truncated = u.shown.truncated ∧ (t.time = .midnight ↔ u.time = .midnight) := by
    rw [hliteral, hliteral, Except.ok.injEq, quoteText_eq_iff t.isStamp_dateTime u.isStamp_dateTime,
      dateTime_eq_iff]
  refine ⟨hliteral t, exists_dateTime_eq_toText_iff, DateTime.ofStamp?_dateTime_eq_iff,
    fun _ => DateTime.ofStamp?_dateTime t, fun u => ⟨hequal u, fun ht hu h => ?_⟩⟩
  rw [← DateTime.truncated_shown_eq_iff.2 ht, ← DateTime.truncated_shown_eq_iff.2 hu]
  exact ((hequal u).1 h).1

/-- A leap second at the end of a minute, in a year of five digits and to the microsecond: it agrees to
the millisecond with the one whose literal is the same. -/
theorem dateTime_readBack_leapSecond :
    let t : DateTime := ⟨⟨12016, 12, 31, by decide⟩, ⟨23, 59, 59, 1250125000, by decide⟩⟩
    let u : DateTime := ⟨⟨12016, 12, 31, by decide⟩, ⟨23, 59, 59, 1250999999, by decide⟩⟩
    let d : Dialect := DialectKind.postgres.dialect
    d.literal none (.datetime t) = .ok "'+12016-12-31 23:59:60.250'" ∧
    d.literal none (.datetime u) = .ok "'+12016-12-31 23:59:60.250'" ∧
    DateTime.ofStamp? (dateTime t) = some t.truncated ∧ t.truncated = u.truncated := by
  intro t u d
  have hreadBack := dateTime_readBack d none t
  have ht : t.time.IsProper := by decide
  have hu : u.time.IsProper := by decide
  have hequal : d.literal none (.datetime t) = d.literal none (.datetime u) := by decide
  exact ⟨by decide, by decide, hreadBack.2.2.1.2 ht, (hreadBack.2.2.2.2 u).2 ht hu hequal⟩

/-- **Not every date-time is read back to the millisecond**: a leap second inside a minute has the
literal of the second after it. -/
theorem dateTime_not_readBack :
    let t : DateTime := ⟨⟨2024, 7, 1, by decide⟩, ⟨0, 0, 35, 1500000000, by decide⟩⟩
    let u : DateTime := ⟨⟨2024, 7, 1, by decide⟩, ⟨0, 0, 36, 500000000, by decide⟩⟩
    dateTime t = dateTime u ∧ t.truncated ≠ u.truncated ∧
      DateTime.ofStamp? (dateTime t) = some u.truncated := by
  decide

end Literal

end ModelSql
