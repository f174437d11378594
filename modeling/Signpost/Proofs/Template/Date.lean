/-
# Dates

A date is written as a year, then perhaps a month and perhaps a day, each with or
without a separator before it, and then perhaps a time (`Date`). The placeholder
for dates accepts just these notations, and its groups hold the parts
(`accepts_date`). Every separator and every tail of a date may be left out, and
yet it can be told from a text which date it is (`date_text_injective`): what is
left out is never a digit that a part behind it has too, for all numbers have a
fixed width but the fraction of a second, and that one comes last.

Key definitions: `Date`, `Date.text`, `Date.part?`.
Key theorems: `renders_date`, `date_text_injective`, `lookup_dateHeld`,
`accepts_date`.
-/
import Mathlib.Logic.Equiv.Prod
import Signpost.Proofs.Template.Accepted

namespace Signpost
namespace Template

open Regex Placeholder

/-! ### The parts of a date -/

/-- What may stand before a month or a day. -/
abbrev Separator : Type := Option (Among ['/', '-'])

/-- A day of a month, with the separator before it. -/
structure Day where
  separator : Separator
  value : Number 1 31

/-- A month, with the separator before it. A day may follow; without a month there is
none. -/
structure Month where
  separator : Separator
  value : Number 1 12
  day : Option Day

/-- A fraction of a second. -/
structure Fraction where
  point : Among ['.', ',']
  digits : Run Char.isDigit 1 (some 10)

/-- A second, with or without the colon before it. Only a second has a fraction. -/
structure Second where
  colon : Bool
  value : Number 0 59
  fraction : Option Fraction

/-- A minute, with or without the colon before it. A second may follow. -/
structure Minute where
  colon : Bool
  value : Number 0 59
  second : Option Second

/-- The minute of an offset, with or without the colon before it. -/
structure ZoneMinute where
  colon : Bool
  value : Number 0 59

/-- A time zone: that of `Z`, or an offset. -/
inductive Zone where
  | utc
  | offset (sign : Among ['+', '-']) (hour : Number 0 23) (minute : Option ZoneMinute)

/-- A time of day: the hour, perhaps a minute with what follows it, and perhaps a zone,
which may stand behind the hour alone. -/
structure Time where
  hour : Number 0 23
  minute : Option Minute
  zone : Option Zone

/-- A date: the year, and perhaps a month and a time. The time may stand behind the year
alone. -/
structure Date where
  year : Run Char.isDigit 4 (some 4)
  month : Option Month
  time : Option Time

/-! ### What they are made of -/

/-- A day is a separator and a number. -/
def Day.parts : Day ≃ Separator × Number 1 31 where
  toFun d := (d.separator, d.value)
  invFun x := ⟨x.1, x.2⟩

/-- A month is a separator, a number and perhaps a day. -/
def Month.parts : Month ≃ Separator × Number 1 12 × Option Day where
  toFun m := (m.separator, m.value, m.day)
  invFun x := ⟨x.1, x.2.1, x.2.2⟩

/-- A fraction is a point or a comma, and digits. -/
def Fraction.parts : Fraction ≃ Among ['.', ','] × Run Char.isDigit 1 (some 10) where
  toFun f := (f.point, f.digits)
  invFun x := ⟨x.1, x.2⟩

/-- A second is a colon that is there or not, a number and perhaps a fraction. -/
def Second.parts : Second ≃ Bool × Number 0 59 × Option Fraction where
  toFun s := (s.colon, s.value, s.fraction)
  invFun x := ⟨x.1, x.2.1, x.2.2⟩

/-- A minute is a colon that is there or not, a number and perhaps a second. -/
def Minute.parts : Minute ≃ Bool × Number 0 59 × Option Second where
  toFun m := (m.colon, m.value, m.second)
  invFun x := ⟨x.1, x.2.1, x.2.2⟩

/-- The minute of an offset is a colon that is there or not, and a number. -/
def ZoneMinute.parts : ZoneMinute ≃ Bool × Number 0 59 where
  toFun m := (m.colon, m.value)
  invFun x := ⟨x.1, x.2⟩

/-- A time is an hour, perhaps a minute and perhaps a zone. -/
def Time.parts : Time ≃ Number 0 23 × Option Minute × Option Zone where
  toFun t := (t.hour, t.minute, t.zone)
  invFun x := ⟨x.1, x.2.1, x.2.2⟩

/-- A date is four digits, perhaps a month and perhaps a time. -/
def Date.parts : Date ≃ Run Char.isDigit 4 (some 4) × Option Month × Option Time where
  toFun d := (d.year, d.month, d.time)
  invFun x := ⟨x.1, x.2.1, x.2.2⟩

/-! ### Their notation -/

/-- The separator, or nothing. -/
def Separator.text : Separator → List Char := optionText fun c => [c.1]

/-- Two digits behind the separator. -/
def Day.text (d : Day) : List Char := d.separator.text ++ d.value.text

/-- Two digits behind the separator, and the day. -/
def Month.text (m : Month) : List Char :=
  m.separator.text ++ m.value.text ++ optionText Day.text m.day

/-- The point or the comma, and the digits behind it. -/
def Fraction.text (f : Fraction) : List Char := [f.point.1] ++ f.digits.chars

/-- The second itself, without the colon before it. -/
def Second.number (s : Second) : List Char := s.value.text ++ optionText Fraction.text s.fraction

/-- The second behind its colon, if that is there. -/
def Second.text (s : Second) : List Char := markText [':'] s.colon ++ s.number

/-- Two digits behind the colon, if that is there, and the second. -/
def Minute.text (m : Minute) : List Char :=
  markText [':'] m.colon ++ m.value.text ++ optionText Second.text m.second

/-- Two digits behind the colon, if that is there. -/
def ZoneMinute.text (m : ZoneMinute) : List Char := markText [':'] m.colon ++ m.value.text

/-- A `Z`, or the sign, the hour and the minute of the offset. -/
def Zone.text : Zone → List Char
  | utc => ['Z']
  | offset sign hour minute => [sign.1] ++ hour.text ++ optionText ZoneMinute.text minute

/-- A `T`, and then hour, minute and zone. -/
def Time.text (t : Time) : List Char :=
  ['T'] ++ t.hour.text ++ optionText Minute.text t.minute ++ optionText Zone.text t.zone

/-- The year, the month and the time, one behind the other. -/
def Date.text (d : Date) : List Char :=
  d.year.chars ++ optionText Month.text d.month ++ optionText Time.text d.time

/-! ### What the groups hold -/

section Held

variable (name : List Char)

/-- The group `_mday` holds the day without its separator. -/
def Day.held (d : Day) : Held := [holds name "_mday" d.value.text]

/-- The group `_mon` holds the month without its separator. -/
def Month.held (m : Month) : Held :=
  optionHeld (Day.held name) m.day ++ [holds name "_mon" m.value.text]

/-- The group `_sec` holds the second with its fraction. -/
def Second.held (s : Second) : Held := [holds name "_sec" s.number]

/-- The group `_min` holds the minute without its colon. -/
def Minute.held (m : Minute) : Held :=
  optionHeld (Second.held name) m.second ++ [holds name "_min" m.value.text]

/-- The group `_hour` holds the hour; no named group is for the zone. -/
def Time.held (t : Time) : Held :=
  optionHeld (Minute.held name) t.minute ++ [holds name "_hour" t.hour.text]

/-- The group of the placeholder holds the whole date, and `_year` the year. -/
def Date.held (d : Date) : Held :=
  holds name "" d.text ::
    (optionHeld (Time.held name) d.time ++
      (optionHeld (Month.held name) d.month ++ [holds name "_year" d.year.chars]))

end Held

/-! ### Numbers -/

/-- Numbers of two digits in several branches. -/
theorem renders_month (count : Nat) :
    Renders (monthExpr count).Yields (Number.text : Number 1 12 → List Char) noneHeld := by
  have hlow : Renders (Expr.group (count + 1) none (pairExpr 0 0 1 9)).Yields
      (Number.text : Number 1 9 → List Char) noneHeld :=
    (renders_pair (by decide) (by decide) fun n => by omega).unnamed
  have hhigh : Renders (Expr.group (count + 2) none (pairExpr 1 1 0 2)).Yields
      (Number.text : Number 10 12 → List Char) noneHeld :=
    (renders_pair (by decide) (by decide) fun n => by omega).unnamed
  exact renders_number_alt hlow hhigh (by decide) (by decide)

theorem renders_day (count : Nat) :
    Renders (dayExpr count).Yields (Number.text : Number 1 31 → List Char) noneHeld := by
  have hlow : Renders (Expr.group (count + 1) none (pairExpr 0 0 1 9)).Yields
      (Number.text : Number 1 9 → List Char) noneHeld :=
    (renders_pair (by decide) (by decide) fun n => by omega).unnamed
  have hmid : Renders (Expr.group (count + 2) none (pairExpr 1 2 0 9)).Yields
      (Number.text : Number 10 29 → List Char) noneHeld :=
    (renders_pair (by decide) (by decide) fun n => by omega).unnamed
  have hhigh : Renders (Expr.group (count + 3) none (pairExpr 3 3 0 1)).Yields
      (Number.text : Number 30 31 → List Char) noneHeld :=
    (renders_pair (by decide) (by decide) fun n => by omega).unnamed
  exact renders_number_alt hlow (renders_number_alt hmid hhigh (by decide) (by decide)) (by decide)
    (by decide)

theorem renders_hour (count : Nat) :
    Renders (hourExpr count).Yields (Number.text : Number 0 23 → List Char) noneHeld := by
  have hlow : Renders (Expr.group (count + 1) none (pairExpr 0 1 0 9)).Yields
      (Number.text : Number 0 19 → List Char) noneHeld :=
    (renders_pair (by decide) (by decide) fun n => by omega).unnamed
  have hhigh : Renders (pairExpr 2 2 0 3).Yields
      (Number.text : Number 20 23 → List Char) noneHeld :=
    renders_pair (by decide) (by decide) fun n => by omega
  exact renders_number_alt hlow hhigh (by decide) (by decide)

theorem renders_sixty :
    Renders sixtyExpr.Yields (Number.text : Number 0 59 → List Char) noneHeld :=
  renders_pair (by decide) (by decide) fun n => by omega

/-! ### Renderings -/

section Renderings

variable {name : List Char} {count : Nat}

theorem renders_separator : Renders slashExpr.Yields Separator.text noneHeld :=
  (renders_among contains_slashes).option_noneHeld

theorem renders_colon : Renders colonExpr.Yields (markText [':']) noneHeld :=
  (renders_char ':').mark

theorem renders_dayPart : Renders (dayPartExpr name count).Yields (optionText Day.text)
    (optionHeld (Day.held name)) := by
  have hbody : Renders (Expr.group (count + 1) none (.sequence [slashExpr,
      partExpr name "_mday" (count + 2) (dayExpr (count + 2))])).Yields Day.text (Day.held name) :=
    (renders_separator.cons (renders_part "_mday" (renders_day _)).last).sequence.unnamed.map
      Day.parts Day.parts.surjective (fun _ => rfl) fun _ => rfl
  exact hbody.option

theorem renders_monthDay : Renders (monthDayExpr name count).Yields (optionText Month.text)
    (optionHeld (Month.held name)) := by
  have hbody : Renders (Expr.group (count + 1) none (.sequence [slashExpr,
      partExpr name "_mon" (count + 2) (monthExpr (count + 2)), dayPartExpr name (count + 4)])).Yields
      Month.text (Month.held name) :=
    (renders_separator.cons ((renders_part "_mon" (renders_month _)).cons
      renders_dayPart.last)).sequence.unnamed.map
      Month.parts Month.parts.surjective (fun _ => List.append_assoc _ _ _)
      fun _ => (List.append_nil _).symm
  exact hbody.option

theorem renders_fraction : Renders (fractionExpr count).Yields (optionText Fraction.text)
    noneHeld := by
  have hdigits : Renders (timesExpr digitExpr 1 10).Yields
      (Run.chars : Run Char.isDigit 1 (some 10) → List Char) noneHeld :=
    renders_digits (by simp)
  have hbody : Renders (Expr.group (count + 1) none (.sequence [setExpr points,
      timesExpr digitExpr 1 10])).Yields Fraction.text noneHeld :=
    ((renders_among contains_points).cons hdigits.last).sequence.unnamed.map
      Fraction.parts Fraction.parts.surjective (fun _ => rfl) fun _ => rfl
  exact hbody.option_noneHeld

theorem renders_second : Renders (secondExpr name count).Yields (optionText Second.text)
    (optionHeld (Second.held name)) := by
  have hfraction : Renders (fractionExpr (count + 2)).Yields (optionText Fraction.text) noneHeld :=
    renders_fraction
  have hbody : Renders (Expr.group (count + 1) none (.sequence [colonExpr,
      partExpr name "_sec" (count + 2) (.sequence [sixtyExpr, fractionExpr (count + 2)])])).Yields
      Second.text (Second.held name) :=
    (renders_colon.cons (renders_part "_sec"
      (renders_sixty.cons hfraction.last).sequence).last).sequence.unnamed.map
      Second.parts Second.parts.surjective (fun _ => rfl) fun _ => rfl
  exact hbody.option

theorem renders_minute : Renders (minuteSecondExpr name count).Yields (optionText Minute.text)
    (optionHeld (Minute.held name)) := by
  have hbody : Renders (Expr.group (count + 1) none (.sequence [colonExpr,
      partExpr name "_min" (count + 2) sixtyExpr, secondExpr name (count + 2)])).Yields
      Minute.text (Minute.held name) :=
    (renders_colon.cons ((renders_part "_min" renders_sixty).cons
      renders_second.last)).sequence.unnamed.map
      Minute.parts Minute.parts.surjective (fun _ => List.append_assoc _ _ _)
      fun _ => (List.append_nil _).symm
  exact hbody.option

theorem renders_zoneMinute : Renders (zoneMinuteExpr count).Yields (optionText ZoneMinute.text)
    noneHeld := by
  have hbody : Renders (Expr.group (count + 1) none (.sequence [colonExpr, sixtyExpr])).Yields
      ZoneMinute.text noneHeld :=
    (renders_colon.cons renders_sixty.last).sequence.unnamed.map
      ZoneMinute.parts ZoneMinute.parts.surjective (fun _ => rfl) fun _ => rfl
  exact hbody.option_noneHeld

theorem renders_zone : Renders (zoneExpr count).Yields (optionText Zone.text) noneHeld := by
  have hminute : Renders (zoneMinuteExpr (count + 2)).Yields (optionText ZoneMinute.text)
      noneHeld := renders_zoneMinute
  have hoffset := ((renders_among contains_signs).cons
    ((renders_hour (count + 1)).cons hminute.last)).sequence
  have hbody : Renders (Expr.alt (.char 'Z') (.group (count + 1) none
      (.sequence [setExpr signs, hourExpr (count + 1), zoneMinuteExpr (count + 2)]))).Yields
      Zone.text noneHeld := by
    intro w hs
    constructor
    · rintro (hyields | hyields)
      · obtain ⟨-, rfl, rfl⟩ := (renders_char 'Z' _ _).mp hyields
        exact ⟨.utc, rfl, rfl⟩
      · obtain ⟨⟨sign, hour, minute⟩, rfl, rfl⟩ := (hoffset.unnamed _ _).mp hyields
        exact ⟨.offset sign hour minute, rfl, rfl⟩
    · rintro ⟨zone, rfl, rfl⟩
      cases zone with
      | utc => exact Or.inl ((renders_char 'Z' _ _).mpr ⟨(), rfl, rfl⟩)
      | offset sign hour minute =>
        exact Or.inr ((hoffset.unnamed _ _).mpr ⟨(sign, hour, minute), rfl, rfl⟩)
  exact hbody.option_noneHeld

theorem renders_time : Renders (timeExpr name count).Yields (optionText Time.text)
    (optionHeld (Time.held name)) := by
  have hbody : Renders (Expr.sequence [.char 'T',
      partExpr name "_hour" (count + 1) (hourExpr (count + 1)), minuteSecondExpr name (count + 2),
      zoneExpr (count + 7)]).Yields Time.text (Time.held name) :=
    ((renders_char 'T').after ((renders_part "_hour" (renders_hour _)).cons
      (renders_minute.cons renders_zone.last))).sequence.map
      Time.parts Time.parts.surjective (fun t => by simp [Time.text, Time.parts]) fun _ => rfl
  exact hbody.option

/-- The placeholder for dates yields the notations of dates. -/
theorem renders_date : Renders (Expr.YieldsAll (Placeholder.date.exprs name 0)) Date.text
    (Date.held name) := by
  have hyear : Renders (timesExpr digitExpr 4 4).Yields
      (Run.chars : Run Char.isDigit 4 (some 4) → List Char) noneHeld :=
    renders_digits (by simp)
  have hbody : Renders (dateExpr name 1).Yields Date.text
      (fun d => optionHeld (Time.held name) d.time ++
        (optionHeld (Month.held name) d.month ++ [holds name "_year" d.year.chars])) :=
    ((renders_part "_year" hyear).cons (renders_monthDay.cons renders_time.last)).sequence.unnamed.map
      Date.parts Date.parts.surjective (fun _ => List.append_assoc _ _ _)
      fun _ => (List.append_assoc _ _ _).symm
  refine (hbody.named.last).map id Function.surjective_id (fun _ => rfl) fun d => ?_
  show holds name "" d.text :: _ = _
  rw [holds, partName_empty]
  rfl

end Renderings

/-! ### Reading a date back -/

/-- What a month or a day may begin with. -/
def dateMark (c : Char) : Bool := decide (c ∈ ['/', '-']) || c.isDigit

/-- What a minute, a second or a fraction may begin with. -/
def timeMark (c : Char) : Bool := decide (c ∈ [':', '.', ',']) || c.isDigit

section Reading

variable {lo hi : Nat} {P : List Char → Prop}

/-- A separator that may be left out, and a number. -/
theorem readable_separated (hhi : hi < 100) :
    Readable (fun x : Separator × Number lo hi => x.1.text ++ x.2.text) P :=
  readable_option_among.both (readable_number hhi)
    fun n rest _ => stops_number hhi (by simp) n rest

theorem head_separated (hhi : hi < 100) (separator : Separator) (n : Number lo hi)
    (rest : List Char) : ∃ c cs, separator.text ++ n.text ++ rest = c :: cs ∧ dateMark c = true := by
  cases separator with
  | none =>
    obtain ⟨c, cs, htext, hc⟩ := head_number hhi n
    exact ⟨c, cs ++ rest, congrArg (· ++ rest) htext, Bool.or_eq_true_iff.mpr (Or.inr hc)⟩
  | some c =>
    exact ⟨c.1, n.text ++ rest, rfl, Bool.or_eq_true_iff.mpr (Or.inl (decide_eq_true c.2))⟩

/-- A colon that may be left out, and a number. -/
theorem readable_marked (hhi : hi < 100) :
    Readable (fun x : Bool × Number lo hi => markText [':'] x.1 ++ x.2.text) P :=
  (readable_mark ':').both (readable_number hhi) fun n rest _ => stops_number hhi (by simp) n rest

theorem head_marked (hhi : hi < 100) (there : Bool) (n : Number lo hi) (rest : List Char) :
    ∃ c cs, markText [':'] there ++ n.text ++ rest = c :: cs ∧ timeMark c = true := by
  cases there with
  | false =>
    obtain ⟨c, cs, htext, hc⟩ := head_number hhi n
    exact ⟨c, cs ++ rest, congrArg (· ++ rest) htext, Bool.or_eq_true_iff.mpr (Or.inr hc)⟩
  | true => exact ⟨':', n.text ++ rest, rfl, by decide⟩

theorem readable_dayOption : Readable (optionText Day.text) (Stops dateMark) := by
  have hday : Readable Day.text (Stops dateMark) :=
    (readable_separated (by decide)).of_injective Day.parts Day.parts.injective fun _ => rfl
  refine hday.option_of_stops (fun d => ?_) fun _ h => h
  obtain ⟨c, cs, htext, hc⟩ := head_separated (by decide) d.separator d.value []
  exact ⟨c, cs, by rw [← htext, List.append_nil, Day.text], hc⟩

theorem readable_monthOption : Readable (optionText Month.text) (Stops dateMark) := by
  have hnumber : Readable (fun x : Separator × Number 1 12 => x.1.text ++ x.2.text) fun _ => True :=
    readable_separated (by decide)
  have hmonth : Readable Month.text (Stops dateMark) :=
    (hnumber.both readable_dayOption fun _ _ _ => trivial).of_injective
      (Month.parts.trans (Equiv.prodAssoc _ _ _).symm) (Equiv.injective _) fun _ => rfl
  refine hmonth.option_of_stops (fun m => ?_) fun _ h => h
  exact head_separated (by decide) m.separator m.value (optionText Day.text m.day)

theorem stops_digit_of_timeMark {rest : List Char} (h : Stops timeMark rest) :
    Stops Char.isDigit rest := h.mono fun _ hc => Bool.or_eq_true_iff.mpr (Or.inr hc)

theorem readable_fractionOption : Readable (optionText Fraction.text) (Stops timeMark) := by
  have hdigits : Readable (Run.chars : Run Char.isDigit 1 (some 10) → List Char) (Stops timeMark) :=
    readable_run.mono fun _ => stops_digit_of_timeMark
  have hfraction : Readable Fraction.text (Stops timeMark) :=
    ((readable_among (P := fun _ => True)).both hdigits fun _ _ _ => trivial).of_injective
      Fraction.parts Fraction.parts.injective fun _ => rfl
  have hpoint : ∀ c ∈ ['.', ','], timeMark c = true := by simp [timeMark]
  exact hfraction.option_of_stops
    (fun f => ⟨f.point.1, f.digits.chars, rfl, hpoint f.point.1 f.point.2⟩) fun _ h => h

theorem readable_secondOption : Readable (optionText Second.text) (Stops timeMark) := by
  have hnumber : Readable (fun x : Bool × Number 0 59 => markText [':'] x.1 ++ x.2.text)
      fun _ => True := readable_marked (by decide)
  have hsecond : Readable Second.text (Stops timeMark) :=
    (hnumber.both readable_fractionOption fun _ _ _ => trivial).of_injective
      (Second.parts.trans (Equiv.prodAssoc _ _ _).symm) (Equiv.injective _)
      fun _ => (List.append_assoc _ _ _).symm
  refine hsecond.option_of_stops (fun s => ?_) fun _ h => h
  rw [Second.text, Second.number, ← List.append_assoc]
  exact head_marked (by decide) s.colon s.value (optionText Fraction.text s.fraction)

theorem readable_minuteOption : Readable (optionText Minute.text) (Stops timeMark) := by
  have hnumber : Readable (fun x : Bool × Number 0 59 => markText [':'] x.1 ++ x.2.text)
      fun _ => True := readable_marked (by decide)
  have hminute : Readable Minute.text (Stops timeMark) :=
    (hnumber.both readable_secondOption fun _ _ _ => trivial).of_injective
      (Minute.parts.trans (Equiv.prodAssoc _ _ _).symm) (Equiv.injective _) fun _ => rfl
  refine hminute.option_of_stops (fun m => ?_) fun _ h => h
  exact head_marked (by decide) m.colon m.value (optionText Second.text m.second)

theorem readable_zoneMinuteOption : Readable (optionText ZoneMinute.text) (Stops timeMark) := by
  have hminute : Readable ZoneMinute.text (Stops timeMark) :=
    (readable_marked (by decide)).of_injective ZoneMinute.parts ZoneMinute.parts.injective
      fun _ => rfl
  refine hminute.option_of_stops (fun m => ?_) fun _ h => h
  obtain ⟨c, cs, htext, hc⟩ := head_marked (by decide) m.colon m.value []
  exact ⟨c, cs, by rw [← htext, List.append_nil, ZoneMinute.text], hc⟩

/-- A `Z` is no sign. -/
theorem readable_zone : Readable Zone.text (Stops timeMark) := by
  have hoffset : Readable (fun x : Among ['+', '-'] × Number 0 23 × Option ZoneMinute =>
      [x.1.1] ++ (x.2.1.text ++ optionText ZoneMinute.text x.2.2)) (Stops timeMark) :=
    (readable_among (P := fun _ => True)).both
      ((readable_number (P := fun _ => True) (by decide)).both readable_zoneMinuteOption
        fun _ _ _ => trivial) fun _ _ _ => trivial
  have hsign : ∀ c ∈ ['+', '-'], c ≠ 'Z' := by simp
  intro a b rest rest' hrest hrest' heq
  cases a with
  | utc =>
    cases b with
    | utc => exact ⟨rfl, (List.cons.inj heq).2⟩
    | offset sign hour minute => exact absurd (List.cons.inj heq).1.symm (hsign sign.1 sign.2)
  | offset sign hour minute =>
    cases b with
    | utc => exact absurd (List.cons.inj heq).1 (hsign sign.1 sign.2)
    | offset sign' hour' minute' =>
      obtain ⟨hoffsets, hrests⟩ := hoffset (sign, hour, minute) (sign', hour', minute') rest rest'
        hrest hrest' (by simpa [Zone.text] using heq)
      cases hoffsets
      exact ⟨rfl, hrests⟩

/-- What a time zone begins with is not what a part of the time begins with. -/
theorem stops_zoneOption (zone : Option Zone) {rest : List Char} (h : Exhausted rest) :
    Stops timeMark (optionText Zone.text zone ++ rest) := by
  have hsign : ∀ c ∈ ['+', '-'], timeMark c = false := by simp [timeMark]
  match zone with
  | none => exact h.mono fun _ _ => rfl
  | some .utc => exact stops_cons.mpr (by decide)
  | some (.offset sign hour minute) => exact stops_cons.mpr (hsign sign.1 sign.2)

theorem readable_zoneOption : Readable (optionText Zone.text) Exhausted := by
  refine (readable_zone.mono fun _ h => h.mono fun _ _ => rfl).option_of_stops (fun zone => ?_)
    fun _ h => h
  cases zone with
  | utc => exact ⟨'Z', [], rfl, rfl⟩
  | offset sign hour minute => exact ⟨sign.1, _, rfl, rfl⟩

theorem readable_timeOption : Readable (optionText Time.text) Exhausted := by
  have hparts : Readable (fun x : Number 0 23 × Option Minute × Option Zone =>
      x.1.text ++ (optionText Minute.text x.2.1 ++ optionText Zone.text x.2.2)) Exhausted :=
    (readable_number (P := fun _ => True) (by decide)).both
      (readable_minuteOption.both readable_zoneOption fun zone _ => stops_zoneOption zone)
      fun _ _ _ => trivial
  have htime : Readable Time.text Exhausted :=
    (hparts.after ['T']).of_injective Time.parts Time.parts.injective fun t => by
      simp [Time.text, Time.parts]
  exact htime.option_of_stops (fun t => ⟨'T', _, rfl, rfl⟩) fun _ h => h

/-- A time does not begin like a month or a day. -/
theorem stops_timeOption (time : Option Time) {rest : List Char} (h : Exhausted rest) :
    Stops dateMark (optionText Time.text time ++ rest) := by
  cases time with
  | none => exact h.mono fun _ _ => rfl
  | some t => exact stops_cons.mpr (by decide)

/-- **A date can be told from its notation.** -/
theorem date_text_injective : Function.Injective Date.text := by
  have hdate : Readable Date.text Exhausted :=
    ((readable_run_fixed (P := fun _ => True)).both
      (readable_monthOption.both readable_timeOption fun time _ => stops_timeOption time)
      fun _ _ _ => trivial).of_injective Date.parts Date.parts.injective
        fun _ => List.append_assoc _ _ _
  exact hdate.injective (stops_nil _)

end Reading

/-! ### What the placeholder for dates accepts -/

/-- The part of a date that the group with the given suffix stands for; it may have been
left out. -/
def Date.part? (d : Date) : String → Option (List Char)
  | "" => some d.text
  | "_year" => some d.year.chars
  | "_mon" => d.month.map (·.value.text)
  | "_mday" => (d.month.bind (·.day)).map (·.value.text)
  | "_hour" => d.time.map (·.hour.text)
  | "_min" => (d.time.bind (·.minute)).map (·.value.text)
  | "_sec" => ((d.time.bind (·.minute)).bind (·.second)).map (·.number)
  | _ => none

section Lookup

variable (name : List Char)

theorem lookup_monthHeld (month : Option Month) (part : String) :
    (optionHeld (Month.held name) month).lookup (String.ofList (partName name part)) =
      if part = "_mday" then (month.bind (·.day)).map (·.value.text)
      else if part = "_mon" then month.map (·.value.text) else none := by
  rcases month with _ | ⟨_, value, _ | ⟨_, day⟩⟩ <;>
    simp only [optionHeld, Month.held, Day.held, List.nil_append, List.cons_append, List.lookup_nil,
      lookup_holds] <;> grind

theorem lookup_timeHeld (time : Option Time) (part : String) :
    (optionHeld (Time.held name) time).lookup (String.ofList (partName name part)) =
      if part = "_sec" then ((time.bind (·.minute)).bind (·.second)).map (·.number)
      else if part = "_min" then (time.bind (·.minute)).map (·.value.text)
      else if part = "_hour" then time.map (·.hour.text) else none := by
  rcases time with _ | ⟨hour, _ | ⟨_, minute, _ | second⟩, _⟩ <;>
    simp only [optionHeld, Time.held, Minute.held, Second.held, List.nil_append, List.cons_append,
      List.lookup_nil, lookup_holds] <;> grind

theorem lookup_dateHeld (d : Date) {part : String} (hpart : part ∈ Placeholder.date.suffixes) :
    (Date.held name d).lookup (String.ofList (partName name part)) = d.part? part := by
  rw [Date.held, lookup_holds, List.lookup_append, List.lookup_append, lookup_timeHeld,
    lookup_monthHeld, lookup_holds]
  simp only [suffixes, List.mem_cons, List.not_mem_nil, or_false] at hpart
  rcases hpart with rfl | rfl | rfl | rfl | rfl | rfl | rfl <;> simp [Date.part?]

end Lookup

/-- **Dates.** The placeholder for dates, with a name that begins with a letter or a low
line, compiles, and matches just the texts that are the notation of a date. There is
only one such date. The group of the placeholder then holds the whole text, and the
groups of the parts hold the parts, where they were not left out. -/
theorem accepts_date {name : String} (hword : IsWord name.toList)
    (hbegins : BeginsWell name.toList) :
    Function.Injective Date.text ∧
    ∃ r, compile (single .date name) = .ok r ∧
      (∀ segment : String, r.isMatch segment = true ↔ ∃ d : Date, segment.toList = d.text) ∧
      ∀ (segment : String) (d : Date), segment.toList = d.text →
        ∃ found, r.captures? segment = some found ∧
          found.whole = segment ∧ r.held? found name = some (some segment) ∧
          ∀ part ∈ Placeholder.date.suffixes,
            r.held? found (name ++ part) = some ((d.part? part).map String.ofList) := by
  obtain ⟨r, hr, hmatch, hheld⟩ := accepts_single hword hbegins Date.part?
    renders_date date_text_injective fun d _ => lookup_dateHeld name.toList d
  refine ⟨date_text_injective, r, hr, hmatch, fun segment d hd => ?_⟩
  obtain ⟨found, hfound, hwhole, hparts⟩ := hheld segment d hd
  have hself := hparts "" List.mem_cons_self
  rw [String.append_empty, Date.part?, Option.map_some, ← hd, String.ofList_toList] at hself
  exact ⟨found, hfound, hwhole, hself, hparts⟩

/-- A month without a day, and a time without seconds. -/
theorem accepts_date_partly :
    (IsWord "d".toList ∧ BeginsWell "d".toList) ∧
      ∃ r, compile "\x7bdate:d\x7d" = .ok r ∧
        ∃ found, r.captures? "2024-02T1230+01" = some found ∧
          r.held? found "d" = some (some "2024-02T1230+01") ∧
          r.held? found "d_mon" = some (some "02") ∧ r.held? found "d_mday" = some none ∧
          r.held? found "d_min" = some (some "30") ∧ r.held? found "d_sec" = some none := by
  have hword : IsWord "d".toList := isWord_of_all (by decide) rfl
  have hbegins : BeginsWell "d".toList := by decide
  obtain ⟨-, r, hr, -, hheld⟩ := accepts_date hword hbegins
  obtain ⟨found, hfound, -, hself, hparts⟩ := hheld "2024-02T1230+01"
    ⟨⟨['2', '0', '2', '4'], by simp, by decide, by simp⟩,
      some ⟨some ⟨'-', by decide⟩, ⟨2, by decide⟩, none⟩,
      some ⟨⟨12, by decide⟩, some ⟨false, ⟨30, by decide⟩, none⟩,
        some (.offset ⟨'+', by decide⟩ ⟨1, by decide⟩ none)⟩⟩ (by rfl)
  exact ⟨⟨hword, hbegins⟩, r, hr, found, hfound, hself, hparts "_mon" (by decide),
    hparts "_mday" (by decide), hparts "_min" (by decide), hparts "_sec" (by decide)⟩

end Template
end Signpost
