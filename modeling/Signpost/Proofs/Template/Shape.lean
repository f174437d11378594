/-
# What the grammars of placeholders mean

For the phrase of every placeholder the expressions that it means are written
down (`means_phrase`). A placeholder adds them to the branch that it stands in,
whatever else stands there, and only the numbers of the groups in them depend
on how many groups were opened before. All kinds but `geo` add one group with
the name of the placeholder; a date and a place have, among others, a group for
each of their parts, with the name of the part after that of the placeholder.

Key definitions: `Placeholder.exprs`, `Placeholder.depthBound`,
`Placeholder.suffixes`, `Placeholder.captureNames`.
Key theorems: `Placeholder.means_phrase`, `Placeholder.names_phrase`,
`Placeholder.nodup_captureNames`.
-/
import Mathlib.Data.List.Nodup
import Signpost.Proofs.Regex.Branch
import Signpost.Proofs.Template.Grammar

namespace Signpost
namespace Placeholder

open Regex

/-! ### The expressions -/

/-- The expression of a set. -/
def setExpr (s : CharSet) : Expr := .set .unicode s

/-- An expression that may be left out. -/
def perhapsExpr (e : Expr) : Expr := .rep e 0 (some 1) true

/-- An expression once or more. -/
def severalExpr (e : Expr) : Expr := .rep e 1 none true

/-- An expression a number of times. -/
def timesExpr (e : Expr) (least most : Nat) : Expr := .rep e least (some most) true

/-- A digit. -/
def digitExpr : Expr := setExpr (digits 0 9)

/-- Two digits, each between two. -/
def pairExpr (lo hi lo' hi' : Nat) : Expr :=
  .seq (setExpr (digits lo hi)) (setExpr (digits lo' hi'))

/-- A sign that may be left out. -/
def signExpr : Expr := perhapsExpr (setExpr signs)

/-- A hyphen that may be left out. -/
def hyphenExpr : Expr := perhapsExpr (.char '-')

/-- A number of hexadecimal digits. -/
def hexExpr (count : Nat) : Expr := timesExpr (setExpr hexDigit) count count

/-- The body of the group of a simple kind. -/
def scalarExpr : Placeholder → Expr
  | word => severalExpr (setExpr CharSet.asciiWord)
  | uint => timesExpr digitExpr 1 18
  | int => .sequence [signExpr, timesExpr digitExpr 1 18]
  | float => .sequence [signExpr, severalExpr digitExpr, .char '.', severalExpr digitExpr]
  | hex =>
    .sequence [perhapsExpr (.sequence [.char '0', .char 'x']), severalExpr (setExpr hexDigit)]
  | uuid =>
    .sequence [hexExpr 8, hyphenExpr, hexExpr 4, hyphenExpr, hexExpr 4, hyphenExpr, hexExpr 4,
      hyphenExpr, hexExpr 12]
  | _ => severalExpr (setExpr notLineFeed)

/-- The group of a part. -/
def partExpr (name : List Char) (part : String) (number : Nat) (e : Expr) : Expr :=
  .group number (some (String.ofList (partName name part))) e

/-- From `01` to `12`. -/
def monthExpr (count : Nat) : Expr :=
  .alt (.group (count + 1) none (pairExpr 0 0 1 9)) (.group (count + 2) none (pairExpr 1 1 0 2))

/-- From `01` to `31`. -/
def dayExpr (count : Nat) : Expr :=
  .alt (.group (count + 1) none (pairExpr 0 0 1 9))
    (.alt (.group (count + 2) none (pairExpr 1 2 0 9)) (.group (count + 3) none (pairExpr 3 3 0 1)))

/-- From `00` to `23`. -/
def hourExpr (count : Nat) : Expr :=
  .alt (.group (count + 1) none (pairExpr 0 1 0 9)) (pairExpr 2 2 0 3)

/-- From `00` to `59`. -/
def sixtyExpr : Expr := pairExpr 0 5 0 9

/-- A slash or a hyphen that may be left out. -/
def slashExpr : Expr := perhapsExpr (setExpr slashes)

/-- A colon that may be left out. -/
def colonExpr : Expr := perhapsExpr (.char ':')

/-- The day of a date with the separator before it. -/
def dayPartExpr (name : List Char) (count : Nat) : Expr :=
  perhapsExpr (.group (count + 1) none
    (.sequence [slashExpr, partExpr name "_mday" (count + 2) (dayExpr (count + 2))]))

/-- The month and the day of a date, each with the separator before it. -/
def monthDayExpr (name : List Char) (count : Nat) : Expr :=
  perhapsExpr (.group (count + 1) none
    (.sequence [slashExpr, partExpr name "_mon" (count + 2) (monthExpr (count + 2)),
      dayPartExpr name (count + 4)]))

/-- A fraction of a second. -/
def fractionExpr (count : Nat) : Expr :=
  perhapsExpr (.group (count + 1) none
    (.sequence [setExpr points, timesExpr digitExpr 1 10]))

/-- The second of a time with the colon before it. -/
def secondExpr (name : List Char) (count : Nat) : Expr :=
  perhapsExpr (.group (count + 1) none
    (.sequence [colonExpr,
      partExpr name "_sec" (count + 2) (.sequence [sixtyExpr, fractionExpr (count + 2)])]))

/-- The minute and the second of a time, each with the colon before it. -/
def minuteSecondExpr (name : List Char) (count : Nat) : Expr :=
  perhapsExpr (.group (count + 1) none
    (.sequence [colonExpr, partExpr name "_min" (count + 2) sixtyExpr,
      secondExpr name (count + 2)]))

/-- The minute of a time zone with the colon before it. -/
def zoneMinuteExpr (count : Nat) : Expr :=
  perhapsExpr (.group (count + 1) none (.sequence [colonExpr, sixtyExpr]))

/-- The time zone of a time. -/
def zoneExpr (count : Nat) : Expr :=
  perhapsExpr (.alt (.char 'Z') (.group (count + 1) none
    (.sequence [setExpr signs, hourExpr (count + 1), zoneMinuteExpr (count + 2)])))

/-- The time of a date. -/
def timeExpr (name : List Char) (count : Nat) : Expr :=
  perhapsExpr (.sequence [.char 'T',
    partExpr name "_hour" (count + 1) (hourExpr (count + 1)), minuteSecondExpr name (count + 2),
    zoneExpr (count + 7)])

/-- The body of the group of a date. -/
def dateExpr (name : List Char) (count : Nat) : Expr :=
  .group (count + 1) none (.sequence [partExpr name "_year" (count + 2) (timesExpr digitExpr 4 4),
    monthDayExpr name (count + 2), timeExpr name (count + 11)])

/-- A number in decimal notation, as it stands in a place. -/
def coordinateExpr (count : Nat) : Expr :=
  .sequence [hyphenExpr, severalExpr digitExpr,
    perhapsExpr (.group (count + 1) none (.sequence [.char '.', severalExpr digitExpr]))]

/-- A coordinate as a part of a place. -/
def coordinatePartExpr (name : List Char) (part : String) (count : Nat) : Expr :=
  partExpr name part (count + 1) (coordinateExpr (count + 1))

/-- The altitude of a place with the separator before it. -/
def altitudeExpr (name : List Char) (count : Nat) : Expr :=
  perhapsExpr (.group (count + 1) none
    (.sequence [setExpr commas, coordinatePartExpr name "_alt" (count + 1)]))

/-- The name of a reference system. -/
def systemExpr (name : List Char) (count : Nat) : Expr :=
  perhapsExpr (.group (count + 1) none
    (.sequence [.sequence (";crs=".toList.map .char),
      partExpr name "_crs" (count + 2) (severalExpr (setExpr wordOrHyphen))]))

/-- An uncertainty. -/
def uncertaintyExpr (name : List Char) (count : Nat) : Expr :=
  perhapsExpr (.group (count + 1) none
    (.sequence [.sequence (";u=".toList.map .char), coordinatePartExpr name "_u" (count + 1)]))

/-- The name of a reference system and an uncertainty, each of which may be left
out. -/
def tailExpr (name : List Char) (count : Nat) : Expr :=
  perhapsExpr (.group (count + 1) none
    (.sequence [systemExpr name (count + 1), uncertaintyExpr name (count + 3)]))

/-- What the grammar of a placeholder is read as, if `count` groups were opened
before it. -/
def exprs (kind : Placeholder) (name : List Char) (count : Nat) : List Expr :=
  match kind with
  | geo =>
    [coordinatePartExpr name "_lat" count, setExpr commas,
      coordinatePartExpr name "_lon" (count + 2), altitudeExpr name (count + 4),
      tailExpr name (count + 7)]
  | date => [.group (count + 1) (some (String.ofList name)) (dateExpr name (count + 1))]
  | kind => [.group (count + 1) (some (String.ofList name)) (scalarExpr kind)]

/-! ### The phrases mean the expressions -/

section Parts

open Regex.Phrase (literal ofClass means_literal means_literals means_ofClass)

variable {name : List Char} {count : Nat}

theorem means_digit : digitPhrase.Means count [digitExpr] 1 := means_ofClass _ _

theorem means_sign : signPhrase.Means count [signExpr] 3 := (means_ofClass _ _).perhaps rfl

theorem means_point : pointPhrase.Means count [.char '.'] 0 :=
  Phrase.means_push { expr := .char '.' } (fun _ => rfl) (Nat.le_refl _) rfl

theorem means_hyphen : hyphenPhrase.Means count [hyphenExpr] 1 := (means_literal '-').perhaps rfl

theorem means_hexDigit : (ofClass "[:xdigit:]]".toList hexDigit 1).Means count [setExpr hexDigit] 1 :=
  means_ofClass _ _

theorem means_hex (counts : String) (number : Nat) (h : 1 < number) :
    (hexPhrase counts number).Means count [hexExpr number] 2 :=
  means_hexDigit.times counts.toList rfl (Or.inr h)

theorem means_upToEighteen :
    (Phrase.times digitPhrase "1,18\x7d".toList 1 18).Means count [timesExpr digitExpr 1 18] 2 :=
  means_digit.times _ rfl (Or.inl (by decide))

theorem means_digits : (Phrase.several digitPhrase).Means count [severalExpr digitExpr] 2 :=
  means_digit.several rfl

/-- The body of a simple kind. -/
theorem body_scalar (kind : Placeholder) :
    (scalarPhrase kind).Body count (scalarExpr kind) 5 := by
  have hany : (Phrase.several (.atom ['.'] { expr := ({} : Flags).ofSet notLineFeed })).Body count
      (severalExpr (setExpr notLineFeed)) 5 := by
    have hdot : (Phrase.atom ['.'] { expr := ({} : Flags).ofSet notLineFeed }).Means count
        [setExpr notLineFeed] 0 :=
      Phrase.means_push { expr := setExpr notLineFeed } (fun _ => rfl) (Nat.le_refl _) rfl
    exact ((hdot.several rfl).mono (by decide)).body
  cases kind with
  | word => exact (((means_ofClass _ _).several rfl).mono (by decide)).body
  | uint => exact (means_upToEighteen.mono (by decide)).body
  | int => exact ((means_sign.beside means_upToEighteen).mono (by decide)).body
  | float =>
    exact ((means_sign.beside (means_digits.beside (means_point.beside means_digits))).mono
      (by decide)).body
  | hex =>
    exact (((((means_literal '0').beside (means_literal 'x')).body.plain.perhaps rfl).beside
      (means_hexDigit.several rfl)).mono (by decide)).body
  | uuid =>
    have hfour : ∀ {count}, (hexPhrase "4\x7d" 4).Means count [hexExpr 4] 2 :=
      means_hex _ 4 (by decide)
    exact (((means_hex "8\x7d" 8 (by decide)).beside (means_hyphen.beside (hfour.beside
      (means_hyphen.beside (hfour.beside (means_hyphen.beside (hfour.beside (means_hyphen.beside
        (means_hex "12\x7d" 12 (by decide)))))))))).mono (by decide)).body
  | catchAll => exact hany
  | date => exact hany
  | geo => exact hany

/-- The body of the group of a part. -/
theorem means_part {body : Phrase} {e : Expr} {depth : Nat} (part : String)
    (h : body.Body (count + 1) e depth) :
    (partPhrase name part body).Means count [partExpr name part (count + 1) e] (depth + 1) :=
  h.group

theorem body_month : monthPhrase.Body count (monthExpr count) 5 :=
  ⟨rfl, Nat.le_of_ble_eq_true rfl, rfl⟩

theorem body_day : dayPhrase.Body count (dayExpr count) 5 :=
  ⟨rfl, Nat.le_of_ble_eq_true rfl, rfl⟩

theorem body_hour : hourPhrase.Body count (hourExpr count) 5 :=
  ⟨rfl, Nat.le_of_ble_eq_true rfl, rfl⟩

theorem body_sixty : sixtyPhrase.Body count sixtyExpr 2 :=
  ((means_ofClass _ _).beside means_digit).body

theorem means_slash : slashPhrase.Means count [slashExpr] 3 := (means_ofClass _ _).perhaps rfl

theorem means_colon : colonPhrase.Means count [colonExpr] 1 := (means_literal ':').perhaps rfl

theorem means_day :
    (Phrase.perhaps (.group none (Phrase.row [slashPhrase, partPhrase name "_mday" dayPhrase]))).Means
      count [dayPartExpr name count] 9 :=
  ((means_slash.beside (means_part "_mday" body_day)).body.group.perhaps rfl)

theorem means_monthDay : (monthDayPhrase name).Means count [monthDayExpr name count] 12 :=
  (means_slash.beside ((means_part "_mon" body_month).beside means_day)).body.group.perhaps rfl

theorem means_fraction : fractionPhrase.Means count [fractionExpr count] 5 :=
  ((means_ofClass _ _).beside (means_digit.times _ rfl (Or.inl (by decide)))).body.group.perhaps rfl

theorem means_second :
    (Phrase.perhaps (.group none (Phrase.row [colonPhrase,
      partPhrase name "_sec" (Phrase.row [sixtyPhrase, fractionPhrase])]))).Means
      count [secondExpr name count] 10 := by
  have hsixty : sixtyPhrase.Means (count + 2) [setExpr (digits 0 5), digitExpr] 1 :=
    (means_ofClass _ _).beside means_digit
  exact (means_colon.beside (means_part "_sec" (hsixty.beside means_fraction).body)).body.group.perhaps rfl

theorem means_minuteSecond :
    (minuteSecondPhrase name).Means count [minuteSecondExpr name count] 13 :=
  (means_colon.beside ((means_part "_min" body_sixty).beside means_second)).body.group.perhaps rfl

/-- A `Z` or else a group. -/
theorem body_utcOr {p : Phrase} {e : Expr} {depth : Nat} (h : p.Body (count + 1) e depth) :
    (Phrase.row [literal 'Z', .bar, .group none p]).Body count
      (.alt (.char 'Z') (.group (count + 1) none e)) (depth + 2) := by
  obtain ⟨rfl, hdepth, hgroups⟩ := h
  refine ⟨rfl, ?_, congrArg (_ :: ·) hgroups⟩
  show max (max 0 ((p.draft (count + 1) {}).item.depth + 1)) 0 + 1 ≤ depth + 2
  omega

theorem means_zoneMinute :
    (Phrase.perhaps (.group none (Phrase.row [colonPhrase, .plain sixtyPhrase]))).Means count
      [zoneMinuteExpr count] 6 :=
  (means_colon.beside body_sixty.plain).body.group.perhaps rfl

theorem means_zone : zonePhrase.Means count [zoneExpr count] 11 :=
  (body_utcOr ((means_ofClass _ _).beside
    (body_hour.plain.beside means_zoneMinute)).body).plain.perhaps rfl

theorem means_time : (timePhrase name).Means count [timeExpr name count] 16 :=
  ((means_literal 'T').beside ((means_part "_hour" body_hour).beside
    (means_minuteSecond.beside means_zone))).body.plain.perhaps rfl

theorem body_date : (datePhrase name).Body count (dateExpr name count) 19 := by
  have hyear : (Phrase.times digitPhrase "4\x7d".toList 4 4).Body (count + 2)
      (timesExpr digitExpr 4 4) 3 := (means_digit.times _ rfl (Or.inr (by decide))).body
  exact ((means_part "_year" hyear).beside (means_monthDay.beside means_time)).body.group.body

theorem body_coordinate : coordinatePhrase.Body count (coordinateExpr count) 6 := by
  have hfraction : (Phrase.perhaps (.group none (Phrase.row [pointPhrase,
      Phrase.several digitPhrase]))).Means count
      [perhapsExpr (.group (count + 1) none (.sequence [.char '.', severalExpr digitExpr]))] 5 :=
    (means_point.beside means_digits).body.group.perhaps rfl
  exact (means_hyphen.beside (means_digits.beside hfraction)).body

theorem means_coordinate (part : String) :
    (partPhrase name part coordinatePhrase).Means count [coordinatePartExpr name part count] 7 :=
  means_part part body_coordinate

theorem means_altitude :
    (Phrase.perhaps (.group none (Phrase.row [ofClass ",;]".toList commas 2,
      partPhrase name "_alt" coordinatePhrase]))).Means count [altitudeExpr name count] 10 :=
  ((means_ofClass _ _).beside (means_coordinate "_alt")).body.group.perhaps rfl

theorem means_system :
    (Phrase.perhaps (.group none (Phrase.row [.plain (wordPhrase ";crs=".toList),
      partPhrase name "_crs" (Phrase.several (ofClass "0-9A-Za-z_-]".toList wordOrHyphen 2))]))).Means
      count [systemExpr name count] 8 := by
  have hmark : (Phrase.plain (wordPhrase ";crs=".toList)).Means (count + 1)
      [.sequence (";crs=".toList.map .char)] 2 := (means_literals _ _).body.plain
  exact (hmark.beside (means_part "_crs" ((means_ofClass _ _).several rfl).body)).body.group.perhaps
    rfl

theorem means_uncertainty :
    (Phrase.perhaps (.group none (Phrase.row [.plain (wordPhrase ";u=".toList),
      partPhrase name "_u" coordinatePhrase]))).Means count [uncertaintyExpr name count] 10 := by
  have hmark : (Phrase.plain (wordPhrase ";u=".toList)).Means (count + 1)
      [.sequence (";u=".toList.map .char)] 2 := (means_literals _ _).body.plain
  exact (hmark.beside (means_coordinate "_u")).body.group.perhaps rfl

theorem means_tail : (tailPhrase name).Means count [tailExpr name count] 13 :=
  (means_system.beside means_uncertainty).body.group.perhaps rfl

theorem means_geo : (geoPhrase name).Means count (exprs geo name count) 13 :=
  (means_coordinate "_lat").beside ((means_ofClass _ _).beside
    ((means_coordinate "_lon").beside (means_altitude.beside means_tail)))

end Parts

/-- The levels to which the grammars nest at most. -/
def depthBound : Nat := 20

/-- **What a grammar means.** -/
theorem means_phrase (kind : Placeholder) (name : List Char) (count : Nat) :
    (phrase kind name).Means count (exprs kind name count) depthBound := by
  have hscalar : ∀ kind, (Phrase.group (some name) (scalarPhrase kind)).Means count
      [.group (count + 1) (some (String.ofList name)) (scalarExpr kind)] depthBound :=
    fun kind => (body_scalar kind).group.mono (by decide)
  cases kind with
  | date => exact body_date.group
  | geo => exact means_geo.mono (by decide)
  | _ => exact hscalar _

/-! ### Names -/

/-- What is put behind the name of a placeholder to name its groups: nothing, or
one of its parts. A place has no group of its own name. -/
def suffixes : Placeholder → List String
  | date => ["", "_year", "_mon", "_mday", "_hour", "_min", "_sec"]
  | geo => ["_lat", "_lon", "_alt", "_crs", "_u"]
  | _ => [""]

/-- The names that a placeholder gives to groups. -/
def captureNames (kind : Placeholder) (name : List Char) : List (List Char) :=
  kind.suffixes.map (partName name)

theorem partName_empty (name : List Char) : partName name "" = name := List.append_nil name

theorem names_phrase (kind : Placeholder) (name : List Char) :
    (phrase kind name).names = captureNames kind name := by
  have hself : name :: (List.tail kind.suffixes).map (partName name) =
      ("" :: kind.suffixes.tail).map (partName name) := by
    rw [List.map_cons, partName_empty]
  cases kind with
  | geo => rfl
  | _ => exact hself

/-- The parts of one name have different names. -/
theorem partName_inj {name : List Char} {part part' : String}
    (h : partName name part = partName name part') : part = part' :=
  String.toList_inj.mp (List.append_cancel_left h)

/-- The names that one placeholder gives are distinct. -/
theorem nodup_captureNames (kind : Placeholder) (name : List Char) :
    (captureNames kind name).Nodup := by
  have hsuffixes : kind.suffixes.Nodup := by cases kind <;> decide
  exact hsuffixes.map fun _ _ => partName_inj

end Placeholder
end Signpost
