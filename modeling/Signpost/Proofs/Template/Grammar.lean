/-
# The grammars of placeholders as phrases

The grammar of a placeholder is a text; here it is the text of a phrase
(`text_phrase`), and the reader can read it anywhere, but perhaps for its names
(`sound_phrase`). A date and a place are put together from the phrases of their
parts, each in a group with the name of the part after that of the placeholder.

Key definitions: `Placeholder.phrase`, `Placeholder.partPhrase`.
Key theorems: `Placeholder.text_phrase`, `Placeholder.sound_phrase`.
-/
import Signpost.Proofs.Regex.GroupName
import Signpost.Proofs.Regex.Phrase
import Signpost.Template.Placeholder

namespace Signpost
namespace Placeholder

open Regex
open Regex.Phrase (literal ofClass perhaps several times row sound_literal sound_ofClass sound_bar)

/-! ### Classes -/

/-- The digits from one to another. -/
def digits (lo hi : Nat) : CharSet := ⟨[(0x30 + lo, 0x30 + hi)]⟩

/-- The signs of a number. -/
def signs : CharSet := ⟨[(0x2B, 0x2B), (0x2D, 0x2D)]⟩

/-- The digits of a hexadecimal number. -/
def hexDigit : CharSet := ⟨[(0x30, 0x39), (0x41, 0x46), (0x61, 0x66)]⟩

/-- What may stand between the parts of a date. -/
def slashes : CharSet := ⟨[(0x2D, 0x2D), (0x2F, 0x2F)]⟩

/-- What may stand before the fraction of a second. -/
def points : CharSet := ⟨[(0x2C, 0x2C), (0x2E, 0x2E)]⟩

/-- What may stand between coordinates. -/
def commas : CharSet := ⟨[(0x2C, 0x2C), (0x3B, 0x3B)]⟩

/-- The characters of the name of a reference system. -/
def wordOrHyphen : CharSet := ⟨[(0x2D, 0x2D), (0x30, 0x39), (0x41, 0x5A), (0x5F, 0x5F), (0x61, 0x7A)]⟩

theorem readClass_digit (rest : List Char) :
    readClass {} ("0-9]".toList ++ rest) = .ok (digits 0 9, 1, rest) := rfl

theorem readClass_word (rest : List Char) :
    readClass {} ("0-9A-Za-z_]".toList ++ rest) = .ok (CharSet.asciiWord, 2, rest) := rfl

theorem readClass_wordOrHyphen (rest : List Char) :
    readClass {} ("0-9A-Za-z_-]".toList ++ rest) = .ok (wordOrHyphen, 2, rest) := rfl

theorem readClass_signs (rest : List Char) :
    readClass {} ("-+]".toList ++ rest) = .ok (signs, 2, rest) := rfl

theorem readClass_hexDigit (rest : List Char) :
    readClass {} ("[:xdigit:]]".toList ++ rest) = .ok (hexDigit, 1, rest) := rfl

theorem readClass_oneToNine (rest : List Char) :
    readClass {} ("1-9]".toList ++ rest) = .ok (digits 1 9, 1, rest) := rfl

theorem readClass_zeroToTwo (rest : List Char) :
    readClass {} ("012]".toList ++ rest) = .ok (digits 0 2, 2, rest) := rfl

theorem readClass_oneTwo (rest : List Char) :
    readClass {} ("12]".toList ++ rest) = .ok (digits 1 2, 2, rest) := rfl

theorem readClass_zeroOne (rest : List Char) :
    readClass {} ("01]".toList ++ rest) = .ok (digits 0 1, 2, rest) := rfl

theorem readClass_zeroToThree (rest : List Char) :
    readClass {} ("0123]".toList ++ rest) = .ok (digits 0 3, 2, rest) := rfl

theorem readClass_zeroToFive (rest : List Char) :
    readClass {} ("0-5]".toList ++ rest) = .ok (digits 0 5, 1, rest) := rfl

theorem readClass_slashes (rest : List Char) :
    readClass {} ("/-]".toList ++ rest) = .ok (slashes, 2, rest) := rfl

theorem readClass_points (rest : List Char) :
    readClass {} (",.]".toList ++ rest) = .ok (points, 2, rest) := rfl

theorem readClass_commas (rest : List Char) :
    readClass {} (",;]".toList ++ rest) = .ok (commas, 2, rest) := rfl

/-! ### The phrases -/

/-- A digit. -/
def digitPhrase : Phrase := ofClass "0-9]".toList (digits 0 9) 1

/-- A sign that may be left out. -/
def signPhrase : Phrase := perhaps (ofClass "-+]".toList signs 2)

/-- An escaped full stop. -/
def pointPhrase : Phrase := .atom "\\.".toList { expr := ({} : Flags).atom (.character '.') }

/-- A number of hexadecimal digits. -/
def hexPhrase (counts : String) (count : Nat) : Phrase :=
  times (ofClass "[:xdigit:]]".toList hexDigit 1) counts.toList count count

/-- A hyphen that may be left out. -/
def hyphenPhrase : Phrase := perhaps (literal '-')

/-- The body of the group of a simple kind. -/
def scalarPhrase : Placeholder → Phrase
  | word => several (ofClass "0-9A-Za-z_]".toList CharSet.asciiWord 2)
  | uint => times digitPhrase "1,18\x7d".toList 1 18
  | int => row [signPhrase, times digitPhrase "1,18\x7d".toList 1 18]
  | float => row [signPhrase, several digitPhrase, pointPhrase, several digitPhrase]
  | hex =>
    row [perhaps (.plain (row [literal '0', literal 'x'])),
      several (ofClass "[:xdigit:]]".toList hexDigit 1)]
  | uuid =>
    row [hexPhrase "8\x7d" 8, hyphenPhrase, hexPhrase "4\x7d" 4, hyphenPhrase, hexPhrase "4\x7d" 4,
      hyphenPhrase, hexPhrase "4\x7d" 4, hyphenPhrase, hexPhrase "12\x7d" 12]
  | _ => several (.atom ['.'] { expr := ({} : Flags).ofSet notLineFeed })

/-- The name of a part. -/
def partName (name : List Char) (part : String) : List Char := name ++ part.toList

/-- The group of a part. -/
def partPhrase (name : List Char) (part : String) (body : Phrase) : Phrase :=
  .group (some (partName name part)) body

/-- From `01` to `12`. -/
def monthPhrase : Phrase :=
  row [.group none (row [literal '0', ofClass "1-9]".toList (digits 1 9) 1]), .bar,
    .group none (row [literal '1', ofClass "012]".toList (digits 0 2) 2])]

/-- From `01` to `31`. -/
def dayPhrase : Phrase :=
  row [.group none (row [literal '0', ofClass "1-9]".toList (digits 1 9) 1]), .bar,
    .group none (row [ofClass "12]".toList (digits 1 2) 2, digitPhrase]), .bar,
    .group none (row [literal '3', ofClass "01]".toList (digits 0 1) 2])]

/-- From `00` to `23`. -/
def hourPhrase : Phrase :=
  row [.group none (row [ofClass "01]".toList (digits 0 1) 2, digitPhrase]), .bar,
    .plain (row [literal '2', ofClass "0123]".toList (digits 0 3) 2])]

/-- From `00` to `59`. -/
def sixtyPhrase : Phrase := row [ofClass "0-5]".toList (digits 0 5) 1, digitPhrase]

/-- A slash or a hyphen that may be left out. -/
def slashPhrase : Phrase := perhaps (ofClass "/-]".toList slashes 2)

/-- A colon that may be left out. -/
def colonPhrase : Phrase := perhaps (literal ':')

/-- The month and the day of a date, each with the separator before it. -/
def monthDayPhrase (name : List Char) : Phrase :=
  perhaps (.group none (row [slashPhrase, partPhrase name "_mon" monthPhrase,
    perhaps (.group none (row [slashPhrase, partPhrase name "_mday" dayPhrase]))]))

/-- A fraction of a second. -/
def fractionPhrase : Phrase :=
  perhaps (.group none (row [ofClass ",.]".toList points 2,
    times digitPhrase "1,10\x7d".toList 1 10]))

/-- The minute and the second of a time, each with the colon before it. -/
def minuteSecondPhrase (name : List Char) : Phrase :=
  perhaps (.group none (row [colonPhrase, partPhrase name "_min" sixtyPhrase,
    perhaps (.group none (row [colonPhrase,
      partPhrase name "_sec" (row [sixtyPhrase, fractionPhrase])]))]))

/-- The time zone of a time. -/
def zonePhrase : Phrase :=
  perhaps (.plain (row [literal 'Z', .bar,
    .group none (row [ofClass "-+]".toList signs 2, .plain hourPhrase,
      perhaps (.group none (row [colonPhrase, .plain sixtyPhrase]))])]))

/-- The time of a date. -/
def timePhrase (name : List Char) : Phrase :=
  perhaps (.plain (row [literal 'T', partPhrase name "_hour" hourPhrase, minuteSecondPhrase name,
    zonePhrase]))

/-- The body of the group of a date. -/
def datePhrase (name : List Char) : Phrase :=
  .group none (row [partPhrase name "_year" (times digitPhrase "4\x7d".toList 4 4),
    monthDayPhrase name, timePhrase name])

/-- A number in decimal notation, as it stands in a place. -/
def coordinatePhrase : Phrase :=
  row [hyphenPhrase, several digitPhrase,
    perhaps (.group none (row [pointPhrase, several digitPhrase]))]

/-- Some characters that stand for themselves. -/
def wordPhrase (cs : List Char) : Phrase := row (cs.map literal)

/-- The names of a reference system and of an uncertainty, each of which may be left
out. -/
def tailPhrase (name : List Char) : Phrase :=
  perhaps (.group none (row [
    perhaps (.group none (row [.plain (wordPhrase ";crs=".toList),
      partPhrase name "_crs" (several (ofClass "0-9A-Za-z_-]".toList wordOrHyphen 2))])),
    perhaps (.group none (row [.plain (wordPhrase ";u=".toList),
      partPhrase name "_u" coordinatePhrase]))]))

/-- The grammar of a place. -/
def geoPhrase (name : List Char) : Phrase :=
  row [partPhrase name "_lat" coordinatePhrase, ofClass ",;]".toList commas 2,
    partPhrase name "_lon" coordinatePhrase,
    perhaps (.group none (row [ofClass ",;]".toList commas 2,
      partPhrase name "_alt" coordinatePhrase])),
    tailPhrase name]

/-- The grammar of a placeholder as a phrase. -/
def phrase (kind : Placeholder) (name : List Char) : Phrase :=
  match kind with
  | geo => geoPhrase name
  | date => .group (some name) (datePhrase name)
  | kind => .group (some name) (scalarPhrase kind)

/-- The text of a group with a name. -/
theorem text_named (name : List Char) (body : Phrase) :
    (Phrase.group (some name) body).text = named name body.text := by
  simp only [Phrase.text, named, String.reduceToList, List.append_assoc, List.cons_append,
    List.nil_append]

theorem text_scalar {kind : Placeholder} (hdate : kind ≠ date) (hgeo : kind ≠ geo)
    (name : List Char) : named name (scalarPhrase kind).text = grammar kind name := by
  cases kind with
  | date => exact absurd rfl hdate
  | geo => exact absurd rfl hgeo
  | _ => rfl

set_option maxRecDepth 4000 in
theorem text_date (name : List Char) :
    named name (datePhrase name).text = dateGrammar name := by
  unfold dateGrammar named
  simp only [datePhrase, timePhrase, zonePhrase, minuteSecondPhrase, fractionPhrase,
    monthDayPhrase, colonPhrase, slashPhrase, sixtyPhrase, hourPhrase, dayPhrase, monthPhrase,
    partPhrase, partName, digitPhrase, row, times, perhaps, ofClass, literal, Phrase.text,
    String.reduceToList, List.append_assoc, List.cons_append, List.nil_append]

set_option maxRecDepth 4000 in
theorem text_geo (name : List Char) : (geoPhrase name).text = geoGrammar name := by
  unfold geoGrammar named coordinate
  simp only [geoPhrase, tailPhrase, coordinatePhrase, wordPhrase, hyphenPhrase, pointPhrase,
    partPhrase, partName, digitPhrase, row, several, perhaps, ofClass, literal, Phrase.text,
    String.reduceToList, List.map_cons, List.map_nil, List.append_assoc, List.cons_append,
    List.nil_append]

/-- The text of the phrase is the grammar. -/
theorem text_phrase (kind : Placeholder) (name : List Char) :
    (phrase kind name).text = grammar kind name := by
  cases kind with
  | date => exact (text_named name (datePhrase name)).trans (text_date name)
  | geo => exact text_geo name
  | _ => exact (text_named name _).trans (text_scalar (by decide) (by decide) name)

/-! ### The phrases can be read -/

theorem sound_digit : digitPhrase.Sound := sound_ofClass readClass_digit rfl

theorem sound_sign : signPhrase.Sound := (sound_ofClass readClass_signs rfl).perhaps rfl

theorem sound_point : pointPhrase.Sound :=
  ⟨⟨rfl, fun _ => readsItem_escape fun _ => show readEscape {} (".".toList ++ _) = _ from rfl⟩,
    '\\', ['.'], rfl, by decide⟩

theorem sound_hexClass : (ofClass "[:xdigit:]]".toList hexDigit 1).Sound :=
  sound_ofClass readClass_hexDigit rfl

theorem sound_hyphen : hyphenPhrase.Sound := (sound_literal (by decide)).perhaps rfl

theorem sound_upToEighteen : (times digitPhrase "1,18\x7d".toList 1 18).Sound :=
  sound_digit.times rfl fun _ => rfl

theorem sound_hex {counts : String} {count : Nat}
    (h : ∀ rest, readCount {} (counts.toList ++ rest) = .ok ((count, some count), rest)) :
    (hexPhrase counts count).Sound := sound_hexClass.times rfl h

theorem sound_catchAll :
    (several (.atom ['.'] { expr := ({} : Flags).ofSet notLineFeed })).Sound := by
  have hdot : (Phrase.atom ['.'] { expr := ({} : Flags).ofSet notLineFeed }).Sound :=
    ⟨⟨rfl, fun _ => readsItem_dot⟩, '.', [], rfl, by decide⟩
  exact hdot.several rfl

theorem sound_scalar (kind : Placeholder) : (scalarPhrase kind).Sound := by
  have hfour : (hexPhrase "4\x7d" 4).Sound := sound_hex fun _ => rfl
  cases kind with
  | word => exact (sound_ofClass readClass_word rfl).several rfl
  | uint => exact sound_upToEighteen
  | int => exact sound_sign.beside sound_upToEighteen
  | float =>
    have hdigits := sound_digit.several rfl
    exact sound_sign.beside (hdigits.beside (sound_point.beside hdigits))
  | hex =>
    have hzeroX := (sound_literal (c := '0') (by decide)).beside
      (sound_literal (c := 'x') (by decide))
    exact (hzeroX.plain.perhaps rfl).beside (sound_hexClass.several rfl)
  | uuid =>
    exact (sound_hex fun _ => rfl).beside (sound_hyphen.beside (hfour.beside (sound_hyphen.beside
      (hfour.beside (sound_hyphen.beside (hfour.beside (sound_hyphen.beside
        (sound_hex fun _ => rfl))))))))
  | catchAll => exact sound_catchAll
  | date => exact sound_catchAll
  | geo => exact sound_catchAll

theorem sound_hour : hourPhrase.Sound := by
  have hlow := (sound_ofClass readClass_zeroOne rfl).beside sound_digit
  have hhigh := (sound_literal (c := '2') (by decide)).beside
    (sound_ofClass readClass_zeroToThree rfl)
  exact hlow.unnamed.beside (sound_bar.beside hhigh.plain)

theorem sound_sixty : sixtyPhrase.Sound := (sound_ofClass readClass_zeroToFive rfl).beside sound_digit

theorem sound_month : monthPhrase.Sound := by
  have hlow := (sound_literal (c := '0') (by decide)).beside (sound_ofClass readClass_oneToNine rfl)
  have hhigh := (sound_literal (c := '1') (by decide)).beside (sound_ofClass readClass_zeroToTwo rfl)
  exact hlow.unnamed.beside (sound_bar.beside hhigh.unnamed)

theorem sound_day : dayPhrase.Sound := by
  have hlow := (sound_literal (c := '0') (by decide)).beside (sound_ofClass readClass_oneToNine rfl)
  have hmid := (sound_ofClass readClass_oneTwo rfl).beside sound_digit
  have hhigh := (sound_literal (c := '3') (by decide)).beside (sound_ofClass readClass_zeroOne rfl)
  exact hlow.unnamed.beside (sound_bar.beside (hmid.unnamed.beside (sound_bar.beside hhigh.unnamed)))

section Parts

variable {name : List Char} (hclose : '>' ∉ name)

include hclose

/-- The names of the parts can be closed like that of the placeholder. -/
theorem close_not_mem_partName (part : String) (hpart : '>' ∉ part.toList) :
    '>' ∉ partName name part := by
  unfold partName
  simp [hclose, hpart]

theorem sound_monthDay : (monthDayPhrase name).Sound := by
  have hslash : slashPhrase.Sound := (sound_ofClass readClass_slashes rfl).perhaps rfl
  have hday := hslash.beside (sound_day.named (close_not_mem_partName hclose "_mday" (by decide)))
  have hmonth := sound_month.named (close_not_mem_partName hclose "_mon" (by decide))
  exact (hslash.beside (hmonth.beside (hday.unnamed.perhaps rfl))).unnamed.perhaps rfl

theorem sound_time : (timePhrase name).Sound := by
  have hcolon : colonPhrase.Sound := (sound_literal (by decide)).perhaps rfl
  have hfraction : fractionPhrase.Sound :=
    ((sound_ofClass readClass_points rfl).beside
      (sound_digit.times rfl fun _ => rfl)).unnamed.perhaps rfl
  have hsecond := hcolon.beside ((sound_sixty.beside hfraction).named
    (close_not_mem_partName hclose "_sec" (by decide)))
  have hminute := sound_sixty.named (close_not_mem_partName hclose "_min" (by decide))
  have hminutes : (minuteSecondPhrase name).Sound :=
    (hcolon.beside (hminute.beside (hsecond.unnamed.perhaps rfl))).unnamed.perhaps rfl
  have hoffset := (sound_ofClass readClass_signs rfl).beside (sound_hour.plain.beside
    ((hcolon.beside sound_sixty.plain).unnamed.perhaps rfl))
  have hzone : zonePhrase.Sound :=
    ((sound_literal (by decide)).beside (sound_bar.beside hoffset.unnamed)).plain.perhaps rfl
  have hhour := sound_hour.named (close_not_mem_partName hclose "_hour" (by decide))
  exact ((sound_literal (by decide)).beside
    (hhour.beside (hminutes.beside hzone))).plain.perhaps rfl

theorem sound_date : (datePhrase name).Sound := by
  have hyear := (sound_digit.times rfl fun _ => rfl : (times digitPhrase "4\x7d".toList 4 4).Sound)
  exact ((hyear.named (close_not_mem_partName hclose "_year" (by decide))).beside
    ((sound_monthDay hclose).beside (sound_time hclose))).unnamed

theorem sound_geo : (geoPhrase name).Sound := by
  have hdigits := sound_digit.several rfl
  have hcoordinate : coordinatePhrase.Sound :=
    sound_hyphen.beside (hdigits.beside ((sound_point.beside hdigits).unnamed.perhaps rfl))
  have hcommas : (ofClass ",;]".toList commas 2).Sound := sound_ofClass readClass_commas rfl
  have hplain : ";crs=;u=".toList.all (fun c => decide (c ∉ specials)) = true := by decide
  have hletter : ∀ c ∈ ";crs=;u=".toList, (literal c).Sound := fun c hc =>
    sound_literal (of_decide_eq_true (List.all_eq_true.mp hplain c hc))
  have hcrs : (wordPhrase ";crs=".toList).Sound :=
    (hletter ';' (by decide)).beside ((hletter 'c' (by decide)).beside
      ((hletter 'r' (by decide)).beside ((hletter 's' (by decide)).beside
        (hletter '=' (by decide)))))
  have hu : (wordPhrase ";u=".toList).Sound :=
    (hletter ';' (by decide)).beside ((hletter 'u' (by decide)).beside (hletter '=' (by decide)))
  have hsystem := ((sound_ofClass readClass_wordOrHyphen rfl).several rfl).named
    (close_not_mem_partName hclose "_crs" (by decide))
  have hpart : ∀ part ∈ ["_lat", "_lon", "_alt", "_u"],
      (partPhrase name part coordinatePhrase).Sound := by
    intro part hpart
    exact hcoordinate.named (close_not_mem_partName hclose part (by revert part; decide))
  have htail : (tailPhrase name).Sound :=
    (((hcrs.plain.beside hsystem).unnamed.perhaps rfl).beside
      ((hu.plain.beside (hpart "_u" (by decide))).unnamed.perhaps rfl)).unnamed.perhaps rfl
  exact (hpart "_lat" (by decide)).beside (hcommas.beside ((hpart "_lon" (by decide)).beside
    (((hcommas.beside (hpart "_alt" (by decide))).unnamed.perhaps rfl).beside htail)))

/-- The grammar of every placeholder can be read, but perhaps for its names. -/
theorem sound_phrase (kind : Placeholder) : (phrase kind name).Sound := by
  cases kind with
  | date => exact (sound_date hclose).named hclose
  | geo => exact sound_geo hclose
  | _ => exact (sound_scalar _).named hclose

end Parts
end Placeholder
end Signpost
