/-
# Places

A place on the globe is written as a latitude and a longitude, and then perhaps an
altitude, the name of a reference system and an uncertainty (`Place`). The
placeholder for places accepts just these notations, and its groups hold the parts
(`accepts_place`). A semicolon may stand before an altitude, and always stands before
the parameters `crs` and `u`; the place can be told from a text nevertheless
(`place_text_injective`), for the character behind the semicolon tells which of them
comes (`Parameter`).

Key definitions: `Coordinate`, `Place`, `Place.text`, `Place.part?`, `Parameter`.
Key theorems: `renders_place`, `place_text_injective`, `lookup_placeHeld`,
`accepts_place`.
-/
import Mathlib.Logic.Equiv.Defs
import Signpost.Proofs.Template.Accepted

namespace Signpost
namespace Template

open Regex Placeholder

/-! ### The parts of a place -/

/-- A number in decimal notation. -/
structure Coordinate where
  negative : Bool
  whole : Run Char.isDigit 1 none
  fraction : Option (Run Char.isDigit 1 none)

/-- What stands between two coordinates. -/
abbrev Comma : Type := Among [',', ';']

/-- An altitude, with the comma or semicolon before it. -/
structure Altitude where
  comma : Comma
  value : Coordinate

/-- A character of the name of a reference system. -/
def isSystemChar (c : Char) : Bool := Template.isNameChar c || c == '-'

/-- The name of a reference system. -/
abbrev System : Type := Run isSystemChar 1 none

/-- A place: two coordinates, and what may follow them. -/
structure Place where
  latitude : Coordinate
  comma : Comma
  longitude : Coordinate
  altitude : Option Altitude
  system : Option System
  uncertainty : Option Coordinate

/-! ### What they are made of -/

/-- A coordinate is a hyphen that is there or not, digits, and perhaps digits behind a
point. -/
def Coordinate.parts : Coordinate ≃
    Bool × Run Char.isDigit 1 none × Option (Run Char.isDigit 1 none) where
  toFun c := (c.negative, c.whole, c.fraction)
  invFun x := ⟨x.1, x.2.1, x.2.2⟩

/-- An altitude is a comma or semicolon, and a number. -/
def Altitude.parts : Altitude ≃ Comma × Coordinate where
  toFun a := (a.comma, a.value)
  invFun x := ⟨x.1, x.2⟩

/-- A place is its six fields. -/
def Place.parts : Place ≃
    Coordinate × Comma × Coordinate × Option Altitude × Option System × Option Coordinate where
  toFun p := (p.latitude, p.comma, p.longitude, p.altitude, p.system, p.uncertainty)
  invFun x := ⟨x.1, x.2.1, x.2.2.1, x.2.2.2.1, x.2.2.2.2.1, x.2.2.2.2.2⟩

/-! ### Their notation -/

/-- The digits behind the point, with the point. -/
def fractionText (digits : Run Char.isDigit 1 none) : List Char := ['.'] ++ digits.chars

/-- The hyphen, if it is there, the digits, and those behind the point. -/
def Coordinate.text (c : Coordinate) : List Char :=
  markText ['-'] c.negative ++ c.whole.chars ++ optionText fractionText c.fraction

/-- The number behind its comma or semicolon. -/
def Altitude.text (a : Altitude) : List Char := [a.comma.1] ++ a.value.text

/-- The parameter `crs`, with the name of the system. -/
def systemText (s : System) : List Char := ";crs=".toList ++ s.chars

/-- The parameter `u`, with the number. -/
def uncertaintyText (u : Coordinate) : List Char := ";u=".toList ++ u.text

/-- Latitude and longitude with a comma or semicolon between them, the altitude, and the
two parameters. -/
def Place.text (p : Place) : List Char :=
  p.latitude.text ++ [p.comma.1] ++ p.longitude.text ++ optionText Altitude.text p.altitude ++
    optionText systemText p.system ++ optionText uncertaintyText p.uncertainty

/-! ### What the groups hold -/

section Held

variable (name : List Char)

/-- The group `_alt` holds the number alone. -/
def Altitude.held (a : Altitude) : Held := [holds name "_alt" a.value.text]

/-- The group `_crs` holds the name of the system alone. -/
def systemHeld (s : System) : Held := [holds name "_crs" s.chars]

/-- The group `_u` holds the number alone. -/
def uncertaintyHeld (u : Coordinate) : Held := [holds name "_u" u.text]

/-- The groups `_lat` and `_lon` hold the coordinates; the others hold what follows. No
named group is for the whole place. -/
def Place.held (p : Place) : Held :=
  optionHeld (uncertaintyHeld name) p.uncertainty ++ optionHeld (systemHeld name) p.system ++
    optionHeld (Altitude.held name) p.altitude ++ [holds name "_lon" p.longitude.text] ++
    [holds name "_lat" p.latitude.text]

end Held

/-! ### Renderings -/

theorem isSystemChar_lt {c : Char} (h : isSystemChar c = true) : c.toNat < 128 := by
  rcases Bool.or_eq_true_iff.mp h with hname | hhyphen
  · exact isNameChar_lt hname
  · rw [beq_iff_eq.mp hhyphen]
    decide

theorem contains_wordOrHyphen (c : Char) : wordOrHyphen.contains c = isSystemChar c :=
  contains_eq (by decide) (by decide) (fun _ => isSystemChar_lt) c

section Renderings

variable {name : List Char} {count : Nat}

theorem renders_coordinate :
    Renders (coordinateExpr count).Yields Coordinate.text noneHeld := by
  have hdigits : Renders (severalExpr digitExpr).Yields
      (Run.chars : Run Char.isDigit 1 none → List Char) noneHeld :=
    renders_digits (by simp)
  have hfraction : Renders (perhapsExpr (.group (count + 1) none
      (.sequence [.char '.', severalExpr digitExpr]))).Yields (optionText fractionText) noneHeld :=
    ((renders_char '.').after hdigits.last).sequence.unnamed.option_noneHeld
  exact (renders_hyphen.cons (hdigits.cons hfraction.last)).sequence.map
    Coordinate.parts Coordinate.parts.surjective (fun _ => List.append_assoc _ _ _) fun _ => rfl

theorem renders_coordinatePart (part : String) :
    Renders (coordinatePartExpr name part count).Yields Coordinate.text
      (fun c => [holds name part c.text]) :=
  renders_part part renders_coordinate

theorem renders_comma : Renders (setExpr commas).Yields (fun c : Comma => [c.1]) noneHeld :=
  renders_among contains_commas

theorem renders_altitude : Renders (altitudeExpr name count).Yields (optionText Altitude.text)
    (optionHeld (Altitude.held name)) := by
  have hbody : Renders (Expr.group (count + 1) none (.sequence [setExpr commas,
      coordinatePartExpr name "_alt" (count + 1)])).Yields Altitude.text (Altitude.held name) :=
    (renders_comma.cons (renders_coordinatePart "_alt").last).sequence.unnamed.map
      Altitude.parts Altitude.parts.surjective (fun _ => rfl) fun _ => rfl
  exact hbody.option

theorem renders_system : Renders (systemExpr name count).Yields (optionText systemText)
    (optionHeld (systemHeld name)) := by
  have hchars : Renders (severalExpr (setExpr wordOrHyphen)).Yields
      (Run.chars : System → List Char) noneHeld := renders_run contains_wordOrHyphen (by simp)
  exact ((renders_chars ";crs=".toList).sequence.after
    (renders_part "_crs" hchars).last).sequence.unnamed.option

theorem renders_uncertainty : Renders (uncertaintyExpr name count).Yields
    (optionText uncertaintyText) (optionHeld (uncertaintyHeld name)) :=
  ((renders_chars ";u=".toList).sequence.after
    (renders_coordinatePart "_u").last).sequence.unnamed.option

/-- Both parameters may be left out, and then it is the same whether the group around
them is. -/
theorem renders_tail : Renders (tailExpr name count).Yields
    (fun x : Option System × Option Coordinate =>
      optionText systemText x.1 ++ optionText uncertaintyText x.2)
    (fun x => optionHeld (uncertaintyHeld name) x.2 ++ optionHeld (systemHeld name) x.1) :=
  (renders_system.cons renders_uncertainty.last).sequence.unnamed.option_of_empty (none, none)
    rfl rfl

/-- The placeholder for places yields the notations of places. -/
theorem renders_place : Renders (Expr.YieldsAll (Placeholder.geo.exprs name 0)) Place.text
    (Place.held name) :=
  ((renders_coordinatePart "_lat").cons (renders_comma.cons
    ((renders_coordinatePart "_lon").cons (renders_altitude.cons renders_tail.last)))).map
    Place.parts Place.parts.surjective (fun p => by simp [Place.text, Place.parts])
    fun p => by simp [Place.held, Place.parts, noneHeld]

end Renderings

/-! ### Reading a place back -/

/-- What the digits of a coordinate may go on with. -/
def coordinateMark (c : Char) : Bool := c.isDigit || c == '.'

/-- Nothing, or a parameter whose name begins with one of the letters. -/
def Parameter (letters : List Char) (rest : List Char) : Prop :=
  rest = [] ∨ ∃ c ∈ letters, ∃ cs, rest = ';' :: c :: cs

section Reading

variable {α : Type} {text : α → List Char} {letters rest : List Char}

theorem stops_fractionOption (fraction : Option (Run Char.isDigit 1 none))
    (h : Stops coordinateMark rest) :
    Stops Char.isDigit (optionText fractionText fraction ++ rest) := by
  cases fraction with
  | none => exact h.mono fun _ hc => Bool.or_eq_true_iff.mpr (Or.inl hc)
  | some digits => exact stops_cons.mpr (by decide)

/-- A coordinate begins with a hyphen or a digit. -/
theorem head_coordinate (x : Coordinate) :
    ∃ c cs, x.text = c :: cs ∧ (c = '-' ∨ c.isDigit = true) := by
  obtain ⟨negative, ⟨chars, hall, hleast, hmost⟩, fraction⟩ := x
  cases negative with
  | true => exact ⟨'-', _, rfl, Or.inl rfl⟩
  | false =>
    obtain ⟨c, cs, rfl⟩ := List.exists_cons_of_length_pos hleast
    exact ⟨c, cs ++ optionText fractionText fraction, rfl, Or.inr (hall c List.mem_cons_self)⟩

theorem readable_coordinate : Readable Coordinate.text (Stops coordinateMark) := by
  have hdigits : ∀ run : Run Char.isDigit 1 none, ∀ rest,
      Stops (fun c => decide (c ∈ ['-'])) (run.chars ++ rest) := by
    rintro ⟨chars, hall, hleast, -⟩ rest
    obtain ⟨c, cs, rfl⟩ := List.exists_cons_of_length_pos hleast
    rw [List.cons_append, stops_cons, decide_eq_false_iff_not, List.mem_singleton]
    rintro rfl
    exact absurd (hall '-' List.mem_cons_self) (by decide)
  have hrun : Readable (Run.chars : Run Char.isDigit 1 none → List Char) (Stops Char.isDigit) :=
    readable_run
  have hfraction : Readable (optionText fractionText) (Stops coordinateMark) :=
    ((hrun.mono fun rest => stops_fractionOption none).after ['.']).option_of_stops
      (fun digits => ⟨'.', digits.chars, rfl, by decide⟩) fun _ h => h
  have hwhole := hrun.both hfraction fun fraction rest => stops_fractionOption fraction
  exact ((readable_mark '-').both hwhole fun x rest _ => by
      rw [List.append_assoc]
      exact hdigits x.1 _).of_injective
    Coordinate.parts Coordinate.parts.injective fun _ => List.append_assoc _ _ _

namespace Parameter

theorem stops {p : Char → Bool} (h : Parameter letters rest) (hp : p ';' = false) :
    Stops p rest := by
  rcases h with rfl | ⟨c, -, cs, rfl⟩
  · exact stops_nil p
  · exact stops_cons.mpr hp

/-- A parameter that may be left out, and parameters behind it. -/
theorem option {c : Char} (h : Parameter letters rest)
    (htext : ∀ a, ∃ cs, text a = ';' :: c :: cs) (a : Option α) :
    Parameter (c :: letters) (optionText text a ++ rest) := by
  cases a with
  | none =>
    rcases h with rfl | ⟨d, hd, cs, rfl⟩
    · exact Or.inl rfl
    · exact Or.inr ⟨d, List.mem_cons_of_mem c hd, cs, rfl⟩
  | some a =>
    obtain ⟨cs, htext⟩ := htext a
    exact Or.inr ⟨c, List.mem_cons_self, cs ++ rest, by rw [optionText, htext]; rfl⟩

end Parameter

/-- What may be left out can be told from a parameter by its second character. -/
theorem readable_option_of_parameter (h : Readable text (Parameter letters))
    (hstart : ∀ a, ∃ d c cs, text a = d :: c :: cs ∧ c ∉ letters) :
    Readable (optionText text) (Parameter letters) := by
  refine h.option fun a rest rest' hrest' heq => ?_
  obtain ⟨d, c, cs, htext, hc⟩ := hstart a
  rw [htext] at heq
  rcases hrest' with rfl | ⟨c', hc', cs', rfl⟩
  · cases heq
  · obtain ⟨hcc', -⟩ := List.cons.inj (List.cons.inj heq).2
    exact hc (hcc' ▸ hc')

theorem readable_coordinate_parameter : Readable Coordinate.text (Parameter letters) :=
  readable_coordinate.mono fun _ h => h.stops (by decide)

theorem readable_altitudeOption :
    Readable (optionText Altitude.text) (Parameter ['c', 'u']) := by
  have haltitude : Readable Altitude.text (Parameter ['c', 'u']) :=
    ((readable_among (P := fun _ => True)).both readable_coordinate_parameter
      fun _ _ _ => trivial).of_injective Altitude.parts Altitude.parts.injective fun _ => rfl
  refine readable_option_of_parameter haltitude fun a => ?_
  obtain ⟨c, cs, htext, hc⟩ := head_coordinate a.value
  refine ⟨a.comma.1, c, cs, by rw [Altitude.text, htext]; rfl, fun hmem => ?_⟩
  have hletter : ∀ d ∈ ['c', 'u'], ¬(d = '-' ∨ d.isDigit = true) := by simp
  exact hletter c hmem hc

theorem readable_systemOption : Readable (optionText systemText) (Parameter ['u']) := by
  have hchars : Readable (Run.chars : System → List Char) (Parameter ['u']) :=
    readable_run.mono fun _ h => h.stops (by decide)
  exact readable_option_of_parameter (hchars.after ";crs=".toList)
    fun s => ⟨';', 'c', "rs=".toList ++ s.chars, rfl, by decide⟩

theorem readable_uncertaintyOption : Readable (optionText uncertaintyText) (Parameter []) :=
  readable_option_of_parameter (readable_coordinate_parameter.after ";u=".toList)
    fun u => ⟨';', 'u', '=' :: u.text, rfl, List.not_mem_nil⟩

/-- What comes behind an altitude are parameters. -/
theorem parameter_uncertaintyOption (u : Option Coordinate) (h : Parameter [] rest) :
    Parameter ['u'] (optionText uncertaintyText u ++ rest) :=
  h.option (fun u => ⟨'=' :: u.text, rfl⟩) u

theorem parameter_systemOption (s : Option System) (u : Option Coordinate)
    (h : Parameter [] rest) : Parameter ['c', 'u']
      (optionText systemText s ++ optionText uncertaintyText u ++ rest) := by
  rw [List.append_assoc]
  exact (parameter_uncertaintyOption u h).option (fun s => ⟨"rs=".toList ++ s.chars, rfl⟩) s

/-- Neither of the characters between two coordinates goes on the first. -/
theorem coordinateMark_comma (c : Comma) : coordinateMark c.1 = false := by
  have hcomma : ∀ c ∈ [',', ';'], coordinateMark c = false := by simp [coordinateMark]
  exact hcomma c.1 c.2

theorem stops_altitudeOption (a : Option Altitude) (h : Parameter letters rest) :
    Stops coordinateMark (optionText Altitude.text a ++ rest) := by
  cases a with
  | none => exact h.stops (by decide)
  | some a => exact stops_cons.mpr (coordinateMark_comma a.comma)

/-- **A place can be told from its notation.** -/
theorem place_text_injective : Function.Injective Place.text := by
  have htail := readable_systemOption.both readable_uncertaintyOption
    fun u _ => parameter_uncertaintyOption u
  have haltitude := readable_altitudeOption.both htail fun x _ => parameter_systemOption x.1 x.2
  have hlongitude := readable_coordinate.both haltitude fun x rest h => by
    rw [List.append_assoc]
    exact stops_altitudeOption x.1 (parameter_systemOption x.2.1 x.2.2 h)
  have hseparator : Readable (fun c : Comma => [c.1]) fun _ => True := readable_among
  have hseparated := hseparator.both hlongitude fun _ _ _ => trivial
  have hplace : Readable Place.text (Parameter []) :=
    (readable_coordinate.both hseparated fun x _ _ =>
      stops_cons.mpr (coordinateMark_comma x.1)).of_injective
      Place.parts Place.parts.injective fun p => by simp [Place.text, Place.parts]
  exact hplace.injective (Or.inl rfl)

end Reading

/-! ### What the placeholder for places accepts -/

/-- The part of a place that the group with the given suffix stands for; it may have been
left out. -/
def Place.part? (p : Place) : String → Option (List Char)
  | "_lat" => some p.latitude.text
  | "_lon" => some p.longitude.text
  | "_alt" => p.altitude.map (·.value.text)
  | "_crs" => p.system.map (·.chars)
  | "_u" => p.uncertainty.map (·.text)
  | _ => none

section Lookup

variable (name : List Char)

/-- One group around a part that may be left out. -/
theorem lookup_optionHeld {α : Type} (text : α → List Char) (part part' : String)
    (a : Option α) :
    (optionHeld (fun a => [holds name part' (text a)]) a).lookup
      (String.ofList (partName name part)) = if part = part' then a.map text else none := by
  cases a with
  | none => exact (ite_self none).symm
  | some a => exact lookup_holds name part part' (text a) []

theorem lookup_placeHeld (p : Place) {part : String} (hpart : part ∈ Placeholder.geo.suffixes) :
    (Place.held name p).lookup (String.ofList (partName name part)) = p.part? part := by
  have huncertainty : (optionHeld (uncertaintyHeld name) p.uncertainty).lookup
      (String.ofList (partName name part)) = if part = "_u" then p.uncertainty.map (·.text) else none :=
    lookup_optionHeld name Coordinate.text part "_u" p.uncertainty
  have hsystem : (optionHeld (systemHeld name) p.system).lookup
      (String.ofList (partName name part)) = if part = "_crs" then p.system.map (·.chars) else none :=
    lookup_optionHeld name Run.chars part "_crs" p.system
  have haltitude : (optionHeld (Altitude.held name) p.altitude).lookup
      (String.ofList (partName name part)) =
        if part = "_alt" then p.altitude.map (·.value.text) else none :=
    lookup_optionHeld name (fun a : Altitude => a.value.text) part "_alt" p.altitude
  rw [Place.held, List.lookup_append, List.lookup_append, List.lookup_append, List.lookup_append,
    huncertainty, hsystem, haltitude, lookup_holds, lookup_holds]
  simp only [suffixes, List.mem_cons, List.not_mem_nil, or_false] at hpart
  rcases hpart with rfl | rfl | rfl | rfl | rfl <;> simp [Place.part?]

end Lookup

/-- **Places.** The placeholder for places, with a name that begins with a letter or a
low line, compiles, and matches just the texts that are the notation of a place. There
is only one such place. The groups then hold its parts, where they were not left
out. -/
theorem accepts_place {name : String} (hword : IsWord name.toList)
    (hbegins : BeginsWell name.toList) :
    Function.Injective Place.text ∧
    ∃ r, compile (single .geo name) = .ok r ∧
      (∀ segment : String, r.isMatch segment = true ↔ ∃ p : Place, segment.toList = p.text) ∧
      ∀ (segment : String) (p : Place), segment.toList = p.text →
        ∃ found, r.captures? segment = some found ∧ found.whole = segment ∧
          ∀ part ∈ Placeholder.geo.suffixes,
            r.held? found (name ++ part) = some ((p.part? part).map String.ofList) := by
  obtain ⟨r, hr, hmatch, hheld⟩ := accepts_single hword hbegins Place.part?
    renders_place place_text_injective fun p _ => lookup_placeHeld name.toList p
  exact ⟨place_text_injective, r, hr, hmatch, hheld⟩

/-- A place without an altitude, whose longitude a semicolon comes before. -/
theorem accepts_place_flat :
    (IsWord "g".toList ∧ BeginsWell "g".toList) ∧
      ∃ r, compile "\x7bgeo:g\x7d" = .ok r ∧
        ∃ found, r.captures? "48.2;-16;crs=wgs84;u=40" = some found ∧
          r.held? found "g_lat" = some (some "48.2") ∧ r.held? found "g_lon" = some (some "-16") ∧
          r.held? found "g_alt" = some none ∧ r.held? found "g_crs" = some (some "wgs84") ∧
          r.held? found "g_u" = some (some "40") := by
  have hword : IsWord "g".toList := isWord_of_all (by decide) rfl
  have hbegins : BeginsWell "g".toList := by decide
  obtain ⟨-, r, hr, -, hheld⟩ := accepts_place hword hbegins
  obtain ⟨found, hfound, -, hparts⟩ := hheld "48.2;-16;crs=wgs84;u=40"
    ⟨⟨false, ⟨['4', '8'], by simp, by decide, by simp⟩,
        some ⟨['2'], by simp, by decide, by simp⟩⟩, ⟨';', by decide⟩,
      ⟨true, ⟨['1', '6'], by simp, by decide, by simp⟩, none⟩, none,
      some ⟨"wgs84".toList, List.all_eq_true.mp (by decide), by decide, by simp⟩,
      some ⟨false, ⟨['4', '0'], by simp, by decide, by simp⟩, none⟩⟩ (by rfl)
  exact ⟨⟨hword, hbegins⟩, r, hr, found, hfound, hparts "_lat" (by decide),
    hparts "_lon" (by decide), hparts "_alt" (by decide), hparts "_crs" (by decide),
    hparts "_u" (by decide)⟩

end Template
end Signpost
