/-
# Placeholders

A placeholder stands in the template of a path segment for text of some kind,
such as an integer or a date. Each kind has a grammar, the text of a regular
expression in which the name of the placeholder names the groups.

Key definitions: `Placeholder`, `Placeholder.ofKind?`, `Placeholder.grammar`.
-/

namespace Signpost

/-- The kinds of placeholders. -/
inductive Placeholder where
  /-- One character or more, of any sort but line feeds. -/
  | catchAll
  /-- Letters, digits and low lines of ASCII. -/
  | word
  /-- An integer without sign, of up to 18 digits. -/
  | uint
  /-- An integer with or without sign, of up to 18 digits. -/
  | int
  /-- A decimal fraction, with digits on both sides of the point. -/
  | float
  /-- A hexadecimal number, with or without `0x`. -/
  | hex
  /-- A universally unique identifier, with or without its hyphens. -/
  | uuid
  /-- A date, with or without a time and a time zone. -/
  | date
  /-- A place on the globe: latitude, longitude and what may follow them. -/
  | geo
deriving Repr, DecidableEq, Inhabited

namespace Placeholder

/-- The kind that a placeholder asks for; one that names no kind catches
all. -/
def ofKind? : Option String → Option Placeholder
  | none => some catchAll
  | some "word" => some word
  | some "uint" => some uint
  | some "int" => some int
  | some "float" => some float
  | some "hex" => some hex
  | some "uuid" => some uuid
  | some "date" => some date
  | some "geo" => some geo
  | some _ => none

/-- A group named `name` around `body`. -/
def named (name body : List Char) : List Char :=
  "(?P<".toList ++ name ++ ">".toList ++ body ++ ")".toList

/-- A hexadecimal digit, `count` times. -/
def hexDigits (count : String) : List Char :=
  "[[:xdigit:]]\x7b".toList ++ count.toList ++ "\x7d".toList

/-- A number in decimal notation, as it stands in a place. -/
def coordinate : List Char := "-?[0-9]+(\\.[0-9]+)?".toList

/-- Four digits for the year; then, each with or without a separator before
it, two for the month and two for the day; then perhaps a `T`, two digits for
the hour, and likewise for minute and second, the second with or without a
fraction; and after a time perhaps a `Z` or an offset. -/
def dateGrammar (name : List Char) : List Char :=
  named name <|
    "(".toList ++ named (name ++ "_year".toList) "[0-9]\x7b4\x7d".toList ++
    "([/-]?".toList ++ named (name ++ "_mon".toList) "(0[1-9])|(1[012])".toList ++
    "([/-]?".toList ++ named (name ++ "_mday".toList) "(0[1-9])|([12][0-9])|(3[01])".toList ++
    ")?)?".toList ++
    "(?:T".toList ++ named (name ++ "_hour".toList) "([01][0-9])|(?:2[0123])".toList ++
    "(:?".toList ++ named (name ++ "_min".toList) "[0-5][0-9]".toList ++
    "(:?".toList ++
    named (name ++ "_sec".toList) "[0-5][0-9]([,.][0-9]\x7b1,10\x7d)?".toList ++
    ")?)?".toList ++
    "(?:Z|([-+](?:([01][0-9])|(?:2[0123]))(:?(?:[0-5][0-9]))?))?)?".toList ++
    ")".toList

/-- Latitude and longitude, perhaps an altitude, and perhaps the names of a
reference system and an uncertainty. -/
def geoGrammar (name : List Char) : List Char :=
  named (name ++ "_lat".toList) coordinate ++ "[,;]".toList ++
  named (name ++ "_lon".toList) coordinate ++
  "([,;]".toList ++ named (name ++ "_alt".toList) coordinate ++ ")?".toList ++
  "(((?:;crs=)".toList ++ named (name ++ "_crs".toList) "[0-9A-Za-z_-]+".toList ++ ")?".toList ++
  "((?:;u=)".toList ++ named (name ++ "_u".toList) coordinate ++ ")?)?".toList

/-- The text of the regular expression that a placeholder stands for. -/
def grammar (kind : Placeholder) (name : List Char) : List Char :=
  match kind with
  | catchAll => named name ".+".toList
  | word => named name "[0-9A-Za-z_]+".toList
  | uint => named name "[0-9]\x7b1,18\x7d".toList
  | int => named name "[-+]?[0-9]\x7b1,18\x7d".toList
  | float => named name "[-+]?[0-9]+\\.[0-9]+".toList
  | hex => named name "(?:0x)?[[:xdigit:]]+".toList
  | uuid =>
    named name <| hexDigits "8" ++ "-?".toList ++ hexDigits "4" ++ "-?".toList ++
      hexDigits "4" ++ "-?".toList ++ hexDigits "4" ++ "-?".toList ++ hexDigits "12"
  | date => dateGrammar name
  | geo => geoGrammar name

end Placeholder
end Signpost
