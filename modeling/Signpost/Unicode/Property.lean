/-
# Character properties by name

The sets that an expression may name. Alone it may name a property that a
character has or has not, a general category or a script; with a value, the
general category, the script, the scripts a character is used with, the age of
characters, and the classes that decide where a reader's character, a word and
a sentence end. Names are compared loosely: case, blanks, hyphens, low lines
and a leading `is` do not count. The sets hold the characters of version 16;
the predicates for the letters and numbers in names go by version 17.

Key definitions: `Unicode.isWhiteSpace`, `Unicode.isAlphabetic`,
`Unicode.isAlphanumeric`, `Unicode.isWord`, `Unicode.flagProperties`,
`Unicode.property?`, `Unicode.propertyValue?`.
-/
import Signpost.Unicode.Age
import Signpost.Unicode.Break.Sentence
import Signpost.Unicode.Category
import Signpost.Unicode.Identifier
import Signpost.Unicode.Recent
import Signpost.Unicode.Script.Shared

namespace Signpost
namespace Unicode

open CharSet (join)

/-- The names of the properties that a character has or has not, in normal
form. -/
def flagProperties : List (List String × CharSet) := [
  (["ahex", "asciihexdigit"], asciiHexDigit), (["alpha", "alphabetic"], alphabetic),
  (["bidic", "bidicontrol"], bidiControl), (["bidim", "bidimirrored"], bidiMirrored),
  (["cased"], cased), (["ci", "caseignorable"], caseIgnorable),
  (["cwcf", "changeswhencasefolded"], changesCasefolded),
  (["cwcm", "changeswhencasemapped"], changesCasemapped),
  (["cwl", "changeswhenlowercased"], changesLowercased),
  (["cwt", "changeswhentitlecased"], changesTitlecased),
  (["cwu", "changeswhenuppercased"], changesUppercased),
  (["dash"], dash), (["dep", "deprecated"], outdated),
  (["di", "defaultignorablecodepoint"], defaultIgnorable), (["dia", "diacritic"], diacritic),
  (["ebase", "emojimodifierbase"], emojiModifierBase),
  (["ecomp", "emojicomponent"], emojiComponent),
  (["emod", "emojimodifier"], emojiModifier), (["emoji"], emoji),
  (["epres", "emojipresentation"], emojiPresentation), (["ext", "extender"], extender),
  (["extpict", "extendedpictographic"], extendedPictographic),
  (["grbase", "graphemebase"], graphemeBase), (["grext", "graphemeextend"], graphemeExtend),
  (["grlink", "graphemelink"], graphemeLink), (["hex", "hexdigit"], hexDigit),
  (["hyphen"], hyphen), (["idc", "idcontinue"], idContinue), (["ids", "idstart"], idStart),
  (["idcompatmathcontinue"], mathContinue), (["idcompatmathstart"], mathStart),
  (["ideo", "ideographic"], ideographic), (["idsb", "idsbinaryoperator"], binaryDescription),
  (["idst", "idstrinaryoperator"], trinaryDescription),
  (["idsu", "idsunaryoperator"], unaryDescription), (["joinc", "joincontrol"], joinControl),
  (["loe", "logicalorderexception"], logicalOrderException), (["lower", "lowercase"], lowercase),
  (["math"], join [mathSymbol, supplementMath]), (["mcm", "modifiercombiningmark"], modifierMark),
  (["nchar", "noncharactercodepoint"], noncharacter),
  (["oalpha", "otheralphabetic"], supplementAlphabetic),
  (["odi", "otherdefaultignorablecodepoint"], supplementIgnorable),
  (["ogrext", "othergraphemeextend"], supplementGraphemeExtend),
  (["oidc", "otheridcontinue"], supplementIdContinue),
  (["oids", "otheridstart"], supplementIdStart),
  (["olower", "otherlowercase"], supplementLowercase),
  (["omath", "othermath"], supplementMath), (["oupper", "otheruppercase"], supplementUppercase),
  (["patsyn", "patternsyntax"], patternSyntax),
  (["patws", "patternwhitespace"], patternWhiteSpace),
  (["pcm", "prependedconcatenationmark"], prependedMark),
  (["qmark", "quotationmark"], quotationMark), (["radical"], radical),
  (["ri", "regionalindicator"], regionalIndicator), (["sd", "softdotted"], softDotted),
  (["sterm", "sentenceterminal"], sentenceTerminal),
  (["term", "terminalpunctuation"], terminalPunctuation),
  (["uideo", "unifiedideograph"], unifiedIdeograph), (["upper", "uppercase"], uppercase),
  (["vs", "variationselector"], variationSelector),
  (["space", "wspace", "whitespace"], whiteSpace), (["xidc", "xidcontinue"], xidContinue),
  (["xids", "xidstart"], xidStart)]

/-- The set of a property, a category or a script that is named alone. -/
def property? (name : List Char) : Option CharSet :=
  let key := normalName name
  ((named key flagProperties).or (named key categories)).or (named key scripts)

/-- The look-ups of the properties that are named with a value, by their names
in normal form. -/
def valueProperties : List (List String × (String → Option CharSet)) := [
  (["gc", "generalcategory"], fun value => named value categories),
  (["sc", "script"], fun value => named value scripts),
  (["scx", "scriptextensions"], scriptExtension?), (["age"], age?),
  (["gcb", "graphemeclusterbreak"], fun value => named value graphemeBreaks),
  (["wb", "wordbreak"], fun value => named value wordBreaks),
  (["sb", "sentencebreak"], fun value => named value sentenceBreaks)]

/-- The set of a property that is named with its value, such as the general
category `Lu`, the script `Greek` or the age `6.0`. -/
def propertyValue? (name value : List Char) : Option CharSet :=
  (valueProperties.find? fun entry => entry.1.contains (normalName name)).bind
    fun entry => entry.2 (normalName value)

/-- White space, for one character. -/
def isWhiteSpace (c : Char) : Bool := whiteSpace.contains c

/-- Alphabetic as of version 17, for one character: letters, letter numbers and
some marks and symbols. -/
def isAlphabetic (c : Char) : Bool := isIn (recentAlphabetic :: alphabetics) c

/-- Alphabetic or a number as of version 17, for one character. -/
def isAlphanumeric (c : Char) : Bool :=
  isAlphabetic c || isIn (recentNumber :: numbers) c

/-- Part of a word, for one character. -/
def isWord (c : Char) : Bool := isIn words c

end Unicode
end Signpost
