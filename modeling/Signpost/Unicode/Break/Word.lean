/-
# Where a word ends

The classes of characters that decide where a word ends. The tables are those
of version 16 of the Unicode Character Database, as sorted, disjoint ranges of
code points.

Key definitions: `Unicode.wordExtend`, `Unicode.wordNumeric`,
`Unicode.wordLetter`, `Unicode.wordBreaks`.
-/
import Signpost.Unicode.Break.Grapheme
import Signpost.Unicode.Ideograph
import Signpost.Unicode.Script

namespace Signpost
namespace Unicode

/-- Punctuation that stands inside a word between letters. -/
def midLetter : CharSet := ⟨[
  (0x3A, 0x3A), (0xB7, 0xB7), (0x387, 0x387), (0x55F, 0x55F), (0x5F4, 0x5F4), (0x2027, 0x2027),
  (0xFE13, 0xFE13), (0xFE55, 0xFE55), (0xFF1A, 0xFF1A)]⟩

/-- Punctuation that stands inside a number. -/
def midNumber : CharSet := ⟨[
  (0x2C, 0x2C), (0x3B, 0x3B), (0x37E, 0x37E), (0x589, 0x589), (0x60C, 0x60D), (0x66C, 0x66C),
  (0x7F8, 0x7F8), (0x2044, 0x2044), (0xFE50, 0xFE50), (0xFE54, 0xFE54), (0xFF0C, 0xFF0C),
  (0xFF1B, 0xFF1B)]⟩

/-- Punctuation that stands between letters and inside numbers. -/
def midNumberOrLetter : CharSet := ⟨[
  (0x2E, 0x2E), (0x2018, 0x2019), (0x2024, 0x2024), (0xFE52, 0xFE52), (0xFF07, 0xFF07),
  (0xFF0E, 0xFF0E)]⟩

/-- The single quote. -/
def singleQuote : CharSet := ⟨[(0x27, 0x27)]⟩

/-- The double quote. -/
def doubleQuote : CharSet := ⟨[(0x22, 0x22)]⟩

/-- Line ends other than the carriage return and the line feed. -/
def newline : CharSet := ⟨[(0xB, 0xC), (0x85, 0x85), (0x2028, 0x2029)]⟩

/-- Spaces that stay together. -/
def wordSpace : CharSet := ⟨[
  (0x20, 0x20), (0x1680, 0x1680), (0x2000, 0x2006), (0x2008, 0x200A), (0x205F, 0x205F),
  (0x3000, 0x3000)]⟩

/-- The narrow space without a break. -/
def narrowSpace : CharSet := ⟨[(0x202F, 0x202F)]⟩

/-- Signs that are written among katakana. -/
def kanaSign : CharSet := ⟨[
  (0x3031, 0x3035), (0x309B, 0x309C), (0x30A0, 0x30A0), (0x30FC, 0x30FC), (0xFF70, 0xFF70)]⟩

/-- Symbols that stand inside words like letters. -/
def wordSymbol : CharSet := ⟨[
  (0x2C2, 0x2C5), (0x2D2, 0x2D7), (0x2DE, 0x2DF), (0x2E5, 0x2EB), (0x2ED, 0x2ED), (0x2EF, 0x2FF),
  (0x55A, 0x55C), (0x55E, 0x55E), (0x58A, 0x58A), (0x5F3, 0x5F3), (0x70F, 0x70F), (0xA708, 0xA716),
  (0xA720, 0xA721), (0xA789, 0xA78A), (0xAB5B, 0xAB5B)]⟩

/-- The decimal mark of Arabic numbers and the second digit one of New Tai Lue.
-/
def numberSign : CharSet := ⟨[(0x66B, 0x66B), (0x19DA, 0x19DA)]⟩

/-- The zero width space. -/
def zeroWidthSpace : CharSet := ⟨[(0x200B, 0x200B)]⟩

/-- The prepended mark that goes with letters. -/
def spanMark : CharSet := ⟨[(0x70F, 0x70F)]⟩

/-- The alphabetic characters. -/
def alphabetic : CharSet := CharSet.join alphabetics

/-- Katakana and the signs written among them. -/
def katakana : CharSet := CharSet.join [script "katakana", kanaSign]

/-- Hebrew letters. -/
def hebrewLetter : CharSet := CharSet.inter (script "hebrew") otherLetter

/-- The characters of the scripts that are written without blanks between
words. -/
def unspaced : CharSet :=
  CharSet.join
    (["thai", "lao", "myanmar", "khmer", "taile", "newtailue", "taitham", "taiviet", "ahom"].map
      script)

/-- Characters that extend the one before. -/
def wordExtend : CharSet := CharSet.join [graphemeExtend, spacingMark, emojiModifier]

/-- Format characters, which words pass over. -/
def wordFormat : CharSet :=
  CharSet.diff format (CharSet.join [joinControl, zeroWidthSpace, prependedMark, graphemeExtend])

/-- Characters of numbers. -/
def wordNumeric : CharSet :=
  CharSet.join [decimalNumber, CharSet.diff prependedMark spanMark, numberSign]

/-- Letters of words. -/
def wordLetter : CharSet :=
  CharSet.diff (CharSet.join [alphabetic, wordSymbol])
    (CharSet.join [ideographic, katakana, script "hiragana", wordExtend, hebrewLetter, unspaced])

/-- The classes by their names in normal form. -/
def wordBreaks : List (List String × CharSet) := [
  (["cr"], carriageReturn), (["lf"], lineFeed), (["nl", "newline"], newline),
  (["dq", "doublequote"], doubleQuote), (["sq", "singlequote"], singleQuote),
  (["ex", "extendnumlet"], CharSet.join [connectorPunctuation, narrowSpace]),
  (["extend"], wordExtend), (["fo", "format"], wordFormat), (["hl", "hebrewletter"], hebrewLetter),
  (["ka", "katakana"], katakana), (["le", "aletter"], wordLetter),
  (["mb", "midnumlet"], midNumberOrLetter), (["ml", "midletter"], midLetter),
  (["mn", "midnum"], midNumber), (["nu", "numeric"], wordNumeric),
  (["ri", "regionalindicator"], regionalIndicator), (["wsegspace"], wordSpace),
  (["zwj"], zeroWidthJoiner)]

end Unicode
end Signpost
