/-
# Where a sentence ends

The classes of characters that decide where a sentence ends. The tables are
those of version 16 of the Unicode Character Database, as sorted, disjoint
ranges of code points.

Key definitions: `Unicode.sentenceLower`, `Unicode.sentenceUpper`,
`Unicode.sentenceLetter`, `Unicode.sentenceBreaks`.
-/
import Signpost.Unicode.Casing
import Signpost.Unicode.Writing

namespace Signpost
namespace Unicode

/-- Full stops, which need not end a sentence. -/
def fullStop : CharSet := ⟨[(0x2E, 0x2E), (0x2024, 0x2024), (0xFE52, 0xFE52), (0xFF0E, 0xFF0E)]⟩

/-- Punctuation after which a sentence goes on. -/
def clauseMark : CharSet := ⟨[
  (0x2C, 0x2D), (0x3A, 0x3B), (0x37E, 0x37E), (0x55D, 0x55D), (0x60C, 0x60D), (0x7F8, 0x7F8),
  (0x1802, 0x1802), (0x1808, 0x1808), (0x2013, 0x2014), (0x3001, 0x3001), (0xFE10, 0xFE11),
  (0xFE13, 0xFE14), (0xFE31, 0xFE32), (0xFE50, 0xFE51), (0xFE54, 0xFE55), (0xFE58, 0xFE58),
  (0xFE63, 0xFE63), (0xFF0C, 0xFF0D), (0xFF1A, 0xFF1B), (0xFF64, 0xFF64)]⟩

/-- Line ends other than the carriage return and the line feed. -/
def sentenceSeparator : CharSet := ⟨[(0x85, 0x85), (0x2028, 0x2029)]⟩

/-- Blanks. -/
def sentenceSpace : CharSet := ⟨[
  (0x9, 0x9), (0xB, 0xC), (0x20, 0x20), (0xA0, 0xA0), (0x1680, 0x1680), (0x2000, 0x200A),
  (0x202F, 0x202F), (0x205F, 0x205F), (0x3000, 0x3000)]⟩

/-- Quotation marks and brackets outside the categories of brackets. -/
def quotingSign : CharSet := ⟨[
  (0x22, 0x22), (0x27, 0x27), (0x275B, 0x2760), (0x2E00, 0x2E01), (0x2E06, 0x2E08),
  (0x2E0B, 0x2E0B), (0x1F676, 0x1F678)]⟩

/-- The Georgian capitals, in which whole texts are set. -/
def georgianCapital : CharSet := ⟨[(0x1C90, 0x1CBA), (0x1CBD, 0x1CBF)]⟩

/-- The mark after a Hebrew abbreviation. -/
def geresh : CharSet := ⟨[(0x5F3, 0x5F3)]⟩

/-- The mark between the groups of Arabic numbers. -/
def thousandsMark : CharSet := ⟨[(0x66C, 0x66C)]⟩

/-- Characters that extend the one before. -/
def sentenceExtend : CharSet := CharSet.join [graphemeExtend, spacingMark, zeroWidthJoiner]

/-- Format characters, which sentences pass over. -/
def sentenceFormat : CharSet :=
  CharSet.join [spanMark,
    CharSet.diff format (CharSet.join [joinControl, prependedMark, graphemeExtend])]

/-- Lowercase letters, but for the Georgian ones, which begin sentences too. -/
def sentenceLower : CharSet := CharSet.diff lowercase (CharSet.join [graphemeExtend, caselessTitle])

/-- Letters that begin a sentence. -/
def sentenceUpper : CharSet :=
  CharSet.diff (CharSet.join [uppercase, titlecaseLetter]) georgianCapital

/-- Letters without case. -/
def sentenceLetter : CharSet :=
  CharSet.diff (CharSet.join [alphabetic, geresh])
    (CharSet.join [sentenceLower, sentenceUpper, sentenceExtend])

/-- The classes by their names in normal form. -/
def sentenceBreaks : List (List String × CharSet) := [
  (["cr"], carriageReturn), (["lf"], lineFeed), (["se", "sep"], sentenceSeparator),
  (["sp"], sentenceSpace), (["at", "aterm"], fullStop),
  (["st", "sterm"], CharSet.diff sentenceTerminal fullStop),
  (["cl", "close"],
    CharSet.join [openPunctuation, closePunctuation, initialPunctuation, finalPunctuation,
      quotingSign]),
  (["sc", "scontinue"], clauseMark), (["ex", "extend"], sentenceExtend),
  (["fo", "format"], sentenceFormat), (["lo", "lower"], sentenceLower),
  (["up", "upper"], sentenceUpper), (["le", "oletter"], sentenceLetter),
  (["nu", "numeric"], CharSet.join [wordNumeric, thousandsMark])]

end Unicode
end Signpost
