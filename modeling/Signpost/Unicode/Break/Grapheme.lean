/-
# Where a reader sees one character end

The classes of characters that decide where what a reader takes for one
character ends, with the properties they are made of. The tables are those of
version 16 of the Unicode Character Database, as sorted, disjoint ranges of
code points.

Key definitions: `Unicode.graphemeExtend`, `Unicode.graphemeBase`,
`Unicode.graphemeLink`, `Unicode.graphemeBreaks`.
-/
import Signpost.Unicode.Layout
import Signpost.Unicode.Emoji

namespace Signpost
namespace Unicode

/-- Characters that extend the one before. -/
def graphemeExtend : CharSet :=
  CharSet.join [nonspacingMark, enclosingMark, supplementGraphemeExtend]

/-- Characters that stand on their own and may be extended. -/
def graphemeBase : CharSet :=
  CharSet.diff
    (CharSet.join
      (spaceSeparator :: (letters ++ marks ++ numbers ++ punctuations ++ symbols)))
    graphemeExtend

/-- Marks that link the consonant before to the one after. -/
def graphemeLink : CharSet := ⟨[
  (0x94D, 0x94D), (0x9CD, 0x9CD), (0xA4D, 0xA4D), (0xACD, 0xACD), (0xB4D, 0xB4D), (0xBCD, 0xBCD),
  (0xC4D, 0xC4D), (0xCCD, 0xCCD), (0xD3B, 0xD3C), (0xD4D, 0xD4D), (0xDCA, 0xDCA), (0xE3A, 0xE3A),
  (0xEBA, 0xEBA), (0xF84, 0xF84), (0x1039, 0x103A), (0x1714, 0x1715), (0x1734, 0x1734),
  (0x17D2, 0x17D2), (0x1A60, 0x1A60), (0x1B44, 0x1B44), (0x1BAA, 0x1BAB), (0x1BF2, 0x1BF3),
  (0x2D7F, 0x2D7F), (0xA806, 0xA806), (0xA82C, 0xA82C), (0xA8C4, 0xA8C4), (0xA953, 0xA953),
  (0xA9C0, 0xA9C0), (0xAAF6, 0xAAF6), (0xABED, 0xABED), (0x10A3F, 0x10A3F), (0x11046, 0x11046),
  (0x11070, 0x11070), (0x1107F, 0x1107F), (0x110B9, 0x110B9), (0x11133, 0x11134),
  (0x111C0, 0x111C0), (0x11235, 0x11235), (0x112EA, 0x112EA), (0x1134D, 0x1134D),
  (0x113CE, 0x113D0), (0x11442, 0x11442), (0x114C2, 0x114C2), (0x115BF, 0x115BF),
  (0x1163F, 0x1163F), (0x116B6, 0x116B6), (0x1172B, 0x1172B), (0x11839, 0x11839),
  (0x1193D, 0x1193E), (0x119E0, 0x119E0), (0x11A34, 0x11A34), (0x11A47, 0x11A47),
  (0x11A99, 0x11A99), (0x11C3F, 0x11C3F), (0x11D44, 0x11D45), (0x11D97, 0x11D97),
  (0x11F41, 0x11F42), (0x1612F, 0x1612F)]⟩

/-- The carriage return. -/
def carriageReturn : CharSet := ⟨[(0xD, 0xD)]⟩

/-- The line feed. -/
def lineFeed : CharSet := ⟨[(0xA, 0xA)]⟩

/-- The zero width joiner. -/
def zeroWidthJoiner : CharSet := ⟨[(0x200D, 0x200D)]⟩

/-- Hangul consonants at the beginning of a syllable. -/
def leadingConsonant : CharSet := ⟨[(0x1100, 0x115F), (0xA960, 0xA97C)]⟩

/-- Hangul and Kirat Rai vowels within a syllable. -/
def medialVowel : CharSet := ⟨[
  (0x1160, 0x11A7), (0xD7B0, 0xD7C6), (0x16D63, 0x16D63), (0x16D67, 0x16D6A)]⟩

/-- Hangul consonants at the end of a syllable. -/
def trailingConsonant : CharSet := ⟨[(0x11A8, 0x11FF), (0xD7CB, 0xD7FB)]⟩

/-- Characters that go with the one after. -/
def prepended : CharSet := ⟨[
  (0x600, 0x605), (0x6DD, 0x6DD), (0x70F, 0x70F), (0x890, 0x891), (0x8E2, 0x8E2), (0xD4E, 0xD4E),
  (0x110BD, 0x110BD), (0x110CD, 0x110CD), (0x111C2, 0x111C3), (0x113D1, 0x113D1),
  (0x1193F, 0x1193F), (0x11941, 0x11941), (0x11A3A, 0x11A3A), (0x11A84, 0x11A89),
  (0x11D46, 0x11D46), (0x11F02, 0x11F02)]⟩

/-- Spacing marks that do not go with the character before. -/
def unjoinedMark : CharSet := ⟨[
  (0x102B, 0x102C), (0x1038, 0x1038), (0x1062, 0x1064), (0x1067, 0x106D), (0x1083, 0x1083),
  (0x1087, 0x108C), (0x108F, 0x108F), (0x109A, 0x109C), (0x1A61, 0x1A61), (0x1A63, 0x1A64),
  (0xAA7B, 0xAA7B), (0xAA7D, 0xAA7D), (0x11720, 0x11721)]⟩

/-- Vowels that go with the character before, though no marks. -/
def joinedVowel : CharSet := ⟨[(0xE33, 0xE33), (0xEB3, 0xEB3)]⟩

/-- Hangul syllables without a consonant at the end: every 28th. -/
def openSyllable : CharSet :=
  ⟨(List.range 399).map fun k => (0xAC00 + 28 * k, 0xAC00 + 28 * k)⟩

/-- Hangul syllables with a consonant at the end. -/
def closedSyllable : CharSet :=
  ⟨(List.range 399).map fun k => (0xAC01 + 28 * k, 0xAC1B + 28 * k)⟩

/-- Spacing marks that go with the character before. -/
def joinedMark : CharSet :=
  CharSet.join
    [joinedVowel, CharSet.diff spacingMark (CharSet.join [graphemeExtend, unjoinedMark])]

/-- Controls, which stand alone. -/
def graphemeControl : CharSet :=
  CharSet.diff
    (CharSet.join [lineSeparator, paragraphSeparator, control, format,
      CharSet.inter defaultIgnorable unassigned])
    (CharSet.join [carriageReturn, lineFeed, zeroWidthJoiner, prependedMark, graphemeExtend])

/-- The classes by their names in normal form. -/
def graphemeBreaks : List (List String × CharSet) := [
  (["cr"], carriageReturn), (["lf"], lineFeed), (["cn", "control"], graphemeControl),
  (["ex", "extend"], CharSet.join [graphemeExtend, emojiModifier]),
  (["l"], leadingConsonant), (["v"], medialVowel), (["t"], trailingConsonant),
  (["lv"], openSyllable), (["lvt"], closedSyllable), (["pp", "prepend"], prepended),
  (["ri", "regionalindicator"], regionalIndicator), (["sm", "spacingmark"], joinedMark),
  (["zwj"], zeroWidthJoiner)]

end Unicode
end Signpost
