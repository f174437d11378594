/-
# Groups of categories

The general categories in their groups: letters, marks, numbers, punctuation,
symbols, separators and others; and the sets that are made of several of them.

Key definitions: `Unicode.letters`, `Unicode.marks`, `Unicode.numbers`,
`Unicode.alphabetics`, `Unicode.assigned`, `Unicode.unassigned`,
`Unicode.word`, `Unicode.any`.
-/
import Signpost.Unicode.Letter
import Signpost.Unicode.Mark
import Signpost.Unicode.Number
import Signpost.Unicode.Punctuation
import Signpost.Unicode.Symbol
import Signpost.Unicode.Separator
import Signpost.Unicode.Other
import Signpost.Unicode.Supplement

namespace Signpost
namespace Unicode

open CharSet (compl join)

/-- True if one of some sets has the character. -/
def isIn (sets : List CharSet) (c : Char) : Bool := sets.any fun s => s.contains c

/-- The categories of letters with case. -/
def casedLetters : List CharSet := [lowercaseLetter, uppercaseLetter, titlecaseLetter]

/-- The categories of letters. -/
def letters : List CharSet := casedLetters ++ [modifierLetter, otherLetter]

/-- The categories of marks. -/
def marks : List CharSet := [nonspacingMark, spacingMark, enclosingMark]

/-- The categories of numbers. -/
def numbers : List CharSet := [decimalNumber, letterNumber, otherNumber]

/-- The categories of punctuation. -/
def punctuations : List CharSet :=
  [connectorPunctuation, dashPunctuation, openPunctuation, closePunctuation,
    initialPunctuation, finalPunctuation, otherPunctuation]

/-- The categories of symbols. -/
def symbols : List CharSet := [mathSymbol, currencySymbol, modifierSymbol, otherSymbol]

/-- The categories of separators. -/
def separators : List CharSet := [spaceSeparator, lineSeparator, paragraphSeparator]

/-- The categories of characters without a picture of their own. -/
def others : List CharSet := [control, format, privateUse]

/-- The parts of the alphabetic characters. -/
def alphabetics : List CharSet := letters ++ [letterNumber, supplementAlphabetic]

/-- The zero width joiner and its opposite, which may stand inside words. -/
def joinControl : CharSet := ⟨[(0x200C, 0x200D)]⟩

/-- The parts of the characters of words: alphabetic characters, decimal
digits, marks, connectors and the join controls. -/
def words : List CharSet :=
  alphabetics ++ decimalNumber :: connectorPunctuation :: joinControl :: marks

/-- All characters to which a category other than "unassigned" is given. -/
def assigned : CharSet :=
  join (letters ++ marks ++ numbers ++ punctuations ++ symbols ++ separators ++ others)

/-- The surrogates, which are code points but no characters. -/
def surrogates : CharSet := ⟨[(0xD800, 0xDFFF)]⟩

/-- Characters without an assignment. -/
def unassigned : CharSet := compl assigned

/-- The characters of words. -/
def word : CharSet := join words

/-- The ASCII characters. -/
def ascii : CharSet := ⟨[(0, 0x7F)]⟩

/-- All characters. -/
def any : CharSet := compl CharSet.empty

end Unicode
end Signpost
