/-
# General categories by name

The general categories and their groups, with the sets of all characters, of
the ASCII characters and of the assigned ones, each under its names in normal
form.

Key definitions: `Unicode.categories`.
-/
import Signpost.Unicode.Group

namespace Signpost
namespace Unicode

open CharSet (join)

/-- The names of the general categories and their groups, in normal form. -/
def categories : List (List String × CharSet) := [
  (["any"], any), (["ascii"], ascii), (["assigned"], assigned),
  (["l", "letter"], join letters), (["lc", "casedletter"], join casedLetters),
  (["lu", "uppercaseletter"], uppercaseLetter), (["ll", "lowercaseletter"], lowercaseLetter),
  (["lt", "titlecaseletter"], titlecaseLetter), (["lm", "modifierletter"], modifierLetter),
  (["lo", "otherletter"], otherLetter),
  (["m", "mark", "combiningmark"], join marks), (["mn", "nonspacingmark"], nonspacingMark),
  (["mc", "spacingmark"], spacingMark), (["me", "enclosingmark"], enclosingMark),
  (["n", "number"], join numbers), (["nd", "decimalnumber", "digit"], decimalNumber),
  (["nl", "letternumber"], letterNumber), (["no", "othernumber"], otherNumber),
  (["p", "punctuation", "punct"], join punctuations),
  (["pc", "connectorpunctuation"], connectorPunctuation),
  (["pd", "dashpunctuation"], dashPunctuation), (["ps", "openpunctuation"], openPunctuation),
  (["pe", "closepunctuation"], closePunctuation),
  (["pi", "initialpunctuation"], initialPunctuation),
  (["pf", "finalpunctuation"], finalPunctuation), (["po", "otherpunctuation"], otherPunctuation),
  (["s", "symbol"], join symbols), (["sm", "mathsymbol"], mathSymbol),
  (["sc", "currencysymbol"], currencySymbol), (["sk", "modifiersymbol"], modifierSymbol),
  (["so", "othersymbol"], otherSymbol),
  (["z", "separator"], join separators), (["zs", "spaceseparator"], spaceSeparator),
  (["zl", "lineseparator"], lineSeparator), (["zp", "paragraphseparator"], paragraphSeparator),
  (["c", "other"], join (surrogates :: unassigned :: others)),
  (["cc", "control", "cntrl"], control), (["cf", "format"], format),
  (["cn", "unassigned"], unassigned), (["co", "privateuse"], privateUse)]

end Unicode
end Signpost
