/-
# Sets of ASCII characters

The bracketed class names of regular expressions, such as `alpha` and
`xdigit`, stand for ASCII characters only; so do the digits, words and blanks
of an expression that has Unicode turned off.

Key definitions: `CharSet.digit`, `CharSet.asciiWord`, `CharSet.asciiSpace`,
`CharSet.asciiClass?`.
-/
import Signpost.CharSet.Basic

namespace Signpost
namespace CharSet

/-- The digits from `0` to `9`. -/
def digit : CharSet := ⟨[(0x30, 0x39)]⟩

/-- ASCII letters and digits, and the low line. -/
def asciiWord : CharSet := ⟨[(0x30, 0x39), (0x41, 0x5A), (0x5F, 0x5F), (0x61, 0x7A)]⟩

/-- The blank, and the control characters from the tab to the carriage
return. -/
def asciiSpace : CharSet := ⟨[(0x09, 0x0D), (0x20, 0x20)]⟩

/-- The classes of ASCII characters by their names. -/
def asciiClasses : List (String × CharSet) := [
  ("alnum", ⟨[(0x30, 0x39), (0x41, 0x5A), (0x61, 0x7A)]⟩),
  ("alpha", ⟨[(0x41, 0x5A), (0x61, 0x7A)]⟩),
  ("ascii", ⟨[(0x00, 0x7F)]⟩),
  ("blank", ⟨[(0x09, 0x09), (0x20, 0x20)]⟩),
  ("cntrl", ⟨[(0x00, 0x1F), (0x7F, 0x7F)]⟩),
  ("digit", digit),
  ("graph", ⟨[(0x21, 0x7E)]⟩),
  ("lower", ⟨[(0x61, 0x7A)]⟩),
  ("print", ⟨[(0x20, 0x7E)]⟩),
  ("punct", ⟨[(0x21, 0x2F), (0x3A, 0x40), (0x5B, 0x60), (0x7B, 0x7E)]⟩),
  ("space", asciiSpace),
  ("upper", ⟨[(0x41, 0x5A)]⟩),
  ("word", asciiWord),
  ("xdigit", ⟨[(0x30, 0x39), (0x41, 0x46), (0x61, 0x66)]⟩)]

/-- The class of the given name. -/
def asciiClass? (name : String) : Option CharSet := asciiClasses.lookup name

end CharSet
end Signpost
