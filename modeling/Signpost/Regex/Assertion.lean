/-
# Assertions

An assertion consumes nothing; it holds or fails at a place of the text, and
only the two characters around that place decide.

Key definitions: `Regex.Assertion`, `Regex.Assertion.holds`.
-/
import Signpost.CharSet.Ascii
import Signpost.Unicode.Property

namespace Signpost
namespace Regex

/-- What can be asserted of a place. The word assertions know the words of
Unicode or those of ASCII; the line assertions end lines at a line feed, or at
a carriage return, a line feed or both. -/
inductive Assertion where
  | textStart
  | textEnd
  | lineStart (crlf : Bool)
  | lineEnd (crlf : Bool)
  | boundary (unicode : Bool)
  | notBoundary (unicode : Bool)
  | wordStart (unicode : Bool)
  | wordEnd (unicode : Bool)
  | wordStartHalf (unicode : Bool)
  | wordEndHalf (unicode : Bool)
deriving Repr, DecidableEq, Inhabited

namespace Assertion

/-- True if there is a character and it is part of a word. -/
def inWord (unicode : Bool) : Option Char → Bool
  | none => false
  | some c => if unicode then Unicode.isWord c else CharSet.asciiWord.contains c

/-- Decides an assertion at a place between the characters `before` and
`after`; either is missing at an end of the text. -/
def holds (before after : Option Char) : Assertion → Bool
  | textStart => before.isNone
  | textEnd => after.isNone
  | lineStart false => before.isNone || before == some '\n'
  | lineEnd false => after.isNone || after == some '\n'
  | lineStart true =>
    before.isNone || before == some '\n' || (before == some '\r' && after != some '\n')
  | lineEnd true =>
    after.isNone || after == some '\r' || (after == some '\n' && before != some '\r')
  | boundary u => inWord u before != inWord u after
  | notBoundary u => inWord u before == inWord u after
  | wordStart u => !inWord u before && inWord u after
  | wordEnd u => inWord u before && !inWord u after
  | wordStartHalf u => !inWord u before
  | wordEndHalf u => !inWord u after

end Assertion
end Regex
end Signpost
