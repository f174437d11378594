/-
# Why an expression is refused

Key definitions: `Regex.Fault`, `Regex.Fault.message`.
-/

namespace Signpost
namespace Regex

/-- The causes for which the text of an expression is refused. -/
inductive Fault where
  | unclosedGroup
  | unopenedGroup
  | unclosedClass
  | nothingToRepeat
  | badCount
  | badGroupName
  | repeatedGroupName (name : String)
  | badFlags
  | lookAround
  | badEscape
  | badCodePoint
  | badRange
  | unknownProperty
  | needsUnicode
  | nestedTooDeep
  | tooLarge
deriving Repr, DecidableEq, Inhabited

/-- The wording of a cause. -/
def Fault.message : Fault → String
  | unclosedGroup => "unclosed group"
  | unopenedGroup => "unopened group"
  | unclosedClass => "unclosed character class"
  | nothingToRepeat => "repetition operator missing expression"
  | badCount => "malformed repetition count"
  | badGroupName => "malformed capture group name"
  | repeatedGroupName name => "duplicate capture group name '" ++ name ++ "'"
  | badFlags => "malformed flags"
  | lookAround => "look-around is not supported"
  | badEscape => "unrecognized escape sequence"
  | badCodePoint => "not a Unicode scalar value"
  | badRange => "malformed character class range"
  | unknownProperty => "unknown Unicode property"
  | needsUnicode => "not allowed without Unicode"
  | nestedTooDeep => "nested too deeply"
  | tooLarge => "compiled expression is too large"

end Regex
end Signpost
