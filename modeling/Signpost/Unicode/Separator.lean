/-
# Separators and white space

The three categories of separators, and the white space property, which has
some control characters too. The tables are those of version 16 of the Unicode
Character Database, as sorted, disjoint ranges of code points.

Key definitions: `Unicode.spaceSeparator`, `Unicode.lineSeparator`,
`Unicode.paragraphSeparator`, `Unicode.whiteSpace`.
-/
import Signpost.CharSet.Basic

namespace Signpost
namespace Unicode

/-- Spaces, category Zs. -/
def spaceSeparator : CharSet := ⟨[
  (0x20, 0x20), (0xA0, 0xA0), (0x1680, 0x1680), (0x2000, 0x200A), (0x202F, 0x202F),
  (0x205F, 0x205F), (0x3000, 0x3000)]⟩

/-- The line separator, category Zl. -/
def lineSeparator : CharSet := ⟨[
  (0x2028, 0x2028)]⟩

/-- The paragraph separator, category Zp. -/
def paragraphSeparator : CharSet := ⟨[
  (0x2029, 0x2029)]⟩

/-- White space: the separators and the control characters that lay out text. -/
def whiteSpace : CharSet := ⟨[
  (0x9, 0xD), (0x20, 0x20), (0x85, 0x85), (0xA0, 0xA0), (0x1680, 0x1680), (0x2000, 0x200A),
  (0x2028, 0x2029), (0x202F, 0x202F), (0x205F, 0x205F), (0x3000, 0x3000)]⟩

end Unicode
end Signpost
