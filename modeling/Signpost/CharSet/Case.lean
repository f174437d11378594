/-
# Closing a set under change of case

`foldCase` adds to a set every character that differs from a member only in
case, by simple case folding; `foldAscii` does so for ASCII letters alone.

Key definitions: `CharSet.foldCase`, `CharSet.foldAscii`.
-/
import Signpost.Unicode.CaseOrbit
import Signpost.CharSet.Basic

namespace Signpost
namespace CharSet

/-- Adds every class of `orbits` that has a member in the set. -/
def close (orbits : List (List Nat)) (s : CharSet) : CharSet :=
  ⟨(orbits.filter fun orbit => orbit.any (covers s.ranges)).foldr
    (fun orbit rs => orbit.foldr (fun n rs => addRange n n rs) rs) s.ranges⟩

/-- Adds the characters that differ from a member only in case. -/
def foldCase (s : CharSet) : CharSet := close Unicode.caseOrbits s

/-- The pairs of ASCII letters that differ only in case. -/
def asciiOrbits : List (List Nat) := (List.range 26).map fun i => [0x41 + i, 0x61 + i]

/-- Adds the ASCII letters that differ from a member only in case. -/
def foldAscii (s : CharSet) : CharSet := close asciiOrbits s

end CharSet
end Signpost
