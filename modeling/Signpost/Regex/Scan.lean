/-
# Scanning

In verbose mode blanks and comments between the parts of an expression do not
count; a comment goes from `#` to the end of its line.

Key definitions: `Regex.dropBlanks`, `Regex.skipBlanks`, `Regex.takeBraced`,
`Regex.takeNumber`.
Key theorems: `Regex.length_skipBlanks_le`.
-/
import Signpost.Regex.Flags
import Signpost.Unicode.Property

namespace Signpost
namespace Regex

/-- Drops blanks and comments. -/
def dropBlanks (inComment : Bool) : List Char → List Char
  | [] => []
  | c :: cs =>
    if inComment then dropBlanks (c != '\n') cs
    else if Unicode.isWhiteSpace c then dropBlanks false cs
    else if c = '#' then dropBlanks true cs
    else c :: cs

/-- Drops what does not count under the given flags. -/
def skipBlanks (flags : Flags) (cs : List Char) : List Char :=
  if flags.verbose then dropBlanks false cs else cs

/-- The text up to the next closing brace, without what does not count, and
the rest after the brace. -/
def takeBraced (verbose inComment : Bool) : List Char → Option (List Char × List Char)
  | [] => none
  | c :: cs =>
    if verbose && inComment then takeBraced verbose (c != '\n') cs
    else if verbose && Unicode.isWhiteSpace c then takeBraced verbose false cs
    else if verbose && c = '#' then takeBraced verbose true cs
    else if c = '}' then some ([], cs)
    else (takeBraced verbose false cs).map fun r => (c :: r.1, r.2)

/-- The digits at the beginning, and the rest; `fuel` bounds their number. -/
def takeDigits (flags : Flags) : Nat → List Char → List Char × List Char
  | fuel + 1, c :: cs =>
    if c.isDigit then
      let r := takeDigits flags fuel (skipBlanks flags cs)
      (c :: r.1, r.2)
    else ([], c :: cs)
  | _, cs => ([], cs)

/-- The value of decimal digits. -/
def decimalValue (ds : List Char) : Nat := ds.foldl (fun n d => 10 * n + (d.toNat - '0'.toNat)) 0

/-- Reads a number of at most 32 bits, with blanks around it in any mode. -/
def takeNumber (flags : Flags) (cs : List Char) : Option Nat × List Char :=
  let cs := cs.dropWhile Unicode.isWhiteSpace
  let r := takeDigits flags cs.length cs
  let n := decimalValue r.1
  (if r.1.isEmpty || n ≥ 0x100000000 then none else some n, r.2.dropWhile Unicode.isWhiteSpace)

theorem length_dropBlanks_le : ∀ (inComment : Bool) (cs : List Char),
    (dropBlanks inComment cs).length ≤ cs.length
  | _, [] => by simp [dropBlanks]
  | inComment, c :: cs => by
    unfold dropBlanks
    split
    · exact Nat.le_succ_of_le (length_dropBlanks_le _ cs)
    · split
      · exact Nat.le_succ_of_le (length_dropBlanks_le _ cs)
      · split
        · exact Nat.le_succ_of_le (length_dropBlanks_le _ cs)
        · exact Nat.le_refl _

/-- Skipping never makes a text longer. -/
theorem length_skipBlanks_le (flags : Flags) (cs : List Char) :
    (skipBlanks flags cs).length ≤ cs.length := by
  unfold skipBlanks
  split
  · exact length_dropBlanks_le false cs
  · exact Nat.le_refl _

end Regex
end Signpost
