/-
# Sets of characters

A set is a list of inclusive ranges, each between two characters. The
operations keep the ranges sorted and disjoint, and join ranges whose code
points meet. The surrogates, from U+D800 to U+DFFF, are no characters: a range
may reach over them, but none begins or ends with one, so the character after
U+D7FF is U+E000. Ranges that end and begin there are not joined, for their
code points do not meet.

Key definitions: `CharSet.contains`, `CharSet.union`, `CharSet.next`,
`CharSet.previous`, `CharSet.compl`, `CharSet.inter`, `CharSet.diff`,
`CharSet.join`.
-/

namespace Signpost

/-- A set of characters, as inclusive ranges of code points. -/
structure CharSet where
  ranges : List (Nat × Nat) := []
deriving Repr, DecidableEq, Inhabited

namespace CharSet

/-- True if one of the ranges holds the code point `n`. -/
def covers (rs : List (Nat × Nat)) (n : Nat) : Bool :=
  rs.any fun r => decide (r.1 ≤ n) && decide (n ≤ r.2)

/-- Membership of a character. -/
def contains (s : CharSet) (c : Char) : Bool := covers s.ranges c.toNat

/-- Adds the range from `lo` to `hi`, joined with all ranges that it meets or
touches. -/
def addRange (lo hi : Nat) : List (Nat × Nat) → List (Nat × Nat)
  | [] => [(lo, hi)]
  | (a, b) :: rs =>
    if hi + 1 < a then (lo, hi) :: (a, b) :: rs
    else if b + 1 < lo then (a, b) :: addRange lo hi rs
    else addRange (min lo a) (max hi b) rs

/-- The set without members. -/
def empty : CharSet := ⟨[]⟩

/-- The set of the characters from `lo` to `hi`. -/
def range (lo hi : Char) : CharSet := ⟨[(lo.toNat, hi.toNat)]⟩

/-- The set of one character. -/
def single (c : Char) : CharSet := range c c

/-- All members of both sets. -/
def union (s t : CharSet) : CharSet :=
  ⟨s.ranges.foldr (fun r rs => addRange r.1 r.2 rs) t.ranges⟩

/-- The set of the listed ranges, in any order and overlapping as they like. -/
def ofRanges (rs : List (Nat × Nat)) : CharSet := union ⟨rs⟩ empty

/-- Puts a range among sorted ones by its start; `rest` goes on from there. -/
def place (r : Nat × Nat) (rest : List (Nat × Nat) → List (Nat × Nat)) :
    List (Nat × Nat) → List (Nat × Nat)
  | [] => r :: rest []
  | q :: qs => if r.1 ≤ q.1 then r :: rest (q :: qs) else q :: place r rest qs

/-- The ranges of two sorted lists, sorted by their starts. -/
def merge : List (Nat × Nat) → List (Nat × Nat) → List (Nat × Nat)
  | [] => id
  | r :: rs => place r (merge rs)

/-- One set of all the members of some sets. The ranges are sorted first, so
that each is added at the front of those that follow it. -/
def join (sets : List CharSet) : CharSet := ofRanges (sets.foldr (fun s rs => merge s.ranges rs) [])

/-- The code point of the character after the one at `n`. -/
def next (n : Nat) : Nat := if n = 0xD7FF then 0xE000 else n + 1

/-- The code point of the character before the one at `n`. -/
def previous (n : Nat) : Nat := if n = 0xE000 then 0xD7FF else n - 1

/-- The gaps between ranges, from the character at `start` on. Where a range
ends at U+D7FF and the next begins at U+E000 there is no character between
them; that gap is listed as the two characters on its sides. -/
def gapsFrom (start : Nat) : List (Nat × Nat) → List (Nat × Nat)
  | [] => if start ≤ 0x10FFFF then [(start, 0x10FFFF)] else []
  | (a, b) :: rs => (min start (previous a), max start (previous a)) :: gapsFrom (next b) rs

/-- The characters that are no members, as the gaps between the ranges. -/
def compl (s : CharSet) : CharSet :=
  match s.ranges with
  | [] => ⟨[(0, 0x10FFFF)]⟩
  | (0, b) :: rs => ⟨gapsFrom (next b) rs⟩
  | rs => ⟨gapsFrom 0 rs⟩

/-- The common members. -/
def inter (s t : CharSet) : CharSet :=
  ⟨s.ranges.flatMap fun r => t.ranges.filterMap fun q =>
    if max r.1 q.1 ≤ min r.2 q.2 then some (max r.1 q.1, min r.2 q.2) else none⟩

/-- What is left of the range from `lo` to `hi` without some sorted ranges. -/
def withoutRanges (lo hi : Nat) : List (Nat × Nat) → List (Nat × Nat)
  | [] => [(lo, hi)]
  | (a, b) :: rs =>
    if b < lo then withoutRanges lo hi rs
    else if hi < a then [(lo, hi)]
    else
      (if lo < a then [(lo, previous a)] else []) ++
        (if b < hi then withoutRanges (next b) hi rs else [])

/-- The members of `s` that are no members of `t`. -/
def diff (s t : CharSet) : CharSet := ⟨s.ranges.flatMap fun r => withoutRanges r.1 r.2 t.ranges⟩

/-- The members of just one of the two sets. -/
def symmDiff (s t : CharSet) : CharSet := diff (union s t) (inter s t)

/-- The only member of a set that has just one. -/
def single? (s : CharSet) : Option Nat :=
  match s.ranges with
  | [(a, b)] => if a = b then some a else none
  | _ => none

/-- True if no member lies outside ASCII. -/
def isAscii (s : CharSet) : Bool := s.ranges.all fun r => decide (r.2 < 128)

end CharSet
end Signpost
