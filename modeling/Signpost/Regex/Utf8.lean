/-
# Sets as sequences of bytes

Where a set is matched byte by byte its characters are read in UTF-8. A range
of characters is cut so that each of its parts is a sequence of ranges of
bytes: a character belongs to the part if each of its bytes lies in the range
at its place. The parts come in the order of their characters.

Key definitions: `Regex.Utf8.encode`, `Regex.Utf8.cutAt?`,
`Regex.Utf8.sequences`, `Regex.Utf8.sequencesOf`.
-/
import Signpost.CharSet.Basic

namespace Signpost
namespace Regex
namespace Utf8

/-- The bytes of a code point. -/
def encode (n : Nat) : List Nat :=
  if n < 0x80 then [n]
  else if n < 0x800 then [0xC0 + n / 0x40, 0x80 + n % 0x40]
  else if n < 0x10000 then [0xE0 + n / 0x1000, 0x80 + n / 0x40 % 0x40, 0x80 + n % 0x40]
  else
    [0xF0 + n / 0x40000, 0x80 + n / 0x1000 % 0x40, 0x80 + n / 0x40 % 0x40, 0x80 + n % 0x40]

/-- A range of bytes at each place, from the first byte on. -/
abbrev ByteSequence := List (Nat × Nat)

/-- Where the range from `lo` to `hi` is cut for the blocks of `size` code
points: at the end of its first block, if it starts inside of one, or else
before its last block, if it ends inside of one. -/
def cutAtBlock? (lo hi size : Nat) : Option Nat :=
  if lo / size = hi / size then none
  else if lo % size ≠ 0 then some (lo - lo % size + size)
  else if hi % size ≠ size - 1 then some (hi - hi % size)
  else none

/-- The first code point of the second part, if a range has to be cut: where
the number of bytes changes, or else where a block ends in which the last one,
two or three bytes take all their values. -/
def cutAt? (lo hi : Nat) : Option Nat :=
  match [0x80, 0x800, 0x10000].find? fun n => decide (lo < n) && decide (n ≤ hi) with
  | some n => some n
  | none =>
    if hi < 0x80 then none else [0x40, 0x1000, 0x40000].findSome? (cutAtBlock? lo hi)

/-- The byte sequences of a range of code points without surrogates; `fuel`
bounds the depth of the cuts. -/
def sequencesFrom : Nat → Nat → Nat → List ByteSequence
  | 0, _, _ => []
  | fuel + 1, lo, hi =>
    match cutAt? lo hi with
    | some n => sequencesFrom fuel lo (n - 1) ++ sequencesFrom fuel n hi
    | none => [(encode lo).zip (encode hi)]

/-- The cuts needed at most: two for the number of bytes, and two for the
blocks of each size. -/
def cutLimit : Nat := 9

/-- The byte sequences of a range, of which the surrogates are no part. -/
def sequences (lo hi : Nat) : List ByteSequence :=
  if lo < 0xE000 ∧ 0xD7FF < hi then
    (if lo ≤ 0xD7FF then sequencesFrom cutLimit lo 0xD7FF else []) ++
      sequencesFrom cutLimit 0xE000 hi
  else if lo ≤ hi then sequencesFrom cutLimit lo hi
  else []

/-- The byte sequences of a set. -/
def sequencesOf (s : CharSet) : List ByteSequence := s.ranges.flatMap fun r => sequences r.1 r.2

end Utf8
end Regex
end Signpost
