/-
# Search

A search follows a program over a text, depth first: of two ways the preferred
one is followed to its end before the other is tried. A state is an address
with a position; a state that was entered once is not entered again, for the
same ways are open from it and all of them have failed or are being followed.
So the search ends, after no more steps than there are states, and the way it
finds is the first in the order of preference that enters no state twice.

A text is searched from every position in turn, so the match that starts first
is found.

Key definitions: `Regex.Thread`, `Regex.Program.next`, `Regex.Program.follow`,
`Regex.Program.runFrom`,
`Regex.Program.run`, `Regex.groupSpan`.
-/
import Signpost.BitGrid
import Signpost.Regex.Program

namespace Signpost
namespace Regex

/-- A way through a program so far: where it stands in the program and in the
text, and the places it marked, the latest first. -/
structure Thread where
  address : Nat
  position : Nat
  marks : List (Nat × Nat) := []
deriving Repr, DecidableEq, Inhabited

namespace Thread

/-- The thread at another address. -/
def goTo (t : Thread) (address : Nat) : Thread := { t with address := address }

/-- The character that follows the position. -/
def after (text : Array Char) (t : Thread) : Option Char := text[t.position]?

/-- The character that precedes the position. -/
def before (text : Array Char) (t : Thread) : Option Char :=
  if t.position = 0 then none else text[t.position - 1]?

end Thread

namespace Program

/-- The ways on from a thread that stands at the instruction `i`, the
preferred first. -/
def next (text : Array Char) (t : Thread) (i : Instruction) : List Thread :=
  match i with
  | .consume s =>
    match t.after text with
    | none => []
    | some c =>
      if s.contains c then [{ t with address := t.address + 1, position := t.position + 1 }]
      else []
  | .check a =>
    if a.holds (t.before text) (t.after text) then [t.goTo (t.address + 1)] else []
  | .fork preferred fallback => [t.goTo preferred, t.goTo fallback]
  | .jump target => [t.goTo target]
  | .mark slot =>
    [{ t with address := t.address + 1, marks := (slot, t.position) :: t.marks }]

/-- Follows the waiting threads, the first of them first, until one runs off
the end of the program; `entered` tells which states were entered, by position
and address, and is handed on for the next search. -/
def follow (p : Program) (text : Array Char) :
    Nat → BitGrid → List Thread → Option Thread × BitGrid
  | 0, entered, _ => (none, entered)
  | _, entered, [] => (none, entered)
  | fuel + 1, entered, t :: waiting =>
    match p[t.address]? with
    | none => (some t, entered)
    | some i =>
      if entered.get t.position t.address then follow p text fuel entered waiting
      else
        follow p text fuel (entered.set t.position t.address) (next text t i ++ waiting)

/-- The number of states: addresses by positions. -/
def stateCount (p : Program) (text : Array Char) : Nat := p.size * (text.size + 1)

/-- The steps of a search. A step either enters a state, which adds at most
two threads, or takes a thread away; so this many are enough. -/
def stepLimit (p : Program) (text : Array Char) : Nat := 2 * stateCount p text + 2

/-- The match with the first of the given starts that has one. What was entered
from an earlier start in vain is not entered again. -/
def runFrom (p : Program) (text : Array Char) : List Nat → BitGrid → Option (Nat × Thread)
  | [], _ => none
  | start :: starts, entered =>
    match follow p text (stepLimit p text) entered [{ address := 0, position := start }] with
    | (some t, _) => some (start, t)
    | (none, entered) => runFrom p text starts entered

/-- The match that starts first, with its start. -/
def run (p : Program) (text : Array Char) : Option (Nat × Thread) :=
  runFrom p text (List.range (text.size + 1)) {}

end Program

/-- The part of the text that a group holds, from its marks. -/
def groupSpan (marks : List (Nat × Nat)) (number : Nat) : Option (Nat × Nat) :=
  match marks.lookup (2 * number), marks.lookup (2 * number + 1) with
  | some start, some stop => some (start, stop)
  | _, _ => none

end Regex
end Signpost
