/-
# Walking down the trie

A request walks down from the root, one segment at a time. At each node the
pattern children are tried first, in their order, and the first whose matcher
accepts the segment is taken; if there is none, the child whose key is the
segment itself. A pattern child without children of its own is passed over
while segments are left below it.

Where captures are wanted, the groups of the accepting matchers are recorded
on the way.

Key definitions: `Walk`, `Walk.record`, `Node.accept`, `Node.step`,
`Node.descend`.
-/
import Signpost.Captures
import Signpost.Trie.Node

namespace Signpost

/-- The state of a walk: the number of segments of the request, the number of
groups met so far, and what was captured, if captures are wanted. -/
structure Walk where
  segments : Nat
  groups : Nat := 0
  captures : Option Captures := none
deriving Repr, DecidableEq, Inhabited

namespace Walk

/-- Records one group. It is counted also if it took no part in the match; if
it did, its text is put under its position and added under its name. -/
def recordGroup (w : Walk) (name text : Option String) : Walk :=
  let number := w.groups + 1
  match w.captures, text with
  | some v, some t =>
    let v := v.set (Captures.positionalKey number) t
    { w with
      groups := number
      captures := some (match name with | some n => v.add n t | none => v) }
  | _, _ => { w with groups := number }

/-- Records the groups of a match, in order. -/
def record (w : Walk) (names texts : List (Option String)) : Walk :=
  (names.zip texts).foldl (fun w g => w.recordGroup g.1 g.2) w

end Walk

namespace Node

variable {H : Type}

/-- Tries a segment on a pattern child. -/
def accept (child : Node H) (segment : String) (w : Walk) : Option Walk :=
  if child.depth < w.segments && child.children.isEmpty then none
  else
    match child.matcher with
    | none => none
    | some m =>
      match w.captures with
      | some _ => (m.regex.captures? segment).map fun found =>
          w.record m.regex.groupNames found.groups
      | none => if m.regex.isMatch segment then some w else none

/-- The child for a segment, with the walk after it. -/
def step (n : Node H) (segment : String) (w : Walk) : Option (Node H × Walk) :=
  let accepted := n.patterns.findSome? fun position =>
    n.children[position]?.bind fun child => (child.accept segment w).map fun w => (child, w)
  accepted.or ((n.child? segment).map fun child => (child, w))

/-- Where a walk ends: at a node, or before the segment, counted from zero,
for which there is no child. -/
inductive Destination (H : Type) where
  | reached (node : Node H)
  | stopped (position : Nat)

/-- Walks down the segments, of which the first has the given position. -/
def descend : List String → Nat → Node H → Walk → Destination H × Walk
  | [], _, n, w => (.reached n, w)
  | segment :: rest, position, n, w =>
    match n.step segment w with
    | some (child, w) => descend rest (position + 1) child w
    | none => (.stopped position, w)

end Node
end Signpost
