/-
# The trie of routes

A node of the trie stands for the segments that lead to it. It has a child for
each template that follows; the children stand in the order in which they were
added. For the walks, a node keeps the positions of its children by key, and
the positions of the children that are patterns.

Key definitions: `Node`, `Node.child?`, `Node.updateChild`, `Node.insert`,
`Node.at?`.
-/
import Signpost.Matcher.Store

namespace Signpost

/-- A node of the trie: its key, which is the template of its segment, with
the matcher of a pattern; the handler of the route that ends here; the number
of segments that lead here; the children, their positions by key, and the
positions of those that are patterns. -/
structure Node (H : Type) where
  key : String
  matcher : Option Matcher := none
  handler : Option H := none
  depth : Nat := 0
  children : List (Node H) := []
  index : Table Nat := {}
  patterns : List Nat := []

namespace Node

variable {H : Type}

/-- The node that no segment leads to. -/
def root : Node H := { key := "" }

/-- A node without children or handler. -/
def leaf (key : String) (matcher : Option Matcher) (depth : Nat) : Node H :=
  { key := key, matcher := matcher, depth := depth }

/-- The child with the given key. -/
def child? (n : Node H) (key : String) : Option (Node H) :=
  (n.index.get? key).bind fun position => n.children[position]?

/-- Changes the child with the given key, which is added if there is none; the
matcher is for a child that is added. -/
def updateChild (n : Node H) (key : String) (matcher : Option Matcher)
    (change : Node H → Node H) : Node H :=
  match n.index.get? key with
  | some position => { n with children := n.children.modify position change }
  | none =>
    let position := n.children.length
    { n with
      children := n.children ++ [change (leaf key matcher (n.depth + 1))]
      index := n.index.insert key position
      patterns := if matcher.isSome then n.patterns ++ [position] else n.patterns }

/-- Binds a handler to the node that the keys lead to; nodes on the way are
added as they are needed. -/
def insert (handler : H) : List (String × Option Matcher) → Node H → Node H
  | [], n => { n with handler := some handler }
  | (key, matcher) :: rest, n => n.updateChild key matcher (insert handler rest)

/-- The node that the keys lead to. -/
def at? : List String → Node H → Option (Node H)
  | [], n => some n
  | key :: rest, n => (n.child? key).bind (at? rest)

end Node
end Signpost
