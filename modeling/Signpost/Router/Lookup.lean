/-
# Looking up a request

A request for a method and a path is answered with the handler of the node
that its segments lead to. `HEAD` is answered like `GET`.

Key definitions: `Lookup`, `Router.locate`, `Router.lookup`,
`Router.resolves`, `Router.pathMethods`.
-/
import Signpost.Router.Basic
import Signpost.Trie.Walk

namespace Signpost

/-- What a request is answered: the handler or why there is none, the captures
after it, if captures were wanted, and what the log is told. -/
structure Lookup (H : Type) where
  outcome : Except Miss H
  captures : Option Captures
  events : List Event

namespace Router

variable {H : Type}

/-- The miss of a request that is stopped at a segment: the method and the
first part of the path tell whether the method is supported. -/
def missAt (position : Nat) : Miss := if position ≤ 1 then .badMethod else .notFound

/-- The node that a method and a path lead to. -/
def locate (r : Router H) (method path : String) (captures : Option Captures) :
    Except Miss (Node H) × Option Captures :=
  let key := RouteKey.ofRoute method path
  match r.root.descend key.segments 0 { segments := key.length, captures := captures } with
  | (.reached n, w) => (.ok n, w.captures)
  | (.stopped position, w) => (.error (missAt position), w.captures)

/-- The handler of a node. -/
def handlerOf (n : Node H) : Except Miss H :=
  match n.handler with
  | some h => .ok h
  | none => .error .notFound

/-- The method whose routes answer a request. -/
def answering (method : String) : String := if method = "HEAD" then "GET" else method

/-- Answers a request. -/
def lookup (r : Router H) (method path : String) (captures : Option Captures) : Lookup H :=
  let method := answering method
  let located := r.locate method path captures
  match located.1.bind handlerOf with
  | .ok h => ⟨.ok h, located.2, []⟩
  | .error miss => ⟨.error miss, located.2, [.lookupFailed method path miss]⟩

/-- True if a registered method leads to a handler for a path. -/
def resolves (r : Router H) (path method : String) : Bool :=
  match (r.locate method path none).1 with
  | .ok n => n.handler.isSome
  | .error _ => false

/-- The methods that lead to a handler for a path, joined by commas, after
`HEAD`, which is always there. -/
def pathMethods (r : Router H) (path : String) : String :=
  ", ".intercalate ("HEAD" :: r.methods.filter (r.resolves path))

end Router
end Signpost
