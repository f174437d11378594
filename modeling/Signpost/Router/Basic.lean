/-
# Routers

A router holds the trie of its routes, the matchers that they share, and the
methods that it has routes for. Registering a route compiles all its patterns
before the trie is changed, so a route is registered as a whole or not at all.

Key definitions: `Router`, `Router.register`, `Router.routes`.
-/
import Signpost.Event
import Signpost.RouteKey
import Signpost.Trie.Listing

namespace Signpost

/-- The routes, their matchers, and the methods in the order in which they
were first registered. -/
structure Router (H : Type) where
  root : Node H := Node.root
  store : MatcherStore := {}
  methods : List String := []

/-- What comes of registering a route: the router after it, whether the route
was taken, and what the log is told. -/
structure Registration (H : Type) where
  router : Router H
  outcome : Except TemplateError Unit
  events : List Event

namespace Router

variable {H : Type}

/-- The router without routes. -/
def empty : Router H := {}

/-- Registers a handler for a method and a path, in place of the handler of
the same route. If a pattern does not compile only the store is changed: it
keeps the matchers of the patterns before that one. -/
def register (r : Router H) (method path : String) (handler : H) : Registration H :=
  let obtained := r.store.obtainAll (RouteKey.ofRoute method path).segments
  match obtained.outcome with
  | .error e => ⟨{ r with store := obtained.store }, .error e, []⟩
  | .ok keys =>
    let bound := ((r.root.at? (keys.map (·.1))).bind (·.handler)).isSome
    { router :=
        { root := r.root.insert handler keys
          store := obtained.store
          methods := if r.methods.contains method then r.methods else r.methods ++ [method] }
      outcome := .ok ()
      events := [if bound then .handlerReplaced method path else .routeRegistered method path] }

/-- The registered routes, depth first. -/
def routes (r : Router H) : List String := r.root.listing ""

end Router
end Signpost
