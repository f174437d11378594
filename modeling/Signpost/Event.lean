/-
# Events

What the router tells a log: routes registered, replaced and rejected, failed
lookups, and routers published.

Key definitions: `Miss`, `Event`, `Event.level`, `Event.message`,
`Event.fields`.
-/
import Signpost.Template.Compile

namespace Signpost

/-- Why a request finds no handler. -/
inductive Miss where
  /-- The path leads to no handler. -/
  | notFound
  /-- The method or the first part of the path is not known. -/
  | badMethod
deriving Repr, DecidableEq, Inhabited

namespace Miss

/-- The HTTP status of a response. -/
def status : Miss → Nat
  | notFound => 404
  | badMethod => 405

/-- The wording for the client. -/
def message : Miss → String
  | notFound => "That route was not found."
  | badMethod => "That method is not supported."

end Miss

/-- The importance of an event. -/
inductive Level where
  | trace
  | debug
  | info
  | warn
deriving Repr, DecidableEq, Inhabited

/-- The events; a route is told by its method and path as they were given. -/
inductive Event where
  | routeRegistered (method path : String)
  | handlerReplaced (method path : String)
  | routeRejected (method path : String) (cause : TemplateError)
  | lookupFailed (method path : String) (miss : Miss)
  | routerPublished (routes : Nat)
deriving Repr, DecidableEq, Inhabited

/-- The value of a field of an event. -/
inductive FieldValue where
  | text (value : String)
  | number (value : Nat)
deriving Repr, DecidableEq, Inhabited

namespace Event

/-- How important an event is. -/
def level : Event → Level
  | routeRegistered .. => .debug
  | handlerReplaced .. => .debug
  | routeRejected .. => .warn
  | lookupFailed .. => .trace
  | routerPublished .. => .info

/-- The wording of an event. -/
def message : Event → String
  | routeRegistered .. => "route registered"
  | handlerReplaced .. => "route handler replaced"
  | routeRejected .. => "route definition rejected"
  | lookupFailed .. => "route lookup failed"
  | routerPublished .. => "router published"

/-- The fields of an event, by name. -/
def fields : Event → List (String × FieldValue)
  | routeRegistered method path => [("method", .text method), ("path", .text path)]
  | handlerReplaced method path => [("method", .text method), ("path", .text path)]
  | routeRejected method path cause =>
    [("method", .text method), ("path", .text path), ("cause", .text cause.message)]
  | lookupFailed method path miss =>
    [("method", .text method), ("path", .text path), ("error", .text miss.message)]
  | routerPublished routes => [("routes", .number routes)]

/-- The same event, with other words for what is wrong with an expression. -/
def withReason (reason : String) : Event → Event
  | routeRejected method path cause => .routeRejected method path (cause.withReason reason)
  | event => event

end Event
end Signpost
