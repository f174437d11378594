/-
# Plans

A plan lists route definitions; a router is built from it by registering them
in their order. If any is rejected there is no router, and all rejected ones
are reported.

Key definitions: `RouteDefinition`, `Plan`, `Rejection`, `BuildError`,
`Plan.build`.
-/
import Signpost.Router.Basic

namespace Signpost

/-- A route to be registered. -/
structure RouteDefinition (H : Type) where
  method : String
  path : String
  handler : H
deriving Repr, DecidableEq, Inhabited

/-- Route definitions in their order. -/
structure Plan (H : Type) where
  definitions : List (RouteDefinition H) := []
deriving Repr, DecidableEq, Inhabited

/-- A route definition that was rejected, and why. -/
structure Rejection where
  method : String
  path : String
  cause : TemplateError
deriving Repr, DecidableEq, Inhabited

/-- The wording of a rejection. -/
def Rejection.message (f : Rejection) : String :=
  "invalid route '" ++ f.method ++ " " ++ f.path ++ "': " ++ f.cause.message

/-- The same rejection, with other words for what is wrong with an
expression. -/
def Rejection.withReason (reason : String) (f : Rejection) : Rejection :=
  { f with cause := f.cause.withReason reason }

/-- The rejected definitions of a plan, at least one. -/
structure BuildError where
  first : Rejection
  others : List Rejection
deriving Repr, DecidableEq, Inhabited

namespace BuildError

/-- All rejections, in the order of the definitions. -/
def rejections (e : BuildError) : List Rejection := e.first :: e.others

/-- The wording, which tells the first rejection. -/
def message (e : BuildError) : String :=
  toString e.rejections.length ++ " route definition(s) rejected, first: " ++ e.first.message

/-- The same error, with other words for what is wrong with an expression. -/
def withReason (reason : String) (e : BuildError) : BuildError :=
  ⟨e.first.withReason reason, e.others.map (·.withReason reason)⟩

end BuildError

/-- What comes of building a router. -/
structure Build (H : Type) where
  outcome : Except BuildError (Router H)
  events : List Event

namespace Plan

variable {H : Type}

/-- The plan without definitions. -/
def empty : Plan H := {}

/-- One more definition. -/
def route (p : Plan H) (method path : String) (handler : H) : Plan H :=
  ⟨p.definitions ++ [⟨method, path, handler⟩]⟩

/-- One more definition, for `GET`. -/
def get (p : Plan H) (path : String) (handler : H) : Plan H := p.route "GET" path handler

/-- One more definition, for `POST`. -/
def post (p : Plan H) (path : String) (handler : H) : Plan H := p.route "POST" path handler

/-- One more definition, for `PUT`. -/
def put (p : Plan H) (path : String) (handler : H) : Plan H := p.route "PUT" path handler

/-- One more definition, for `DELETE`. -/
def delete (p : Plan H) (path : String) (handler : H) : Plan H := p.route "DELETE" path handler

/-- One more definition, for `PATCH`. -/
def patch (p : Plan H) (path : String) (handler : H) : Plan H := p.route "PATCH" path handler

/-- One more definition, for `OPTIONS`. -/
def options (p : Plan H) (path : String) (handler : H) : Plan H := p.route "OPTIONS" path handler

/-- One more definition, for `CONNECT`. -/
def connect (p : Plan H) (path : String) (handler : H) : Plan H := p.route "CONNECT" path handler

/-- One more definition, for `TRACE`. -/
def trace (p : Plan H) (path : String) (handler : H) : Plan H := p.route "TRACE" path handler

/-- Registers definitions in their order, with all rejections and events. -/
def registerAll : List (RouteDefinition H) → Router H → Router H × List Rejection × List Event
  | [], r => (r, [], [])
  | d :: ds, r =>
    let registration := r.register d.method d.path d.handler
    let (built, rejections, events) := registerAll ds registration.router
    match registration.outcome with
    | .ok _ => (built, rejections, registration.events ++ events)
    | .error cause =>
      (built, ⟨d.method, d.path, cause⟩ :: rejections,
        registration.events ++ .routeRejected d.method d.path cause :: events)

/-- Builds a router, if no definition is rejected. -/
def build (p : Plan H) : Build H :=
  match registerAll p.definitions Router.empty with
  | (router, [], events) => ⟨.ok router, events⟩
  | (_, first :: others, events) => ⟨.error ⟨first, others⟩, events⟩

end Plan
end Signpost
