/-
# A workload for measurements

A table of routes with every kind of segment, and requests that exercise it:
literal routes, routes with one placeholder, routes with compound ones, and
misses.

Key definitions: `Workload.routeTable`, `Workload.Group`, `Workload.Case`,
`Workload.cases`, `Workload.plan`.
-/
import Signpost.Router.Plan

namespace Signpost
namespace Workload

/-- Methods with paths. -/
def routeTable : List (String × String) := [
  ("GET", "/api/status"),
  ("GET", "/api/users"),
  ("POST", "/api/users"),
  ("GET", "/api/users/@\x7bword:name\x7d"),
  ("GET", "/api/users/\x7buint:id\x7d"),
  ("PUT", "/api/users/\x7buint:id\x7d"),
  ("DELETE", "/api/users/\x7buint:id\x7d"),
  ("GET", "/api/users/\x7buint:id\x7d/*"),
  ("POST", "/api/users/\x7buint:id\x7d/profile"),
  ("DELETE", "/api/users/\x7bdate:from\x7d/to/\x7bdate:to\x7d"),
  ("GET", "/api/cities/\x7bgeo:location\x7d"),
  ("PUT", "/api/investments/\\$\x7bfloat:dollars\x7d/fund"),
  ("GET", "/api/todos/month/\x7bre:([0][1-9]|[1][0-2])\x7d"),
  ("GET", "/api/sessions/\x7buuid:session\x7d"),
  ("GET", "/api/colors/\x7bhex:rgb\x7d")]

/-- What a request exercises. -/
inductive Group where
  | literal
  | typed
  | compound
  | miss
deriving Repr, DecidableEq, Inhabited

/-- The name of a group. -/
def Group.name : Group → String
  | literal => "literal"
  | typed => "typed"
  | compound => "compound"
  | miss => "miss"

/-- A named request. -/
structure Case where
  name : String
  group : Group
  method : String
  path : String
deriving Repr, DecidableEq, Inhabited

/-- The requests. -/
def cases : List Case := [
  ⟨"literal_status", .literal, "GET", "/api/status"⟩,
  ⟨"typed_uint", .typed, "GET", "/api/users/42"⟩,
  ⟨"typed_word", .typed, "GET", "/api/users/@bob"⟩,
  ⟨"typed_wildcard", .typed, "GET", "/api/users/42/avatar.png"⟩,
  ⟨"compound_date", .compound, "DELETE", "/api/users/2024-03-15T10:30:00Z/to/2024-04-01"⟩,
  ⟨"compound_geo", .compound, "GET", "/api/cities/48.2082,16.3738;u=30"⟩,
  ⟨"miss_path", .miss, "GET", "/api/users/abc"⟩,
  ⟨"miss_method", .miss, "PATCH", "/api/users/42"⟩]

/-- The plan of the route table; the handler of a route is its position. -/
def plan : Plan Nat :=
  ⟨routeTable.zipIdx.map fun r => ⟨r.1.1, r.1.2, r.2⟩⟩

end Workload
end Signpost
