/-
# Route keys

A method and a path together make a route key, a list of segments that is
never empty. The slashes at the end of the path do not count; the text before
its first slash, mostly none, is joined to the method.

Key definitions: `RouteKey`, `RouteKey.ofRoute`, `RouteKey.segments`.
Key theorems: `RouteKey.length_segments`.
-/

namespace Signpost

/-- The segments of a route; the first carries the method. -/
structure RouteKey where
  first : String
  rest : List String
deriving Repr, DecidableEq, Inhabited

namespace RouteKey

/-- A path without the slashes at its end. -/
def trimSlashes (path : List Char) : List Char :=
  (path.reverse.dropWhile (· == '/')).reverse

/-- The parts of a path between its slashes. -/
def parts (path : String) : List String :=
  ((trimSlashes path.toList).splitOn '/').map String.ofList

/-- The key of a method and a path. -/
def ofRoute (method path : String) : RouteKey :=
  match parts path with
  | [] => ⟨method, []⟩
  | part :: rest => ⟨method ++ part, rest⟩

/-- All segments. -/
def segments (k : RouteKey) : List String := k.first :: k.rest

/-- The number of segments. -/
def length (k : RouteKey) : Nat := k.rest.length + 1

@[simp] theorem length_segments (k : RouteKey) : k.segments.length = k.length := rfl

end RouteKey
end Signpost
