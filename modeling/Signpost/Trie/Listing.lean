/-
# Listing the routes of a trie

The routes are listed depth first, the children of a node in their order, each
as its method and its path.

Key definitions: `Node.extend`, `Node.display`, `Node.listing`.
-/
import Signpost.Trie.Node

namespace Signpost
namespace Node

variable {H : Type}

/-- The text of a route with one more segment. -/
def extend (lead key : String) : String := if lead = "" then key else lead ++ "/" ++ key

/-- A route as it is listed: what stands before its first slash is the method,
and the path begins with that slash. -/
def display (route : String) : String :=
  let cs := route.toList
  match cs.dropWhile (· != '/') with
  | [] => route ++ " /"
  | _ :: path => String.ofList (cs.takeWhile (· != '/')) ++ " /" ++ String.ofList path

mutual

/-- The routes below a node that the text `lead` leads to. -/
def listing (lead : String) : Node H → List String
  | .mk _ _ _ _ children _ _ => listingAll lead children
termination_by structural n => n

/-- The routes at some nodes and below them; `lead` leads to their parent. -/
def listingAll (lead : String) : List (Node H) → List String
  | [] => []
  | child :: rest =>
    let route := extend lead child.key
    let own := if child.handler.isSome then [display route] else []
    own ++ child.listing route ++ listingAll lead rest
termination_by structural nodes => nodes

end

end Node
end Signpost
