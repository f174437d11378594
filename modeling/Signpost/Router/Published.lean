/-
# Publishing a router

Requests are answered by the router that is published. A router is never
changed once it is published: another one takes its place as a whole. Who
holds a router that was published before keeps it as it was.

Key definitions: `Published`, `Published.publish`, `Published.rebuild`.
-/
import Signpost.Router.Plan

namespace Signpost

/-- The router that answers requests at present. -/
structure Published (H : Type) where
  current : Router H

/-- What comes of building a router to be published. -/
structure Rebuild (H : Type) where
  published : Published H
  outcome : Except BuildError Unit
  events : List Event

namespace Published

variable {H : Type}

/-- Publishes a router in place of the present one. -/
def publish (_ : Published H) (router : Router H) : Published H × List Event :=
  (⟨router⟩, [.routerPublished router.routes.length])

/-- Builds a router and publishes it, if no definition is rejected. -/
def rebuild (p : Published H) (plan : Plan H) : Rebuild H :=
  let built := plan.build
  match built.outcome with
  | .error e => ⟨p, .error e, built.events⟩
  | .ok router =>
    let (published, events) := p.publish router
    ⟨published, .ok (), built.events ++ events⟩

end Published
end Signpost
