/-
# The walk that answers a request

A lookup is one walk down the trie: the node where it ends, or the segment
where it stops, is the answer, and what the walk captured is handed out with it
(`lookup_eq`). What is known of walks is known of lookups that way. A method
resolves a path if the walk without captures has a handler for its answer
(`resolves_eq`).

Key definitions: `Node.Destination.answer`, `Lookup.ofWalk`,
`Router.initialWalk`, `Router.walk`, `Router.visits`.
Key theorems: `Router.lookup_eq`, `Router.resolves_eq`,
`Router.reached_of_lookup`.
-/
import Signpost.Proofs.Trie.Trail
import Signpost.Router.Lookup

namespace Signpost

variable {H : Type}

/-- The handler of the node that a walk ends at, or the miss where it stops. -/
def Node.Destination.answer : Node.Destination H → Except Miss H
  | .reached n => Router.handlerOf n
  | .stopped position => .error (Router.missAt position)

/-- What is answered when the walk for a method, which is not `HEAD`, and a path
has come to its end. -/
def Lookup.ofWalk (method path : String) (walked : Node.Destination H × Walk) : Lookup H where
  outcome := walked.1.answer
  captures := walked.2.captures
  events :=
    match walked.1.answer with
    | .ok _ => []
    | .error miss => [.lookupFailed method path miss]

namespace Router

/-- The walk that answers a request, at its beginning. -/
def initialWalk (method path : String) (captures : Option Captures) : Walk where
  segments := (RouteKey.ofRoute method path).length
  captures := captures

/-- The walk that answers a request for a method, which is not `HEAD`, and a
path. -/
def walk (r : Router H) (method path : String) (captures : Option Captures) :
    Node.Destination H × Walk :=
  r.root.descend (RouteKey.ofRoute method path).segments 0 (initialWalk method path captures)

/-- The visits of the walk that answers a request for a method, which is not
`HEAD`, and a path. -/
def visits (r : Router H) (method path : String) (captures : Option Captures) : List (Visit H) :=
  r.root.trail (RouteKey.ofRoute method path).segments (initialWalk method path captures)

theorem outcome_lookup (r : Router H) (method path : String) (captures : Option Captures) :
    (r.lookup method path captures).outcome =
      (r.locate (answering method) path captures).1.bind handlerOf := by
  unfold lookup
  cases h : (r.locate (answering method) path captures).1.bind handlerOf <;> simp only [h]

/-- The walk that answers a request. -/
theorem locate_bind (r : Router H) (method path : String) (captures : Option Captures) :
    (r.locate method path captures).1.bind handlerOf =
      (r.root.descend (RouteKey.ofRoute method path).segments 0
        { segments := (RouteKey.ofRoute method path).length, captures := captures }).1.answer := by
  unfold locate
  dsimp only
  generalize r.root.descend _ 0 _ = walked
  obtain ⟨n | position, w⟩ := walked <;> rfl

theorem captures_locate (r : Router H) (method path : String) (captures : Option Captures) :
    (r.locate method path captures).2 = (r.walk method path captures).2.captures := by
  unfold locate walk initialWalk
  dsimp only
  generalize r.root.descend _ 0 _ = walked
  obtain ⟨n | position, w⟩ := walked <;> rfl

/-- **A lookup is a walk.** -/
theorem lookup_eq (r : Router H) (method path : String) (captures : Option Captures) :
    r.lookup method path captures =
      Lookup.ofWalk (answering method) path (r.walk (answering method) path captures) := by
  have hanswer : (r.locate (answering method) path captures).1.bind handlerOf =
      (r.walk (answering method) path captures).1.answer := locate_bind r (answering method) path captures
  unfold lookup Lookup.ofWalk
  dsimp only
  rw [hanswer, captures_locate]
  cases (r.walk (answering method) path captures).1.answer <;> rfl

theorem resolves_eq (r : Router H) (path method : String) :
    r.resolves path method = (r.walk method path none).1.answer.toBool := by
  unfold resolves locate walk initialWalk
  dsimp only
  generalize r.root.descend _ 0 _ = walked
  obtain ⟨n | position, w⟩ := walked
  · show n.handler.isSome = (handlerOf n).toBool
    unfold handlerOf
    cases n.handler <;> rfl
  · rfl

theorem handler_of_handlerOf {n : Node H} {h : H} (hn : handlerOf n = .ok h) :
    n.handler = some h := by
  unfold handlerOf at hn
  split at hn
  · cases hn
    assumption
  · cases hn

/-- A request that is answered with a handler has reached its node, and the
captures are those of the walk there. -/
theorem reached_of_lookup {r : Router H} {method path : String} {captures : Option Captures}
    {h : H} (hok : (r.lookup method path captures).outcome = .ok h) :
    ∃ n w, r.root.descend (RouteKey.ofRoute (answering method) path).segments 0
        (initialWalk (answering method) path captures) = (.reached n, w) ∧ n.handler = some h ∧
      (r.lookup method path captures).captures = w.captures := by
  rw [lookup_eq] at hok ⊢
  unfold Router.walk at hok ⊢
  generalize r.root.descend _ 0 _ = walked at hok ⊢
  obtain ⟨n | position, w⟩ := walked
  · exact ⟨n, w, rfl, handler_of_handlerOf hok, rfl⟩
  · cases hok

end Router
end Signpost
