/-
# Captures do not steer a walk

Captures are only written. Where a walk goes depends on the number of segments
of its request, for a child may be passed over, but neither on whether captures
are wanted nor on what was captured before: two walks for the same number of
segments take the same step at each node (`Node.step_agree`) and so visit the
same nodes and end alike (`Node.descend_agree`). What is compared is a search
for groups with a search for a match; one succeeds just if the other does
(`Regex.isSome_captures?`).

Key theorems: `Node.isSome_accept_agree`, `Node.step_agree`,
`Node.descend_agree`, `Router.lookup_agree`.
-/
import Signpost.Proofs.Router.Walk

namespace Signpost

variable {H : Type}

namespace Node

variable {w w' : Walk}

theorem isSome_accept_agree (h : w.segments = w'.segments) (child : Node H) (segment : String) :
    (child.accept segment w).isSome = (child.accept segment w').isSome := by
  rw [isSome_accept_eq, isSome_accept_eq, passedOver, passedOver, h]

theorem step_agree (h : w.segments = w'.segments) (n : Node H) (segment : String) :
    (n.step segment w).map (·.1) = (n.step segment w').map (·.1) := by
  have haccept : ∀ child : Node H,
      (child.accept segment w).map (fun _ => child) = (child.accept segment w').map fun _ => child := by
    intro child
    have hsome := isSome_accept_agree h child segment
    revert hsome
    cases child.accept segment w <;> cases child.accept segment w' <;> simp
  unfold step
  simp only [Option.map_or, List.map_findSome?, Option.map_map, Function.comp_def,
    Option.map_bind, haccept]

/-- **All steps.** Two walks of the same length visit the same nodes and end
alike. -/
theorem descend_agree : ∀ (segments : List String) (position : Nat) (n : Node H) {w w' : Walk},
    w.segments = w'.segments →
    (n.trail segments w).map (·.node) = (n.trail segments w').map (·.node) ∧
      (n.descend segments position w).1 = (n.descend segments position w').1
  | [], _, _, _, _, _ => ⟨rfl, rfl⟩
  | segment :: rest, position, n, w, w', h => by
    have hstep := step_agree h n segment
    cases hs : n.step segment w with
    | none =>
      have hs' : n.step segment w' = none := by simpa [hs] using hstep.symm
      simp [trail, descend, hs, hs']
    | some reached =>
      obtain ⟨child, w₁⟩ := reached
      obtain ⟨w₁', hs'⟩ : ∃ w₁', n.step segment w' = some (child, w₁') := by
        simpa [hs] using hstep.symm
      have hlen : w₁.segments = w₁'.segments := by rw [segments_step hs, segments_step hs', h]
      obtain ⟨htrail, hend⟩ := descend_agree rest (position + 1) child hlen
      rw [trail_cons hs, trail_cons hs', descend_cons hs, descend_cons hs']
      exact ⟨by rw [List.map_cons, List.map_cons, htrail], hend⟩

end Node

namespace Router

theorem isSome_captures_walk (r : Router H) (method path : String) (captures : Option Captures) :
    (r.walk method path captures).2.captures.isSome = captures.isSome :=
  Node.descend_keeps (P := fun w => w.captures.isSome = captures.isSome)
    (fun w name text h => (w.isSome_captures_recordGroup name text).trans h) _ rfl

/-- **Captures do not steer a lookup.** On every router, a request is answered
alike whether captures are wanted or not, and whatever they hold: the same
handler or the same miss, with the same events, after the same nodes were
visited. And captures are handed out just if they are wanted. -/
theorem lookup_agree (r : Router H) (method path : String) (captures captures' : Option Captures) :
    (r.lookup method path captures).outcome = (r.lookup method path captures').outcome ∧
      (r.lookup method path captures).events = (r.lookup method path captures').events ∧
      (r.visits (answering method) path captures).map (·.node) =
        (r.visits (answering method) path captures').map (·.node) ∧
      (r.lookup method path captures).captures.isSome = captures.isSome := by
  have hlen : (initialWalk (answering method) path captures).segments =
      (initialWalk (answering method) path captures').segments := rfl
  obtain ⟨htrail, hend⟩ :=
    Node.descend_agree (RouteKey.ofRoute (answering method) path).segments 0 r.root hlen
  have hwalk : (r.walk (answering method) path captures).1 =
      (r.walk (answering method) path captures').1 := hend
  rw [lookup_eq, lookup_eq]
  simp only [Lookup.ofWalk, hwalk]
  exact ⟨trivial, trivial, htrail, isSome_captures_walk r _ path captures⟩

end Router
end Signpost
