/-
# Passing over loses nothing

A walk passes over a pattern child without children while segments are left
below it. A walk that passes over no child and is the same otherwise
(`Node.descendUnpruned`) may be led to such a child, but is stopped there by the
next segment. So if it reaches a node, it was led to no child that is passed
over; the children tried before did not match, whether they are passed over or
not; and the walk that passes over children takes the same steps
(`Node.descend_of_descendUnpruned`). Every handler that is found without passing
over is found with it (`Router.lookup_eq_lookupUnpruned`). The converse fails:
the routes `/{uint:id}` and `/{word:dir}/raw` are there so that a request for
`/7/raw` is led past the first to the second.

Key definitions: `Node.tryMatcher`, `Node.stepUnpruned`,
`Node.descendUnpruned`, `Router.lookupUnpruned`.
Key theorems: `Node.step_of_stepUnpruned`, `Node.descend_of_descendUnpruned`,
`Router.lookup_eq_lookupUnpruned`.
-/
import Signpost.Proofs.Router.History
import Signpost.Proofs.Router.Walk

namespace Signpost

variable {H : Type}

namespace Node

/-- Tries a segment on a pattern child, even if the child is passed over. -/
def tryMatcher (child : Node H) (segment : String) (w : Walk) : Option Walk :=
  match child.matcher with
  | none => none
  | some m =>
    match w.captures with
    | some _ => (m.regex.captures? segment).map fun found =>
        w.record m.regex.groupNames found.groups
    | none => if m.regex.isMatch segment then some w else none

/-- The first pattern child whose matcher matches a segment, passed over or not,
or else the child under the segment; with the walk after it. -/
def stepUnpruned (n : Node H) (segment : String) (w : Walk) : Option (Node H × Walk) :=
  let matched := n.patterns.findSome? fun position =>
    n.children[position]?.bind fun child => (child.tryMatcher segment w).map fun w => (child, w)
  matched.or ((n.child? segment).map fun child => (child, w))

/-- Walks down the segments, of which the first has the given position, and
passes over no child. -/
def descendUnpruned : List String → Nat → Node H → Walk → Destination H × Walk
  | [], _, n, w => (.reached n, w)
  | segment :: rest, position, n, w =>
    match n.stepUnpruned segment w with
    | some (child, w) => descendUnpruned rest (position + 1) child w
    | none => (.stopped position, w)

variable {segment : String} {w w' : Walk} {n child : Node H}

theorem accept_eq_tryMatcher (child : Node H) (segment : String) (w : Walk) :
    child.accept segment w =
      if child.passedOver w = true then none else child.tryMatcher segment w := rfl

theorem accept_of_open (hopen : child.passedOver w = false) :
    child.accept segment w = child.tryMatcher segment w := by
  rw [accept_eq_tryMatcher, hopen]
  rfl

theorem accept_eq_none (h : child.tryMatcher segment w = none) : child.accept segment w = none := by
  rw [accept_eq_tryMatcher, h, ite_self]

theorem mem_of_stepUnpruned (h : n.stepUnpruned segment w = some (child, w')) :
    child ∈ n.children := by
  rcases Option.or_eq_some_iff.mp h with hfound | ⟨-, hkey⟩
  · obtain ⟨c, hmem, hw⟩ := exists_of_findSome?_patterns hfound
    obtain ⟨w₁, -, heq⟩ := Option.map_eq_some_iff.mp hw
    cases heq
    exact hmem
  · obtain ⟨c, hc, heq⟩ := Option.map_eq_some_iff.mp hkey
    cases heq
    exact mem_of_child? hc

theorem accepted_eq_none {position : Nat}
    (h : (n.children[position]?.bind fun child =>
      (child.tryMatcher segment w).map fun w => (child, w)) = none) :
    (n.children[position]?.bind fun child =>
      (child.accept segment w).map fun w => (child, w)) = none := by
  cases hc : n.children[position]? with
  | none => rfl
  | some c =>
    rw [hc] at h
    have hnone : c.tryMatcher segment w = none := Option.map_eq_none_iff.mp h
    show (c.accept segment w).map _ = none
    rw [accept_eq_none hnone, Option.map_none]

theorem step_of_stepUnpruned (h : n.stepUnpruned segment w = some (child, w'))
    (hopen : child.passedOver w = false) : n.step segment w = some (child, w') := by
  rcases Option.or_eq_some_iff.mp h with hfound | ⟨hnone, hkey⟩
  · -- the positions before the one where the child is found have none that accepts
    obtain ⟨before, position, after, hpatterns, hp, hbefore⟩ :=
      List.findSome?_eq_some_iff.mp hfound
    obtain ⟨c, hget, hw⟩ := Option.bind_eq_some_iff.mp hp
    obtain ⟨w₁, htry, heq⟩ := Option.map_eq_some_iff.mp hw
    cases heq
    refine Option.or_eq_some_iff.mpr (Or.inl (List.findSome?_eq_some_iff.mpr
      ⟨before, position, after, hpatterns, ?_, fun x hx => accepted_eq_none (hbefore x hx)⟩))
    rw [hget]
    show (child.accept segment w).map _ = _
    rw [accept_of_open hopen, htry]
    rfl
  · refine Option.or_eq_some_iff.mpr (Or.inr ⟨?_, hkey⟩)
    rw [List.findSome?_eq_none_iff] at hnone ⊢
    exact fun position hpos => accepted_eq_none (hnone position hpos)

/-- A walk that passes over no child and reaches a node has taken a step for
every segment. -/
theorem stepUnpruned_of_reached {m : Node H} {rest : List String} {position : Nat}
    (h : n.descendUnpruned (segment :: rest) position w = (.reached m, w')) :
    ∃ child w₁, n.stepUnpruned segment w = some (child, w₁) ∧
      child.descendUnpruned rest (position + 1) w₁ = (.reached m, w') := by
  cases hs : n.stepUnpruned segment w with
  | none =>
    rw [descendUnpruned, hs] at h
    cases h
  | some reached =>
    obtain ⟨child, w₁⟩ := reached
    rw [descendUnpruned, hs] at h
    exact ⟨child, w₁, rfl, h⟩

/-- **All steps.** A node that is reached without passing over is reached with
it, on the same walk. -/
theorem descend_of_descendUnpruned {s : MatcherStore} : ∀ (segments : List String) {position : Nat}
    {n m : Node H} {w w' : Walk}, n.WellFormed s → n.depth + segments.length = w.segments →
    n.descendUnpruned segments position w = (.reached m, w') →
    n.descend segments position w = (.reached m, w')
  | [], _, _, _, _, _, _, _, h => h
  | segment :: rest, position, n, m, w, w', hwell, hlen, h => by
    obtain ⟨child, w₁, hs, hrest⟩ := stepUnpruned_of_reached h
    obtain ⟨hfits, hchild⟩ := hwell.child (mem_of_stepUnpruned hs)
    have hdepth : child.depth + rest.length = w.segments := by
      rw [hfits.depth_eq, ← hlen, List.length_cons]
      omega
    have hopen : child.passedOver w = false := by
      cases rest with
      | nil =>
        have hle : ¬ child.depth < w.segments := by
          rw [List.length_nil] at hdepth
          omega
        rw [passedOver, decide_eq_false hle, Bool.false_and]
      | cons segment' rest =>
        -- one more segment was walked, so the child has a child
        obtain ⟨grandchild, w₂, hs', -⟩ := stepUnpruned_of_reached hrest
        have hne := List.ne_nil_of_mem (mem_of_stepUnpruned hs')
        rw [passedOver, List.isEmpty_eq_false_iff.mpr hne, Bool.and_false]
    have hstep := step_of_stepUnpruned hs hopen
    have hlen' : child.depth + rest.length = w₁.segments := by
      rw [segments_step hstep]
      exact hdepth
    rw [descend_cons hstep]
    exact descend_of_descendUnpruned rest hchild hlen' hrest

end Node

namespace Router

/-- Answers a request by a walk that passes over no child. -/
def lookupUnpruned (r : Router H) (method path : String) (captures : Option Captures) : Lookup H :=
  Lookup.ofWalk (answering method) path
    (r.root.descendUnpruned (RouteKey.ofRoute (answering method) path).segments 0
      (initialWalk (answering method) path captures))

/-- **Passing over loses nothing.** On every router that can be reached, a
request that is answered with a handler if no child is passed over is answered
with the same handler if children are, and with the same captures. -/
theorem lookup_eq_lookupUnpruned (ds : List (RouteDefinition H)) (method path : String)
    (captures : Option Captures) {h : H}
    (hok : ((after ds Router.empty).lookupUnpruned method path captures).outcome = .ok h) :
    (after ds Router.empty).lookup method path captures =
      (after ds Router.empty).lookupUnpruned method path captures := by
  have hsound := sound_after (H := H) ds
  set root := (after ds Router.empty).root with hroot
  set w := initialWalk (answering method) path captures with hw
  obtain ⟨n, w', hreached⟩ : ∃ n w', root.descendUnpruned
      (RouteKey.ofRoute (answering method) path).segments 0 w = (.reached n, w') := by
    have hanswer : (root.descendUnpruned
        (RouteKey.ofRoute (answering method) path).segments 0 w).1.answer = .ok h := hok
    generalize root.descendUnpruned _ 0 w = walked at hanswer
    obtain ⟨n | position, w'⟩ := walked
    · exact ⟨n, w', rfl⟩
    · cases hanswer
  have hlen : root.depth + (RouteKey.ofRoute (answering method) path).segments.length =
      w.segments := by
    rw [hroot, hsound.depth_root, Nat.zero_add]
    exact (RouteKey.length_segments _).symm
  have hwalk : (after ds Router.empty).walk (answering method) path captures = (.reached n, w') :=
    Node.descend_of_descendUnpruned _ hsound.wellFormed hlen hreached
  rw [lookup_eq, hwalk, lookupUnpruned, ← hroot, ← hw, hreached]

/-- Numbers end a path, words go on. -/
def numberOrFolder : Router Nat :=
  after [⟨"GET", "/\x7buint:id\x7d", 1⟩, ⟨"GET", "/\x7bword:dir\x7d/raw", 2⟩] Router.empty

theorem lookup_eq_lookupUnpruned_raw :
    (numberOrFolder.lookupUnpruned "GET" "/docs/raw" (some {})).outcome = .ok 2 ∧
      numberOrFolder.lookup "GET" "/docs/raw" (some {}) =
        numberOrFolder.lookupUnpruned "GET" "/docs/raw" (some {}) := by
  have hok : (numberOrFolder.lookupUnpruned "GET" "/docs/raw" (some {})).outcome = .ok 2 := by
    decide +kernel
  exact ⟨hok, lookup_eq_lookupUnpruned _ "GET" "/docs/raw" (some {}) hok⟩

end Router
end Signpost
