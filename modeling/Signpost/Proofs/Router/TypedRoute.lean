/-
# Typed routes and the segments they are given

The handler of a route runs only for segments that the patterns of the route
match, with one exception: a segment that is the text of a pattern leads to the
node of that pattern, whether the pattern matches it or not. So wherever a
placeholder is all there is of a segment, its value is captured, except for the
text of the placeholder itself (`Router.typed_of_lookup`). A placeholder that
catches all matches its own text too, and has no exception.

Key theorems: `Template.holds_of_accept_single`, `Router.typed_of_lookup`.
-/
import Signpost.Proofs.Router.RouteTable
import Signpost.Proofs.Router.Walk
import Signpost.Proofs.Template.Recorded
import Signpost.Proofs.Trie.Trail

namespace Signpost

variable {H : Type}

theorem Template.holds_of_accept_single {child : Node H} {m : Matcher} {kind : Placeholder}
    {name segment : String} {w w' : Walk} (hm : child.matcher = some m)
    (hkind : kind ≠ .geo) (hword : IsWord name.toList)
    (hcompile : compile (single kind name) = .ok m.regex) (hw : w.captures.isSome = true)
    (h : child.accept segment w = some w') : w'.Holds name := by
  rw [Node.accept_of_matcher hm] at h
  obtain ⟨v, hv⟩ := Option.isSome_iff_exists.mp hw
  split at h
  · cases h
  · simp only [hv] at h
    obtain ⟨found, hfound, rfl⟩ := Option.map_eq_some_iff.mp h
    obtain ⟨names, value, values, hnames, hvalues⟩ :=
      groups_of_captures?_single hkind hword hcompile hfound
    rw [hnames, hvalues]
    exact Walk.holds_record hw name value names values

namespace Router

/-- **What is known of a handler that runs.** The walk has visited one node for
each segment. The matcher of each pattern among them matches the segment, or
the segment is the text of the pattern. Where the pattern is one placeholder,
its value is captured, if the segment is not the text of the pattern; and in
any case if the placeholder catches all. -/
theorem typed_of_lookup (ds : List (RouteDefinition H)) (method path : String) (v : Captures)
    {h : H} (hok : ((after ds Router.empty).lookup method path (some v)).outcome = .ok h) :
    ((after ds Router.empty).visits (answering method) path (some v)).map (·.segment) =
        (RouteKey.ofRoute (answering method) path).segments ∧
      ∀ visit ∈ (after ds Router.empty).visits (answering method) path (some v),
        Template.isPattern visit.node.key = true →
        ∃ m, visit.node.matcher = some m ∧ Template.compile visit.node.key = .ok m.regex ∧
          (m.regex.isMatch visit.segment = true ∨ visit.segment = visit.node.key) ∧
          ∀ kind name, kind ≠ .geo → Template.IsWord name.toList →
            visit.node.key = Template.single kind name →
            kind = .catchAll ∨ visit.segment ≠ visit.node.key →
            ∃ v', ((after ds Router.empty).lookup method path (some v)).captures = some v' ∧
              (v'.get? name).isSome = true := by
  have hsound := sound_after (H := H) ds
  have hwell := hsound.wellFormed
  obtain ⟨n, w, hreached, -, hcaptures⟩ := reached_of_lookup hok
  refine ⟨Node.segments_trail _ hreached, fun visit hvisit hp => ?_⟩
  have hlen : (after ds Router.empty).root.depth +
      (RouteKey.ofRoute (answering method) path).segments.length =
      (initialWalk (answering method) path (some v)).segments := by
    rw [hsound.depth_root, Nat.zero_add]
    exact (RouteKey.length_segments _).symm
  obtain ⟨m, hm, hcompile, hmatched⟩ :=
    Node.matched_of_mem_trail _ hwell hlen hreached visit hvisit hp
  refine ⟨m, hm, hcompile, hmatched.imp And.left And.right, ?_⟩
  intro kind name hkind hword hkey hcase
  -- the segment is not taken for the text of the pattern, so it is accepted
  have haccept : visit.node.accept visit.segment visit.before = some visit.after := by
    rcases hmatched with ⟨-, haccept⟩ | ⟨hreject, hsegment⟩
    · exact haccept
    · rcases hcase with rfl | hne
      · rw [hkey] at hcompile
        rw [hsegment, hkey, Template.isMatch_catchAll_single hword hcompile] at hreject
        cases hreject
      · exact absurd hsegment hne
  rw [hkey] at hcompile
  have hbefore : visit.before.captures.isSome = true :=
    (Node.trail_keeps (P := fun w => w.captures.isSome = true) Walk.isSome_recordGroup _ 0 hwell
      visit hvisit).1 rfl
  have hafter := Template.holds_of_accept_single hm hkind hword hcompile hbefore haccept
  have hend := (Node.trail_keeps (P := fun w => w.Holds name) Walk.Holds.recordGroup _ 0
    hwell visit hvisit).2 hafter
  rw [show (after ds Router.empty).root.descend _ 0 _ = _ from hreached] at hend
  obtain ⟨v', hv', hname⟩ := hend
  refine ⟨v', hcaptures.trans hv', ?_⟩
  rw [Captures.get?, List.isSome_head?]
  simpa using hname

/-- The only route of the router asks for a number. -/
def numbered : Router Nat := after [⟨"GET", "/x/\x7buint:id\x7d", 1⟩] Router.empty

theorem typed_of_lookup_number :
    (numbered.lookup "GET" "/x/42" (some {})).outcome = .ok 1 ∧
      ∃ v, (numbered.lookup "GET" "/x/42" (some {})).captures = some v ∧
        (v.get? "id").isSome = true := by
  have hok : (numbered.lookup "GET" "/x/42" (some {})).outcome = .ok 1 := by decide +kernel
  obtain ⟨-, hvisits⟩ := typed_of_lookup [⟨"GET", "/x/\x7buint:id\x7d", 1⟩] "GET" "/x/42" {} hok
  have hvisit : ∃ visit ∈ numbered.visits (answering "GET") "/x/42" (some {}),
      Template.isPattern visit.node.key = true ∧ visit.node.key = Template.single .uint "id" ∧
        visit.segment ≠ visit.node.key := by decide +kernel
  obtain ⟨visit, hmem, hp, hkey, hne⟩ := hvisit
  obtain ⟨m, -, -, -, htyped⟩ := hvisits visit hmem hp
  have hword : Template.IsWord "id".toList := Template.isWord_of_all (by decide) rfl
  exact ⟨hok, htyped .uint "id" (by decide) hword hkey (Or.inr hne)⟩

/-- The text of a typed placeholder is a segment that leads to its route,
though its matcher does not match it, and nothing is captured. -/
theorem typed_route_own_text :
    (numbered.lookup "GET" "/x/\x7buint:id\x7d" (some {})).outcome = .ok 1 ∧
      (numbered.lookup "GET" "/x/\x7buint:id\x7d" (some {})).captures = some {} ∧
      ∃ visit ∈ numbered.visits "GET" "/x/\x7buint:id\x7d" (some {}),
        Template.isPattern visit.node.key = true ∧
          (visit.node.matcher.map fun m => m.regex.isMatch visit.segment) = some false := by
  decide +kernel

end Router
end Signpost
