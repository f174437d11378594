/-
# Methods do not mix

The first segment of a key is the method, if the path is empty or begins with a
slash (`RouteKey.first_ofRoute_of_rooted`). So in a router whose routes have such
paths, and no template for a method, the first segment of a request is not
matched by a pattern, and the way of a request begins with its own method
(`Router.first_way`). A request is only answered by a route for its method, with
as many segments as it has itself (`Router.method_isolation`).

Key definitions: `RouteDefinition.Plain`.
Key theorems: `Router.first_key_of_plain`, `Router.not_isPattern_of_plain`,
`Router.first_way`, `Router.method_isolation`.
-/
import Signpost.Proofs.RouteKey
import Signpost.Proofs.Router.Bindings
import Signpost.Proofs.Router.Way

namespace Signpost

-- what a segment is, is never looked into here; unfolding it is slow
attribute [local irreducible] Template.isPattern

variable {H : Type}

/-- A definition whose method is no template, and whose path is empty or begins with
a slash. -/
structure RouteDefinition.Plain (d : RouteDefinition H) : Prop where
  method : Template.isPattern d.method = false
  path : RouteKey.Rooted d.path

instance (d : RouteDefinition H) : Decidable d.Plain :=
  decidable_of_iff (Template.isPattern d.method = false ∧ RouteKey.Rooted d.path)
    ⟨fun h => ⟨h.1, h.2⟩, fun h => ⟨h.1, h.2⟩⟩

namespace Router

open RouteTable

section Plain

variable {ds : List (RouteDefinition H)}

theorem first_key_of_plain (hds : ∀ d ∈ ds, d.Plain) {d : RouteDefinition H}
    (hd : d ∈ accepted ds Router.empty) : d.key.first = d.method :=
  RouteKey.first_ofRoute_of_rooted (hds d ((mem_accepted_iff MatcherStore.faithful_empty).mp hd).1).path
    d.method

theorem not_isPattern_of_plain (hds : ∀ d ∈ ds, d.Plain) {template : String}
    (h : template ∈ templatesAt 0 (taken ds Router.empty)) :
    Template.isPattern template = false := by
  obtain ⟨route, hroute, hget⟩ := mem_templatesAt.mp h
  rw [taken_eq_map_accepted] at hroute
  obtain ⟨d, hd, rfl⟩ := List.mem_map.mp hroute
  have htemplate : template = d.key.first := (Option.some.inj hget).symm
  rw [htemplate, first_key_of_plain hds hd]
  exact (hds d ((mem_accepted_iff MatcherStore.faithful_empty).mp hd).1).method

theorem first_way (hds : ∀ d ∈ ds, d.Plain) {method path : String} {captures : Option Captures}
    {first : String} {rest : List String}
    (h : (after ds Router.empty).way method path captures = first :: rest) :
    first = (RouteKey.ofRoute method path).first := by
  have hwalk := congrArg Prod.fst (walk_after ds method path captures)
  rw [h, RouteKey.segments] at hwalk
  cases hchoose : choose (RouteKey.ofRoute method path).length 0
      (RouteKey.ofRoute method path).first (taken ds Router.empty) with
  | none =>
    rw [follow_of_none hchoose] at hwalk
    cases hwalk
  | some template =>
    rw [follow_cons hchoose] at hwalk
    obtain ⟨hmem, haccepts | htext⟩ := choose_cases hchoose
    · have hp := isPattern_of_accepts haccepts
      rw [not_isPattern_of_plain hds hmem] at hp
      cases hp
    · rw [← htext]
      exact (List.cons.inj hwalk).1.symm

/-- **Methods do not mix.** Let no method of a definition be a template, and let all
paths be empty or begin with a slash. Then a handler that answers a request is
that of a definition that was taken for the very method of the request, which is
`GET` for `HEAD`, and for a path with as many segments as that of the
request. -/
theorem method_isolation (hds : ∀ d ∈ ds, d.Plain) {method path : String}
    (hpath : RouteKey.Rooted path) (captures : Option Captures) {handler : H}
    (h : ((after ds Router.empty).lookup method path captures).outcome = .ok handler) :
    ∃ d ∈ accepted ds Router.empty, d.handler = handler ∧ d.method = answering method ∧
      (RouteKey.parts d.path).length = (RouteKey.parts path).length := by
  rw [outcome_lookup_eq (sound_after ds), answerOn_eq_ok_iff] at h
  obtain ⟨hlength, hbound⟩ := h
  obtain ⟨d, hd, hsegments, hhandler⟩ := exists_accepted_of_handlerAt hbound
  have hplain := hds d ((mem_accepted_iff MatcherStore.faithful_empty).mp hd).1
  refine ⟨d, hd, hhandler, ?_, ?_⟩
  · calc d.method = d.key.first := (RouteKey.first_ofRoute_of_rooted hplain.path d.method).symm
      _ = (RouteKey.ofRoute (answering method) path).first := first_way hds hsegments.symm
      _ = answering method := RouteKey.first_ofRoute_of_rooted hpath (answering method)
  · rw [← hsegments, RouteKey.length_segments] at hlength
    rw [← RouteKey.length_ofRoute d.method, ← RouteKey.length_ofRoute (answering method)]
    exact hlength

end Plain

/-- One template for two methods. -/
def twoMethods : List (RouteDefinition Nat) :=
  [⟨"GET", "/a/\x7buint:id\x7d", 1⟩, ⟨"DELETE", "/a/\x7buint:id\x7d/", 2⟩]

/-- `HEAD` is answered by the route of `twoMethods` for `GET`. -/
theorem method_isolation_head :
    (∀ d ∈ twoMethods, d.Plain) ∧ RouteKey.Rooted "/a/7//" ∧
      ((after twoMethods Router.empty).lookup "HEAD" "/a/7//" none).outcome = .ok 1 ∧
      ∃ d ∈ accepted twoMethods Router.empty, d.handler = 1 ∧ d.method = "GET" ∧
        (RouteKey.parts d.path).length = 3 := by
  have hds : ∀ d ∈ twoMethods, d.Plain := by decide +kernel
  have hpath : RouteKey.Rooted "/a/7//" := by decide
  have hanswered : ((after twoMethods Router.empty).lookup "HEAD" "/a/7//" none).outcome =
      .ok 1 := by decide +kernel
  obtain ⟨d, hd, hhandler, hmethod, hlength⟩ := method_isolation hds hpath none hanswered
  exact ⟨hds, hpath, hanswered, d, hd, hhandler, hmethod, hlength⟩

end Router
end Signpost
