/-
# Routes in another order

Of the order of the routes in a table only that of the routes with patterns
matters (`RouteTable.Rearranged`). The pattern that is chosen for a segment comes
from the first of them that is accepted, and whether one is accepted, or whether
the segment itself is a template, is a question of what routes there are, and not
of their order (`Rearranged.choose_eq`). What is kept of the routes under a
template is rearranged again (`Rearranged.under`), so a request is led the same
way (`Rearranged.follow_eq`). And if no two routes have the same segments, the
same is bound at its end (`Router.handlerAt_eq_some_iff_of_distinct`).

Key definitions: `RouteTable.patterned`, `RouteTable.Rearranged`.
Key theorems: `RouteTable.Rearranged.choose_eq`, `RouteTable.Rearranged.follow_eq`,
`Router.handlerAt_eq_some_iff_of_distinct`, `Router.only_pattern_order_matters`.
-/
import Signpost.Proofs.Router.Familiar

namespace Signpost

-- what a segment is, is never looked into here; unfolding it is slow
attribute [local irreducible] Template.isPattern

variable {H : Type}

namespace RouteTable

/-- The routes that have a pattern. -/
def patterned (routes : List (Route H)) : List (Route H) :=
  routes.filter fun route => route.segments.any Template.isPattern

/-- The same routes in an order that is the same for those with patterns. -/
structure Rearranged (routes routes' : List (Route H)) : Prop where
  perm : routes.Perm routes'
  patterned_eq : patterned routes = patterned routes'

/-- A template that is sought among the patterns comes from a route with patterns. -/
theorem find?_templatesAt_patterned {p : String → Bool}
    (hp : ∀ template, p template = true → Template.isPattern template = true) (position : Nat)
    (routes : List (Route H)) :
    (templatesAt position (patterned routes)).find? p = (templatesAt position routes).find? p := by
  rw [templatesAt, templatesAt, List.find?_eraseDups, List.find?_eraseDups, patterned]
  refine List.find?_filterMap_filter (fun route template hget htemplate => ?_) routes
  exact List.any_eq_true.mpr ⟨template, List.mem_of_getElem? hget, hp template htemplate⟩

namespace Rearranged

variable {length position : Nat} {segment template : String} {routes routes' : List (Route H)}

theorem under (h : Rearranged routes routes') (position : Nat) (template : String) :
    Rearranged (under position template routes) (under position template routes') := by
  refine ⟨h.perm.filter _, ?_⟩
  have hcomm : ∀ routes : List (Route H), patterned (RouteTable.under position template routes) =
      RouteTable.under position template (patterned routes) := fun routes => List.filter_comm ..
  rw [hcomm, hcomm, h.patterned_eq]

theorem mem_templatesAt_iff (h : Rearranged routes routes') :
    template ∈ templatesAt position routes ↔ template ∈ templatesAt position routes' := by
  simp only [mem_templatesAt, h.perm.mem_iff]

theorem accepts_eq (h : Rearranged routes routes') (template : String) :
    accepts length position template segment routes =
      accepts length position template segment routes' := by
  have hgoes : goesOn position template routes = goesOn position template routes' :=
    (h.under position template).perm.any_eq
  rw [accepts, accepts, hgoes]

theorem take_eq (h : Rearranged routes routes') (template : String) (w : Walk) :
    take length position template segment routes w =
      take length position template segment routes' w := by
  rw [take, take, h.accepts_eq]

theorem choose_eq (h : Rearranged routes routes') :
    choose length position segment routes = choose length position segment routes' := by
  have haccepts : (fun template => accepts length position template segment routes) =
      fun template => accepts length position template segment routes' := funext h.accepts_eq
  have hpattern : ∀ template, accepts length position template segment routes' = true →
      Template.isPattern template = true := fun _ => isPattern_of_accepts
  have hown : (templatesAt position routes).find? (· == segment) =
      (templatesAt position routes').find? (· == segment) :=
    Option.ext fun template => by
      rw [List.find?_beq_eq_some_iff, List.find?_beq_eq_some_iff, h.mem_templatesAt_iff]
  rw [RouteTable.choose_eq, RouteTable.choose_eq, haccepts,
    ← find?_templatesAt_patterned hpattern position routes, h.patterned_eq,
    find?_templatesAt_patterned hpattern, hown]

/-- **All choices.** A request is led the same way, and captures the same. -/
theorem follow_eq (length : Nat) : ∀ (segments : List String) (position : Nat)
    {routes routes' : List (Route H)} (w : Walk), Rearranged routes routes' →
    follow length segments position routes w = follow length segments position routes' w
  | [], _, _, _, _, _ => rfl
  | segment :: rest, position, routes, routes', w, h => by
    have hchoose : choose length position segment routes =
        choose length position segment routes' := h.choose_eq
    cases hc : choose length position segment routes with
    | none => rw [follow_of_none hc, follow_of_none (hchoose ▸ hc)]
    | some template =>
      rw [follow_cons hc, follow_cons (hchoose ▸ hc), h.take_eq,
        follow_eq length rest (position + 1) _ (h.under position template)]

end Rearranged
end RouteTable

namespace Router

open RouteTable

/-- If no two routes have the same segments, each is bound with its own handler. -/
theorem handlerAt_eq_some_iff_of_distinct {ds : List (RouteDefinition H)}
    (hdistinct : ((accepted ds Router.empty).map fun d => d.key.segments).Nodup)
    {segments : List String} {handler : H} :
    (after ds Router.empty).root.handlerAt segments = some handler ↔
      ∃ d ∈ accepted ds Router.empty, d.key.segments = segments ∧ d.handler = handler := by
  constructor
  · exact exists_accepted_of_handlerAt
  · rintro ⟨d, hd, rfl, rfl⟩
    obtain ⟨handler, hbound⟩ :=
      Option.isSome_iff_exists.mp ((isSome_handlerAt_after ds d.key.segments).mpr ⟨d, hd, rfl⟩)
    obtain ⟨d', hd', hsegments, rfl⟩ := exists_accepted_of_handlerAt hbound
    rw [hbound, List.inj_on_of_nodup_map hdistinct hd' hd hsegments]

section Order

variable {ds ds' : List (RouteDefinition H)}

theorem not_literal_iff {d : RouteDefinition H} :
    ¬ d.Literal ↔ d.route.segments.any Template.isPattern = true := by
  simp [RouteDefinition.Literal, RouteDefinition.route]

theorem rearranged_taken (hperm : (accepted ds Router.empty).Perm (accepted ds' Router.empty))
    (hpatterns : (accepted ds Router.empty).filter (fun d => ¬ d.Literal) =
      (accepted ds' Router.empty).filter fun d => ¬ d.Literal) :
    Rearranged (taken ds Router.empty) (taken ds' Router.empty) := by
  have hpatterned : ∀ ds : List (RouteDefinition H), patterned (taken ds Router.empty) =
      ((accepted ds Router.empty).filter fun d => ¬ d.Literal).map RouteDefinition.route := by
    intro ds
    rw [taken_eq_map_route, patterned, List.filter_map]
    congr 1
    refine List.filter_congr fun d _ => ?_
    rw [Bool.eq_iff_iff, decide_eq_true_iff, not_literal_iff]
    rfl
  refine ⟨?_, by rw [hpatterned, hpatterned, hpatterns]⟩
  rw [taken_eq_map_route, taken_eq_map_route]
  exact hperm.map _

theorem walk_answer_eq_of_rearranged
    (hdistinct : ((accepted ds Router.empty).map fun d => d.key.segments).Nodup)
    (hperm : (accepted ds Router.empty).Perm (accepted ds' Router.empty))
    (h : Rearranged (taken ds Router.empty) (taken ds' Router.empty)) (method path : String)
    (captures : Option Captures) :
    ((after ds Router.empty).walk method path captures).1.answer =
        ((after ds' Router.empty).walk method path captures).1.answer ∧
      ((after ds Router.empty).walk method path captures).2 =
        ((after ds' Router.empty).walk method path captures).2 := by
  have hdistinct' := (hperm.map fun d => d.key.segments).nodup_iff.mp hdistinct
  have hfollow := h.follow_eq (RouteKey.ofRoute method path).length
    (RouteKey.ofRoute method path).segments 0 (initialWalk method path captures)
  rw [walk_after, walk_after] at hfollow
  obtain ⟨hway, hwalk⟩ := Prod.mk.inj hfollow
  have hbound : ∀ segments, (after ds Router.empty).root.handlerAt segments =
      (after ds' Router.empty).root.handlerAt segments := fun segments =>
    Option.ext fun handler => by
      rw [handlerAt_eq_some_iff_of_distinct hdistinct, handlerAt_eq_some_iff_of_distinct hdistinct']
      simp only [hperm.mem_iff]
  refine ⟨?_, hwalk⟩
  rw [answer_walk (sound_after ds), answer_walk (sound_after ds'), hway, answerOn, answerOn, hbound]

/-- **Only the order of the routes with patterns matters.** Let the definitions that
are taken of two lists be the same, with no two for the same segments, and let
those with a pattern come in the same order. Then every request is answered
alike by both routers, and captures the same; and for every path both tell the
same methods. -/
theorem only_pattern_order_matters
    (hperm : (accepted ds Router.empty).Perm (accepted ds' Router.empty))
    (hdistinct : ((accepted ds Router.empty).map fun d => d.key.segments).Nodup)
    (hpatterns : (accepted ds Router.empty).filter (fun d => ¬ d.Literal) =
      (accepted ds' Router.empty).filter fun d => ¬ d.Literal) :
    let r := after ds Router.empty
    let r' := after ds' Router.empty
    (∀ (method path : String) (captures : Option Captures),
      r.lookup method path captures = r'.lookup method path captures) ∧
    ∀ path : String,
      r.pathMethods path = ", ".intercalate ("HEAD" :: r.resolving path) ∧
      r'.pathMethods path = ", ".intercalate ("HEAD" :: r'.resolving path) ∧
      (r.resolving path).Perm (r'.resolving path) := by
  intro r r'
  have hwalk := walk_answer_eq_of_rearranged hdistinct hperm (rearranged_taken hperm hpatterns)
  constructor
  · intro method path captures
    obtain ⟨hanswer, hlast⟩ := hwalk (answering method) path captures
    refine lookup_ext ?_ (by rw [captures_lookup, captures_lookup, hlast])
    rw [lookup_eq, lookup_eq]
    exact hanswer
  · intro path
    refine ⟨rfl, rfl, ?_⟩
    refine (List.perm_ext_iff_of_nodup (nodup_resolving ds path) (nodup_resolving ds' path)).mpr ?_
    intro method
    have hmethods : method ∈ r.methods ↔ method ∈ r'.methods := by
      rw [methods_after, methods_after, List.mem_eraseDups, List.mem_eraseDups]
      exact (hperm.map _).mem_iff
    have hresolves : r.resolves path method = r'.resolves path method := by
      rw [resolves_eq, resolves_eq, (hwalk method path none).1]
    rw [mem_resolving, mem_resolving, hmethods, hresolves]

end Order

/-- Two templates for one segment, and its own text for two methods. -/
def ordered : List (RouteDefinition Nat) :=
  [⟨"GET", "/\x7buint:id\x7d", 1⟩, ⟨"PUT", "/7", 2⟩, ⟨"GET", "/7", 3⟩, ⟨"GET", "/\x7bre:.+\x7d", 4⟩]

/-- The definitions of `ordered`, with the templates where they were and the others
moved about them. -/
def reordered : List (RouteDefinition Nat) :=
  [⟨"GET", "/7", 3⟩, ⟨"GET", "/\x7buint:id\x7d", 1⟩, ⟨"GET", "/\x7bre:.+\x7d", 4⟩, ⟨"PUT", "/7", 2⟩]

/-- Both orders answer with the first template, and tell the same methods in another
order. -/
theorem only_pattern_order_matters_reordered :
    let r := after ordered Router.empty
    let r' := after reordered Router.empty
    (accepted ordered Router.empty).Perm (accepted reordered Router.empty) ∧
      r.lookup "GET" "/7" (some Captures.empty) = r'.lookup "GET" "/7" (some Captures.empty) ∧
      (r.lookup "GET" "/7" (some Captures.empty)).outcome = .ok 1 ∧
      (r.resolving "/7").Perm (r'.resolving "/7") := by
  intro r r'
  have hperm : (accepted ordered Router.empty).Perm (accepted reordered Router.empty) := by
    decide +kernel
  obtain ⟨hlookup, hmethods⟩ := only_pattern_order_matters hperm (by decide +kernel)
    (by decide +kernel)
  exact ⟨hperm, hlookup "GET" "/7" (some Captures.empty), by decide +kernel, (hmethods "/7").2.2⟩

end Router
end Signpost
