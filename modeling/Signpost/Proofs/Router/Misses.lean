/-
# Which miss a request is answered with

A search is stopped at a segment for which no template can be chosen
(`RouteTable.choose_eq_none_iff`), and only the first two segments tell of the
method (`RouteTable.search_ne_badMethod`). If no method is a template and all
paths begin with a slash, the first of them is the method itself: it is chosen
just if a definition was taken for it, and then the routes that are left are those
of these definitions (`Router.choose_method`, `Router.under_method`). The second
is the first one of the path, and it is chosen just if these definitions know it
(`KnowsFirst`). So whether the method of a request or its path is missed can be
told from the definitions that were taken (`Router.badMethod_iff`).

Key definitions: `Router.acceptedFor`, `KnowsFirst`.
Key theorems: `RouteTable.choose_eq_none_iff`, `RouteTable.search_ne_badMethod`,
`RouteTable.choose_first_eq_none_iff`, `Router.choose_method`,
`Router.under_method`, `Router.badMethod_iff`.
-/
import Signpost.Proofs.Router.Familiar
import Signpost.Proofs.Router.Isolation

namespace Signpost

-- what a segment is, is never looked into here; unfolding it is slow
attribute [local irreducible] Template.isPattern

variable {H : Type}

/-- Some definitions know the first segment of a path, of which more segments are
left: it is the first segment of one of their paths, or a pattern there matches it
and, if segments are left, one of the paths with this pattern goes on. -/
def KnowsFirst (ds : List (RouteDefinition H)) (segment : String) (rest : List String) : Prop :=
  ∃ template, (∃ d ∈ ds, d.key.rest.head? = some template) ∧
    (template = segment ∨
      Template.isPattern template = true ∧
        (∃ regex, Template.compile template = .ok regex ∧ regex.isMatch segment = true) ∧
        (rest = [] ∨ ∃ d ∈ ds, d.key.rest.head? = some template ∧ 2 ≤ d.key.rest.length))

/-! ### Where a search is stopped -/

namespace RouteTable

variable {length position : Nat} {segment template : String} {routes : List (Route H)}

theorem choose_eq_none_iff : choose length position segment routes = none ↔
    ∀ template ∈ templatesAt position routes,
      accepts length position template segment routes = false ∧ template ≠ segment := by
  rw [choose_eq, Option.or_eq_none_iff, List.find?_eq_none, List.find?_eq_none]
  simp only [beq_iff_eq, Bool.not_eq_true, ← forall_and]

theorem under_eq_nil_iff :
    under position template routes = [] ↔ template ∉ templatesAt position routes := by
  refine ⟨fun h hmem => ?_, under_eq_nil⟩
  obtain ⟨route, hroute, hget⟩ := mem_templatesAt.mp hmem
  exact List.filter_eq_nil_iff.mp h route hroute (by simp [hget])

theorem matchesSegment_iff : matchesSegment template segment = true ↔
    ∃ regex, Template.compile template = .ok regex ∧ regex.isMatch segment = true := by
  unfold matchesSegment
  cases Template.compile template <;> simp

/-- A search that is stopped behind the second segment, or comes to its end, does
not tell of the method. -/
theorem search_ne_badMethod : ∀ (segments : List String) {position : Nat} {routes : List (Route H)},
    2 ≤ position ∨ segments = [] → search length segments position routes ≠ .error .badMethod
  | [], position, routes, _ => by
    rw [search]
    cases (ending position routes).getLast? <;> simp
  | segment :: rest, position, routes, h => by
    have hposition : 2 ≤ position := h.resolve_right (List.cons_ne_nil _ _)
    rw [search]
    cases choose length position segment routes with
    | some template => exact search_ne_badMethod rest (Or.inl (Nat.le_succ_of_le hposition))
    | none =>
      rw [if_neg (by omega)]
      simp

theorem search_second_iff (segment : String) (rest : List String) :
    search length (segment :: rest) 1 routes = .error .badMethod ↔
      choose length 1 segment routes = none := by
  rw [search]
  cases choose length 1 segment routes with
  | none => exact iff_of_true rfl rfl
  | some template =>
    exact iff_of_false (search_ne_badMethod rest (Or.inl (Nat.le_refl 2))) (Option.some_ne_none _)

theorem getElem?_route (d : RouteDefinition H) : d.route.segments[1]? = d.key.rest.head? := by
  rw [RouteDefinition.route, RouteKey.segments, List.getElem?_cons_succ, List.head?_eq_getElem?]

theorem mem_templatesAt_first {ds : List (RouteDefinition H)} :
    template ∈ templatesAt 1 (ds.map RouteDefinition.route) ↔
      ∃ d ∈ ds, d.key.rest.head? = some template := by
  simp only [mem_templatesAt, List.mem_map, exists_exists_and_eq_and, getElem?_route]

theorem goesOn_first {ds : List (RouteDefinition H)} :
    goesOn 1 template (ds.map RouteDefinition.route) = true ↔
      ∃ d ∈ ds, d.key.rest.head? = some template ∧ 2 ≤ d.key.rest.length := by
  have hlength : ∀ d : RouteDefinition H,
      1 + 1 < d.route.segments.length ↔ 2 ≤ d.key.rest.length := fun d => Nat.succ_lt_succ_iff
  simp only [goesOn, under, List.any_eq_true, List.mem_filter, List.mem_map, beq_iff_eq,
    decide_eq_true_eq, and_assoc, exists_exists_and_eq_and, getElem?_route, hlength]

theorem accepts_first_iff {ds : List (RouteDefinition H)} {rest : List String} :
    accepts (rest.length + 2) 1 template segment (ds.map RouteDefinition.route) = true ↔
      Template.isPattern template = true ∧
        (∃ regex, Template.compile template = .ok regex ∧ regex.isMatch segment = true) ∧
        (rest = [] ∨ ∃ d ∈ ds, d.key.rest.head? = some template ∧ 2 ≤ d.key.rest.length) := by
  have hlast : ¬ 1 + 1 < rest.length + 2 ↔ rest = [] := by
    rw [← List.length_eq_zero_iff]
    omega
  rw [← matchesSegment_iff, ← goesOn_first, accepts, Bool.and_eq_true, Bool.and_eq_true,
    Bool.or_eq_true, Bool.not_eq_true', decide_eq_false_iff_not, hlast, and_assoc]
  exact and_congr_right fun _ => and_comm

/-- **The first segment of a path** is known just if there is a choice for it. -/
theorem choose_first_eq_none_iff (ds : List (RouteDefinition H)) (segment : String)
    (rest : List String) :
    choose (rest.length + 2) 1 segment (ds.map RouteDefinition.route) = none ↔
      ¬ KnowsFirst ds segment rest := by
  unfold KnowsFirst
  rw [choose_eq_none_iff, not_exists]
  refine forall_congr' fun template => ?_
  rw [mem_templatesAt_first, not_and, not_or, ← accepts_first_iff, Bool.not_eq_true, and_comm]

end RouteTable

/-! ### Methods and first segments -/

namespace Router

open RouteTable

/-- The definitions for a method that are taken, when some are registered on the
empty router. -/
def acceptedFor (ds : List (RouteDefinition H)) (method : String) : List (RouteDefinition H) :=
  (accepted ds Router.empty).filter fun d => d.method = method

section Plain

variable {ds : List (RouteDefinition H)}

theorem under_method (hds : ∀ d ∈ ds, d.Plain) (method : String) :
    under 0 method (taken ds Router.empty) = (acceptedFor ds method).map RouteDefinition.route := by
  rw [under, taken_eq_map_route, List.filter_map, acceptedFor]
  congr 1
  refine List.filter_congr fun d hd => ?_
  have hfirst : d.route.segments[0]? = some d.key.first := rfl
  rw [Function.comp_apply, hfirst, first_key_of_plain hds hd, Option.some_beq_some, beq_eq_decide]

theorem choose_method (hds : ∀ d ∈ ds, d.Plain) (length : Nat) (method : String) :
    choose length 0 method (taken ds Router.empty) =
      if acceptedFor ds method = [] then none else some method := by
  have hnone : acceptedFor ds method = [] ↔ method ∉ templatesAt 0 (taken ds Router.empty) := by
    rw [← under_eq_nil_iff, under_method hds, List.map_eq_nil_iff]
  cases hchoose : choose length 0 method (taken ds Router.empty) with
  | none =>
    have hnot : method ∉ templatesAt 0 (taken ds Router.empty) :=
      fun h => (choose_eq_none_iff.mp hchoose method h).2 rfl
    rw [if_pos (hnone.mpr hnot)]
  | some template =>
    obtain ⟨htemplate, haccepts | rfl⟩ := choose_cases hchoose
    · have hp := isPattern_of_accepts haccepts
      rw [not_isPattern_of_plain hds htemplate] at hp
      cases hp
    · rw [if_neg fun h => hnone.mp h htemplate]

theorem answer_eq_badMethod_iff (hds : ∀ d ∈ ds, d.Plain) (method : String) (segments : List String) :
    answer (taken ds Router.empty) (method :: segments) = .error .badMethod ↔
      acceptedFor ds method = [] ∨ ∃ segment rest, segments = segment :: rest ∧
        ¬ KnowsFirst (acceptedFor ds method) segment rest := by
  rw [answer, search, choose_method hds]
  by_cases hnone : acceptedFor ds method = []
  · rw [if_pos hnone]
    exact iff_of_true rfl (Or.inl hnone)
  · rw [if_neg hnone, or_iff_right hnone]
    show search _ segments 1 (under 0 method (taken ds Router.empty)) = _ ↔ _
    rw [under_method hds]
    cases segments with
    | nil => exact iff_of_false (search_ne_badMethod [] (Or.inr rfl)) (by simp)
    | cons segment rest =>
      rw [search_second_iff, List.length_cons, List.length_cons, choose_first_eq_none_iff]
      constructor
      · exact fun hunknown => ⟨segment, rest, rfl, hunknown⟩
      · rintro ⟨_, _, hsame, hunknown⟩
        obtain ⟨rfl, rfl⟩ := List.cons.inj hsame
        exact hunknown

/-- **Which miss a request is answered with.** Let no method of a definition be a
template, and let all paths be empty or begin with a slash. Then the method of a
request, which is `GET` for `HEAD`, is told to be the matter just if no definition
was taken for it or those that were do not know the first segment of the path,
where it has one. Every other miss is of the path. -/
theorem badMethod_iff (hds : ∀ d ∈ ds, d.Plain) {path : String} (hpath : RouteKey.Rooted path)
    (method : String) (captures : Option Captures) :
    let outcome := ((after ds Router.empty).lookup method path captures).outcome
    let known := acceptedFor ds (answering method)
    let unknown := known = [] ∨ ∃ segment rest,
      (RouteKey.ofRoute (answering method) path).rest = segment :: rest ∧
        ¬ KnowsFirst known segment rest
    (outcome = .error .badMethod ↔ unknown) ∧
      ∀ miss, outcome = .error miss → ¬ unknown → miss = .notFound := by
  intro outcome known unknown
  have hiff : outcome = .error .badMethod ↔ unknown := by
    have houtcome : outcome =
        answer (taken ds Router.empty) (RouteKey.ofRoute (answering method) path).segments :=
      calc outcome
          = ((after ds Router.empty).walk (answering method) path captures).1.answer :=
            congrArg Lookup.outcome (lookup_eq _ method path captures)
        _ = answer (taken ds Router.empty) (RouteKey.ofRoute (answering method) path).segments :=
            (represents_after ds).answer_descend _ (sound_after ds).wellFormed
    rw [houtcome, RouteKey.segments, RouteKey.first_ofRoute_of_rooted hpath,
      answer_eq_badMethod_iff hds]
  refine ⟨hiff, fun miss hmiss hknown => ?_⟩
  cases miss with
  | notFound => rfl
  | badMethod => exact absurd (hiff.mp hmiss) hknown

end Plain

/-- A pattern that goes on for one method and ends for the other. -/
def endingPattern : List (RouteDefinition Nat) :=
  [⟨"GET", "/\x7buint:id\x7d", 1⟩, ⟨"GET", "/a/b", 2⟩, ⟨"PUT", "/\x7buint:id\x7d/x", 3⟩]

/-- For `GET` the pattern of `endingPattern` knows a number that comes last, and no
other. -/
theorem badMethod_iff_ending :
    (∀ d ∈ endingPattern, d.Plain) ∧ RouteKey.Rooted "/7/x/" ∧ RouteKey.Rooted "/7" ∧
      ((after endingPattern Router.empty).lookup "HEAD" "/7/x/" none).outcome = .error .badMethod ∧
      ¬ KnowsFirst (acceptedFor endingPattern "GET") "7" ["x"] ∧
      KnowsFirst (acceptedFor endingPattern "GET") "7" [] := by
  have hds : ∀ d ∈ endingPattern, d.Plain := by decide +kernel
  have hpath : RouteKey.Rooted "/7/x/" := by decide
  have hpath' : RouteKey.Rooted "/7" := by decide
  have hmissed : ((after endingPattern Router.empty).lookup "HEAD" "/7/x/" none).outcome =
      .error .badMethod := by decide +kernel
  have hknown : acceptedFor endingPattern "GET" ≠ [] := by decide +kernel
  refine ⟨hds, hpath, hpath', hmissed, ?_, ?_⟩
  · have hunknown := (badMethod_iff hds hpath "HEAD" none).1.mp hmissed
    obtain ⟨segment, rest, hsegments, hnot⟩ := hunknown.resolve_left hknown
    have hrest : ["7", "x"] = segment :: rest := hsegments
    obtain ⟨rfl, rfl⟩ := List.cons.inj hrest
    exact hnot
  · by_contra hnot
    have hmissed' := (badMethod_iff hds hpath' "GET" none).1.mpr (Or.inr ⟨"7", [], rfl, hnot⟩)
    have hanswered : ((after endingPattern Router.empty).lookup "GET" "/7" none).outcome = .ok 1 := by
      decide +kernel
    rw [hanswered] at hmissed'
    cases hmissed'

end Router
end Signpost
