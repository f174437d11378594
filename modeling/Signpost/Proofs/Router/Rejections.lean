/-
# What a definition is rejected for

A definition is rejected for the first of its segments that is a pattern and
does not compile, and for nothing else (`RouteDefinition.fault?`). All the
definitions of a plan share one store, and some may have failed half way and
left matchers in it; but a faithful store refuses a segment just if it has a
fault of its own (`Template.compileAll_eq_error_iff`), so what becomes of a
definition does not depend on the others (`Router.outcome_register`). The
rejections of a plan are those of its definitions, one by one
(`Plan.rejections_registerAll`), and a plan without any builds the router that
comes of registering its definitions in order (`Plan.build_outcome`).

Key definitions: `Template.fault?`, `RouteDefinition.fault?`,
`RouteDefinition.rejection?`, `Router.add`, `Router.accepted`.
Key theorems: `Router.outcome_register`, `Router.accepted_eq_filter`,
`Router.taken_eq_map_accepted`, `Plan.rejections_registerAll`,
`Plan.outcome_build_eq`, `Plan.build_outcome`.
-/
import Signpost.Proofs.Matcher.Outcome
import Signpost.Proofs.Router.History

namespace Signpost

-- what a segment is, is never looked into here; unfolding it is slow
attribute [local irreducible] Template.isPattern

variable {H : Type}

/-! ### Faults -/

namespace Template

/-- The error of a segment that is a pattern and does not compile. -/
def fault? (segment : String) : Option TemplateError :=
  if isPattern segment then
    match compile segment with
    | .ok _ => none
    | .error e => some e
  else none

theorem fault?_eq_some_iff {segment : String} {e : TemplateError} :
    fault? segment = some e ↔ isPattern segment = true ∧ compile segment = .error e := by
  unfold fault?
  cases isPattern segment with
  | false => simp
  | true => cases compile segment <;> simp

/-- A segment without a fault gets its matcher or needs none. -/
theorem compileSegment_eq_error_iff {segment : String} {e : TemplateError} :
    compileSegment segment = .error e ↔ fault? segment = some e := by
  unfold compileSegment fault?
  cases isPattern segment with
  | false => simp
  | true =>
    cases compile segment with
    | ok regex => simp [Except.map]
    | error e' => simp [Except.map]

theorem compileAll_eq_error_iff {e : TemplateError} : ∀ {segments : List String},
    compileAll segments = .error e ↔ segments.findSome? fault? = some e
  | [] => by simp [compileAll]
  | segment :: rest => by
    rw [compileAll, List.findSome?_cons]
    cases hc : compileSegment segment with
    | error e' =>
      rw [compileSegment_eq_error_iff.mp hc]
      simp
    | ok m =>
      have hnone : fault? segment = none := by
        cases hf : fault? segment with
        | none => rfl
        | some e' =>
          rw [compileSegment_eq_error_iff.mpr hf] at hc
          cases hc
      rw [hnone, ← compileAll_eq_error_iff]
      cases compileAll rest <;> simp [Except.map]

end Template

namespace RouteDefinition

/-- The key of the route. -/
def key (d : RouteDefinition H) : RouteKey := RouteKey.ofRoute d.method d.path

/-- What is wrong with a definition: the error of the first of its segments that
is a pattern and does not compile. -/
def fault? (d : RouteDefinition H) : Option TemplateError :=
  d.key.segments.findSome? Template.fault?

/-- The rejection of a definition, if something is wrong with it. -/
def rejection? (d : RouteDefinition H) : Option Rejection :=
  d.fault?.map fun cause => ⟨d.method, d.path, cause⟩

theorem isSome_rejection? (d : RouteDefinition H) :
    d.rejection?.isSome = true ↔ ∃ segment ∈ d.key.segments,
      Template.isPattern segment = true ∧ ∃ e, Template.compile segment = .error e := by
  rw [rejection?, Option.isSome_map, fault?, List.findSome?_isSome_iff]
  simp only [Option.isSome_iff_exists, Template.fault?_eq_some_iff, exists_and_left]

end RouteDefinition

/-! ### Registering definitions -/

namespace Router

/-- The router after a definition was registered, whether it was taken or
not. -/
def add (r : Router H) (d : RouteDefinition H) : Router H :=
  (r.register d.method d.path d.handler).router

/-- **One definition.** It is refused for its own fault, whatever the store
holds. -/
theorem outcome_register {r : Router H} (hs : r.store.Faithful) (d : RouteDefinition H) :
    (r.register d.method d.path d.handler).outcome =
      match d.fault? with
      | none => .ok ()
      | some cause => .error cause := by
  have hanswer := MatcherStore.outcome_obtainAll d.key.segments hs
  cases ho : (r.store.obtainAll d.key.segments).outcome with
  | error e =>
    rw [ho] at hanswer
    have hfault : d.fault? = some e := Template.compileAll_eq_error_iff.mp hanswer.symm
    rw [register_of_error ho, hfault]
  | ok keys =>
    have hfault : d.fault? = none := by
      cases hf : d.fault? with
      | none => rfl
      | some e =>
        rw [ho, Template.compileAll_eq_error_iff.mpr hf] at hanswer
        cases hanswer
    rw [register_eq_of_ok ho, hfault]

theorem outcome_register_eq_ok_iff {r : Router H} (hs : r.store.Faithful) (d : RouteDefinition H) :
    (r.register d.method d.path d.handler).outcome = .ok () ↔ d.fault? = none := by
  rw [outcome_register hs]
  cases d.fault? <;> simp

theorem faithful_add {r : Router H} (hs : r.store.Faithful) (d : RouteDefinition H) :
    (r.add d).store.Faithful :=
  (register_cases hs d.method d.path d.handler).1

theorem Sound.add {r : Router H} (h : r.Sound) (d : RouteDefinition H) : (r.add d).Sound :=
  h.register d.method d.path d.handler

theorem after_cons_add (d : RouteDefinition H) (ds : List (RouteDefinition H)) (r : Router H) :
    after (d :: ds) r = after ds (r.add d) := after_cons d ds r

/-- The definitions that are taken, in order, when some are registered. -/
def accepted : List (RouteDefinition H) → Router H → List (RouteDefinition H)
  | [], _ => []
  | d :: ds, r =>
    match (r.register d.method d.path d.handler).outcome with
    | .ok _ => d :: accepted ds (r.add d)
    | .error _ => accepted ds (r.add d)

/-- The definitions that are taken are those without a fault, whatever is
registered between them. -/
theorem accepted_eq_filter : ∀ (ds : List (RouteDefinition H)) {r : Router H}, r.store.Faithful →
    accepted ds r = ds.filter fun d => d.fault?.isNone
  | [], _, _ => rfl
  | d :: ds, r, hs => by
    rw [accepted, outcome_register hs, accepted_eq_filter ds (faithful_add hs d), List.filter_cons]
    cases d.fault? <;> rfl

theorem taken_eq_map_accepted : ∀ (ds : List (RouteDefinition H)) (r : Router H),
    taken ds r = (accepted ds r).map fun d => ⟨d.key.segments, d.handler⟩
  | [], _ => rfl
  | d :: ds, r => by
    have ih := taken_eq_map_accepted ds (r.add d)
    rw [taken, accepted]
    unfold add at ih ⊢
    generalize r.register d.method d.path d.handler = registration at ih ⊢
    cases registration.outcome with
    | ok _ =>
      rw [List.map_cons, ← ih]
      rfl
    | error _ => exact ih

theorem mem_accepted_iff {ds : List (RouteDefinition H)} {r : Router H} (hs : r.store.Faithful)
    {d : RouteDefinition H} : d ∈ accepted ds r ↔ d ∈ ds ∧ d.fault? = none := by
  rw [accepted_eq_filter ds hs, List.mem_filter, Option.isNone_iff_eq_none]

theorem after_eq_foldl : ∀ (ds : List (RouteDefinition H)) (r : Router H), after ds r = ds.foldl add r
  | [], _ => rfl
  | d :: ds, r => by rw [after_cons_add, after_eq_foldl ds, List.foldl_cons]

theorem after_append (ds later : List (RouteDefinition H)) (r : Router H) :
    after (ds ++ later) r = after later (after ds r) := by
  rw [after_eq_foldl, after_eq_foldl, after_eq_foldl, List.foldl_append]

theorem after_concat (ds : List (RouteDefinition H)) (d : RouteDefinition H) (r : Router H) :
    after (ds ++ [d]) r = (after ds r).add d := by
  rw [after_append, after_cons_add, after_nil]

end Router

namespace Plan

/-- **All definitions.** The rejections are those of the definitions, one by
one. -/
theorem rejections_registerAll : ∀ (ds : List (RouteDefinition H)) {r : Router H},
    r.store.Faithful → (registerAll ds r).2.1 = ds.filterMap RouteDefinition.rejection?
  | [], _, _ => rfl
  | d :: ds, r, hs => by
    have ih := rejections_registerAll ds (Router.faithful_add hs d)
    have hout := Router.outcome_register hs d
    rw [Router.registerAll_cons, List.filterMap_cons]
    unfold Router.add at ih
    generalize r.register d.method d.path d.handler = registration at ih hout ⊢
    cases hf : d.fault? with
    | none =>
      rw [hf] at hout
      simp only [hout, RouteDefinition.rejection?, hf, Option.map_none, ih]
    | some cause =>
      rw [hf] at hout
      simp only [hout, RouteDefinition.rejection?, hf, Option.map_some, ih]

/-- What is built, told from the definitions. -/
theorem outcome_build_eq (p : Plan H) :
    p.build.outcome =
      match p.definitions.filterMap RouteDefinition.rejection? with
      | [] => .ok (p.definitions.foldl Router.add Router.empty)
      | first :: others => .error ⟨first, others⟩ := by
  have hrejections := rejections_registerAll p.definitions
    (r := (Router.empty : Router H)) MatcherStore.faithful_empty
  have hrouter : (registerAll p.definitions Router.empty).1 = _ :=
    Router.after_eq_foldl p.definitions Router.empty
  unfold build
  rw [← hrejections, ← hrouter]
  generalize registerAll p.definitions Router.empty = result
  obtain ⟨router, _ | ⟨first, others⟩, events⟩ := result <;> rfl

/-- **A plan reports exactly its bad definitions.** There is an error just if a
definition has a segment that is a pattern and does not compile. Then the
rejections are those of the bad definitions, in their order, each with its
method, its path and the error of its own first bad segment. Otherwise the
router is the empty one to which all definitions were added in order. -/
theorem build_outcome (p : Plan H) :
    ((∃ e, p.build.outcome = .error e) ↔
      ∃ d ∈ p.definitions, ∃ segment ∈ d.key.segments,
        Template.isPattern segment = true ∧ ∃ e, Template.compile segment = .error e) ∧
    match p.build.outcome with
    | .error e => e.rejections = p.definitions.filterMap RouteDefinition.rejection?
    | .ok r => r = p.definitions.foldl Router.add Router.empty := by
  have hbad : p.definitions.filterMap RouteDefinition.rejection? = [] ↔
      ¬ ∃ d ∈ p.definitions, d.rejection?.isSome = true := by
    simp [List.filterMap_eq_nil_iff]
  simp only [← RouteDefinition.isSome_rejection?]
  rw [outcome_build_eq]
  cases hrejections : p.definitions.filterMap RouteDefinition.rejection? with
  | nil => exact ⟨iff_of_false (fun ⟨e, he⟩ => nomatch he) (hbad.mp hrejections), rfl⟩
  | cons first others =>
    refine ⟨iff_of_true ⟨_, rfl⟩ ?_, rfl⟩
    by_contra hnone
    rw [hbad.mpr hnone] at hrejections
    cases hrejections

end Plan
end Signpost
