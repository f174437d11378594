/-
# Routers after a history of registrations

A router is reached from the empty one by registering definitions in some
order; some are taken, some are not (`Router.after`, `Router.taken`). What one
registration does is said once, in `register_cases`: either all patterns of
the route compile and the trie gains the route, or nothing but the store is
changed. So the invariant of `Proofs.Trie.WellFormed` holds of every router
that can be reached (`sound_after`).

Key definitions: `Route`, `Router.after`, `Router.taken`, `Router.Sound`.
Key theorems: `Router.register_eq_of_ok`, `Router.register_of_error`,
`Router.register_cases`, `Router.sound_after`, `Router.root_after_keeps`,
`Router.wellFormed_trie_after`.
-/
import Signpost.Proofs.Trie.WellFormed
import Signpost.Router.Plan

namespace Signpost

/-- A registered route: its segments, of which the first carries the method,
and its handler. -/
structure Route (H : Type) where
  segments : List String
  handler : H

namespace Router

-- what a segment is, is never looked into here; unfolding it is slow
attribute [local irreducible] Template.isPattern

variable {H : Type}

/-- The router after some definitions were registered in their order, whether
they were taken or not. -/
def after (definitions : List (RouteDefinition H)) (r : Router H) : Router H :=
  (Plan.registerAll definitions r).1

/-- The routes that are taken, in order, when some definitions are
registered. -/
def taken : List (RouteDefinition H) → Router H → List (Route H)
  | [], _ => []
  | d :: ds, r =>
    let registration := r.register d.method d.path d.handler
    match registration.outcome with
    | .ok _ => ⟨(RouteKey.ofRoute d.method d.path).segments, d.handler⟩ ::
        taken ds registration.router
    | .error _ => taken ds registration.router

/-- What holds of every router that can be reached: its store is faithful, its
trie is well formed, and no route ends at the root. -/
structure Sound (r : Router H) : Prop where
  faithful : r.store.Faithful
  wellFormed : r.root.WellFormed r.store
  depth_root : r.root.depth = 0
  handler_root : r.root.handler = none

@[simp] theorem after_nil (r : Router H) : after [] r = r := rfl

/-- Registering a definition and then the others, with all that is reported. -/
theorem registerAll_cons (d : RouteDefinition H) (ds : List (RouteDefinition H)) (r : Router H) :
    Plan.registerAll (d :: ds) r =
      let registration := r.register d.method d.path d.handler
      let (built, rejections, events) := Plan.registerAll ds registration.router
      match registration.outcome with
      | .ok _ => (built, rejections, registration.events ++ events)
      | .error cause =>
        (built, ⟨d.method, d.path, cause⟩ :: rejections,
          registration.events ++ .routeRejected d.method d.path cause :: events) := rfl

theorem after_cons (d : RouteDefinition H) (ds : List (RouteDefinition H)) (r : Router H) :
    after (d :: ds) r = after ds (r.register d.method d.path d.handler).router := by
  unfold after
  rw [registerAll_cons]
  generalize r.register d.method d.path d.handler = registration
  cases h : registration.outcome <;> simp only [h]

theorem taken_cons_ok {d : RouteDefinition H} {r : Router H}
    (h : (r.register d.method d.path d.handler).outcome = .ok ()) (ds : List (RouteDefinition H)) :
    taken (d :: ds) r = ⟨(RouteKey.ofRoute d.method d.path).segments, d.handler⟩ ::
      taken ds (r.register d.method d.path d.handler).router := by
  rw [taken]
  generalize r.register d.method d.path d.handler = registration at h ⊢
  simp only [h]

theorem taken_cons_error {d : RouteDefinition H} {r : Router H} {e : TemplateError}
    (h : (r.register d.method d.path d.handler).outcome = .error e)
    (ds : List (RouteDefinition H)) :
    taken (d :: ds) r = taken ds (r.register d.method d.path d.handler).router := by
  rw [taken]
  generalize r.register d.method d.path d.handler = registration at h ⊢
  simp only [h]

theorem register_of_error {r : Router H} {method path : String} {e : TemplateError}
    (h : (r.store.obtainAll (RouteKey.ofRoute method path).segments).outcome = .error e)
    (handler : H) :
    r.register method path handler =
      ⟨{ r with store := (r.store.obtainAll (RouteKey.ofRoute method path).segments).store },
        .error e, []⟩ := by
  unfold register
  generalize r.store.obtainAll (RouteKey.ofRoute method path).segments = obtained at h ⊢
  simp only [h]

/-- A registration fails with the error of the segment that is refused. -/
theorem obtainAll_of_rejected {r : Router H} {method path : String} {handler : H}
    {e : TemplateError} (h : (r.register method path handler).outcome = .error e) :
    (r.store.obtainAll (RouteKey.ofRoute method path).segments).outcome = .error e := by
  unfold register at h
  generalize r.store.obtainAll (RouteKey.ofRoute method path).segments = obtained at h ⊢
  cases ho : obtained.outcome with
  | error e' =>
    simp only [ho] at h
    cases h
    rfl
  | ok keys =>
    simp only [ho] at h
    cases h

theorem register_eq_of_ok {r : Router H} {method path : String}
    {keys : List (String × Option Matcher)}
    (h : (r.store.obtainAll (RouteKey.ofRoute method path).segments).outcome = .ok keys)
    (handler : H) :
    r.register method path handler =
      { router :=
          { root := r.root.insert handler keys
            store := (r.store.obtainAll (RouteKey.ofRoute method path).segments).store
            methods :=
              if r.methods.contains method then r.methods else r.methods ++ [method] }
        outcome := .ok ()
        events :=
          [if ((r.root.at? (keys.map (·.1))).bind (·.handler)).isSome
            then .handlerReplaced method path else .routeRegistered method path] } := by
  unfold register
  generalize r.store.obtainAll (RouteKey.ofRoute method path).segments = obtained at h ⊢
  simp only [h]

theorem register_of_ok {r : Router H} {method path : String} {keys : List (String × Option Matcher)}
    (h : (r.store.obtainAll (RouteKey.ofRoute method path).segments).outcome = .ok keys)
    (handler : H) :
    (r.register method path handler).outcome = .ok () ∧
      (r.register method path handler).router.store =
        (r.store.obtainAll (RouteKey.ofRoute method path).segments).store ∧
      (r.register method path handler).router.root = r.root.insert handler keys := by
  rw [register_eq_of_ok h]
  exact ⟨rfl, rfl, rfl⟩

/-- **One registration.** If it is taken, its segments have their matchers and
the trie gains the route; otherwise the trie and the methods are as they were. In
either case the store stays faithful and loses nothing. -/
theorem register_cases {r : Router H} (hs : r.store.Faithful) (method path : String) (handler : H) :
    (r.register method path handler).router.store.Faithful ∧
    (r.register method path handler).router.store.Extends r.store ∧
    ((∃ keys, (r.register method path handler).outcome = .ok () ∧
        keys.map (·.1) = (RouteKey.ofRoute method path).segments ∧
        (∀ key ∈ keys, (r.register method path handler).router.store.Keyed key.1 key.2) ∧
        (r.register method path handler).router.root = r.root.insert handler keys) ∨
      (∃ e, (r.register method path handler).outcome = .error e ∧
        (r.register method path handler).router.root = r.root ∧
        (r.register method path handler).router.methods = r.methods)) := by
  obtain ⟨hfaith, hext⟩ := MatcherStore.obtainAll_spec (RouteKey.ofRoute method path).segments hs
  cases ho : (r.store.obtainAll (RouteKey.ofRoute method path).segments).outcome with
  | error e =>
    rw [register_of_error ho]
    exact ⟨hfaith, hext, Or.inr ⟨e, rfl, rfl, rfl⟩⟩
  | ok keys =>
    obtain ⟨hmap, hkeyed⟩ := MatcherStore.obtainAll_ok _ hs ho
    obtain ⟨hout, hstore, hroot⟩ := register_of_ok ho handler
    rw [hstore]
    exact ⟨hfaith, hext, Or.inl ⟨keys, hout, hmap, hkeyed, hroot⟩⟩

theorem sound_empty : (Router.empty : Router H).Sound :=
  ⟨MatcherStore.faithful_empty, Node.wellFormed_leaf _ "" none 0, rfl, rfl⟩

theorem Sound.register {r : Router H} (h : r.Sound) (method path : String) (handler : H) :
    (r.register method path handler).router.Sound := by
  obtain ⟨hfaith, hext, hcase⟩ := register_cases h.faithful method path handler
  rcases hcase with ⟨keys, -, hmap, hkeyed, hroot⟩ | ⟨e, -, hroot, -⟩
  · refine ⟨hfaith, ?_, ?_, ?_⟩
    · rw [hroot]
      exact ((h.wellFormed.mono hext).insert handler keys hkeyed).1
    · rw [hroot, Node.depth_insert]
      exact h.depth_root
    · -- a route has a segment at least, so its handler is bound below the root
      rw [hroot]
      cases keys with
      | nil => cases hmap
      | cons key rest =>
        rw [Node.insert, Node.handler_updateChild]
        exact h.handler_root
  · refine ⟨hfaith, ?_, ?_, ?_⟩
    · rw [hroot]; exact h.wellFormed.mono hext
    · rw [hroot]; exact h.depth_root
    · rw [hroot]; exact h.handler_root

theorem Sound.after : ∀ (ds : List (RouteDefinition H)) {r : Router H}, r.Sound → (after ds r).Sound
  | [], _, h => h
  | d :: ds, r, h => by
    rw [after_cons]
    exact Sound.after ds (h.register d.method d.path d.handler)

theorem sound_after (ds : List (RouteDefinition H)) : (after ds Router.empty).Sound :=
  Sound.after ds sound_empty

/-- What the insertion of a route keeps, registrations keep. -/
theorem root_after_keeps {P : Node H → Prop}
    (hP : ∀ {s : MatcherStore} {n : Node H} (handler : H) (keys : List (String × Option Matcher)),
      n.WellFormed s → (∀ key ∈ keys, s.Keyed key.1 key.2) → P n → P (n.insert handler keys)) :
    ∀ (ds : List (RouteDefinition H)) {r : Router H}, r.Sound → P r.root → P (after ds r).root
  | [], _, _, h => h
  | d :: ds, r, hsound, h => by
    obtain ⟨-, hext, hcase⟩ := register_cases hsound.faithful d.method d.path d.handler
    rw [after_cons]
    refine root_after_keeps hP ds (hsound.register d.method d.path d.handler) ?_
    rcases hcase with ⟨keys, -, -, hkeyed, hroot⟩ | ⟨e, -, hroot, -⟩
    · rw [hroot]
      exact hP d.handler keys (hsound.wellFormed.mono hext) hkeyed h
    · rw [hroot]
      exact h

/-- The root stands for no segment and has no matcher. -/
theorem matcher_root_after (ds : List (RouteDefinition H)) {r : Router H} (hsound : r.Sound)
    (h : r.root.matcher = none) : (after ds r).root.matcher = none :=
  root_after_keeps (P := fun n => n.matcher = none)
    (fun handler keys _ _ hn => (Node.matcher_insert handler keys _).trans hn) ds hsound h

theorem key_root_after (ds : List (RouteDefinition H)) {r : Router H} (hsound : r.Sound) {key : String}
    (h : r.root.key = key) : (after ds r).root.key = key :=
  root_after_keeps (P := fun n => n.key = key)
    (fun handler keys _ _ hn => (Node.key_insert handler keys _).trans hn) ds hsound h

/-- **The trie of a router is well formed.** Whatever was registered, with
whatever success: at every node of the trie the keys of the children are
distinct, the index and the list of patterns tell exactly their positions, each
child is one level deeper, has the compiled matcher of its key from the store
just if the key is a pattern, and leads to a handler; and the root has depth
zero and no handler. -/
theorem wellFormed_trie_after (ds : List (RouteDefinition H)) :
    (after ds Router.empty).root.WellFormed (after ds Router.empty).store ∧
      (after ds Router.empty).root.depth = 0 ∧ (after ds Router.empty).root.handler = none :=
  ⟨(sound_after ds).wellFormed, (sound_after ds).depth_root, (sound_after ds).handler_root⟩

end Router
end Signpost
