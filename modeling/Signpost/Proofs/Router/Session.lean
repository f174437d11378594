/-
# A registration that fails is not seen

A registration that fails leaves something behind: the matchers of the patterns
before the one that does not compile stay in the store. They are never seen. Two
routers with faithful stores that have the same trie, up to the serial numbers
of its matchers, and the same methods (`Router.Alike`) answer every request
alike and are alike after it (`Alike.respond`), so they answer alike for ever
(`Alike.answers_eq`). A router is alike to itself after a registration that
failed (`Alike.of_rejected`).

Key definitions: `Request`, `Answer`, `Router.respond`, `Router.answers`,
`Router.Alike`.
Key theorems: `Router.Alike.register`, `Router.Alike.walk_eq`,
`Router.Alike.respond`, `Router.Alike.answers_eq`, `Router.rejected_unseen`.
-/
import Signpost.Proofs.Router.History
import Signpost.Proofs.Router.Walk
import Signpost.Proofs.Trie.Unnumbered
import Signpost.Router.Allow

namespace Signpost

-- what a segment is, is never looked into here; unfolding it is slow
attribute [local irreducible] Template.isPattern

/-- What a router is asked to do or to tell. -/
inductive Request (H : Type) where
  | register (method path : String) (handler : H)
  | lookup (method path : String) (captures : Option Captures)
  | pathMethods (path : String)
  | allowHeader (path : String)
  | routes
  | methods

/-- What a router answers, with what the log is told. -/
inductive Answer (H : Type) where
  | registered (outcome : Except TemplateError Unit) (events : List Event)
  | found (result : Lookup H)
  | methodText (text : String)
  | header (value : Except HeaderError HeaderValue)
  | listed (items : List String)

variable {H : Type}

theorem Node.Destination.answer_unnumbered (d : Node.Destination H) :
    d.unnumbered.answer = d.answer := by
  cases d with
  | reached n =>
    show Router.handlerOf n.unnumbered = Router.handlerOf n
    rw [Router.handlerOf, Router.handlerOf, Node.handler_unnumbered]
  | stopped position => rfl

namespace Router

/-- The answer to a request, and the router after it. -/
def respond (r : Router H) : Request H → Router H × Answer H
  | .register method path handler =>
    let registration := r.register method path handler
    (registration.router, .registered registration.outcome registration.events)
  | .lookup method path captures => (r, .found (r.lookup method path captures))
  | .pathMethods path => (r, .methodText (r.pathMethods path))
  | .allowHeader path => (r, .header (r.allowHeader path))
  | .routes => (r, .listed r.routes)
  | .methods => (r, .listed r.methods)

/-- The answers to some requests, one after the other. -/
def answers : List (Request H) → Router H → List (Answer H)
  | [], _ => []
  | q :: qs, r => (r.respond q).2 :: answers qs (r.respond q).1

/-- Two routers that cannot be told apart by their answers: both stores are
faithful, the tries are the same up to the numbers of their matchers, and so are
the methods. -/
structure Alike (r r' : Router H) : Prop where
  faithful_left : r.store.Faithful
  faithful_right : r'.store.Faithful
  root_eq : r.root.unnumbered = r'.root.unnumbered
  methods_eq : r.methods = r'.methods

/-! ### Routers with the same trie -/

section SameTrie

variable {r r' : Router H}

/-- A walk ends alike in both routers, with the same captures. -/
theorem walk_eq_of_root (h : r.root.unnumbered = r'.root.unnumbered) (method path : String)
    (captures : Option Captures) :
    (r.walk method path captures).1.answer = (r'.walk method path captures).1.answer ∧
      (r.walk method path captures).2 = (r'.walk method path captures).2 := by
  have hwalk := congrArg (fun n => n.descend (RouteKey.ofRoute method path).segments 0
    (initialWalk method path captures)) h
  simp only [Node.descend_unnumbered, Prod.mk.injEq] at hwalk
  have hanswer := congrArg Node.Destination.answer hwalk.1
  rw [Node.Destination.answer_unnumbered, Node.Destination.answer_unnumbered] at hanswer
  exact ⟨hanswer, hwalk.2⟩

theorem lookup_eq_of_root (h : r.root.unnumbered = r'.root.unnumbered) (method path : String)
    (captures : Option Captures) : r.lookup method path captures = r'.lookup method path captures := by
  obtain ⟨hanswer, hlast⟩ := walk_eq_of_root h (answering method) path captures
  rw [Router.lookup_eq, Router.lookup_eq]
  simp only [Lookup.ofWalk, hanswer, hlast]

theorem routes_eq_of_root (h : r.root.unnumbered = r'.root.unnumbered) : r.routes = r'.routes := by
  have hlisting := congrArg (Node.listing "") h
  rwa [Node.listing_unnumbered, Node.listing_unnumbered] at hlisting

end SameTrie

/-! ### Routers that are alike -/

namespace Alike

variable {r r' : Router H}

theorem register (h : Alike r r') (method path : String) (handler : H) :
    (r.register method path handler).outcome = (r'.register method path handler).outcome ∧
      (r.register method path handler).events = (r'.register method path handler).events ∧
      Alike (r.register method path handler).router (r'.register method path handler).router := by
  set segments := (RouteKey.ofRoute method path).segments
  obtain ⟨hfaith, -⟩ := MatcherStore.obtainAll_spec segments h.faithful_left
  obtain ⟨hfaith', -⟩ := MatcherStore.obtainAll_spec segments h.faithful_right
  cases ho : (r.store.obtainAll segments).outcome with
  | error e =>
    have ho' := MatcherStore.obtainAll_error_of_error h.faithful_left h.faithful_right ho
    rw [register_of_error ho, register_of_error ho']
    exact ⟨rfl, rfl, hfaith, hfaith', h.root_eq, h.methods_eq⟩
  | ok keys =>
    obtain ⟨keys', ho', hkeys⟩ :=
      MatcherStore.obtainAll_ok_of_ok h.faithful_left h.faithful_right ho
    have hmap : keys.map (·.1) = segments := (MatcherStore.obtainAll_ok _ h.faithful_left ho).1
    have hmap' : keys'.map (·.1) = segments := (MatcherStore.obtainAll_ok _ h.faithful_right ho').1
    -- whether a handler is replaced can be told without the numbers
    have hbound : (r.root.at? segments).bind (·.handler) = (r'.root.at? segments).bind (·.handler) := by
      have hat := congrArg (fun n => (n.at? segments).bind (·.handler)) h.root_eq
      simpa [Node.at?_unnumbered, Option.bind_map, Function.comp_def] using hat
    have hroot : (r.root.insert handler keys).unnumbered = (r'.root.insert handler keys').unnumbered := by
      rw [Node.unnumbered_insert, Node.unnumbered_insert, h.root_eq, hkeys]
    rw [register_eq_of_ok ho, register_eq_of_ok ho', hmap, hmap', hbound, h.methods_eq]
    exact ⟨rfl, rfl, hfaith, hfaith', hroot, rfl⟩

theorem walk_eq (h : Alike r r') (method path : String) (captures : Option Captures) :
    (r.walk method path captures).1.answer = (r'.walk method path captures).1.answer ∧
      (r.walk method path captures).2 = (r'.walk method path captures).2 :=
  walk_eq_of_root h.root_eq method path captures

theorem lookup_eq (h : Alike r r') (method path : String) (captures : Option Captures) :
    r.lookup method path captures = r'.lookup method path captures :=
  lookup_eq_of_root h.root_eq method path captures

theorem pathMethods_eq (h : Alike r r') (path : String) : r.pathMethods path = r'.pathMethods path := by
  have hresolves : r.resolves path = r'.resolves path := by
    funext method
    rw [resolves_eq, resolves_eq, (h.walk_eq method path none).1]
  rw [pathMethods, pathMethods, hresolves, h.methods_eq]

theorem routes_eq (h : Alike r r') : r.routes = r'.routes := routes_eq_of_root h.root_eq

/-- **One request.** Two routers that are alike give the same answer and are alike
after it. -/
theorem respond (h : Alike r r') (q : Request H) :
    (r.respond q).2 = (r'.respond q).2 ∧ Alike (r.respond q).1 (r'.respond q).1 := by
  cases q with
  | register method path handler =>
    obtain ⟨hout, hevents, hafter⟩ := h.register method path handler
    refine ⟨?_, hafter⟩
    show Answer.registered _ _ = Answer.registered _ _
    rw [hout, hevents]
  | lookup method path captures => exact ⟨congrArg Answer.found (h.lookup_eq method path captures), h⟩
  | pathMethods path => exact ⟨congrArg Answer.methodText (h.pathMethods_eq path), h⟩
  | allowHeader path =>
    have hheader : r.allowHeader path = r'.allowHeader path := by
      rw [allowHeader, allowHeader, h.pathMethods_eq]
    exact ⟨congrArg Answer.header hheader, h⟩
  | routes => exact ⟨congrArg Answer.listed h.routes_eq, h⟩
  | methods => exact ⟨congrArg Answer.listed h.methods_eq, h⟩

/-- **All requests.** Two routers that are alike answer alike for ever. -/
theorem answers_eq : ∀ (qs : List (Request H)) {r r' : Router H}, Alike r r' →
    answers qs r = answers qs r'
  | [], _, _, _ => rfl
  | q :: qs, r, r', h => by
    obtain ⟨hanswer, hafter⟩ := h.respond q
    rw [answers, answers, hanswer, answers_eq qs hafter]

theorem of_rejected (hs : r.store.Faithful) {method path : String} {handler : H} {e : TemplateError}
    (h : (r.register method path handler).outcome = .error e) :
    Alike (r.register method path handler).router r := by
  rw [register_of_error (obtainAll_of_rejected h)]
  exact ⟨(MatcherStore.obtainAll_spec _ hs).1, hs, rfl, rfl⟩

end Alike

/-- **A registration that fails is not seen.** On every router that can be
reached: the error is that of the first segment that is a pattern and does not
compile; trie and methods are as before; the store keeps all it had and gains
just the templates of the patterns before that segment; and whatever the router
is asked from then on, it answers as if the registration had been left out. -/
theorem rejected_unseen (ds : List (RouteDefinition H)) (method path : String) (handler : H)
    {e : TemplateError}
    (h : ((after ds Router.empty).register method path handler).outcome = .error e) :
    let r := after ds Router.empty
    let r' := (r.register method path handler).router
    (∃ before segment rest, (RouteKey.ofRoute method path).segments = before ++ segment :: rest ∧
      Template.isPattern segment = true ∧ Template.compile segment = .error e ∧
      (∀ other ∈ before, Template.isPattern other = true →
        ∃ regex, Template.compile other = .ok regex) ∧
      ∀ template, (r'.store.get? template).isSome = true ↔
        (r.store.get? template).isSome = true ∨
          (template ∈ before ∧ Template.isPattern template = true)) ∧
    r'.root = r.root ∧ r'.methods = r.methods ∧ r'.store.Extends r.store ∧
    ∀ qs : List (Request H), answers qs r' = answers qs r := by
  intro r r'
  have hs : r.store.Faithful := (sound_after (H := H) ds).faithful
  have hrefused := obtainAll_of_rejected h
  have hafter : r' = { r with
      store := (r.store.obtainAll (RouteKey.ofRoute method path).segments).store } :=
    congrArg Registration.router (register_of_error hrefused handler)
  have hanswers : ∀ qs : List (Request H), answers qs r' = answers qs r :=
    fun qs => Alike.answers_eq qs (Alike.of_rejected hs h)
  have hstore : r'.store = (r.store.obtainAll (RouteKey.ofRoute method path).segments).store :=
    congrArg Router.store hafter
  refine ⟨?_, by rw [hafter], by rw [hafter], ?_, hanswers⟩
  · simp only [hstore]
    exact MatcherStore.refused_obtainAll _ hs hrefused
  · rw [hstore]
    exact (MatcherStore.obtainAll_spec _ hs).2

/-- The second pattern of the route is of no kind there is. -/
theorem rejected_unseen_kind :
    ((after [⟨"GET", "/a", 1⟩] Router.empty).register "GET" "/\x7buint:id\x7d/\x7bage:n\x7d" 2).outcome =
        .error (.unknownKind "\x7bage:n\x7d" "age") ∧
      ∀ qs : List (Request Nat),
        answers qs ((after [⟨"GET", "/a", 1⟩] Router.empty).register "GET"
          "/\x7buint:id\x7d/\x7bage:n\x7d" 2).router =
        answers qs (after [⟨"GET", "/a", 1⟩] Router.empty) := by
  have h : ((after [⟨"GET", "/a", 1⟩] Router.empty).register "GET"
      "/\x7buint:id\x7d/\x7bage:n\x7d" 2).outcome =
        .error (.unknownKind "\x7bage:n\x7d" "age") := by decide +kernel
  obtain ⟨-, -, -, -, hanswers⟩ := rejected_unseen [⟨"GET", "/a", 1⟩] "GET"
    "/\x7buint:id\x7d/\x7bage:n\x7d" 2 h
  exact ⟨h, hanswers⟩

end Router
end Signpost
