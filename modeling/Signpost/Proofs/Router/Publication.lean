/-
# Snapshots and publications

A service has a router that is published, and the snapshots that were taken of it
(`Service`). What one action does is said once for the published router
(`current_serve`), for the snapshots (`snapshots_serve`) and for the log
(`announced_serve`): an action publishes a router or leaves the present one
(`Action.publication?`), it tells the log once of each router it publishes, and it
never changes a snapshot. From these follows what a run of actions does, by
induction on the actions; and a router that is published after some definitions
were registered has as many routes as there are lists of segments among those
that were taken (`Router.length_routes_after`).

Key definitions: `Service`, `Action`, `Service.serve`, `Action.publication?`,
`Service.replay`, `Service.log`, `Event.announces`, `Router.takenSegments`.
Key theorems: `Router.length_routes_after`, `Plan.announced_build`,
`Service.current_replay`, `Service.snapshots_replay`, `Service.announced_log`,
`Service.snapshots_and_publications`.
-/
import Signpost.Proofs.Router.Methods
import Signpost.Proofs.Router.Transcript
import Signpost.Router.Published

namespace Signpost

-- what a segment is, is never looked into here; unfolding it is slow
attribute [local irreducible] Template.isPattern

variable {H : Type}

/-! ### The number of routes -/

namespace Router

/-- The lists of segments that definitions are taken for, each once, when some are
registered on the empty router. -/
def takenSegments (ds : List (RouteDefinition H)) : List (List String) :=
  ((accepted ds Router.empty).map (·.key.segments)).eraseDups

theorem perm_takenSegments (ds : List (RouteDefinition H)) :
    ((after ds Router.empty).root.entries.map Entry.segments).Perm (takenSegments ds) := by
  have hwell := (sound_after (H := H) ds).wellFormed
  unfold takenSegments
  refine (List.perm_ext_iff_of_nodup (Node.nodup_segments_entries _ hwell)
    (List.nodup_eraseDups _)).mpr fun segments => ?_
  rw [List.mem_eraseDups, List.mem_map, List.mem_map]
  constructor
  · rintro ⟨e, he, rfl⟩
    exact exists_accepted_of_mem he
  · intro htaken
    obtain ⟨handler, hhandler⟩ := Option.isSome_iff_exists.mp
      ((isSome_handlerAt_after ds segments).mpr htaken)
    obtain ⟨e, he, hsegments, -⟩ := (Node.handlerAt_eq_some_iff hwell).mp hhandler
    exact ⟨e, he, hsegments⟩

/-- **The number of routes.** A router lists one route for each list of segments
that a definition was taken for. -/
theorem length_routes_after (ds : List (RouteDefinition H)) :
    (after ds Router.empty).routes.length = (takenSegments ds).length := by
  rw [routes_eq_lines, List.length_map, ← (perm_takenSegments ds).length_eq, List.length_map]

end Router

/-! ### What the log is told -/

/-- True if an event tells that a router was published. -/
def Event.announces (e : Event) : Bool :=
  e.level == .info && e.message == "router published"

/-- The event that tells of a router when it is published. -/
def Router.announcement (r : Router H) : Event := .routerPublished r.routes.length

theorem Router.announced_register (r : Router H) (method path : String) (handler : H) :
    (r.register method path handler).events.filter Event.announces = [] := by
  cases ho : (r.store.obtainAll (RouteKey.ofRoute method path).segments).outcome with
  | error e =>
    rw [register_of_error ho]
    rfl
  | ok keys =>
    rw [register_eq_of_ok ho]
    cases ((r.root.at? (keys.map (·.1))).bind (·.handler)).isSome <;> rfl

theorem Router.announced_lookup (r : Router H) (method path : String) (captures : Option Captures) :
    (r.lookup method path captures).events.filter Event.announces = [] := by
  rw [lookup_eq, Lookup.ofWalk]
  cases (r.walk (answering method) path captures).1.answer <;> rfl

namespace Plan

theorem announced_registerAll : ∀ (ds : List (RouteDefinition H)) (r : Router H),
    (registerAll ds r).2.2.filter Event.announces = []
  | [], _ => rfl
  | d :: ds, r => by
    have ih := announced_registerAll ds (r.register d.method d.path d.handler).router
    have hown := r.announced_register d.method d.path d.handler
    rw [Router.registerAll_cons]
    generalize r.register d.method d.path d.handler = registration at ih hown ⊢
    obtain ⟨router, _ | cause, events⟩ := registration
    · show (events ++ Event.routeRejected .. :: (registerAll ds router).2.2).filter _ = []
      rw [List.filter_append, hown, List.nil_append]
      exact ih
    · show (events ++ (registerAll ds router).2.2).filter _ = []
      rw [List.filter_append, hown, ih, List.append_nil]

theorem announced_build (p : Plan H) : p.build.events.filter Event.announces = [] := by
  have hevents := announced_registerAll p.definitions Router.empty
  unfold build
  generalize registerAll p.definitions Router.empty = result at hevents ⊢
  obtain ⟨router, _ | ⟨first, others⟩, events⟩ := result <;> exact hevents

theorem exists_error_of_bad {p : Plan H}
    (h : ∃ d ∈ p.definitions, ∃ segment ∈ d.key.segments,
      Template.isPattern segment = true ∧ ∃ cause, Template.compile segment = .error cause) :
    ∃ e, p.build.outcome = .error e := by
  simp only [← RouteDefinition.isSome_rejection?] at h
  obtain ⟨d, hd, hbad⟩ := h
  obtain ⟨rejection, hrejection⟩ := Option.isSome_iff_exists.mp hbad
  have hmem : rejection ∈ p.definitions.filterMap RouteDefinition.rejection? :=
    List.mem_filterMap.mpr ⟨d, hd, hrejection⟩
  rw [outcome_build_eq]
  cases hall : p.definitions.filterMap RouteDefinition.rejection? with
  | nil =>
    rw [hall] at hmem
    cases hmem
  | cons first others => exact ⟨_, rfl⟩

theorem eq_after_of_build {p : Plan H} {router : Router H} (h : p.build.outcome = .ok router) :
    router = Router.after p.definitions Router.empty := by
  rw [outcome_build_eq] at h
  split at h
  · rw [Router.after_eq_foldl]
    exact (Except.ok.inj h).symm
  · cases h

end Plan

/-! ### The service -/

/-- A router that is published, and the snapshots that were taken, in their
order. -/
structure Service (H : Type) where
  published : Published H
  snapshots : List (Router H) := []

/-- What a service is asked to do: to take a snapshot of the published router, to
publish a router, to build one and publish it, or to look up a request, on the
snapshot with a given number or on the published router. -/
inductive Action (H : Type) where
  | snapshot
  | store (router : Router H)
  | rebuild (plan : Plan H)
  | lookup (snapshot : Option Nat) (method path : String) (captures : Option Captures)

/-- What a service answers. -/
inductive Reply (H : Type) where
  | done
  | rebuilt (outcome : Except BuildError Unit)
  | found (result : Lookup H)
  | noSnapshot

/-- What comes of an action: the service after it, the answer, and what the log is
told. -/
structure Served (H : Type) where
  service : Service H
  reply : Reply H
  events : List Event

namespace Action

/-- True if a snapshot is taken. -/
def isSnapshot : Action H → Bool
  | snapshot => true
  | _ => false

/-- The router that is published by an action, if one is. -/
def publication? : Action H → Option (Router H)
  | snapshot => none
  | store router => some router
  | rebuild plan => plan.build.outcome.toOption
  | lookup .. => none

end Action

namespace Service

/-- A service with its first router. -/
def new (router : Router H) : Service H := ⟨⟨router⟩, []⟩

/-- The snapshot with a number, or the published router. -/
def target? (s : Service H) : Option Nat → Option (Router H)
  | none => some s.published.current
  | some number => s.snapshots[number]?

/-- Does what is asked for. -/
def serve (s : Service H) : Action H → Served H
  | .snapshot => ⟨{ s with snapshots := s.snapshots ++ [s.published.current] }, .done, []⟩
  | .store router =>
    let (published, events) := s.published.publish router
    ⟨{ s with published := published }, .done, events⟩
  | .rebuild plan =>
    let rebuilt := s.published.rebuild plan
    ⟨{ s with published := rebuilt.published }, .rebuilt rebuilt.outcome, rebuilt.events⟩
  | .lookup number method path captures =>
    match s.target? number with
    | some router =>
      let result := router.lookup method path captures
      ⟨s, .found result, result.events⟩
    | none => ⟨s, .noSnapshot, []⟩

/-- The service after some actions. -/
def replay : List (Action H) → Service H → Service H
  | [], s => s
  | a :: as, s => replay as (s.serve a).service

/-- What the log is told by some actions. -/
def log : List (Action H) → Service H → List Event
  | [], _ => []
  | a :: as, s => (s.serve a).events ++ log as (s.serve a).service

/-! ### One action -/

theorem serve_rebuild_of_error {plan : Plan H} {e : BuildError} (h : plan.build.outcome = .error e)
    (s : Service H) :
    s.serve (.rebuild plan) = ⟨s, .rebuilt (.error e), plan.build.events⟩ := by
  rw [serve, Published.rebuild]
  simp only [h]

theorem serve_rebuild_of_ok {plan : Plan H} {router : Router H} (h : plan.build.outcome = .ok router)
    (s : Service H) :
    s.serve (.rebuild plan) =
      ⟨{ s with published := ⟨router⟩ }, .rebuilt (.ok ()),
        plan.build.events ++ [router.announcement]⟩ := by
  rw [serve, Published.rebuild]
  simp only [h]
  rfl

theorem service_serve_lookup (s : Service H) (number : Option Nat) (method path : String)
    (captures : Option Captures) :
    (s.serve (.lookup number method path captures)).service = s := by
  rw [serve]
  cases s.target? number <;> rfl

theorem reply_lookup_of_target {s : Service H} {number : Option Nat} {router : Router H}
    (h : s.target? number = some router) (method path : String) (captures : Option Captures) :
    (s.serve (.lookup number method path captures)).reply =
      .found (router.lookup method path captures) := by
  rw [serve]
  simp only [h]

theorem current_serve (s : Service H) (a : Action H) :
    (s.serve a).service.published.current = a.publication?.getD s.published.current := by
  cases a with
  | snapshot => rfl
  | store router => rfl
  | rebuild plan =>
    rw [Action.publication?]
    cases ho : plan.build.outcome with
    | error e =>
      rw [serve_rebuild_of_error ho]
      rfl
    | ok router =>
      rw [serve_rebuild_of_ok ho]
      rfl
  | lookup number method path captures =>
    rw [service_serve_lookup]
    rfl

theorem snapshots_serve (s : Service H) (a : Action H) :
    (s.serve a).service.snapshots =
      s.snapshots ++ if a.isSnapshot then [s.published.current] else [] := by
  cases a with
  | snapshot => rfl
  | store router => exact (List.append_nil _).symm
  | rebuild plan => exact (List.append_nil _).symm
  | lookup number method path captures =>
    rw [service_serve_lookup]
    exact (List.append_nil _).symm

theorem announced_serve (s : Service H) (a : Action H) :
    (s.serve a).events.filter Event.announces = a.publication?.toList.map Router.announcement := by
  cases a with
  | snapshot => rfl
  | store router => rfl
  | rebuild plan =>
    rw [Action.publication?]
    cases ho : plan.build.outcome with
    | error e =>
      rw [serve_rebuild_of_error ho]
      exact plan.announced_build
    | ok router =>
      rw [serve_rebuild_of_ok ho, List.filter_append, plan.announced_build]
      rfl
  | lookup number method path captures =>
    rw [serve]
    cases s.target? number with
    | none => rfl
    | some router => exact router.announced_lookup method path captures

/-! ### A run of actions -/

theorem replay_append : ∀ (as later : List (Action H)) (s : Service H),
    replay (as ++ later) s = replay later (replay as s)
  | [], _, _ => rfl
  | a :: as, later, s => replay_append as later (s.serve a).service

/-- **The published router** is the last one that was published, or the first one. -/
theorem current_replay : ∀ (as : List (Action H)) (s : Service H),
    (replay as s).published.current =
      (as.filterMap Action.publication?).getLast?.getD s.published.current
  | [], _ => rfl
  | a :: as, s => by
    rw [replay, current_replay as, current_serve, List.filterMap_cons]
    cases a.publication? with
    | none => rfl
    | some router =>
      rw [List.getLast?_cons]
      rfl

theorem snapshots_replay : ∀ (as : List (Action H)) (s : Service H),
    ∃ added, (replay as s).snapshots = s.snapshots ++ added ∧
      added.length = as.countP Action.isSnapshot
  | [], s => ⟨[], (List.append_nil _).symm, rfl⟩
  | a :: as, s => by
    obtain ⟨added, hadded, hlength⟩ := snapshots_replay as (s.serve a).service
    rw [snapshots_serve, List.append_assoc] at hadded
    refine ⟨_, hadded, ?_⟩
    rw [List.length_append, hlength, List.countP_cons, Nat.add_comm]
    cases a.isSnapshot <;> rfl

/-- **The log** is told of the routers that are published, one by one in their
order. -/
theorem announced_log : ∀ (as : List (Action H)) (s : Service H),
    (log as s).filter Event.announces = (as.filterMap Action.publication?).map Router.announcement
  | [], _ => rfl
  | a :: as, s => by
    rw [log, List.filter_append, announced_serve, announced_log as, List.filterMap_cons]
    cases a.publication? <;> rfl

/-- A snapshot is of the router that was published when it was taken, whatever is
done later. -/
theorem target?_of_snapshot (before later : List (Action H)) (initial : Router H) :
    (replay (before ++ .snapshot :: later) (new initial)).target?
        (some (before.countP Action.isSnapshot)) =
      some (replay before (new initial)).published.current := by
  obtain ⟨taken, htaken, hlength⟩ := snapshots_replay before (new initial)
  obtain ⟨added, hadded, -⟩ :=
    snapshots_replay later ((replay before (new initial)).serve .snapshot).service
  rw [snapshots_serve, htaken] at hadded
  rw [replay_append, replay, target?, hadded, ← hlength]
  simp [new, Action.isSnapshot]

/-- **Snapshots and publications.** Let a service begin with a router and do some
actions, in any order. Then the published router is the last one that was
published, or the first one; a rebuild publishes the router that its plan builds,
which is that of its definitions, and where one of these does not compile it is
answered with the error of the plan and changes nothing. What is looked up on a
snapshot is answered as by the router that was published when the snapshot was
taken; what is looked up on the published router, as by that one. And the log is
told of the routers that were published, one by one in their order, each with the
number of its routes: where a router came of registering some definitions, this is
the number of the lists of segments that they were taken for. -/
theorem snapshots_and_publications (initial : Router H) (as : List (Action H)) :
    let s := replay as (new initial)
    let publications := as.filterMap Action.publication?
    s.published.current = publications.getLast?.getD initial ∧
    (∀ plan : Plan H,
      (∀ router, plan.build.outcome = .ok router →
        router = Router.after plan.definitions Router.empty ∧
        (s.serve (.rebuild plan)).reply = .rebuilt (.ok ()) ∧
        (s.serve (.rebuild plan)).service = { s with published := ⟨router⟩ }) ∧
      ((∃ d ∈ plan.definitions, ∃ segment ∈ d.key.segments,
          Template.isPattern segment = true ∧ ∃ cause, Template.compile segment = .error cause) →
        ∃ e, plan.build.outcome = .error e ∧
          (s.serve (.rebuild plan)).reply = .rebuilt (.error e) ∧
          (s.serve (.rebuild plan)).service = s)) ∧
    (∀ before later, as = before ++ .snapshot :: later → ∀ method path captures,
      (s.serve (.lookup (some (before.countP Action.isSnapshot)) method path captures)).reply =
        .found ((replay before (new initial)).published.current.lookup method path captures)) ∧
    (∀ method path captures, (s.serve (.lookup none method path captures)).reply =
      .found (s.published.current.lookup method path captures)) ∧
    (log as (new initial)).filter Event.announces =
      publications.map (fun router => .routerPublished router.routes.length) ∧
    ∀ histories : List (List (RouteDefinition H)),
      publications = histories.map (Router.after · Router.empty) →
      (log as (new initial)).filter Event.announces =
        histories.map fun ds => .routerPublished (Router.takenSegments ds).length := by
  intro s publications
  have hlog : (log as (new initial)).filter Event.announces = publications.map Router.announcement :=
    announced_log as (new initial)
  refine ⟨current_replay as (new initial), fun plan => ⟨fun router hbuilt => ?_, fun hbad => ?_⟩,
    ?_, fun method path captures => reply_lookup_of_target rfl method path captures, hlog, ?_⟩
  · rw [serve_rebuild_of_ok hbuilt]
    exact ⟨Plan.eq_after_of_build hbuilt, rfl, rfl⟩
  · obtain ⟨e, he⟩ := Plan.exists_error_of_bad hbad
    rw [serve_rebuild_of_error he]
    exact ⟨e, he, rfl, rfl⟩
  · rintro before later rfl method path captures
    exact reply_lookup_of_target (target?_of_snapshot before later initial) method path captures
  · intro histories hhistories
    rw [hlog, hhistories, List.map_map]
    refine List.map_congr_left fun ds _ => ?_
    show Event.routerPublished _ = _
    rw [Router.length_routes_after]

/-- A plan whose second definition does not compile. -/
def badPlan : Plan Nat := ⟨[⟨"GET", "/v2/ping", 2⟩, ⟨"GET", "/bad/\x7bre:(\x7d", 3⟩]⟩

/-- A plan with two definitions for the same segments. -/
def goodPlan : Plan Nat := ⟨[⟨"GET", "/v2/ping", 2⟩, ⟨"GET", "/v2/ping/", 3⟩]⟩

/-- A snapshot is taken of the first router; the bad plan publishes nothing, the
good one a router with one route, which the snapshot does not see. -/
theorem snapshots_and_publications_rebuilt :
    let initial : Router Nat := Router.after [⟨"GET", "/v1/ping", 1⟩] Router.empty
    let as : List (Action Nat) := [.snapshot, .rebuild badPlan, .rebuild goodPlan]
    let s := replay as (new initial)
    s.published.current = Router.after goodPlan.definitions Router.empty ∧
      (s.serve (.lookup (some 0) "GET" "/v1/ping" none)).reply =
        .found (initial.lookup "GET" "/v1/ping" none) ∧
      (∃ e, (s.serve (.rebuild badPlan)).reply = .rebuilt (.error e)) ∧
      (log as (new initial)).filter Event.announces = [.routerPublished 1] := by
  intro initial as s
  obtain ⟨hcurrent, hrebuild, hsnapshot, -, -, hlog⟩ := snapshots_and_publications initial as
  have hbad : ∃ d ∈ badPlan.definitions, ∃ segment ∈ d.key.segments,
      Template.isPattern segment = true ∧ ∃ cause, Template.compile segment = .error cause := by
    simp only [← RouteDefinition.isSome_rejection?]
    exact ⟨⟨"GET", "/bad/\x7bre:(\x7d", 3⟩, by simp [badPlan], by decide +kernel⟩
  have hgood : goodPlan.build.outcome = .ok (Router.after goodPlan.definitions Router.empty) := by
    have hnone : goodPlan.definitions.filterMap RouteDefinition.rejection? = [] := by decide +kernel
    rw [Plan.outcome_build_eq, hnone, Router.after_eq_foldl]
  obtain ⟨e, he, hreply, -⟩ := (hrebuild badPlan).2 hbad
  have hnone : (Action.rebuild badPlan).publication? = none := by
    rw [Action.publication?, he]
    rfl
  have hsome : (Action.rebuild goodPlan).publication? =
      some (Router.after goodPlan.definitions Router.empty) := by
    rw [Action.publication?, hgood]
    rfl
  have hpublications : as.filterMap Action.publication? =
      [goodPlan.definitions].map (Router.after · Router.empty) := by
    rw [List.filterMap_cons_none rfl, List.filterMap_cons_none hnone,
      List.filterMap_cons_some hsome]
    rfl
  refine ⟨?_, hsnapshot [] _ rfl "GET" "/v1/ping" none, ⟨e, hreply⟩, ?_⟩
  · rw [hcurrent, hpublications]
    rfl
  · rw [hlog [goodPlan.definitions] hpublications]
    decide +kernel

end Service
end Signpost
