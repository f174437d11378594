/-
# The log counts the routes

A registration that fails tells the log nothing. One that succeeds tells it once:
that the handler of a route was replaced, if a definition was taken for the same
segments before, and otherwise that a route was registered (`events_register`). So
the log counts the lists of segments that definitions were taken for: a list adds
one to the count when it is new (`takenSegments_concat`), and the log is
told of a registered route just then (`countP_events_register`). By induction on
the definitions the two counts are the same (`countP_reports`), and as many routes
are listed (`length_routes_after`).

Key definitions: `Event.registers`, `Router.reports`.
Key theorems: `Router.events_register`, `Router.takenSegments_concat`,
`Router.countP_reports`, `Router.log_counts_routes`.
-/
import Signpost.Proofs.Router.Publication

namespace Signpost

-- what a segment is, is never looked into here; unfolding it is slow
attribute [local irreducible] Template.isPattern

variable {H : Type}

/-- True if an event tells that a route was registered. -/
def Event.registers (e : Event) : Bool :=
  e.level == .debug && e.message == "route registered"

namespace Router

/-! ### One definition -/

/-- **What one registration tells the log.** -/
theorem events_register {r : Router H} (hs : r.store.Faithful) (d : RouteDefinition H) :
    (r.register d.method d.path d.handler).events =
      if d.fault? = none then
        [if (r.root.handlerAt d.key.segments).isSome then .handlerReplaced d.method d.path
          else .routeRegistered d.method d.path]
      else [] := by
  have htaken := outcome_register_eq_ok_iff hs d
  cases ho : (r.store.obtainAll (RouteKey.ofRoute d.method d.path).segments).outcome with
  | error e =>
    rw [register_of_error ho] at htaken ⊢
    have hfault : d.fault? ≠ none := by
      rw [ne_eq, ← htaken]
      exact nofun
    rw [if_neg hfault]
  | ok keys =>
    rw [register_eq_of_ok ho] at htaken ⊢
    have hfault : d.fault? = none := htaken.mp rfl
    have hkeys : keys.map (·.1) = d.key.segments := (MatcherStore.obtainAll_ok _ hs ho).1
    rw [if_pos hfault, hkeys]
    rfl

theorem isSome_handlerAt_after_iff_mem (ds : List (RouteDefinition H)) (segments : List String) :
    ((after ds Router.empty).root.handlerAt segments).isSome = true ↔
      segments ∈ takenSegments ds := by
  rw [isSome_handlerAt_after, takenSegments, List.mem_eraseDups, List.mem_map]

theorem countP_events_register (ds : List (RouteDefinition H)) (d : RouteDefinition H) :
    ((after ds Router.empty).register d.method d.path d.handler).events.countP Event.registers =
      if d.fault? = none ∧ d.key.segments ∉ takenSegments ds then 1 else 0 := by
  have hbound := isSome_handlerAt_after_iff_mem ds d.key.segments
  rw [events_register (sound_after ds).faithful]
  by_cases hfault : d.fault? = none
  · by_cases hmem : d.key.segments ∈ takenSegments ds
    · rw [if_pos hfault, if_pos (hbound.mpr hmem), if_neg fun h => h.2 hmem]
      rfl
    · rw [if_pos hfault, if_neg (mt hbound.mp hmem), if_pos ⟨hfault, hmem⟩]
      rfl
  · rw [if_neg hfault, if_neg fun h => hfault h.1]
    rfl

theorem takenSegments_concat (ds : List (RouteDefinition H)) (d : RouteDefinition H) :
    takenSegments (ds ++ [d]) =
      if d.fault? = none ∧ d.key.segments ∉ takenSegments ds then takenSegments ds ++ [d.key.segments]
      else takenSegments ds := by
  have hfilter : ∀ ds : List (RouteDefinition H),
      accepted ds Router.empty = ds.filter fun d => d.fault?.isNone :=
    fun ds => accepted_eq_filter ds MatcherStore.faithful_empty
  by_cases hfault : d.fault? = none
  · have haccepted : accepted (ds ++ [d]) Router.empty = accepted ds Router.empty ++ [d] := by
      rw [hfilter, hfilter, List.filter_append, List.filter_cons_of_pos (by simp [hfault])]
      rfl
    have hmem : d.key.segments ∈ takenSegments ds ↔
        d.key.segments ∈ (accepted ds Router.empty).map (·.key.segments) := List.mem_eraseDups
    rw [takenSegments, haccepted, List.map_append, List.map_singleton, List.eraseDups_concat,
      ← takenSegments]
    by_cases hold : d.key.segments ∈ takenSegments ds
    · rw [if_pos (hmem.mp hold), if_neg fun h => h.2 hold]
    · rw [if_neg (mt hmem.mpr hold), if_pos ⟨hfault, hold⟩]
  · have haccepted : accepted (ds ++ [d]) Router.empty = accepted ds Router.empty := by
      rw [hfilter, hfilter, List.filter_append, List.filter_cons_of_neg (by simp [hfault])]
      exact List.append_nil _
    rw [takenSegments, haccepted, if_neg fun h => hfault h.1, takenSegments]

/-! ### All definitions -/

/-- What the log is told when some definitions are registered, one by one. -/
def reports : List (RouteDefinition H) → Router H → List (List Event)
  | [], _ => []
  | d :: ds, r => (r.register d.method d.path d.handler).events :: reports ds (r.add d)

theorem length_reports : ∀ (ds : List (RouteDefinition H)) (r : Router H),
    (reports ds r).length = ds.length
  | [], _ => rfl
  | d :: ds, r => congrArg (· + 1) (length_reports ds (r.add d))

theorem reports_append : ∀ (ds later : List (RouteDefinition H)) (r : Router H),
    reports (ds ++ later) r = reports ds r ++ reports later (after ds r)
  | [], _, _ => rfl
  | d :: ds, later, r => by
    rw [List.cons_append, reports, reports, reports_append ds later (r.add d), after_cons_add,
      List.cons_append]

theorem take_reports (i : Nat) (ds : List (RouteDefinition H)) (r : Router H) :
    (reports ds r).take i = reports (ds.take i) r := by
  have hsplit := reports_append (ds.take i) (ds.drop i) r
  rw [List.take_append_drop] at hsplit
  rcases Nat.le_total i ds.length with hle | hge
  · have hlength : (reports (ds.take i) r).length = i := by
      rw [length_reports, List.length_take, Nat.min_eq_left hle]
    rw [hsplit, List.take_left' hlength]
  · rw [List.take_of_length_le hge, List.take_of_length_le (by rwa [length_reports])]

/-- **The log counts the lists of segments** that definitions were taken for. -/
theorem countP_reports (ds : List (RouteDefinition H)) :
    (reports ds Router.empty).flatten.countP Event.registers = (takenSegments ds).length := by
  induction ds using List.reverseRecOn with
  | nil => rfl
  | append_singleton ds d ih =>
    have hlast : reports [d] (after ds Router.empty) =
        [((after ds Router.empty).register d.method d.path d.handler).events] := rfl
    rw [reports_append, hlast, List.flatten_append, List.countP_append, ih, List.flatten_singleton,
      countP_events_register, takenSegments_concat]
    split
    case isTrue => rw [List.length_append, List.length_singleton]
    case isFalse => rfl

/-- **The log counts the routes.** Let some definitions be registered on the empty
router. One that is refused tells the log nothing. One that is taken tells it one
thing, with its method and path: that the handler of a route was replaced, if a
definition was taken for the same segments before, and otherwise that a route was
registered. So after any number of them, as many routes were told to be registered
as are listed, and as there are lists of segments that definitions were taken
for. -/
theorem log_counts_routes (ds : List (RouteDefinition H)) :
    (∀ before d later, ds = before ++ d :: later →
      let call := (after before Router.empty).register d.method d.path d.handler
      (reports ds Router.empty)[before.length]? = some call.events ∧
      ((∃ e, call.outcome = .error e) → call.events = []) ∧
      (call.outcome = .ok () → ∃ e, call.events = [e] ∧ e.level = .debug ∧
        e.fields = [("method", .text d.method), ("path", .text d.path)] ∧
        e.message =
          if ∃ d' ∈ accepted before Router.empty, d'.key.segments = d.key.segments then
            "route handler replaced" else "route registered")) ∧
    ∀ i, ((reports ds Router.empty).take i).flatten.countP Event.registers =
        (after (ds.take i) Router.empty).routes.length ∧
      (after (ds.take i) Router.empty).routes.length =
        ((accepted (ds.take i) Router.empty).map (·.key.segments)).eraseDups.length := by
  refine ⟨?_, fun i => ⟨?_, length_routes_after (ds.take i)⟩⟩
  · rintro before d later rfl call
    have hfaithful := (sound_after (H := H) before).faithful
    have htaken := outcome_register_eq_ok_iff hfaithful d
    have hevents : call.events = _ := events_register hfaithful d
    refine ⟨?_, ?_, fun hok => ?_⟩
    · rw [reports_append, List.getElem?_append_right (by rw [length_reports]), length_reports,
        Nat.sub_self]
      rfl
    · rintro ⟨e, herror⟩
      have hfault : d.fault? ≠ none := by
        rw [ne_eq, ← htaken]
        exact fun hok => nomatch herror.symm.trans hok
      rw [hevents, if_neg hfault]
    · rw [if_pos (htaken.mp hok)] at hevents
      refine ⟨_, hevents, ?_⟩
      simp only [← isSome_handlerAt_after]
      by_cases hbound : ((after before Router.empty).root.handlerAt d.key.segments).isSome = true
      · rw [if_pos hbound, if_pos hbound]
        exact ⟨rfl, rfl, rfl⟩
      · rw [if_neg hbound, if_neg hbound]
        exact ⟨rfl, rfl, rfl⟩
  · rw [take_reports, countP_reports, length_routes_after]

/-- Of the definitions of `mixed` the third is refused, and the last is taken for the
segments of another one, whose path has a slash at its end. -/
theorem log_counts_routes_mixed :
    mixed = mixed.take 2 ++ ⟨"PUT", "/\x7bage:n\x7d", 3⟩ :: mixed.drop 3 ∧
      (reports mixed Router.empty)[2]? = some [] ∧
      mixed = mixed.take 5 ++ ⟨"GET", "/a/\x7buint:id\x7d", 6⟩ :: [] ∧
      (∃ e, (reports mixed Router.empty)[5]? = some [e] ∧ e.message = "route handler replaced") ∧
      (reports mixed Router.empty).flatten.countP Event.registers = 4 := by
  obtain ⟨hcalls, hcounts⟩ := log_counts_routes mixed
  have hrefused : mixed = mixed.take 2 ++ ⟨"PUT", "/\x7bage:n\x7d", 3⟩ :: mixed.drop 3 := rfl
  have htaken : mixed = mixed.take 5 ++ ⟨"GET", "/a/\x7buint:id\x7d", 6⟩ :: [] := rfl
  obtain ⟨htold, hnothing, -⟩ := hcalls _ _ _ hrefused
  obtain ⟨htold', -, hone⟩ := hcalls _ _ _ htaken
  have herror : ((after (mixed.take 2) Router.empty).register "PUT" "/\x7bage:n\x7d" 3).outcome =
      .error (.unknownKind "\x7bage:n\x7d" "age") := by decide +kernel
  have hok : ((after (mixed.take 5) Router.empty).register "GET" "/a/\x7buint:id\x7d" 6).outcome =
      .ok () := by decide +kernel
  have hbefore : ∃ d' ∈ accepted (mixed.take 5) Router.empty,
      d'.key.segments = (RouteKey.ofRoute "GET" "/a/\x7buint:id\x7d").segments := by decide +kernel
  obtain ⟨e, hevents, -, -, hmessage⟩ := hone hok
  have hroutes : (after (mixed.take 6) Router.empty).routes.length = 4 := by decide +kernel
  refine ⟨hrefused, ?_, htaken, ⟨e, ?_, ?_⟩, (hcounts 6).1.trans hroutes⟩
  · rw [← hnothing ⟨_, herror⟩]
    exact htold
  · rw [← hevents]
    exact htold'
  · rw [hmessage]
    exact if_pos hbefore

end Router
end Signpost
