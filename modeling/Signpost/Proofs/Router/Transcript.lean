/-
# The list of routes is the trie

The list of the routes of a router has one line for each route that was taken,
and a line can be read back: what stands before its first slash is the method,
with a space, and the rest is the path. So the list is a transcript of the trie.
The lines, read back and registered in their order on an empty router, each with
the handler of its node, give the same trie (`root_after_definitions`): they are
the entries of the trie, depth first, and a trie is what its entries make of it.
All that is asked of the methods is that they are not empty and have no slash in
them; the empty method of a path would vanish from its line.

Key definitions: `Entry.line`, `Entry.definition`.
Key theorems: `Router.unnumbered_add`, `Router.unnumbered_after_plant`,
`Router.routes_eq_lines`, `Router.mem_routes_iff`, `Router.nodup_keys_routes`,
`Router.root_after_definitions`, `Router.routes_transcript`.
-/
import Signpost.Proofs.RouteKey
import Signpost.Proofs.Router.Bindings
import Signpost.Proofs.Router.Session

namespace Signpost

-- what a segment is, is never looked into here; unfolding it is slow
attribute [local irreducible] Template.isPattern

variable {H : Type}

/-! ### Planting entries by registrations -/

namespace Template

theorem compileSegment_of_keyed {s : MatcherStore} {key : String} {matcher : Option Matcher}
    (h : s.Keyed key matcher) : compileSegment key = .ok (matcher.map Matcher.unnumbered) := by
  unfold compileSegment
  rw [← h.isSome_eq]
  cases matcher with
  | none => rfl
  | some m =>
    rw [h.compile_eq m rfl]
    rfl

theorem compileAll_of_keyed {s : MatcherStore} : ∀ {keys : List (String × Option Matcher)},
    (∀ key ∈ keys, s.Keyed key.1 key.2) →
    compileAll (keys.map (·.1)) = .ok (keys.map unnumberedKey)
  | [], _ => rfl
  | key :: rest, h => by
    rw [List.map_cons, compileAll, compileSegment_of_keyed (h key List.mem_cons_self),
      compileAll_of_keyed fun k hk => h k (List.mem_cons_of_mem _ hk)]
    rfl

end Template

namespace Router

theorem unnumbered_add {r : Router H} (hs : r.store.Faithful) (d : RouteDefinition H)
    {keys : List (String × Option Matcher)} (h : Template.compileAll d.key.segments = .ok keys) :
    (r.add d).root.unnumbered = r.root.unnumbered.insert d.handler keys := by
  have hanswer := MatcherStore.outcome_obtainAll d.key.segments hs
  rw [h] at hanswer
  cases ho : (r.store.obtainAll d.key.segments).outcome with
  | error e =>
    rw [ho] at hanswer
    cases hanswer
  | ok keys' =>
    rw [ho] at hanswer
    rw [add, register_eq_of_ok ho, Node.unnumbered_insert, Except.ok.inj hanswer]

/-- Registering definitions with the segments and handlers of some entries plants
these entries. -/
theorem unnumbered_after_plant {s : MatcherStore} (definition : Entry H → RouteDefinition H) :
    ∀ (es : List (Entry H)) {r : Router H} {n : Node H}, r.store.Faithful →
    r.root.unnumbered = n.unnumbered →
    (∀ e ∈ es, (definition e).key.segments = e.segments ∧ (definition e).handler = e.handler ∧
      ∀ key ∈ e.keys, s.Keyed key.1 key.2) →
    (after (es.map definition) r).root.unnumbered = (Node.plant es n).unnumbered
  | [], _, _, _, hroot, _ => hroot
  | e :: es, r, n, hs, hroot, hes => by
    obtain ⟨hsegments, hhandler, hkeyed⟩ := hes e List.mem_cons_self
    have hcompile : Template.compileAll (definition e).key.segments =
        .ok (e.keys.map unnumberedKey) := by
      rw [hsegments]
      exact Template.compileAll_of_keyed hkeyed
    have hstep : (r.add (definition e)).root.unnumbered =
        (n.insert e.handler e.keys).unnumbered := by
      rw [unnumbered_add hs _ hcompile, hroot, hhandler, Node.unnumbered_insert]
    rw [List.map_cons, after_cons_add, Node.plant]
    exact unnumbered_after_plant definition es (faithful_add hs _) hstep
      fun e' he' => hes e' (List.mem_cons_of_mem _ he')

end Router

/-! ### Lines -/

namespace Entry

/-- The line of an entry in the list of routes. -/
def line (e : Entry H) : String := Node.display (e.segments.foldl Node.extend "")

/-- The definition that the line of an entry tells, with the handler of the
entry. -/
def definition (e : Entry H) : RouteDefinition H :=
  ⟨(RouteKey.readLine e.line).1, (RouteKey.readLine e.line).2, e.handler⟩

theorem key_definition (e : Entry H) : e.definition.key = RouteKey.ofLine e.line := rfl

end Entry

namespace Router

theorem routes_eq_lines (ds : List (RouteDefinition H)) :
    (after ds Router.empty).routes = (after ds Router.empty).root.entries.map Entry.line :=
  Node.listing_eq (sound_after ds).handler_root ""

section Plain

variable {ds : List (RouteDefinition H)}

/-- A route that was taken is listed in the line of its key, from which the key is
read back. -/
theorem line_of_accepted (hmethods : ∀ d ∈ ds, d.method ≠ "" ∧ '/' ∉ d.method.toList)
    {d : RouteDefinition H} (hd : d ∈ accepted ds Router.empty) :
    Node.display (d.key.segments.foldl Node.extend "") = d.key.line ∧
      RouteKey.ofLine d.key.line = d.key := by
  obtain ⟨hne, hslash⟩ := hmethods d ((mem_accepted_iff MatcherStore.faithful_empty).mp hd).1
  have hclean : d.key.Clean := RouteKey.clean_ofRoute hslash d.path
  exact ⟨RouteKey.display_segments (RouteKey.first_ofRoute_ne hne d.path) hclean.first,
    RouteKey.ofLine_line hclean⟩

theorem line_of_mem_entries (hmethods : ∀ d ∈ ds, d.method ≠ "" ∧ '/' ∉ d.method.toList)
    {e : Entry H} (he : e ∈ (after ds Router.empty).root.entries) :
    ∃ d ∈ accepted ds Router.empty, d.key.segments = e.segments ∧ e.line = d.key.line ∧
      e.definition.key = d.key := by
  obtain ⟨d, hd, hsegments⟩ := exists_accepted_of_mem he
  obtain ⟨hline, hread⟩ := line_of_accepted hmethods hd
  have heline : e.line = d.key.line := by rw [Entry.line, ← hsegments, hline]
  exact ⟨d, hd, hsegments, heline, by rw [Entry.key_definition, heline, hread]⟩

theorem segments_definition (hmethods : ∀ d ∈ ds, d.method ≠ "" ∧ '/' ∉ d.method.toList)
    {e : Entry H} (he : e ∈ (after ds Router.empty).root.entries) :
    e.definition.key.segments = e.segments := by
  obtain ⟨d, -, hsegments, -, hkey⟩ := line_of_mem_entries hmethods he
  rw [hkey, hsegments]

theorem mem_routes_iff (hmethods : ∀ d ∈ ds, d.method ≠ "" ∧ '/' ∉ d.method.toList) {line : String} :
    line ∈ (after ds Router.empty).routes ↔ ∃ d ∈ accepted ds Router.empty, line = d.key.line := by
  rw [routes_eq_lines, List.mem_map]
  constructor
  · rintro ⟨e, he, rfl⟩
    obtain ⟨d, hd, -, hline, -⟩ := line_of_mem_entries hmethods he
    exact ⟨d, hd, hline⟩
  · rintro ⟨d, hd, rfl⟩
    obtain ⟨handler, hhandler⟩ := Option.isSome_iff_exists.mp
      ((isSome_handlerAt_after ds d.key.segments).mpr ⟨d, hd, rfl⟩)
    obtain ⟨e, he, hsegments, -⟩ :=
      (Node.handlerAt_eq_some_iff (sound_after ds).wellFormed).mp hhandler
    exact ⟨e, he, by rw [Entry.line, hsegments, (line_of_accepted hmethods hd).1]⟩

theorem nodup_keys_routes (hmethods : ∀ d ∈ ds, d.method ≠ "" ∧ '/' ∉ d.method.toList) :
    ((after ds Router.empty).routes.map RouteKey.ofLine).Nodup := by
  have hsegments : ((after ds Router.empty).routes.map RouteKey.ofLine).map RouteKey.segments =
      (after ds Router.empty).root.entries.map Entry.segments := by
    rw [routes_eq_lines, List.map_map, List.map_map]
    exact List.map_congr_left fun e he => segments_definition hmethods he
  have hnodup := Node.nodup_segments_entries _ (sound_after ds).wellFormed
  rw [← hsegments] at hnodup
  exact List.Nodup.of_map _ hnodup

/-- The definitions that the lines tell give the same trie. -/
theorem root_after_definitions (hmethods : ∀ d ∈ ds, d.method ≠ "" ∧ '/' ∉ d.method.toList) :
    (after ((after ds Router.empty).root.entries.map Entry.definition) Router.empty).root.unnumbered =
      (after ds Router.empty).root.unnumbered := by
  have hplant := unnumbered_after_plant Entry.definition (after ds Router.empty).root.entries
    (r := Router.empty) (n := Node.root) MatcherStore.faithful_empty rfl fun e he =>
    ⟨segments_definition hmethods he, rfl,
      Node.keyed_of_mem_entries _ (sound_after ds).wellFormed e he⟩
  rw [hplant, plant_entries_root]

theorem rejections_definitions (hmethods : ∀ d ∈ ds, d.method ≠ "" ∧ '/' ∉ d.method.toList) :
    ((after ds Router.empty).root.entries.map Entry.definition).filterMap
      RouteDefinition.rejection? = [] := by
  rw [List.filterMap_eq_nil_iff]
  intro d' hd'
  obtain ⟨e, he, rfl⟩ := List.mem_map.mp hd'
  obtain ⟨d, hd, -, -, hkey⟩ := line_of_mem_entries hmethods he
  have hfault : d.fault? = none := ((mem_accepted_iff MatcherStore.faithful_empty).mp hd).2
  rw [RouteDefinition.rejection?, RouteDefinition.fault?, hkey, ← RouteDefinition.fault?, hfault]
  rfl

/-- **The list of routes is a transcript of the trie.** Let no method be empty or
have a slash in it. Then the lines are distinct; they are the lines of the
routes that were taken, and each tells its route, another one than the others
do. And the definitions that they tell, each with the handler that is bound
under its segments, build a router in this order, with the same trie, up to the
numbers of its matchers: it answers every lookup alike and lists the same
routes. -/
theorem routes_transcript (ds : List (RouteDefinition H))
    (hmethods : ∀ d ∈ ds, d.method ≠ "" ∧ '/' ∉ d.method.toList) :
    let r := after ds Router.empty
    r.routes.Nodup ∧
    (∀ line, line ∈ r.routes ↔ ∃ d ∈ accepted ds Router.empty, line = d.key.line) ∧
    (∀ d ∈ accepted ds Router.empty, RouteKey.ofLine d.key.line = d.key) ∧
    (r.routes.map RouteKey.ofLine).Nodup ∧
    ∃ told : List (RouteDefinition H),
      told.map (fun d => (d.method, d.path)) = r.routes.map RouteKey.readLine ∧
      (∀ d ∈ told, r.root.handlerAt d.key.segments = some d.handler) ∧
      ∃ rebuilt, (Plan.build ⟨told⟩).outcome = .ok rebuilt ∧
        rebuilt.root.unnumbered = r.root.unnumbered ∧
        (∀ method path captures,
          rebuilt.lookup method path captures = r.lookup method path captures) ∧
        rebuilt.routes = r.routes := by
  intro r
  have hkeys := nodup_keys_routes hmethods
  have hroot := root_after_definitions hmethods
  refine ⟨List.Nodup.of_map _ hkeys, fun line => mem_routes_iff hmethods,
    fun d hd => (line_of_accepted hmethods hd).2, hkeys, r.root.entries.map Entry.definition, ?_, ?_,
    _, ?_, hroot, ?_, ?_⟩
  · show _ = (after ds Router.empty).routes.map RouteKey.readLine
    rw [routes_eq_lines, List.map_map, List.map_map]
    rfl
  · intro d hd
    obtain ⟨e, he, rfl⟩ := List.mem_map.mp hd
    rw [segments_definition hmethods he]
    exact (Node.handlerAt_eq_some_iff (sound_after ds).wellFormed).mpr ⟨e, he, rfl, rfl⟩
  · rw [Plan.outcome_build_eq, rejections_definitions hmethods, ← after_eq_foldl]
  · exact fun method path captures => lookup_eq_of_root hroot method path captures
  · exact routes_eq_of_root hroot

end Plain

/-- A path that does not begin with a slash, a route that is not taken, one that
ends inside another, and one whose handler is replaced. -/
def mixed : List (RouteDefinition Nat) :=
  [⟨"GET", "api//x", 1⟩, ⟨"GET", "/a/\x7buint:id\x7d/", 2⟩, ⟨"PUT", "/\x7bage:n\x7d", 3⟩,
    ⟨"GET", "/b", 4⟩, ⟨"GET", "/a", 5⟩, ⟨"GET", "/a/\x7buint:id\x7d", 6⟩]

/-- The routes of `mixed`, depth first, and the router that their lines build. -/
theorem routes_transcript_mixed :
    (∀ d ∈ mixed, d.method ≠ "" ∧ '/' ∉ d.method.toList) ∧
      (after mixed Router.empty).routes =
        ["GETapi //x", "GET /a", "GET /a/\x7buint:id\x7d", "GET /b"] ∧
      ∃ told : List (RouteDefinition Nat),
        told.map (fun d => (d.method, d.path)) =
          [("GETapi", "//x"), ("GET", "/a"), ("GET", "/a/\x7buint:id\x7d"), ("GET", "/b")] ∧
        ∃ rebuilt, (Plan.build ⟨told⟩).outcome = .ok rebuilt ∧
          rebuilt.routes = (after mixed Router.empty).routes := by
  have hmethods : ∀ d ∈ mixed, d.method ≠ "" ∧ '/' ∉ d.method.toList := by decide
  have hroutes : (after mixed Router.empty).routes =
      ["GETapi //x", "GET /a", "GET /a/\x7buint:id\x7d", "GET /b"] := by decide +kernel
  obtain ⟨-, -, -, -, told, htold, -, rebuilt, hbuilt, -, -, hsame⟩ :=
    routes_transcript mixed hmethods
  refine ⟨hmethods, hroutes, told, ?_, rebuilt, hbuilt, hsame⟩
  rw [htold, hroutes]
  decide +kernel

end Router
end Signpost
