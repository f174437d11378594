/-
# A route is registered again

A route that was taken is bound in every router that comes later, with the
matchers that the store has for its patterns (`Router.Binds`). When it is
registered again, all its matchers and all its nodes are there, so nothing but
the handler changes (`Router.register_of_binds`); and a request is led the same
way as before, for there is no other pattern than before. In a history of
registrations it does not matter when a handler is replaced, as long as nothing
else is registered for the same segments (`Router.after_rebind`); so the first
of two registrations leaves no trace.

Key definitions: `Router.Binds`, `Router.rebind`.
Key theorems: `Router.binds_of_accepted`, `Router.register_of_binds`,
`Router.add_rebind`, `Router.after_rebind`, `Router.replace_swaps_handler`.
-/
import Signpost.Proofs.Router.Familiar
import Signpost.Proofs.Trie.Rebinding

namespace Signpost

-- what a segment is, is never looked into here; unfolding it is slow
attribute [local irreducible] Template.isPattern

variable {H : Type}

namespace Router

open RouteTable

/-! ### Routes that are bound -/

/-- A router has the route of a definition, under keys with the matchers of its
store. -/
structure Binds (r : Router H) (d : RouteDefinition H) (keys : List (String × Option Matcher)) :
    Prop where
  segments_eq : keys.map (·.1) = d.key.segments
  keyed : ∀ key ∈ keys, r.store.Keyed key.1 key.2
  bound : (r.root.handlerAt d.key.segments).isSome = true
  method_mem : d.method ∈ r.methods

/-- The router with another handler under some keys. -/
def rebind (keys : List (String × Option Matcher)) (handler : H) (r : Router H) : Router H :=
  { r with root := r.root.insert handler keys }

variable {r : Router H} {d : RouteDefinition H} {keys : List (String × Option Matcher)}

theorem binds_of_accepted {ds : List (RouteDefinition H)} (h : d ∈ accepted ds Router.empty) :
    ∃ keys, (after ds Router.empty).Binds d keys := by
  have hbound := (isSome_handlerAt_after ds d.key.segments).mpr ⟨d, h, rfl⟩
  obtain ⟨handler, hhandler⟩ := Option.isSome_iff_exists.mp hbound
  obtain ⟨e, he, hsegments, -⟩ :=
    (Node.handlerAt_eq_some_iff (sound_after ds).wellFormed).mp hhandler
  refine ⟨e.keys, hsegments, ?_, hbound, ?_⟩
  · exact Node.keyed_of_mem_entries _ (sound_after ds).wellFormed e he
  · rw [methods_after, List.mem_eraseDups]
    exact List.mem_map_of_mem h

theorem Binds.add (h : r.Binds d keys) (hsound : r.Sound) (d' : RouteDefinition H) :
    (r.add d').Binds d keys := by
  refine ⟨h.segments_eq, fun key hkey => ?_, ?_, ?_⟩
  · exact (h.keyed key hkey).mono (register_cases hsound.faithful d'.method d'.path d'.handler).2.1
  · rw [handlerAt_add hsound]
    split
    · rfl
    · exact h.bound
  · rw [methods_add hsound.faithful]
    split
    · exact List.mem_append_left _ h.method_mem
    · exact h.method_mem

/-- **A route is registered again.** It is taken, and told to be replaced; nothing
but its handler changes. -/
theorem register_of_binds (h : r.Binds d keys) (handler : H) :
    r.register d.method d.path handler =
      ⟨r.rebind keys handler, .ok (), [.handlerReplaced d.method d.path]⟩ := by
  have hall := MatcherStore.obtainAll_of_keyed h.keyed
  rw [h.segments_eq] at hall
  have hmethods : r.methods.contains d.method = true := List.contains_iff_mem.mpr h.method_mem
  have hbound : ((r.root.at? (keys.map (·.1))).bind (·.handler)).isSome = true := by
    rw [h.segments_eq]
    exact h.bound
  have hstore : (r.store.obtainAll (RouteKey.ofRoute d.method d.path).segments).store = r.store :=
    congrArg Obtained.store hall
  rw [register_eq_of_ok (congrArg Obtained.outcome hall), hstore, if_pos hmethods, if_pos hbound]
  rfl

theorem add_of_binds (h : r.Binds d keys) (handler : H) :
    r.add { d with handler := handler } = r.rebind keys handler :=
  congrArg Registration.router (register_of_binds h handler)

theorem routes_rebind (hsound : r.Sound) (h : r.Binds d keys) (handler : H) :
    (r.rebind keys handler).routes = r.routes := by
  have hsound' : (r.rebind keys handler).Sound := by
    rw [← add_of_binds h]
    exact hsound.add _
  have hsegments : (r.rebind keys handler).root.entries.map Entry.segments =
      r.root.entries.map Entry.segments :=
    Node.segments_entries_insert handler keys (by rw [h.segments_eq]; exact h.bound)
  have hlines := congrArg (List.map fun segments => Node.display (segments.foldl Node.extend ""))
    hsegments
  rw [List.map_map, List.map_map] at hlines
  rw [routes, routes, Node.listing_eq hsound'.handler_root, Node.listing_eq hsound.handler_root]
  exact hlines

/-- **Requests after a route is registered again.** Those that came to its node are
answered with the new handler, all others as before. -/
theorem lookup_rebind {ds : List (RouteDefinition H)} (hd : d ∈ accepted ds Router.empty)
    (h : (after ds Router.empty).Binds d keys) (handler : H) (method path : String)
    (captures : Option Captures) :
    let r := after ds Router.empty
    let before := r.lookup method path captures
    let answered := (r.rebind keys handler).lookup method path captures
    answered.captures = before.captures ∧
      (r.AnsweredAt method path captures d.key.segments → answered.outcome = .ok handler) ∧
      (¬ r.AnsweredAt method path captures d.key.segments → answered = before) := by
  intro r before answered
  have hsound : r.Sound := sound_after ds
  have hfault : d.fault? = none := ((mem_accepted_iff MatcherStore.faithful_empty).mp hd).2
  have hmem : d.route ∈ taken ds Router.empty := taken_eq_map_route ds ▸ List.mem_map_of_mem hd
  -- the route is there already, so no request is led farther along it than before
  obtain ⟨hwalk, hway⟩ := way_add_of_familiar ds (d := { d with handler := handler }) hfault
    (familiar_of_mem hmem rfl 0) (answering method) path captures
  have hsame := hway.resolve_right fun ⟨_, hroute, hothers⟩ => hothers d.route hmem hroute
  have houtcome := outcome_lookup_add hsound (d := { d with handler := handler }) hfault hsame
  rw [add_of_binds h] at hwalk houtcome
  have hcaptures : answered.captures = before.captures :=
    calc answered.captures =
          ((r.rebind keys handler).walk (answering method) path captures).2.captures :=
          captures_lookup _ method path captures
      _ = (r.walk (answering method) path captures).2.captures := congrArg Walk.captures hwalk
      _ = before.captures := (captures_lookup r method path captures).symm
  refine ⟨hcaptures, ?_, ?_⟩
  · rintro ⟨⟨former, hformer⟩, hway⟩
    rw [outcome_lookup_eq hsound, answerOn_eq_ok_iff] at hformer
    exact houtcome.trans (if_pos ⟨hway, hformer.1⟩)
  · intro hother
    refine lookup_ext (houtcome.trans (if_neg fun hend => hother ⟨?_, hend.1⟩)) hcaptures
    obtain ⟨former, hformer⟩ := Option.isSome_iff_exists.mp h.bound
    refine ⟨former, ?_⟩
    rw [outcome_lookup_eq hsound, answerOn_eq_ok_iff]
    exact ⟨hend.2, hend.1 ▸ hformer⟩

/-! ### Replacing earlier or later -/

theorem rebind_add (hs : r.store.Faithful) (hfault : d.fault? = none) (h : (r.add d).Binds d keys)
    (handler : H) : (r.add d).rebind keys handler = r.add { d with handler := handler } := by
  have htaken := (outcome_register_eq_ok_iff hs d).mpr hfault
  cases ho : (r.store.obtainAll d.key.segments).outcome with
  | error e =>
    rw [register_of_error ho] at htaken
    cases htaken
  | ok keys' =>
    obtain ⟨hsegments, hkeyed⟩ := MatcherStore.obtainAll_ok _ hs ho
    have hadd := congrArg Registration.router (register_eq_of_ok ho d.handler)
    have hagain : r.register d.method d.path handler = _ := register_eq_of_ok ho handler
    have hstore : (r.add d).store = (r.store.obtainAll d.key.segments).store :=
      congrArg Router.store hadd
    -- the store has one matcher for a segment, so the route was bound under these keys
    have hall := MatcherStore.obtainAll_of_keyed h.keyed
    have hall' := MatcherStore.obtainAll_of_keyed hkeyed
    rw [hsegments] at hall'
    rw [hstore, h.segments_eq, hall'] at hall
    have hkeys : keys' = keys := Except.ok.inj (congrArg Obtained.outcome hall)
    subst hkeys
    unfold add
    rw [register_eq_of_ok ho, hagain, rebind, Node.insert_insert]

theorem add_rebind (hsound : r.Sound) (h : r.Binds d keys) {d' : RouteDefinition H}
    (hne : d'.key.segments ≠ d.key.segments) (handler : H) :
    (r.rebind keys handler).add d' = (r.add d').rebind keys handler := by
  unfold add
  cases ho : (r.store.obtainAll d'.key.segments).outcome with
  | error e =>
    rw [register_of_error ho]
    have ho' : ((r.rebind keys handler).store.obtainAll d'.key.segments).outcome = .error e := ho
    rw [register_of_error ho']
    rfl
  | ok keys' =>
    have ho' : ((r.rebind keys handler).store.obtainAll d'.key.segments).outcome = .ok keys' := ho
    obtain ⟨hsegments, -⟩ := MatcherStore.obtainAll_ok _ hsound.faithful ho
    have hcomm := Node.insert_comm handler d'.handler keys keys' hsound.wellFormed
      (by rw [h.segments_eq]; exact h.bound) (by rw [h.segments_eq, hsegments]; exact hne.symm)
    rw [register_eq_of_ok ho, register_eq_of_ok ho']
    unfold rebind
    rw [hcomm]

theorem after_rebind : ∀ (between : List (RouteDefinition H)) {r : Router H}, r.Sound →
    r.Binds d keys → (∀ d' ∈ between, d'.key.segments ≠ d.key.segments) → ∀ handler : H,
    after between (r.rebind keys handler) = (after between r).rebind keys handler ∧
      (after between r).Binds d keys
  | [], _, _, h, _, _ => ⟨rfl, h⟩
  | d' :: between, r, hsound, h, hne, handler => by
    obtain ⟨hd', hbetween⟩ := List.forall_mem_cons.mp hne
    rw [after_cons_add, after_cons_add, add_rebind hsound h hd']
    exact after_rebind between (hsound.add d') (h.add hsound d') hbetween handler

/-- The first of two registrations leaves no trace, if nothing else is registered
for its segments before the second. -/
theorem after_registered_twice {before between later : List (RouteDefinition H)}
    (hfault : d.fault? = none) (hne : ∀ d' ∈ between, d'.key.segments ≠ d.key.segments)
    (handler : H) :
    after (before ++ d :: (between ++ { d with handler := handler } :: later)) Router.empty =
      after (before ++ { d with handler := handler } :: (between ++ later)) Router.empty := by
  have hd : d ∈ accepted (before ++ [d]) Router.empty :=
    (mem_accepted_iff MatcherStore.faithful_empty).mpr ⟨by simp, hfault⟩
  obtain ⟨keys, hbinds⟩ := binds_of_accepted hd
  have hsound := sound_after (H := H) (before ++ [d])
  rw [after_concat] at hbinds hsound
  obtain ⟨hbetween, hbinds'⟩ := after_rebind between hsound hbinds hne handler
  have hfirst := rebind_add (sound_after before).faithful hfault hbinds handler
  rw [after_append, after_append, after_cons_add, after_cons_add, after_append, after_append,
    after_cons_add, ← hfirst, hbetween, add_of_binds hbinds']

/-- **A route is registered again.** A route that was taken is taken again with
another handler, and the list of routes, the methods and the store stay as they
are. Each request captures what it captured before; if it was answered by the
route it is answered with the new handler, and else as before. And if nothing
is registered for its segments between two registrations of a route, all that
follows is as if the first had been for the handler of the second, and the
second had not been. -/
theorem replace_swaps_handler :
    (∀ (ds : List (RouteDefinition H)) (d : RouteDefinition H) (handler : H),
      d ∈ accepted ds Router.empty →
      let r := after ds Router.empty
      let registration := r.register d.method d.path handler
      registration.outcome = .ok () ∧ registration.router.routes = r.routes ∧
        registration.router.methods = r.methods ∧ registration.router.store = r.store ∧
        ∀ (method path : String) (captures : Option Captures),
          let before := r.lookup method path captures
          let answered := registration.router.lookup method path captures
          answered.captures = before.captures ∧
            (r.AnsweredAt method path captures d.key.segments → answered.outcome = .ok handler) ∧
            (¬ r.AnsweredAt method path captures d.key.segments → answered = before)) ∧
    (∀ (before between later : List (RouteDefinition H)) (d : RouteDefinition H) (handler : H),
      ((after before Router.empty).register d.method d.path d.handler).outcome = .ok () →
      (∀ d' ∈ between, d'.key.segments ≠ d.key.segments) →
      after (before ++ d :: (between ++ { d with handler := handler } :: later)) Router.empty =
        after (before ++ { d with handler := handler } :: (between ++ later)) Router.empty) := by
  constructor
  · intro ds d handler hd r registration
    obtain ⟨keys, hbinds⟩ := binds_of_accepted hd
    have hregister : registration = _ := register_of_binds hbinds handler
    rw [hregister]
    refine ⟨rfl, routes_rebind (sound_after ds) hbinds handler, rfl, rfl, ?_⟩
    exact fun method path captures => lookup_rebind hd hbinds handler method path captures
  · intro before between later d handler htaken hne
    have hfault := (outcome_register_eq_ok_iff (sound_after before).faithful d).mp htaken
    exact after_registered_twice hfault hne handler

/-- The template of `overlapping` is registered again: it answers with the new handler,
the other route as before, and the former handler leaves no trace. -/
theorem replace_swaps_handler_overlapping :
    let r := after overlapping Router.empty
    let registration := r.register "GET" "/\x7buint:id\x7d" 3
    (⟨"GET", "/\x7buint:id\x7d", 1⟩ : RouteDefinition Nat) ∈ accepted overlapping Router.empty ∧
      registration.outcome = .ok () ∧
      (registration.router.lookup "GET" "/8" (some Captures.empty)).outcome = .ok 3 ∧
      registration.router.lookup "GET" "/7/a" none = r.lookup "GET" "/7/a" none ∧
      after (overlapping ++ [⟨"GET", "/\x7buint:id\x7d", 3⟩]) Router.empty =
        after [⟨"GET", "/\x7buint:id\x7d", 3⟩, ⟨"GET", "/7/a", 2⟩] Router.empty := by
  intro r registration
  have hd : (⟨"GET", "/\x7buint:id\x7d", 1⟩ : RouteDefinition Nat) ∈
      accepted overlapping Router.empty := by decide +kernel
  obtain ⟨hagain, htwice⟩ := replace_swaps_handler (H := Nat)
  obtain ⟨htaken, -, -, -, hrequest⟩ := hagain overlapping _ 3 hd
  refine ⟨hd, htaken, ?_, ?_, ?_⟩
  · have hown : r.AnsweredAt "GET" "/8" (some Captures.empty) ["GET", "\x7buint:id\x7d"] :=
      ⟨⟨1, by decide +kernel⟩, by decide +kernel⟩
    exact (hrequest "GET" "/8" (some Captures.empty)).2.1 hown
  · refine (hrequest "GET" "/7/a" none).2.2 fun h => ?_
    have hother : r.way "GET" "/7/a" none ≠ ["GET", "\x7buint:id\x7d"] := by decide +kernel
    exact hother h.2
  · exact htwice [] [⟨"GET", "/7/a", 2⟩] [] ⟨"GET", "/\x7buint:id\x7d", 1⟩ 3 (by decide +kernel)
      (by decide +kernel)

end Router
end Signpost
