/-
# One more route

A route at the end of a table changes no choice as long as it brings no pattern
that is new: each of its patterns is there already, behind the same templates,
and goes on if the route goes on after it (`RouteTable.Familiar`). This is so of
a route without patterns, and of one that is registered again. Patterns are then
accepted as before (`Familiar.accepts_append`), and where there was a choice it
is the same; where there was none the template of the route may be chosen now,
for its own text (`Familiar.choose_append`). So a request is led the way that it
was led before, or farther along the new route, where no other route goes; it
captures the same in either case (`Familiar.follow_append`,
`Router.way_add_of_familiar`).

What is led the same way is answered the same, unless the new route ends there,
and what is led farther was not found (`Router.lookup_add_of_familiar`).

Key definitions: `RouteTable.Familiar`, `RouteTable.Prolonged`,
`RouteDefinition.route`.
Key theorems: `RouteTable.Familiar.choose_append`,
`RouteTable.Familiar.follow_append`, `Router.way_add_of_familiar`,
`Router.lookup_add_of_familiar`, `Router.literal_disturbs_none`.
-/
import Signpost.Proofs.Router.Literal
import Signpost.Proofs.Router.Way

namespace Signpost

-- what a segment is, is never looked into here; unfolding it is slow
attribute [local irreducible] Template.isPattern

variable {H : Type}

namespace RouteTable

/-- Every pattern of a route from a position on is there already: one of the
routes agrees with it up to the pattern, and goes on after it if this one
does. -/
def Familiar (position : Nat) (route : Route H) (routes : List (Route H)) : Prop :=
  ∀ i template, position ≤ i → route.segments[i]? = some template →
    Template.isPattern template = true →
    ∃ other ∈ routes, (∀ j, position ≤ j → j ≤ i → other.segments[j]? = route.segments[j]?) ∧
      (i + 1 < route.segments.length → i + 1 < other.segments.length)

/-- What becomes of the way of a request, and of its walk, when a route is added at
the end of a table: the walk is the same; so is the way, or it leads farther
along the route, where no other route goes. -/
structure Prolonged (position : Nat) (route : Route H) (routes : List (Route H))
    (before after : List String × Walk) : Prop where
  walk_eq : after.2 = before.2
  way_eq_or : after.1 = before.1 ∨
    (before.1.length < after.1.length ∧ after.1 <+: route.segments.drop position ∧
      ∀ other ∈ routes, ¬ after.1 <+: other.segments.drop position)

namespace Prolonged

variable {position : Nat} {route : Route H} {routes : List (Route H)}
  {before after : List String × Walk}

theorem of_eq (h : after = before) : Prolonged position route routes before after :=
  ⟨by rw [h], Or.inl (by rw [h])⟩

theorem cons {key : String}
    (h : Prolonged (position + 1) route (under position key routes) before after)
    (hkey : route.segments[position]? = some key) :
    Prolonged position route routes (key :: before.1, before.2) (key :: after.1, after.2) := by
  refine ⟨h.walk_eq, h.way_eq_or.imp (congrArg (key :: ·)) fun ⟨hlt, hroute, hothers⟩ => ?_⟩
  refine ⟨Nat.succ_lt_succ hlt, List.cons_prefix_drop_iff.mpr ⟨hkey, hroute⟩, ?_⟩
  intro other hmem hother
  obtain ⟨hget, hrest⟩ := List.cons_prefix_drop_iff.mp hother
  exact hothers other (List.mem_filter.mpr ⟨hmem, by simp [hget]⟩) hrest

end Prolonged

theorem follow_nil (length : Nat) (w : Walk) : ∀ (segments : List String) (position : Nat),
    follow length segments position ([] : List (Route H)) w = ([], w)
  | [], _ => rfl
  | _ :: rest, _ => follow_of_none rfl rest w

theorem familiar_of_literal {route : Route H}
    (h : ∀ segment ∈ route.segments, Template.isPattern segment = false) (position : Nat)
    (routes : List (Route H)) : Familiar position route routes := by
  intro i template _ hget hp
  rw [h template (List.mem_of_getElem? hget)] at hp
  cases hp

theorem familiar_of_mem {route other : Route H} {routes : List (Route H)} (hmem : other ∈ routes)
    (h : other.segments = route.segments) (position : Nat) : Familiar position route routes := by
  intro i template _ _ _
  exact ⟨other, hmem, fun j _ _ => by rw [h], fun hlt => by rwa [h]⟩

namespace Familiar

variable {length position : Nat} {route : Route H} {routes : List (Route H)} {segment : String}

theorem under (h : Familiar position route routes) {key : String}
    (hkey : route.segments[position]? = some key) :
    Familiar (position + 1) route (under position key routes) := by
  intro i template hle hget hp
  obtain ⟨other, hmem, hagree, hlonger⟩ := h i template (Nat.le_of_succ_le hle) hget hp
  refine ⟨other, List.mem_filter.mpr ⟨hmem, ?_⟩, ?_, hlonger⟩
  case refine_2 => exact fun j hj => hagree j (Nat.le_of_succ_le hj)
  rw [hagree position (Nat.le_refl _) (Nat.le_of_succ_le hle), hkey, beq_self_eq_true]

theorem mem_templatesAt (h : Familiar position route routes) {key : String}
    (hkey : route.segments[position]? = some key) (hp : Template.isPattern key = true) :
    key ∈ templatesAt position routes := by
  obtain ⟨other, hmem, hagree, -⟩ := h position key (Nat.le_refl _) hkey hp
  exact RouteTable.mem_templatesAt.mpr
    ⟨other, hmem, (hagree position (Nat.le_refl _) (Nat.le_refl _)).trans hkey⟩

theorem goesOn_append (h : Familiar position route routes) {template : String}
    (hp : Template.isPattern template = true) :
    goesOn position template (routes ++ [route]) = goesOn position template routes := by
  unfold goesOn
  by_cases hkey : route.segments[position]? = some template
  · rw [under_append_of_some hkey, List.any_append]
    by_cases hlt : position + 1 < route.segments.length
    · obtain ⟨other, hmem, hagree, hlonger⟩ := h position template (Nat.le_refl _) hkey hp
      have hother : other ∈ RouteTable.under position template routes := by
        refine List.mem_filter.mpr ⟨hmem, ?_⟩
        rw [hagree position (Nat.le_refl _) (Nat.le_refl _), hkey, beq_self_eq_true]
      have hany : ((RouteTable.under position template routes).any fun route =>
          decide (position + 1 < route.segments.length)) = true :=
        List.any_eq_true.mpr ⟨other, hother, decide_eq_true (hlonger hlt)⟩
      rw [hany, Bool.true_or]
    · simp [hlt]
  · rw [under_append_of_ne hkey]

theorem accepts_append (h : Familiar position route routes) (template : String) :
    accepts length position template segment (routes ++ [route]) =
      accepts length position template segment routes := by
  unfold accepts
  cases hp : Template.isPattern template with
  | false => rfl
  | true => rw [h.goesOn_append hp]

theorem take_append (h : Familiar position route routes) (template : String) (w : Walk) :
    take length position template segment (routes ++ [route]) w =
      take length position template segment routes w := by
  rw [take, take, h.accepts_append]

/-- **One choice.** What was chosen is chosen still; if nothing was, the template of
the route may be chosen, for its own text. -/
theorem choose_append (h : Familiar position route routes) :
    choose length position segment (routes ++ [route]) =
      (choose length position segment routes).or
        ((route.segments[position]?).filter (· == segment)) := by
  have haccepts : (fun template => accepts length position template segment (routes ++ [route])) =
      fun template => accepts length position template segment routes :=
    funext h.accepts_append
  rw [choose_eq, choose_eq, haccepts, Option.or_assoc]
  cases hkey : route.segments[position]? with
  | none => rw [templatesAt_append_of_none hkey, Option.filter_none, Option.or_none]
  | some key =>
    rw [templatesAt_append_of_some hkey, Option.filter_some]
    by_cases hmem : key ∈ templatesAt position routes
    · rw [if_pos hmem]
      by_cases heq : (key == segment) = true
      · have hfound : ((templatesAt position routes).find? (· == segment)).isSome = true :=
          List.find?_isSome.mpr ⟨key, hmem, heq⟩
        rw [Option.or_of_isSome hfound]
      · rw [if_neg heq, Option.or_none]
    · -- a new template is no pattern, so nothing but its own text leads to it
      have hreject : ¬ accepts length position key segment routes = true :=
        fun haccept => hmem (h.mem_templatesAt hkey (isPattern_of_accepts haccept))
      rw [if_neg hmem, List.find?_append, List.find?_append, List.find?_singleton,
        List.find?_singleton, if_neg hreject, Option.or_none]

theorem follow_append_of_ne (h : Familiar position route routes) {template : String}
    (hchoose : choose length position segment routes = some template)
    (hne : route.segments[position]? ≠ some template) (rest : List String) (w : Walk) :
    follow length (segment :: rest) position (routes ++ [route]) w =
      follow length (segment :: rest) position routes w := by
  have hchoose' : choose length position segment (routes ++ [route]) = some template := by
    rw [h.choose_append, hchoose, Option.some_or]
  rw [follow_cons hchoose, follow_cons hchoose', under_append_of_ne hne, h.take_append]

/-- **All choices.** With the route at its end a table leads a request the way that
it led it before, or farther along the route. -/
theorem follow_append (length : Nat) : ∀ (segments : List String) {position : Nat}
    {routes : List (Route H)} {w : Walk}, Familiar position route routes →
    Prolonged position route routes (follow length segments position routes w)
      (follow length segments position (routes ++ [route]) w)
  | [], _, _, _, _ => .of_eq rfl
  | segment :: rest, position, routes, w, h => by
    have hchoose' : choose length position segment (routes ++ [route]) = _ := h.choose_append
    cases hchoose : choose length position segment routes with
    | some template =>
      by_cases hkey : route.segments[position]? = some template
      · -- the request is still on the way of the route
        have ih := follow_append length rest (w := take length position template segment routes w)
          (h.under hkey)
        rw [hchoose, Option.some_or] at hchoose'
        rw [follow_cons hchoose, follow_cons hchoose', under_append_of_some hkey, h.take_append]
        exact ih.cons hkey
      · exact .of_eq (h.follow_append_of_ne hchoose hkey rest w)
    | none =>
      rw [hchoose, Option.none_or] at hchoose'
      cases hfound : (route.segments[position]?).filter (· == segment) with
      | none =>
        rw [follow_of_none hchoose, follow_of_none (hchoose'.trans hfound)]
        exact .of_eq rfl
      | some key =>
        obtain ⟨hkey, heq⟩ := Option.filter_eq_some_iff.mp hfound
        have hnew : key ∉ templatesAt position routes := fun hmem => by
          rw [choose_eq, Option.or_eq_none_iff] at hchoose
          exact List.find?_eq_none.mp hchoose.2 key hmem heq
        -- a new template is no pattern, so nothing is recorded
        have htake : take length position key segment (routes ++ [route]) w = w := by
          have hreject : ¬ accepts length position key segment routes = true :=
            fun haccept => hnew (h.mem_templatesAt hkey (isPattern_of_accepts haccept))
          rw [h.take_append, take, if_neg hreject]
        -- from here on the route is alone
        have halone := h.under hkey
        rw [under_eq_nil hnew] at halone
        have ih := follow_append length rest (w := w) halone
        rw [follow_nil, List.nil_append] at ih
        rw [follow_of_none hchoose, follow_cons (hchoose'.trans hfound), under_append_of_some hkey,
          under_eq_nil hnew, List.nil_append, htake]
        refine ⟨ih.walk_eq, Or.inr ⟨Nat.succ_pos _, List.cons_prefix_drop_iff.mpr ⟨hkey, ?_⟩, ?_⟩⟩
        · rcases ih.way_eq_or with hnil | ⟨-, hroute, -⟩
          · rw [hnil]
            exact List.nil_prefix
          · exact hroute
        · intro other hmem hother
          obtain ⟨hget, -⟩ := List.cons_prefix_drop_iff.mp hother
          exact hnew (RouteTable.mem_templatesAt.mpr ⟨other, hmem, hget⟩)

end Familiar
end RouteTable

/-! ### A definition is added to a router -/

/-- The route of a definition. -/
def RouteDefinition.route (d : RouteDefinition H) : Route H := ⟨d.key.segments, d.handler⟩

namespace Router

open RouteTable

theorem taken_eq_map_route (ds : List (RouteDefinition H)) :
    taken ds Router.empty = (accepted ds Router.empty).map RouteDefinition.route :=
  taken_eq_map_accepted ds Router.empty

theorem taken_concat (ds : List (RouteDefinition H)) {d : RouteDefinition H}
    (hfault : d.fault? = none) :
    taken (ds ++ [d]) Router.empty = taken ds Router.empty ++ [d.route] := by
  have hone : [d].filter (fun d => d.fault?.isNone) = [d] := by simp [hfault]
  rw [taken_eq_map_route, taken_eq_map_route, accepted_eq_filter _ MatcherStore.faithful_empty,
    accepted_eq_filter _ MatcherStore.faithful_empty, List.filter_append, hone, List.map_append]
  rfl

/-- **A definition without new patterns is added.** A request captures the same, and
is led the same way or farther along the new route. -/
theorem way_add_of_familiar (ds : List (RouteDefinition H)) {d : RouteDefinition H}
    (hfault : d.fault? = none) (h : Familiar 0 d.route (taken ds Router.empty))
    (method path : String) (captures : Option Captures) :
    Prolonged 0 d.route (taken ds Router.empty)
      ((after ds Router.empty).way method path captures,
        ((after ds Router.empty).walk method path captures).2)
      (((after ds Router.empty).add d).way method path captures,
        (((after ds Router.empty).add d).walk method path captures).2) := by
  have hfollow := h.follow_append (RouteKey.ofRoute method path).length
    (RouteKey.ofRoute method path).segments (w := initialWalk method path captures)
  rwa [← taken_concat ds hfault, walk_after, walk_after, after_concat] at hfollow

theorem answerOn_add {r : Router H} (h : r.Sound) {d : RouteDefinition H} (hfault : d.fault? = none)
    (length : Nat) (way : List String) :
    (r.add d).answerOn length way =
      if way = d.key.segments ∧ way.length = length then .ok d.handler
      else r.answerOn length way := by
  unfold answerOn
  rw [handlerAt_add h]
  by_cases hlen : way.length = length
  · rw [if_pos hlen, if_pos hlen]
    by_cases hway : way = d.key.segments
    · rw [if_pos ⟨hfault, hway.symm⟩, if_pos ⟨hway, hlen⟩]
      rfl
    · rw [if_neg fun h => hway h.2.symm, if_neg fun h => hway h.1]
  · rw [if_neg hlen, if_neg fun h => hlen h.2, if_neg hlen]

theorem handlerAt_eq_none {ds : List (RouteDefinition H)} {segments : List String}
    (h : ∀ route ∈ taken ds Router.empty, route.segments ≠ segments) :
    (after ds Router.empty).root.handlerAt segments = none := by
  rw [← Option.not_isSome_iff_eq_none, isSome_handlerAt_after]
  rintro ⟨d, hd, hsegments⟩
  exact h d.route (taken_eq_map_route ds ▸ List.mem_map_of_mem hd) hsegments

/-- Where nothing is bound a request is answered with a miss: the one that it is
answered with at an earlier segment, or the method is known now. -/
theorem answerOn_of_unbound {r : Router H} {way : List String}
    (hnone : r.root.handlerAt way = none) (length : Nat) {position : Nat}
    (hlt : position < way.length) :
    r.answerOn length way = .error (missAt position) ∨
      (missAt position = .badMethod ∧ r.answerOn length way = .error .notFound) := by
  have hnotFound : r.answerOn length way = .error .notFound ∨
      r.answerOn length way = .error (missAt way.length) := by
    unfold answerOn
    rw [hnone]
    split
    · exact Or.inl rfl
    · exact Or.inr rfl
  unfold missAt at hnotFound ⊢
  by_cases hposition : position ≤ 1
  · rw [if_pos hposition]
    rcases hnotFound with h | h
    · exact Or.inr ⟨rfl, h⟩
    · split at h
      · exact Or.inl h
      · exact Or.inr ⟨rfl, h⟩
  · have hlater : ¬ way.length ≤ 1 := by omega
    rw [if_neg hlater, or_self] at hnotFound
    rw [if_neg hposition]
    exact Or.inl hnotFound

theorem fault?_of_literal {d : RouteDefinition H} (h : d.Literal) : d.fault? = none := by
  rw [RouteDefinition.fault?, List.findSome?_eq_none_iff]
  intro segment hmem
  rw [Template.fault?, h segment hmem]
  rfl

section Request

variable {r : Router H} {d : RouteDefinition H} {method path : String} {captures : Option Captures}

theorem outcome_lookup_add (h : r.Sound) (hfault : d.fault? = none)
    (hway : (r.add d).way (answering method) path captures =
      r.way (answering method) path captures) :
    ((r.add d).lookup method path captures).outcome =
      if r.way (answering method) path captures = d.key.segments ∧
          (r.way (answering method) path captures).length =
            (RouteKey.ofRoute (answering method) path).length
      then .ok d.handler else (r.lookup method path captures).outcome := by
  rw [outcome_lookup_eq (h.add d), outcome_lookup_eq h, hway, answerOn_add h hfault]

theorem outcome_lookup_add_of_farther (h : r.Sound) (hfault : d.fault? = none)
    (hfarther : (r.way (answering method) path captures).length <
      ((r.add d).way (answering method) path captures).length)
    (hnone : r.root.handlerAt ((r.add d).way (answering method) path captures) = none) :
    ∃ miss, (r.lookup method path captures).outcome = .error miss ∧
      (((r.add d).lookup method path captures).outcome = .error miss ∨
        (((r.add d).lookup method path captures).outcome = .ok d.handler ∧
          (r.add d).way (answering method) path captures = d.key.segments) ∨
        (miss = .badMethod ∧
          ((r.add d).lookup method path captures).outcome = .error .notFound)) := by
  have hle := Node.length_way_le (RouteKey.ofRoute (answering method) path).segments (r.add d).root
    (initialWalk (answering method) path captures)
  have hstopped := Nat.ne_of_lt (Nat.lt_of_lt_of_le hfarther hle)
  refine ⟨missAt (r.way (answering method) path captures).length, ?_, ?_⟩
  · rw [outcome_lookup_eq h, answerOn]
    exact if_neg hstopped
  · rw [outcome_lookup_eq (h.add d), answerOn_add h hfault]
    split
    case isTrue hend => exact Or.inr (Or.inl ⟨rfl, hend.1⟩)
    case isFalse =>
      exact (answerOn_of_unbound hnone (RouteKey.ofRoute (answering method) path).length
        hfarther).imp_right Or.inr

end Request

/-- **A definition without new patterns disturbs no other request.** All captures are
what they were; what was answered at another node is answered so still; and
what is answered otherwise than before is answered by the definition, or not
found for a method that is known now. -/
theorem lookup_add_of_familiar (ds : List (RouteDefinition H)) {d : RouteDefinition H}
    (hfault : d.fault? = none) (hfamiliar : Familiar 0 d.route (taken ds Router.empty))
    (method path : String) (captures : Option Captures) :
    let r := after ds Router.empty
    let before := r.lookup method path captures
    let answered := (r.add d).lookup method path captures
    answered.captures = before.captures ∧
      (answered = before ∨
        (answered.outcome = .ok d.handler ∧
          (r.add d).AnsweredAt method path captures d.key.segments) ∨
        (before.outcome = .error .badMethod ∧ answered.outcome = .error .notFound)) ∧
      (∀ handler, before.outcome = .ok handler →
        ¬ r.AnsweredAt method path captures d.key.segments → answered = before) := by
  intro r before answered
  have hsound : r.Sound := sound_after ds
  obtain ⟨hwalk, hway⟩ := way_add_of_familiar ds hfault hfamiliar (answering method) path captures
  have hcaptures : answered.captures = before.captures :=
    calc answered.captures = ((r.add d).walk (answering method) path captures).2.captures :=
          captures_lookup _ method path captures
      _ = (r.walk (answering method) path captures).2.captures := congrArg Walk.captures hwalk
      _ = before.captures := (captures_lookup r method path captures).symm
  refine ⟨hcaptures, ?_⟩
  rcases hway with hsame | ⟨hfarther, -, hothers⟩
  case inl =>
    have houtcome := outcome_lookup_add hsound hfault hsame
    split at houtcome
    case isTrue hend =>
      refine ⟨Or.inr (Or.inl ⟨houtcome, ⟨_, houtcome⟩, hsame.trans hend.1⟩), ?_⟩
      exact fun handler hok hother => absurd ⟨⟨handler, hok⟩, hend.1⟩ hother
    case isFalse =>
      have hall : answered = before := lookup_ext houtcome hcaptures
      exact ⟨Or.inl hall, fun _ _ _ => hall⟩
  case inr =>
    -- where the request is led now, no route ends but the new one
    have hnone := handlerAt_eq_none fun route hmem heq => hothers route hmem (heq ▸ List.prefix_rfl)
    obtain ⟨miss, hmiss, hcase⟩ := outcome_lookup_add_of_farther hsound hfault hfarther hnone
    refine ⟨?_, fun handler hok => absurd (hmiss.symm.trans hok) nofun⟩
    rcases hcase with hlater | ⟨hok, hend⟩ | ⟨rfl, hlater⟩
    · exact Or.inl (lookup_ext (hlater.trans hmiss.symm) hcaptures)
    · exact Or.inr (Or.inl ⟨hok, ⟨_, hok⟩, hend⟩)
    · exact Or.inr (Or.inr ⟨hmiss, hlater⟩)

/-- **A literal route disturbs no other request.** A definition without patterns is
taken, whatever was registered before, and its handler is bound under its
segments. Each request then captures what it captured before. It is answered as
before, or by the new route at its node; or its method was not known before and
is known now, and it is not found. And a request that was answered with a
handler of another node is answered as before. -/
theorem literal_disturbs_none (ds : List (RouteDefinition H)) (d : RouteDefinition H)
    (hlit : d.Literal) :
    let r := after ds Router.empty
    let r' := (r.register d.method d.path d.handler).router
    (r.register d.method d.path d.handler).outcome = .ok () ∧
    r'.root.handlerAt d.key.segments = some d.handler ∧
    ∀ (method path : String) (captures : Option Captures),
      let before := r.lookup method path captures
      let answered := r'.lookup method path captures
      answered.captures = before.captures ∧
      (answered = before ∨
        (answered.outcome = .ok d.handler ∧ r'.AnsweredAt method path captures d.key.segments) ∨
        (before.outcome = .error .badMethod ∧ answered.outcome = .error .notFound)) ∧
      (∀ handler, before.outcome = .ok handler →
        ¬ r.AnsweredAt method path captures d.key.segments → answered = before) := by
  intro r r'
  have hfault : d.fault? = none := fault?_of_literal hlit
  have hroute : ∀ segment ∈ d.route.segments, Template.isPattern segment = false := hlit
  have hfamiliar := familiar_of_literal hroute 0 (taken ds Router.empty)
  have hbound : r'.root.handlerAt d.key.segments = some d.handler :=
    (handlerAt_add (sound_after ds) d d.key.segments).trans (if_pos ⟨hfault, rfl⟩)
  refine ⟨(outcome_register_eq_ok_iff (sound_after ds).faithful d).mpr hfault, hbound, ?_⟩
  exact fun method path captures => lookup_add_of_familiar ds hfault hfamiliar method path captures

/-- A template, and a route through one of its segments. -/
def overlapping : List (RouteDefinition Nat) := [⟨"GET", "/\x7buint:id\x7d", 1⟩, ⟨"GET", "/7/a", 2⟩]

/-- The template of `overlapping` still answers for a segment that is registered after
it. -/
theorem literal_disturbs_none_overlapping :
    let r := after overlapping Router.empty
    let registration := r.register "GET" "/7" 3
    (⟨"GET", "/7", 3⟩ : RouteDefinition Nat).Literal ∧ registration.outcome = .ok () ∧
      (r.lookup "GET" "/7" (some Captures.empty)).outcome = .ok 1 ∧
      registration.router.lookup "GET" "/7" (some Captures.empty) =
        r.lookup "GET" "/7" (some Captures.empty) := by
  intro r registration
  have hlit : (⟨"GET", "/7", 3⟩ : RouteDefinition Nat).Literal := by decide +kernel
  have hanswered : (r.lookup "GET" "/7" (some Captures.empty)).outcome = .ok 1 := by decide +kernel
  have hother : r.way "GET" "/7" (some Captures.empty) ≠ ["GET", "7"] := by decide +kernel
  obtain ⟨htaken, -, hrequest⟩ := literal_disturbs_none overlapping ⟨"GET", "/7", 3⟩ hlit
  exact ⟨hlit, htaken, hanswered,
    (hrequest "GET" "/7" (some Captures.empty)).2.2 1 hanswered fun h => hother h.2⟩

end Router
end Signpost
