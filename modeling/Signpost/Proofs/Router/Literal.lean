/-
# Routers of literal segments

Where no pattern is below a node, a step leads to the child under the segment and
a walk to the node under the segments (`Node.step_of_literal`,
`Node.descend_of_literal`). So a router whose routes are all literal answers a
request with what is bound under its segments
(`Router.outcome_lookup_of_literal`), and a route that was taken answers its own
request until its segments are registered again.

`HEAD` is the exception. A lookup reads it as `GET`, but a route may be registered
for it, and then the methods of a path can tell it twice
(`Router.told_twice_and_unanswered`).

Key definitions: `RouteDefinition.Literal`.
Key theorems: `Node.descend_of_literal`, `Router.not_isPattern_of_within`,
`Router.outcome_lookup_of_literal`, `Router.outcome_lookup_of_taken`,
`Router.told_once_and_answered`.
-/
import Signpost.Proofs.Router.Bindings
import Signpost.Proofs.Router.Methods

namespace Signpost

-- what a segment is, is never looked into here; unfolding it is slow
attribute [local irreducible] Template.isPattern

variable {H : Type}

/-! ### Walks without patterns -/

namespace Node

theorem step_of_literal {n : Node H} (hcoh : n.Coherent)
    (h : ∀ child ∈ n.children, Template.isPattern child.key = false) (segment : String)
    (w : Walk) : n.step segment w = (n.child? segment).map fun child => (child, w) := by
  have hnone : (n.children.filter fun child => Template.isPattern child.key) = [] := by
    rw [List.filter_eq_nil_iff]
    intro child hmem
    simp [h child hmem]
  rw [step_eq hcoh, hnone]
  rfl

theorem descend_of_literal {s : MatcherStore} {w : Walk} :
    ∀ {segments : List String} (position : Nat) {n m : Node H}, n.WellFormed s →
      (∀ d, Within d n → ∀ child ∈ d.children, Template.isPattern child.key = false) →
      n.at? segments = some m → n.descend segments position w = (.reached m, w)
  | [], _, _, _, _, _, hat => by
    cases hat
    rfl
  | segment :: rest, position, n, m, hwell, hlit, hat => by
    obtain ⟨child, hchild, hrest⟩ := Option.bind_eq_some_iff.mp hat
    have hmem : child ∈ n.children := mem_of_child? hchild
    have hstep : n.step segment w = some (child, w) := by
      rw [step_of_literal hwell.root_coherent (hlit n (.refl n)), hchild]
      rfl
    rw [descend_cons hstep]
    exact descend_of_literal (position + 1) (hwell.child hmem).2
      (fun d hd => hlit d (.under hmem hd)) hrest

end Node

/-! ### Routers of literal routes -/

/-- A definition of a route without patterns. -/
def RouteDefinition.Literal (d : RouteDefinition H) : Prop :=
  ∀ segment ∈ d.key.segments, Template.isPattern segment = false

instance (d : RouteDefinition H) : Decidable d.Literal :=
  inferInstanceAs (Decidable (∀ segment ∈ d.key.segments, Template.isPattern segment = false))

namespace Router

section Literal

variable {ds : List (RouteDefinition H)}

/-- Every node of the trie is on the way to a route that was taken, so it is
literal if the routes are. -/
theorem not_isPattern_of_within (hlit : ∀ d ∈ accepted ds Router.empty, d.Literal)
    {n child : Node H} (hn : Node.Within n (after ds Router.empty).root)
    (hchild : child ∈ n.children) : Template.isPattern child.key = false := by
  obtain ⟨e, he, hkey⟩ :=
    Node.exists_mem_entries_of_within (sound_after ds).wellFormed hn hchild
  obtain ⟨d, hd, hsegments⟩ := exists_accepted_of_mem he
  exact hlit d hd child.key (hsegments ▸ hkey)

theorem outcome_lookup_of_literal (hlit : ∀ d ∈ accepted ds Router.empty, d.Literal)
    {method path : String} {handler : H}
    (h : (after ds Router.empty).root.handlerAt
      (RouteKey.ofRoute (answering method) path).segments = some handler)
    (captures : Option Captures) :
    ((after ds Router.empty).lookup method path captures).outcome = .ok handler := by
  obtain ⟨m, hat, hhandler⟩ := Option.bind_eq_some_iff.mp h
  have hwalk := Node.descend_of_literal (w := initialWalk (answering method) path captures) 0
    (sound_after ds).wellFormed (fun n hn child hchild => not_isPattern_of_within hlit hn hchild) hat
  rw [lookup_eq, walk, hwalk]
  show handlerOf m = .ok handler
  rw [handlerOf, hhandler]

end Literal

/-- **A literal route answers until its segments are registered again.** -/
theorem outcome_lookup_of_taken {before later : List (RouteDefinition H)} {d : RouteDefinition H}
    (hlit : ∀ d' ∈ accepted (before ++ d :: later) Router.empty, d'.Literal)
    (htaken : ((after before Router.empty).register d.method d.path d.handler).outcome = .ok ())
    (hlast : ∀ d' ∈ accepted later ((after before Router.empty).add d),
      d'.key.segments ≠ d.key.segments)
    (hmethod : d.method ≠ "HEAD") (captures : Option Captures) :
    ((after (before ++ d :: later) Router.empty).lookup d.method d.path captures).outcome =
      .ok d.handler := by
  have hsound : (after before (Router.empty : Router H)).Sound := sound_after before
  have hafter : after (before ++ d :: later) (Router.empty : Router H) =
      after later ((after before Router.empty).add d) := by
    rw [after_append, after_cons_add]
  have hfault : d.fault? = none := (outcome_register_eq_ok_iff hsound.faithful d).mp htaken
  have hbound : (after (before ++ d :: later) Router.empty).root.handlerAt d.key.segments =
      some d.handler := by
    rw [hafter, handlerAt_of_untouched (hsound.add d) hlast, handlerAt_add hsound,
      if_pos ⟨hfault, rfl⟩]
  refine outcome_lookup_of_literal hlit ?_ captures
  rw [answering_of_ne hmethod]
  exact hbound

/-! ### What the methods of a path are worth -/

theorem count_told_le (ds : List (RouteDefinition H)) (path : String) {method : String}
    (h : method ≠ "HEAD") :
    ("HEAD" :: (after ds Router.empty).resolving path).count method ≤ 1 := by
  rw [List.count_cons_of_ne h.symm]
  exact List.nodup_iff_count_le_one.mp (nodup_resolving ds path) method

theorem nodup_told {ds : List (RouteDefinition H)} {path : String}
    (h : (∃ d ∈ accepted ds Router.empty, d.method = "HEAD") →
      (after ds Router.empty).resolves path "HEAD" = false) :
    ("HEAD" :: (after ds Router.empty).resolving path).Nodup := by
  refine List.nodup_cons.mpr ⟨fun hmem => ?_, nodup_resolving ds path⟩
  obtain ⟨hmethod, hresolves⟩ := mem_resolving.mp hmem
  rw [methods_after, List.mem_eraseDups, List.mem_map] at hmethod
  rw [h hmethod] at hresolves
  cases hresolves

/-- **The methods of a path are told once, and a literal route answers.** Whatever
was registered, no method other than `HEAD` is told twice for a path, and `HEAD`
is not if no route was taken for it, or if it leads to no handler when it is not
read as `GET`. And if all routes are literal, a definition that was taken for a
method other than `HEAD` answers its method and path until its segments are
registered again; for `HEAD` the answer is that for `GET`. -/
theorem told_once_and_answered :
    (∀ (ds : List (RouteDefinition H)) (path : String),
      let r := after ds Router.empty
      let told := "HEAD" :: r.resolving path
      r.pathMethods path = ", ".intercalate told ∧
        (∀ method, method ≠ "HEAD" → told.count method ≤ 1) ∧
        (((∃ d ∈ accepted ds Router.empty, d.method = "HEAD") → r.resolves path "HEAD" = false) →
          told.Nodup)) ∧
    (∀ (before later : List (RouteDefinition H)) (d : RouteDefinition H),
      let r := after (before ++ d :: later) Router.empty
      (∀ d' ∈ accepted (before ++ d :: later) Router.empty, d'.Literal) →
      ((after before Router.empty).register d.method d.path d.handler).outcome = .ok () →
      (∀ d' ∈ accepted later ((after before Router.empty).add d),
        d'.key.segments ≠ d.key.segments) →
      ∀ captures : Option Captures,
        (d.method ≠ "HEAD" → (r.lookup d.method d.path captures).outcome = .ok d.handler) ∧
        (d.method = "HEAD" →
          r.lookup d.method d.path captures = r.lookup "GET" d.path captures)) := by
  constructor
  · intro ds path r told
    exact ⟨pathMethods_eq_intercalate r path, fun _ h => count_told_le ds path h, nodup_told⟩
  · intro before later d r hlit htaken hlast captures
    refine ⟨fun h => outcome_lookup_of_taken hlit htaken hlast h captures, fun h => ?_⟩
    rw [h]
    rfl

/-- A path that is registered again for another method, and its parent for the
same. -/
def nested : List (RouteDefinition Nat) :=
  [⟨"GET", "/a", 1⟩, ⟨"GET", "/a/b", 2⟩, ⟨"PUT", "/a/b", 3⟩, ⟨"GET", "/a", 4⟩]

/-- The second definition of `nested` still answers. -/
theorem told_once_and_answered_nested :
    (∀ d ∈ accepted nested Router.empty, d.Literal) ∧
      ((after nested Router.empty).lookup "GET" "/a/b" none).outcome = .ok 2 ∧
      ("HEAD" :: (after nested Router.empty).resolving "/a/b").Nodup := by
  have hlit : ∀ d ∈ accepted nested Router.empty, d.Literal := by decide +kernel
  obtain ⟨htold, hanswered⟩ := told_once_and_answered (H := Nat)
  refine ⟨hlit, ?_, ?_⟩
  · exact (hanswered [⟨"GET", "/a", 1⟩] [⟨"PUT", "/a/b", 3⟩, ⟨"GET", "/a", 4⟩] ⟨"GET", "/a/b", 2⟩ hlit
      (by decide +kernel) (by decide +kernel) none).1 (by decide)
  · exact (htold nested "/a/b").2.2 (by decide +kernel)

/-- A route for `HEAD` makes `HEAD` told twice for its path, and is not found. -/
theorem told_twice_and_unanswered :
    (∀ d ∈ accepted [⟨"HEAD", "/a", 1⟩] Router.empty, d.Literal) ∧
      ((Router.empty : Router Nat).register "HEAD" "/a" 1).outcome = .ok () ∧
      (after [⟨"HEAD", "/a", 1⟩] Router.empty).pathMethods "/a" = "HEAD, HEAD" ∧
      ¬ ("HEAD" :: (after [⟨"HEAD", "/a", 1⟩] Router.empty).resolving "/a").Nodup ∧
      ((after [⟨"HEAD", "/a", 1⟩] Router.empty).lookup "HEAD" "/a" none).outcome ≠ .ok 1 := by
  decide +kernel

end Router
end Signpost
