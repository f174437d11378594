/-
# The way of a request

The keys of the nodes that a walk visits are its way. A walk that comes to its
end is answered with what is bound under its way, and any other with the miss
of the segment where it is stopped (`Node.answer_descend`). So two routers that
lead a request the same way, where the same is bound, answer it alike
(`Router.outcome_lookup_eq`, `Router.lookup_ext`).

The way, and with it what is captured, can be told from the table of routes:
like a search, it chooses one template after the other, and if the template is
a pattern that matches, its groups are recorded (`RouteTable.follow`). The walk
in a trie that represents the table goes this way
(`Node.Represents.follow_eq`). What is known of the table is known of ways and
captures that way, without a look at the trie.

Key definitions: `Node.way`, `RouteTable.accepts`, `RouteTable.follow`,
`Router.way`, `Router.answerOn`, `Router.AnsweredAt`.
Key theorems: `Node.answer_descend`, `Node.Represents.walk_of_step`,
`Node.Represents.follow_eq`, `Router.walk_after`, `Router.outcome_lookup_eq`,
`Router.lookup_ext`.
-/
import Signpost.Proofs.Router.RouteTable
import Signpost.Proofs.Trie.Entries

namespace Signpost

-- what a segment is, is never looked into here; unfolding it is slow
attribute [local irreducible] Template.isPattern

variable {H : Type}

/-! ### Ways in a trie -/

namespace Node

/-- The keys of the nodes that a walk visits. -/
def way (segments : List String) (n : Node H) (w : Walk) : List String :=
  (n.trail segments w).map (·.node.key)

theorem way_cons {n child : Node H} {segment : String} {rest : List String} {w w' : Walk}
    (h : n.step segment w = some (child, w')) :
    n.way (segment :: rest) w = child.key :: child.way rest w' := by
  rw [way, trail_cons h]
  rfl

theorem way_of_stopped {n : Node H} {segment : String} {w : Walk} (h : n.step segment w = none)
    (rest : List String) : n.way (segment :: rest) w = [] := by
  rw [way, trail, h]
  rfl

/-- A walk visits a node for each segment at most. -/
theorem length_way_le : ∀ (segments : List String) (n : Node H) (w : Walk),
    (n.way segments w).length ≤ segments.length
  | [], _, _ => Nat.le_refl 0
  | segment :: rest, n, w => by
    cases hs : n.step segment w with
    | none =>
      rw [way_of_stopped hs]
      exact Nat.zero_le _
    | some reached =>
      rw [way_cons hs]
      exact Nat.succ_le_succ (length_way_le rest reached.1 reached.2)

theorem handlerOf_eq (n : Node H) :
    Router.handlerOf n = n.handler.elim (.error .notFound) Except.ok := by
  unfold Router.handlerOf
  cases n.handler <;> rfl

/-- **The answer of a walk.** If it comes to its end it is answered with what is
bound under its way, and else with the miss of the segment after it. -/
theorem answer_descend {s : MatcherStore} : ∀ (segments : List String) (position : Nat) {n : Node H}
    {w : Walk}, n.WellFormed s →
    (n.descend segments position w).1.answer =
      if (n.way segments w).length = segments.length then
        (n.handlerAt (n.way segments w)).elim (.error .notFound) Except.ok
      else .error (Router.missAt (position + (n.way segments w).length))
  | [], _, n, _, _ => handlerOf_eq n
  | segment :: rest, position, n, w, hwell => by
    have hcoh := hwell.root_coherent
    cases hs : n.step segment w with
    | none =>
      rw [descend, hs, way_of_stopped hs]
      rfl
    | some reached =>
      obtain ⟨child, w'⟩ := reached
      have hmem := (step_cases hcoh hs).1
      have hchild : n.child? child.key = some child := (child?_eq_some_iff hcoh).mpr ⟨hmem, rfl⟩
      have ih := answer_descend rest (position + 1) (w := w') (hwell.child hmem).2
      have hnext : position + 1 + (child.way rest w').length =
          position + ((child.way rest w').length + 1) := by omega
      rw [descend_cons hs, way_cons hs, ih, hnext, handlerAt_cons, hchild, Option.bind_some]
      simp only [List.length_cons, Nat.add_right_cancel_iff]

end Node

/-! ### Ways through a table -/

namespace RouteTable

/-- True if a template is a pattern that can be chosen for a segment: it matches,
and goes on if segments are left. -/
def accepts (length position : Nat) (template segment : String) (routes : List (Route H)) : Bool :=
  Template.isPattern template &&
    (!decide (position + 1 < length) || goesOn position template routes) &&
    matchesSegment template segment

/-- The walk after the compiled template was searched for in a segment: if
captures are wanted, the groups of the match are recorded. -/
def recordTemplate (template segment : String) (w : Walk) : Walk :=
  match w.captures, Template.compile template with
  | some _, .ok regex =>
    ((regex.captures? segment).map fun found => w.record regex.groupNames found.groups).getD w
  | _, _ => w

/-- The walk after a template was chosen for a segment. It may have been chosen
for its own text, and then nothing is recorded. -/
def take (length position : Nat) (template segment : String) (routes : List (Route H))
    (w : Walk) : Walk :=
  if accepts length position template segment routes then recordTemplate template segment w else w

/-- The templates that are chosen for the segments of a request, as far as there
is a choice, and the walk after them. -/
def follow (length : Nat) : List String → Nat → List (Route H) → Walk → List String × Walk
  | [], _, _, w => ([], w)
  | segment :: rest, position, routes, w =>
    match choose length position segment routes with
    | some template =>
      let followed := follow length rest (position + 1) (under position template routes)
        (take length position template segment routes w)
      (template :: followed.1, followed.2)
    | none => ([], w)

variable {length position : Nat} {segment : String} {routes : List (Route H)}

theorem choose_eq : choose length position segment routes =
    ((templatesAt position routes).find? fun template =>
      accepts length position template segment routes).or
    ((templatesAt position routes).find? (· == segment)) := rfl

theorem follow_cons {template : String} (h : choose length position segment routes = some template)
    (rest : List String) (w : Walk) :
    follow length (segment :: rest) position routes w =
      (template :: (follow length rest (position + 1) (under position template routes)
          (take length position template segment routes w)).1,
        (follow length rest (position + 1) (under position template routes)
          (take length position template segment routes w)).2) := by
  rw [follow, h]

theorem follow_of_none (h : choose length position segment routes = none) (rest : List String)
    (w : Walk) : follow length (segment :: rest) position routes w = ([], w) := by
  rw [follow, h]

/-- What is chosen is a pattern that is accepted or the segment itself. -/
theorem choose_cases {template : String}
    (h : choose length position segment routes = some template) :
    template ∈ templatesAt position routes ∧
      (accepts length position template segment routes = true ∨ template = segment) := by
  rcases Option.or_eq_some_iff.mp (choose_eq.symm.trans h) with hfound | ⟨-, hfound⟩
  · exact ⟨List.mem_of_find?_eq_some hfound, Or.inl (List.find?_some (p := fun template =>
      accepts length position template segment routes) hfound)⟩
  · exact ⟨List.mem_of_find?_eq_some hfound,
      Or.inr (eq_of_beq (List.find?_some (p := (· == segment)) hfound))⟩

theorem isPattern_of_accepts {template : String}
    (h : accepts length position template segment routes = true) :
    Template.isPattern template = true := by
  simp only [accepts, Bool.and_eq_true] at h
  exact h.1.1

end RouteTable

namespace Node

open RouteTable

variable {s : MatcherStore} {position : Nat} {routes : List (Route H)} {n child : Node H}
  {segment : String} {w w' : Walk}

/-- **What a step records** can be told from the routes. -/
theorem Represents.walk_of_step (h : Represents position routes n) (hwell : n.WellFormed s)
    (hstep : n.step segment w = some (child, w')) :
    w' = take w.segments position child.key segment routes w := by
  obtain ⟨hmem, hcase⟩ := step_cases hwell.root_coherent hstep
  have haccepts : ∀ hp : Template.isPattern child.key = true,
      accepts w.segments position child.key segment routes = (child.accept segment w).isSome := by
    intro hp
    rw [h.isSome_accept hwell hmem hp, accepts, hp, Bool.true_and]
  rcases hcase with ⟨hp, haccept⟩ | ⟨-, rfl, hnone⟩
  · have hkeyed := (hwell.child hmem).1.keyed
    obtain ⟨m, hm⟩ := Option.isSome_iff_exists.mp (hkeyed.isSome_eq.trans hp)
    rw [take, haccepts hp, haccept, Option.isSome_some, if_pos rfl, recordTemplate,
      hkeyed.compile_eq m hm]
    rw [accept_of_matcher hm] at haccept
    split at haccept
    · cases haccept
    · cases hv : w.captures with
      | some v =>
        simp only [hv] at haccept
        simp only [haccept, Option.getD_some]
      | none =>
        simp only [hv] at haccept
        split at haccept
        · exact (Option.some.inj haccept).symm
        · cases haccept
  · -- chosen for its own text, so no pattern is accepted, and this child is none or not accepted
    have hfalse : accepts w'.segments position child.key segment routes = false := by
      cases hp : Template.isPattern child.key with
      | true => rw [haccepts hp, hnone child hmem hp, Option.isSome_none]
      | false => rw [accepts, hp, Bool.false_and, Bool.false_and]
    rw [take, hfalse]
    rfl

/-- **All steps.** A walk in a trie that represents some routes goes the way that
is told by these, and records the same. -/
theorem Represents.follow_eq {s : MatcherStore} : ∀ (segments : List String) {position : Nat}
    {routes : List (Route H)} {n : Node H} {w : Walk}, Represents position routes n →
    n.WellFormed s →
    follow w.segments segments position routes w =
      (n.way segments w, (n.descend segments position w).2)
  | [], _, _, _, _, _, _ => rfl
  | segment :: rest, position, routes, n, w, h, hwell => by
    have hchoose := h.step_eq_choose (w := w) hwell segment
    cases hs : n.step segment w with
    | none =>
      rw [hs] at hchoose
      rw [follow_of_none hchoose.symm, way_of_stopped hs, descend, hs]
    | some reached =>
      obtain ⟨child, w'⟩ := reached
      rw [hs] at hchoose
      have hmem := (step_cases hwell.root_coherent hs).1
      have ih := Represents.follow_eq rest (w := w') (h.child hmem) (hwell.child hmem).2
      rw [segments_step hs, h.walk_of_step hwell hs] at ih
      rw [follow_cons hchoose.symm, way_cons hs, descend_cons hs, ih, ← h.walk_of_step hwell hs]

end Node

/-! ### Ways of requests -/

namespace Router

open RouteTable

/-- The keys of the nodes that the request for a method, which is not `HEAD`, and
a path is led by. -/
def way (r : Router H) (method path : String) (captures : Option Captures) : List String :=
  r.root.way (RouteKey.ofRoute method path).segments (initialWalk method path captures)

/-- The answer to a request with the given number of segments that is led a
way. -/
def answerOn (r : Router H) (length : Nat) (way : List String) : Except Miss H :=
  if way.length = length then (r.root.handlerAt way).elim (.error .notFound) Except.ok
  else .error (missAt way.length)

/-- A request is answered with the handler of the node under the given
segments. -/
def AnsweredAt (r : Router H) (method path : String) (captures : Option Captures)
    (segments : List String) : Prop :=
  (∃ h, (r.lookup method path captures).outcome = .ok h) ∧
    r.way (answering method) path captures = segments

variable {r r' : Router H} {method path : String} {captures : Option Captures}

/-- The answer of the walk for a request is the one on its way. -/
theorem answer_walk (h : r.Sound) (method path : String) (captures : Option Captures) :
    (r.walk method path captures).1.answer =
      r.answerOn (RouteKey.ofRoute method path).length (r.way method path captures) := by
  have hanswer := Node.answer_descend (RouteKey.ofRoute method path).segments 0
    (w := initialWalk method path captures) h.wellFormed
  rwa [Nat.zero_add, RouteKey.length_segments] at hanswer

/-- **The answer to a request is the one on its way.** -/
theorem outcome_lookup_eq (h : r.Sound) (method path : String) (captures : Option Captures) :
    (r.lookup method path captures).outcome =
      r.answerOn (RouteKey.ofRoute (answering method) path).length
        (r.way (answering method) path captures) := by
  rw [lookup_eq]
  exact answer_walk h (answering method) path captures

theorem answerOn_eq_ok_iff {length : Nat} {way : List String} {handler : H} :
    r.answerOn length way = .ok handler ↔
      way.length = length ∧ r.root.handlerAt way = some handler := by
  unfold answerOn
  by_cases hlen : way.length = length
  · rw [if_pos hlen, and_iff_right hlen]
    cases r.root.handlerAt way <;> simp
  · rw [if_neg hlen]
    simp [hlen]

theorem walk_after (ds : List (RouteDefinition H)) (method path : String)
    (captures : Option Captures) :
    follow (RouteKey.ofRoute method path).length (RouteKey.ofRoute method path).segments 0
        (taken ds Router.empty) (initialWalk method path captures) =
      ((after ds Router.empty).way method path captures,
        ((after ds Router.empty).walk method path captures).2) :=
  (represents_after ds).follow_eq (RouteKey.ofRoute method path).segments
    (w := initialWalk method path captures) (sound_after ds).wellFormed

theorem captures_lookup (r : Router H) (method path : String) (captures : Option Captures) :
    (r.lookup method path captures).captures =
      (r.walk (answering method) path captures).2.captures := by
  rw [lookup_eq]
  rfl

theorem lookup_ext (houtcome : (r.lookup method path captures).outcome =
      (r'.lookup method path captures).outcome)
    (hcaptures : (r.lookup method path captures).captures =
      (r'.lookup method path captures).captures) :
    r.lookup method path captures = r'.lookup method path captures := by
  rw [lookup_eq, lookup_eq] at houtcome hcaptures ⊢
  simp only [Lookup.ofWalk] at houtcome hcaptures ⊢
  rw [houtcome, hcaptures]

end Router
end Signpost
