/-
# The table of routes

What a router answers can be told from the list of its routes alone, without a
trie: a request narrows the list segment by segment. At each position one
template of the routes that are left is chosen, a pattern that matches the
segment or else the segment itself, and the routes with this template are kept
(`RouteTable.search`).

A node of a trie represents a list of routes from a position on if its children
stand for the distinct templates at the position, in order of first occurrence,
and each child represents the routes with its template, one position on
(`Node.Represents`). An insertion represents the list with one more route
(`Represents.insert`), so the trie of a router represents the routes that were
taken (`represents_after`). A step leads to the child of the chosen template
(`step_eq_choose`), and so a lookup is a search of the table
(`lookup_eq_answer`).

Key definitions: `RouteTable.choose`, `RouteTable.search`, `RouteTable.answer`,
`Node.Represents`.
Key theorems: `Node.Represents.insert`, `Node.Represents.step_eq_choose`,
`Node.Represents.answer_descend`, `Router.represents_after`, `Router.lookup_eq_answer`.
-/
import Mathlib.Data.List.Find
import Signpost.Proofs.Extra
import Signpost.Proofs.Router.History
import Signpost.Proofs.Router.Walk
import Signpost.Proofs.Trie.Descent

namespace Signpost

-- what a segment is, is never looked into here; unfolding it is slow
attribute [local irreducible] Template.isPattern

variable {H : Type}

/-! ### Searching a list of routes -/

namespace RouteTable

/-- The distinct templates of some routes at a position, in order of first
occurrence. -/
def templatesAt (position : Nat) (routes : List (Route H)) : List String :=
  (routes.filterMap fun route => route.segments[position]?).eraseDups

/-- The routes with the given template at a position. -/
def under (position : Nat) (template : String) (routes : List (Route H)) : List (Route H) :=
  routes.filter fun route => route.segments[position]? == some template

/-- The routes that end before a position. -/
def ending (position : Nat) (routes : List (Route H)) : List (Route H) :=
  routes.filter fun route => route.segments.length == position

/-- True if a route with the given template goes on after it. -/
def goesOn (position : Nat) (template : String) (routes : List (Route H)) : Bool :=
  (under position template routes).any fun route => decide (position + 1 < route.segments.length)

/-- True if the compiled template matches the segment. -/
def matchesSegment (template segment : String) : Bool :=
  match Template.compile template with
  | .ok regex => regex.isMatch segment
  | .error _ => false

/-- The template for a segment of a request of the given length: the first
pattern that matches, of those that go on if segments are left; or the segment
itself. -/
def choose (length position : Nat) (segment : String) (routes : List (Route H)) : Option String :=
  let templates := templatesAt position routes
  (templates.find? fun template => Template.isPattern template &&
      (!decide (position + 1 < length) || goesOn position template routes) &&
      matchesSegment template segment).or
    (templates.find? (· == segment))

/-- Narrows the routes segment by segment; the last one that ends with the
request is the answer. -/
def search (length : Nat) : List String → Nat → List (Route H) → Except Miss H
  | [], position, routes =>
    match (ending position routes).getLast? with
    | some route => .ok route.handler
    | none => .error .notFound
  | segment :: rest, position, routes =>
    match choose length position segment routes with
    | some template => search length rest (position + 1) (under position template routes)
    | none => .error (if position ≤ 1 then .badMethod else .notFound)

/-- What a list of routes answers to a request with the given segments. -/
def answer (routes : List (Route H)) (segments : List String) : Except Miss H :=
  search segments.length segments 0 routes

theorem mem_templatesAt {position : Nat} {routes : List (Route H)} {template : String} :
    template ∈ templatesAt position routes ↔
      ∃ route ∈ routes, route.segments[position]? = some template := by
  rw [templatesAt, List.mem_eraseDups, List.mem_filterMap]

/-- No route has a template at a position just if none goes that far. -/
theorem templatesAt_eq_nil_iff {position : Nat} {routes : List (Route H)} :
    templatesAt position routes = [] ↔ ∀ route ∈ routes, route.segments.length ≤ position := by
  rw [List.eq_nil_iff_forall_not_mem]
  constructor
  · intro h route hmem
    by_contra hlt
    have hget := List.getElem?_eq_getElem (Nat.lt_of_not_le hlt)
    exact h _ (mem_templatesAt.mpr ⟨route, hmem, hget⟩)
  · intro h template ht
    obtain ⟨route, hmem, hget⟩ := mem_templatesAt.mp ht
    have hlt := (List.getElem?_eq_some_iff.mp hget).1
    exact Nat.not_lt.mpr (h route hmem) hlt

theorem templatesAt_append_of_none {position : Nat} {routes : List (Route H)} {route : Route H}
    (h : route.segments[position]? = none) :
    templatesAt position (routes ++ [route]) = templatesAt position routes := by
  have hone : [route].filterMap (fun route => route.segments[position]?) = [] := by simp [h]
  rw [templatesAt, List.filterMap_append, hone, List.append_nil, templatesAt]

theorem templatesAt_append_of_some {position : Nat} {routes : List (Route H)} {route : Route H}
    {template : String} (h : route.segments[position]? = some template) :
    templatesAt position (routes ++ [route]) =
      if template ∈ templatesAt position routes then templatesAt position routes
      else templatesAt position routes ++ [template] := by
  have hone : [route].filterMap (fun route => route.segments[position]?) = [template] := by
    simp [h]
  rw [templatesAt, List.filterMap_append, hone, List.eraseDups_concat]
  simp only [templatesAt, List.mem_eraseDups]

theorem under_append_of_some {position : Nat} {routes : List (Route H)} {route : Route H}
    {template : String} (h : route.segments[position]? = some template) :
    under position template (routes ++ [route]) = under position template routes ++ [route] := by
  unfold under
  rw [List.filter_append, List.filter_cons_of_pos (by simp [h]), List.filter_nil]

theorem under_append_of_ne {position : Nat} {routes : List (Route H)} {route : Route H}
    {template : String} (h : route.segments[position]? ≠ some template) :
    under position template (routes ++ [route]) = under position template routes := by
  unfold under
  rw [List.filter_append, List.filter_cons_of_neg (by simp [h]), List.filter_nil, List.append_nil]

theorem under_eq_nil {position : Nat} {routes : List (Route H)} {template : String}
    (h : template ∉ templatesAt position routes) : under position template routes = [] := by
  unfold under
  rw [List.filter_eq_nil_iff]
  intro route hmem hget
  exact h (mem_templatesAt.mpr ⟨route, hmem, by simpa using hget⟩)

theorem goesOn_eq_false_iff {position : Nat} {routes : List (Route H)} {template : String} :
    goesOn position template routes = false ↔
      templatesAt (position + 1) (under position template routes) = [] := by
  rw [templatesAt_eq_nil_iff, goesOn, List.any_eq_false]
  simp only [decide_eq_true_eq, Nat.not_lt]

end RouteTable

/-! ### Tries of a list of routes -/

namespace Node

open RouteTable

/-- The node stands for the given routes, which agree up to the position: it has
the handler of the last one that ends here, and a child for each template that
follows. -/
inductive Represents : Nat → List (Route H) → Node H → Prop
  | node {position : Nat} {routes : List (Route H)} {n : Node H}
      (depth_eq : n.depth = position)
      (handler_eq : n.handler = (ending position routes).getLast?.map (·.handler))
      (keys_eq : n.keys = templatesAt position routes)
      (children : ∀ child ∈ n.children,
        Represents (position + 1) (under position child.key routes) child) :
      Represents position routes n

namespace Represents

variable {position : Nat} {routes : List (Route H)} {n : Node H}

theorem depth_eq (h : Represents position routes n) : n.depth = position := by
  cases h with | node h => exact h

theorem handler_eq (h : Represents position routes n) :
    n.handler = (ending position routes).getLast?.map (·.handler) := by
  cases h with | node _ h => exact h

theorem keys_eq (h : Represents position routes n) : n.keys = templatesAt position routes := by
  cases h with | node _ _ h => exact h

theorem child (h : Represents position routes n) {child : Node H} (hmem : child ∈ n.children) :
    Represents (position + 1) (under position child.key routes) child := by
  cases h with | node _ _ _ h => exact h child hmem

end Represents

theorem represents_leaf (key : String) (matcher : Option Matcher) (depth : Nat) :
    Represents depth [] (leaf key matcher depth : Node H) :=
  .node rfl rfl rfl fun _ hmem => (nomatch hmem)

/-- The child that an insertion changes represents the routes under its key. -/
theorem Represents.changed {position : Nat} {routes : List (Route H)} {n : Node H}
    (h : Represents position routes n) (hcoh : n.Coherent) (key : String)
    (matcher : Option Matcher) :
    Represents (position + 1) (under position key routes) (n.changed key matcher) := by
  unfold Node.changed
  cases hc : n.child? key with
  | none =>
    have hnot := (child?_eq_none_iff hcoh).mp hc
    rw [h.keys_eq] at hnot
    rw [under_eq_nil hnot, h.depth_eq]
    exact represents_leaf key matcher (position + 1)
  | some child =>
    obtain ⟨hmem, rfl⟩ := (child?_eq_some_iff hcoh).mp hc
    exact h.child hmem

/-- Inserting a route under the keys that are left of it represents the routes
with this one after them. -/
theorem Represents.insert {s : MatcherStore} (route : Route H) :
    ∀ (keys : List (String × Option Matcher)) {position : Nat} {routes : List (Route H)}
      {n : Node H}, Represents position routes n → n.WellFormed s →
      (∀ key ∈ keys, s.Keyed key.1 key.2) → position ≤ route.segments.length →
      route.segments.drop position = keys.map (·.1) →
      Represents position (routes ++ [route]) (n.insert route.handler keys)
  | [], position, routes, n, h, _, _, hle, hdrop => by
    have hlen : route.segments.length = position :=
      Nat.le_antisymm (List.drop_eq_nil_iff.mp hdrop) hle
    have hnone : route.segments[position]? = none := List.getElem?_eq_none (Nat.le_of_eq hlen)
    refine .node h.depth_eq ?_ ?_ fun child hmem => ?_
    · have hend : ending position (routes ++ [route]) = ending position routes ++ [route] := by
        rw [ending, List.filter_append, List.filter_cons_of_pos (by simp [hlen])]
        rfl
      rw [hend, List.getLast?_append]
      rfl
    · rw [templatesAt_append_of_none hnone]
      exact h.keys_eq
    · rw [under_append_of_ne (by simp [hnone])]
      exact h.child hmem
  | (key, matcher) :: rest, position, routes, n, h, hwell, hkeys, _, hdrop => by
    have hkey : route.segments[position]? = some key := by
      rw [← List.head?_drop, hdrop]
      rfl
    have hlt : position < route.segments.length := (List.getElem?_eq_some_iff.mp hkey).1
    have hrest : route.segments.drop (position + 1) = rest.map (·.1) := by
      rw [← List.tail_drop, hdrop]
      rfl
    have hcoh := hwell.root_coherent
    have hkeyed := hkeys _ List.mem_cons_self
    have hchange : ∀ c : Node H, (Node.insert route.handler rest c).key = c.key :=
      key_insert route.handler rest
    refine .node ?_ ?_ ?_ fun c hc => ?_
    · rw [depth_insert, h.depth_eq]
    · have hend : ending position (routes ++ [route]) = ending position routes := by
        rw [ending, List.filter_append, List.filter_cons_of_neg (by simp; omega)]
        simp [ending]
      rw [hend, Node.insert, handler_updateChild, h.handler_eq]
    · rw [templatesAt_append_of_some hkey, ← h.keys_eq]
      exact keys_updateChild hcoh hchange
    · rcases (mem_children_updateChild hcoh c).mp hc with ⟨hmem, hne⟩ | rfl
      · rw [under_append_of_ne (by rw [hkey]; simpa using Ne.symm hne)]
        exact h.child hmem
      · rw [hchange, key_changed hcoh, under_append_of_some hkey]
        exact Represents.insert route rest (h.changed hcoh key matcher) (hwell.changed hkeyed).1
          (fun k hk => hkeys k (List.mem_cons_of_mem _ hk)) hlt hrest

/-! ### One step and all steps -/

section Step

variable {s : MatcherStore} {position : Nat} {routes : List (Route H)} {n : Node H} {w : Walk}

theorem Represents.isEmpty_children (h : Represents position routes n) {child : Node H}
    (hmem : child ∈ n.children) :
    child.children.isEmpty = !goesOn position child.key routes := by
  have hkeys := (h.child hmem).keys_eq
  have hempty : child.children.isEmpty = true ↔ goesOn position child.key routes = false := by
    rw [goesOn_eq_false_iff, ← hkeys, keys, List.isEmpty_iff, List.map_eq_nil_iff]
  cases hg : goesOn position child.key routes with
  | false => rw [hempty.mpr hg]; rfl
  | true =>
    cases he : child.children.isEmpty with
    | false => rfl
    | true => rw [hempty.mp he] at hg; cases hg

theorem Represents.isSome_accept (h : Represents position routes n) (hwell : n.WellFormed s)
    {child : Node H} (hmem : child ∈ n.children) (hp : Template.isPattern child.key = true)
    (segment : String) :
    (child.accept segment w).isSome =
      ((!decide (position + 1 < w.segments) || goesOn position child.key routes) &&
        matchesSegment child.key segment) := by
  have hkeyed := (hwell.child hmem).1.keyed
  have hm := hkeyed.isSome_eq
  rw [hp] at hm
  obtain ⟨m, hm⟩ := Option.isSome_iff_exists.mp hm
  have hmatch : matchesSegment child.key segment = m.regex.isMatch segment := by
    rw [matchesSegment, hkeyed.compile_eq m hm]
  rw [Node.isSome_accept hm, passedOver, (h.child hmem).depth_eq, h.isEmpty_children hmem, hmatch,
    Bool.not_and, Bool.not_not]

/-- The pattern that is chosen for a segment is that of the first child that
accepts it. -/
theorem Represents.find?_patterns (h : Represents position routes n) (hwell : n.WellFormed s)
    (segment : String) :
    ((templatesAt position routes).find? fun template => Template.isPattern template &&
        (!decide (position + 1 < w.segments) || goesOn position template routes) &&
        matchesSegment template segment) =
      (n.children.find? fun child => Template.isPattern child.key &&
        (child.accept segment w).isSome).map (·.key) := by
  rw [← h.keys_eq, keys, List.find?_map]
  congr 1
  apply List.find?_congr
  intro child hmem
  cases hp : Template.isPattern child.key with
  | false => simp [hp]
  | true => simp [hp, h.isSome_accept hwell hmem hp]

/-- The segment itself is chosen if there is a child under it. -/
theorem Represents.find?_segment (h : Represents position routes n) (hcoh : n.Coherent)
    (segment : String) :
    (templatesAt position routes).find? (· == segment) = (n.child? segment).map (·.key) := by
  rw [← h.keys_eq]
  cases hc : n.child? segment with
  | none =>
    have hnot := (child?_eq_none_iff hcoh).mp hc
    rw [Option.map_none, List.find?_eq_none]
    intro key hmem heq
    exact hnot (eq_of_beq heq ▸ hmem)
  | some child =>
    obtain ⟨hmem, rfl⟩ := (child?_eq_some_iff hcoh).mp hc
    cases hf : n.keys.find? (· == child.key) with
    | none => exact absurd (List.find?_eq_none.mp hf _ (mem_keys.mpr ⟨child, hmem, rfl⟩)) (by simp)
    | some key =>
      have heq := List.find?_some (p := (· == child.key)) hf
      rw [eq_of_beq heq]
      rfl

/-- **One step.** It leads to the child of the chosen template; if there is no
choice, there is no step. -/
theorem Represents.step_eq_choose (h : Represents position routes n) (hwell : n.WellFormed s)
    (segment : String) :
    (n.step segment w).map (·.1.key) = choose w.segments position segment routes := by
  have hcoh := hwell.root_coherent
  have hmap : (n.step segment w).map (·.1.key) = ((n.step segment w).map (·.1)).map (·.key) := by
    rw [Option.map_map]
    rfl
  rw [hmap, child_step_eq hcoh, choose, h.find?_patterns hwell, h.find?_segment hcoh, Option.map_or]

/-- **All steps.** A walk ends where the search of the routes ends. -/
theorem Represents.answer_descend {s : MatcherStore} : ∀ (segments : List String) {position : Nat}
    {routes : List (Route H)} {n : Node H} {w : Walk}, Represents position routes n →
    n.WellFormed s →
    (descend segments position n w).1.answer = search w.segments segments position routes
  | [], position, routes, n, w, h, _ => by
    show Router.handlerOf n = _
    rw [Router.handlerOf, h.handler_eq, search]
    cases (ending position routes).getLast? <;> rfl
  | segment :: rest, position, routes, n, w, h, hwell => by
    have hcoh := hwell.root_coherent
    have hstep := h.step_eq_choose (w := w) hwell segment
    rw [descend, search, ← hstep]
    cases hs : n.step segment w with
    | none => rfl
    | some reached =>
      obtain ⟨child, w'⟩ := reached
      have hmem := (step_cases hcoh hs).1
      have ih := Represents.answer_descend rest (w := w') (h.child hmem) (hwell.child hmem).2
      rw [segments_step hs] at ih
      exact ih

end Step
end Node

/-! ### Lookups -/

namespace Router

open RouteTable

/-- After some definitions were registered, the trie represents the routes it
represented before and those that were taken. -/
theorem represents_after_of : ∀ (ds : List (RouteDefinition H)) {r : Router H}
    {routes : List (Route H)}, r.Sound → r.root.Represents 0 routes →
    (after ds r).root.Represents 0 (routes ++ taken ds r)
  | [], r, routes, _, h => by
    rw [after_nil, taken, List.append_nil]
    exact h
  | d :: ds, r, routes, hsound, h => by
    have hsound' := hsound.register d.method d.path d.handler
    obtain ⟨-, hext, hcase⟩ := register_cases hsound.faithful d.method d.path d.handler
    rw [after_cons]
    rcases hcase with ⟨keys, hout, hmap, hkeyed, hroot⟩ | ⟨e, hout, hroot, -⟩
    · have hwell := hsound.wellFormed.mono hext
      have hins := Node.Represents.insert ⟨(RouteKey.ofRoute d.method d.path).segments, d.handler⟩
        keys h hwell hkeyed (Nat.zero_le _) (by rw [List.drop_zero, hmap])
      rw [← hroot] at hins
      rw [taken_cons_ok hout, ← List.singleton_append, ← List.append_assoc]
      exact represents_after_of ds hsound' hins
    · rw [taken_cons_error hout]
      rw [← hroot] at h
      exact represents_after_of ds hsound' h

theorem represents_after (ds : List (RouteDefinition H)) :
    (after ds Router.empty).root.Represents 0 (taken ds Router.empty) :=
  represents_after_of ds sound_empty (Node.represents_leaf "" none 0)

/-- **A lookup is a search of the table of routes.** Whatever was registered,
the answer to a request is the one that the list of the routes that were taken
gives for its segments, whether captures are wanted or not. -/
theorem lookup_eq_answer (ds : List (RouteDefinition H)) (method path : String)
    (captures : Option Captures) :
    ((after ds Router.empty).lookup method path captures).outcome =
      answer (taken ds Router.empty) (RouteKey.ofRoute (answering method) path).segments := by
  have hrep := represents_after (H := H) ds
  have hwell := (sound_after (H := H) ds).wellFormed
  calc ((after ds Router.empty).lookup method path captures).outcome
      = ((after ds Router.empty).locate (answering method) path captures).1.bind handlerOf :=
        outcome_lookup _ method path captures
    _ = ((after ds Router.empty).root.descend (RouteKey.ofRoute (answering method) path).segments 0
          { segments := (RouteKey.ofRoute (answering method) path).length
            captures := captures }).1.answer := locate_bind _ (answering method) path captures
    _ = search (RouteKey.ofRoute (answering method) path).length
          (RouteKey.ofRoute (answering method) path).segments 0 (taken ds Router.empty) :=
        hrep.answer_descend _ hwell
    _ = answer (taken ds Router.empty) (RouteKey.ofRoute (answering method) path).segments := by
        rw [answer, RouteKey.length_segments]

end Router
end Signpost
