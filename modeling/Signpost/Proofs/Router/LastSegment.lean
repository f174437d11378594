/-
# The last segment of a request

A request that has one segment more than another one walks the same way first: more
pattern children are passed over, but only such that have no children, and those lead
no further (`Node.descend_of_longer`). At the node where the last segment is left, no
child is passed over. So if the one pattern among the children of this node catches
all, the last segment decides: a text of one line leads to the pattern, and any other
to the child that has it for its key, if there is one (`Router.catches_last_line`).

Key theorems: `Node.step_of_longer`, `Node.descend_of_longer`,
`Node.answer_last_of_only_pattern`, `Router.catches_last_line`.
-/
import Signpost.Proofs.Extra
import Signpost.Proofs.Router.History
import Signpost.Proofs.Router.Walk
import Signpost.Proofs.Template.CatchAll

namespace Signpost

variable {H : Type}

namespace Node

variable {w w' : Walk}

theorem isSome_accept_of_longer (hle : w.segments ≤ w'.segments) {child : Node H} {segment : String}
    (h : (child.accept segment w').isSome = true) : (child.accept segment w).isSome = true := by
  rw [isSome_accept_eq, Bool.and_eq_true, Bool.not_eq_true'] at h ⊢
  refine ⟨?_, h.2⟩
  rw [Bool.eq_false_iff]
  intro hover
  obtain ⟨hdepth, hleaf⟩ := Bool.and_eq_true_iff.mp hover
  have hover' : child.passedOver w' = true := Bool.and_eq_true_iff.mpr
    ⟨decide_eq_true (Nat.lt_of_lt_of_le (of_decide_eq_true hdepth) hle), hleaf⟩
  exact absurd (h.1.symm.trans hover') (by decide)

theorem isSome_accept_of_children {child : Node H} (hne : child.children ≠ []) (segment : String) :
    (child.accept segment w).isSome = (child.accept segment w').isSome := by
  rw [isSome_accept_eq, isSome_accept_eq, passedOver, passedOver, List.isEmpty_eq_false_iff.mpr hne,
    Bool.and_false, Bool.and_false]

theorem step_of_longer {n child : Node H} (hcoh : n.Coherent) (hle : w.segments ≤ w'.segments)
    {segment : String} (hstep : (n.step segment w).map (·.1) = some child)
    (hne : child.children ≠ []) : (n.step segment w').map (·.1) = some child := by
  rw [child_step_eq hcoh] at hstep ⊢
  have hfewer : ∀ c : Node H,
      (Template.isPattern c.key && (c.accept segment w').isSome) = true →
      (Template.isPattern c.key && (c.accept segment w).isSome) = true := by
    intro c hc
    rw [Bool.and_eq_true] at hc ⊢
    exact ⟨hc.1, isSome_accept_of_longer hle hc.2⟩
  refine Option.or_eq_some_iff.mpr ?_
  rcases Option.or_eq_some_iff.mp hstep with hfound | ⟨hnone, hkey⟩
  · have hc := List.find?_some hfound
    have hsame : (child.accept segment w').isSome = (child.accept segment w).isSome :=
      isSome_accept_of_children hne segment
    exact Or.inl (List.find?_eq_some_of_imp hfound (by rw [hsame]; exact hc) hfewer)
  · refine Or.inr ⟨List.find?_eq_none.mpr fun c hmem hc => ?_, hkey⟩
    exact List.find?_eq_none.mp hnone c hmem (hfewer c hc)

/-- **All steps of a longer request.** A node that has children and is reached is
reached if the request is longer. -/
theorem descend_of_longer {s : MatcherStore} : ∀ (segments : List String) {position : Nat}
    {d n : Node H} {w w' : Walk}, d.WellFormed s → w.segments ≤ w'.segments → n.children ≠ [] →
    (d.descend segments position w).1 = .reached n →
    (d.descend segments position w').1 = .reached n
  | [], _, _, _, _, _, _, _, _, h => h
  | segment :: rest, position, d, n, w, w', hwell, hle, hne, h => by
    obtain ⟨child, w₁, hs, hrest⟩ := step_of_reached (Prod.ext h rfl)
    have hchild := (hwell.child (step_cases hwell.root_coherent hs).1).2
    have hopen : child.children ≠ [] := by
      cases rest with
      | nil =>
        -- the child is the node that is reached
        cases hrest
        exact hne
      | cons segment' rest =>
        obtain ⟨grandchild, w₂, hs', -⟩ := step_of_reached hrest
        exact List.ne_nil_of_mem (step_cases hchild.root_coherent hs').1
    obtain ⟨⟨_, w₁'⟩, hs', rfl⟩ := Option.map_eq_some_iff.mp
      (step_of_longer hwell.root_coherent hle (by rw [hs]; rfl) hopen)
    rw [descend_cons hs']
    refine descend_of_longer rest hchild ?_ hne (congrArg Prod.fst hrest)
    rwa [segments_step hs, segments_step hs']

theorem wellFormed_of_reached {s : MatcherStore} : ∀ (segments : List String) {position : Nat}
    {d n : Node H} {w : Walk}, d.WellFormed s → (d.descend segments position w).1 = .reached n →
    n.WellFormed s ∧ n.depth = d.depth + segments.length
  | [], _, _, _, _, hwell, h => by
    cases h
    exact ⟨hwell, rfl⟩
  | segment :: rest, position, d, n, w, hwell, h => by
    obtain ⟨child, w₁, hs, hrest⟩ := step_of_reached (Prod.ext h rfl)
    obtain ⟨hfits, hchild⟩ := hwell.child (step_cases hwell.root_coherent hs).1
    obtain ⟨hn, hdepth⟩ := wellFormed_of_reached rest hchild (congrArg Prod.fst hrest)
    refine ⟨hn, ?_⟩
    rw [hdepth, hfits.depth_eq, List.length_cons]
    omega

theorem descend_append : ∀ (before rest : List String) {position : Nat} {d n : Node H} {w : Walk},
    (d.descend before position w).1 = .reached n →
    d.descend (before ++ rest) position w =
      n.descend rest (position + before.length) (d.descend before position w).2
  | [], _, _, _, _, _, h => by
    cases h
    rfl
  | segment :: before, rest, position, d, n, w, h => by
    obtain ⟨child, w₁, hs, hrest⟩ := step_of_reached (Prod.ext h rfl)
    have ih := descend_append before rest (congrArg Prod.fst hrest)
    rw [List.cons_append, descend_cons hs, descend_cons hs, ih, List.length_cons]
    congr 1
    omega

/-- **The last step.** Where the children have one pattern among them, the last segment
leads to it if it accepts the segment, and else to the child under the segment. -/
theorem answer_last_of_only_pattern {n child : Node H} (hcoh : n.Coherent)
    (honly : (n.children.filter fun child => Template.isPattern child.key) = [child])
    (last : String) (position : Nat) (w : Walk) :
    (n.descend [last] position w).1.answer =
      if (child.accept last w).isSome then Router.handlerOf child
      else (n.child? last).elim (.error (Router.missAt position)) Router.handlerOf := by
  have hfound : (n.children.find? fun child => Template.isPattern child.key &&
      (child.accept last w).isSome) = if (child.accept last w).isSome then some child else none := by
    have hfilter : (n.children.find? fun child => Template.isPattern child.key &&
        (child.accept last w).isSome) = [child].find? fun child => (child.accept last w).isSome := by
      rw [← honly, List.find?_filter]
      simp only [Bool.decide_and, Bool.decide_eq_true]
    rw [hfilter, List.find?_singleton]
  have hstep := child_step_eq hcoh last w
  rw [hfound] at hstep
  have hanswer : (n.descend [last] position w).1.answer =
      ((n.step last w).map (·.1)).elim (.error (Router.missAt position)) Router.handlerOf := by
    rw [descend]
    cases n.step last w <;> rfl
  rw [hanswer, hstep]
  split <;> rfl

end Node

namespace Router

/-- **What catches all catches a last line.** A template that catches all compiles, and
matches just the texts of one line that are not empty; its group then holds the whole
text. So let the node that the first segments of a request lead to, as a request of
their own or on the way of the whole request, have such a template as its only
pattern, bound to a handler. If one more segment follows and it is not empty and has
no line feed, the request is answered with this handler. Any other last segment leads
to the child that has it for its key, if there is one. -/
theorem catches_last_line {template name : String} (h : Template.CatchesAll template name) :
    (∃ r, Template.compile template = .ok r ∧ ∀ segment,
      (r.isMatch segment = true ↔ Template.IsLine segment) ∧
      (Template.IsLine segment → ∃ found, r.captures? segment = some found ∧
        found.whole = segment ∧ r.held? found name = some (some segment))) ∧
    ∀ (ds : List (RouteDefinition H)) (method path : String) (captures : Option Captures)
      (before : List String) (last : String) (length : Nat) (n child : Node H) (handler : H),
      (RouteKey.ofRoute (answering method) path).segments = before ++ [last] →
      length = before.length ∨ length = before.length + 1 →
      ((after ds Router.empty).root.descend before 0 { segments := length }).1 = .reached n →
      (n.children.filter fun child => Template.isPattern child.key) = [child] →
      child.key = template → child.handler = some handler →
      ((after ds Router.empty).lookup method path captures).outcome =
        if Template.IsLine last then .ok handler
        else (n.child? last).elim (.error (missAt before.length)) handlerOf := by
  obtain ⟨r, hr, haccepts⟩ := Template.accepts_catchAll h
  refine ⟨⟨r, hr, haccepts⟩, ?_⟩
  intro ds method path captures before last length n child handler hsegments hlength hreached honly
    hkey hhandler
  have hsound := sound_after (H := H) ds
  set root := (after ds Router.empty).root with hroot
  set w := initialWalk (answering method) path captures with hw
  have hlonger : w.segments = before.length + 1 := by
    show (RouteKey.ofRoute (answering method) path).length = _
    rw [← RouteKey.length_segments, hsegments, List.length_append, List.length_singleton]
  obtain ⟨hmem, hpattern⟩ : child ∈ n.children ∧ Template.isPattern child.key = true :=
    List.mem_filter.mp (honly ▸ List.mem_singleton.mpr rfl)
  -- the longer request reaches the node, too
  have hle : length ≤ w.segments := by omega
  have hreached' : (root.descend before 0 w).1 = .reached n :=
    Node.descend_of_longer before hsound.wellFormed hle (List.ne_nil_of_mem hmem) hreached
  obtain ⟨hwell, hdepth⟩ := Node.wellFormed_of_reached before hsound.wellFormed hreached'
  have hfits := (hwell.child hmem).1
  -- the pattern is not passed over, so it accepts what it matches
  have hsegments' : (root.descend before 0 w).2.segments = w.segments :=
    Node.descend_keeps (P := fun w' => w'.segments = w.segments)
      (fun w' name text h => (w'.segments_recordGroup name text).trans h) before rfl
  have hopen : child.passedOver (root.descend before 0 w).2 = false := by
    have hdeep : ¬ child.depth < (root.descend before 0 w).2.segments := by
      rw [hsegments', hlonger, hfits.depth_eq, hdepth, hsound.depth_root]
      omega
    rw [Node.passedOver, decide_eq_false hdeep, Bool.false_and]
  have haccept : (child.accept last (root.descend before 0 w).2).isSome = r.isMatch last := by
    obtain ⟨m, hm⟩ := Option.isSome_iff_exists.mp (hfits.keyed.isSome_eq.trans hpattern)
    have hcompile := hfits.keyed.compile_eq m hm
    rw [hkey, hr] at hcompile
    rw [Node.isSome_accept hm, hopen, Except.ok.inj hcompile]
    rfl
  have hcaught : handlerOf child = .ok handler := by rw [handlerOf, hhandler]
  rw [lookup_eq]
  show (root.descend (RouteKey.ofRoute (answering method) path).segments 0 w).1.answer = _
  rw [hsegments, Node.descend_append before [last] hreached',
    Node.answer_last_of_only_pattern hwell.root_coherent honly, haccept, hcaught, Nat.zero_add]
  simp only [(haccepts last).1]

/-- A file of a folder is asked for by any name. -/
def folder : Router Nat := after [⟨"GET", "/files/\x7bname\x7d", 1⟩] Router.empty

/-- A name with a space in it is caught, and one with a line feed is not, though it is
not empty: neither the expression matches it, nor is the request for it answered. -/
theorem catches_last_line_folder :
    Template.CatchesAll "\x7bname\x7d" "name" ∧
      (∃ r, Template.compile "\x7bname\x7d" = .ok r ∧ r.isMatch "a b" = true ∧
        r.isMatch "a\nb" = false) ∧
      (folder.lookup "GET" "/files/a b" none).outcome = .ok 1 ∧
      (folder.lookup "GET" "/files/a\nb" none).outcome = .error .notFound := by
  have hword : Template.IsWord "name".toList := Template.isWord_of_all (by decide) rfl
  have hall : Template.CatchesAll "\x7bname\x7d" "name" := .named hword (by decide)
  obtain ⟨⟨r, hr, haccepts⟩, hlast⟩ := catches_last_line (H := Nat) hall
  -- the node of the folder, whose one child is the pattern
  have hnode : (match (folder.root.descend ["GET", "files"] 0 { segments := 2 }).1 with
      | .reached n => (n.children.filter fun child => Template.isPattern child.key).map
          fun child => (child.key, child.handler, (n.child? "a\nb").isSome)
      | .stopped _ => []) = [("\x7bname\x7d", some 1, false)] := by decide +kernel
  cases hreached : (folder.root.descend ["GET", "files"] 0 { segments := 2 }).1 with
  | stopped position =>
    rw [hreached] at hnode
    cases hnode
  | reached n =>
    rw [hreached] at hnode
    obtain ⟨child, honly, hchild⟩ := List.map_eq_singleton_iff.mp hnode
    obtain ⟨hkey, hrest⟩ := Prod.mk.inj hchild
    obtain ⟨hhandler, hmissing⟩ := Prod.mk.inj hrest
    have hnone : n.child? "a\nb" = none :=
      Option.isNone_iff_eq_none.mp (Option.isSome_eq_false_iff.mp hmissing)
    have hcaught := hlast [⟨"GET", "/files/\x7bname\x7d", 1⟩] "GET" "/files/a b" none
      ["GET", "files"] "a b" 2 n child 1 (by decide +kernel) (Or.inl rfl) hreached honly hkey hhandler
    have hmissed := hlast [⟨"GET", "/files/\x7bname\x7d", 1⟩] "GET" "/files/a\nb" none
      ["GET", "files"] "a\nb" 2 n child 1 (by decide +kernel) (Or.inl rfl) hreached honly hkey hhandler
    rw [if_pos (by decide)] at hcaught
    rw [if_neg (by decide), hnone] at hmissed
    refine ⟨hall, ⟨r, hr, (haccepts "a b").1.mpr (by decide), ?_⟩, hcaught, hmissed⟩
    rw [Bool.eq_false_iff]
    exact fun hmatch => absurd ((haccepts "a\nb").1.mp hmatch) (by decide)

end Router
end Signpost
