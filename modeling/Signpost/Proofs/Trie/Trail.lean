/-
# The trail of a walk

A walk visits one node for each segment (`Node.trail`). What every recording of
a group keeps is kept by whole walks (`Node.descend_keeps`), so what is recorded
on a visit is there at the end.

A pattern child is visited because its matcher matches the segment, or because
the segment is its key and its matcher does not match (`Node.matched_of_step`).
A child that is passed over may still be reached by its key, but then the walk
gets no further; so if a walk reaches a node, this holds of all its visits
(`Node.matched_of_mem_trail`).

Key definitions: `Walk.Holds`, `Visit`, `Visit.Matched`, `Node.trail`.
Key theorems: `Walk.holds_record`, `Node.descend_keeps`,
`Node.matched_of_step`, `Node.matched_of_mem_trail`.
-/
import Signpost.Proofs.Trie.Descent

namespace Signpost

/-! ### What recording keeps -/

namespace Captures

variable {v : Captures} {key : String}

theorem getAll_set_ne_nil (h : v.getAll key ≠ []) (other text : String) :
    (v.set other text).getAll key ≠ [] := by
  by_cases hk : key = other
  · rw [hk, getAll_set_self]
    exact List.cons_ne_nil _ _
  · rw [getAll_set_ne v hk]
    exact h

theorem getAll_add_ne_nil (h : v.getAll key ≠ []) (other text : String) :
    (v.add other text).getAll key ≠ [] := by
  by_cases hk : key = other
  · rw [hk, getAll_add_self]
    exact List.append_ne_nil_of_right_ne_nil _ (List.cons_ne_nil _ _)
  · rw [getAll_add_ne v hk]
    exact h

end Captures

namespace Walk

/-- Captures are wanted, and there is a text under the key. -/
def Holds (w : Walk) (key : String) : Prop := ∃ v, w.captures = some v ∧ v.getAll key ≠ []

theorem recordGroup_some {w : Walk} {v : Captures} (hv : w.captures = some v)
    (name : Option String) (t : String) :
    (w.recordGroup name (some t)).captures =
      some (match name with
        | some n => (v.set (Captures.positionalKey (w.groups + 1)) t).add n t
        | none => v.set (Captures.positionalKey (w.groups + 1)) t) := by
  cases w
  cases hv
  rfl

theorem recordGroup_none (w : Walk) (name : Option String) :
    (w.recordGroup name none).captures = w.captures := by
  unfold recordGroup
  cases w.captures <;> rfl

/-- A text under a key stays there, or another one takes its place. -/
theorem Holds.recordGroup {key : String} (w : Walk) (name text : Option String)
    (h : w.Holds key) : (w.recordGroup name text).Holds key := by
  obtain ⟨v, hv, hkey⟩ := h
  cases text with
  | none => exact ⟨v, by rw [recordGroup_none, hv], hkey⟩
  | some t =>
    have hset := Captures.getAll_set_ne_nil hkey (Captures.positionalKey (w.groups + 1)) t
    refine ⟨_, recordGroup_some hv name t, ?_⟩
    cases name with
    | none => exact hset
    | some n => exact Captures.getAll_add_ne_nil hset n t

theorem isSome_captures_recordGroup (w : Walk) (name text : Option String) :
    (w.recordGroup name text).captures.isSome = w.captures.isSome := by
  cases text with
  | none => rw [recordGroup_none]
  | some t =>
    cases hv : w.captures with
    | none => simp [recordGroup, hv]
    | some v => rw [recordGroup_some hv]; rfl

theorem isSome_recordGroup (w : Walk) (name text : Option String)
    (h : w.captures.isSome = true) : (w.recordGroup name text).captures.isSome = true :=
  (w.isSome_captures_recordGroup name text).trans h

theorem holds_record {w : Walk} (hw : w.captures.isSome = true) (name text : String)
    (names texts : List (Option String)) :
    (w.record (some name :: names) (some text :: texts)).Holds name := by
  obtain ⟨v, hv⟩ := Option.isSome_iff_exists.mp hw
  have hfirst : (w.recordGroup (some name) (some text)).Holds name := by
    refine ⟨_, recordGroup_some hv (some name) text, ?_⟩
    show ((v.set _ text).add name text).getAll name ≠ []
    rw [Captures.getAll_add_self]
    exact List.append_ne_nil_of_right_ne_nil _ (List.cons_ne_nil _ _)
  exact record_keeps (P := fun w => w.Holds name) Holds.recordGroup names texts hfirst

end Walk

/-- A visit of a walk: the node, the segment that it is visited for, and the
walk before and after. -/
structure Visit (H : Type) where
  segment : String
  node : Node H
  before : Walk
  after : Walk

/-- What a pattern node is visited for: its matcher matches the segment; or it
does not, and the segment is the key of the node. -/
def Visit.Matched {H : Type} (visit : Visit H) (m : Matcher) : Prop :=
  m.regex.isMatch visit.segment = true ∧
      visit.node.accept visit.segment visit.before = some visit.after ∨
    m.regex.isMatch visit.segment = false ∧ visit.segment = visit.node.key

namespace Node

variable {H : Type} {P : Walk → Prop} {s : MatcherStore}

/-- The visits of a walk down some segments, as far as it gets. -/
def trail : List String → Node H → Walk → List (Visit H)
  | [], _, _ => []
  | segment :: rest, n, w =>
    match n.step segment w with
    | some (child, w') => ⟨segment, child, w, w'⟩ :: trail rest child w'
    | none => []

theorem trail_cons {n child : Node H} {segment : String} {rest : List String} {w w' : Walk}
    (h : n.step segment w = some (child, w')) :
    n.trail (segment :: rest) w = ⟨segment, child, w, w'⟩ :: child.trail rest w' := by
  rw [trail, h]

theorem descend_cons {n child : Node H} {segment : String} {rest : List String} {w w' : Walk}
    (h : n.step segment w = some (child, w')) (position : Nat) :
    n.descend (segment :: rest) position w = child.descend rest (position + 1) w' := by
  rw [descend, h]

/-- A walk that reaches a node has taken a step for every segment. -/
theorem step_of_reached {n m : Node H} {segment : String} {rest : List String} {position : Nat}
    {w w' : Walk} (h : n.descend (segment :: rest) position w = (.reached m, w')) :
    ∃ child w₁, n.step segment w = some (child, w₁) ∧
      child.descend rest (position + 1) w₁ = (.reached m, w') := by
  cases hs : n.step segment w with
  | none =>
    rw [descend, hs] at h
    cases h
  | some reached =>
    obtain ⟨child, w₁⟩ := reached
    rw [descend_cons hs] at h
    exact ⟨child, w₁, rfl, h⟩

theorem segments_trail : ∀ (segments : List String) {position : Nat} {n m : Node H} {w w' : Walk},
    n.descend segments position w = (.reached m, w') →
    (n.trail segments w).map (·.segment) = segments
  | [], _, _, _, _, _, _ => rfl
  | segment :: rest, _, n, _, w, _, h => by
    obtain ⟨child, w₁, hs, hrest⟩ := step_of_reached h
    rw [trail_cons hs, List.map_cons, segments_trail rest hrest]

/-! ### What steps and walks keep -/

theorem descend_keeps (hP : ∀ w name text, P w → P (w.recordGroup name text)) :
    ∀ (segments : List String) {position : Nat} {n : Node H} {w : Walk}, P w →
      P (n.descend segments position w).2
  | [], _, _, _, hw => hw
  | segment :: rest, position, n, w, hw => by
    cases hs : n.step segment w with
    | none =>
      rw [descend, hs]
      exact hw
    | some reached =>
      obtain ⟨child, w₁⟩ := reached
      rw [descend_cons hs]
      exact descend_keeps hP rest (step_keeps hP hs hw)

/-- What recording one group keeps holds before every visit, if it holds at
the beginning; and if it holds after one of them, it holds at the end. -/
theorem trail_keeps (hP : ∀ w name text, P w → P (w.recordGroup name text)) :
    ∀ (segments : List String) (position : Nat) {n : Node H} {w : Walk}, n.WellFormed s →
      ∀ visit ∈ n.trail segments w,
        (P w → P visit.before) ∧ (P visit.after → P (n.descend segments position w).2)
  | [], _, _, _, _, _, hmem => by cases hmem
  | segment :: rest, position, n, w, hwell, visit, hmem => by
    have hcoh := hwell.root_coherent
    cases hs : n.step segment w with
    | none =>
      rw [trail, hs] at hmem
      cases hmem
    | some reached =>
      obtain ⟨child, w₁⟩ := reached
      have hchild := (hwell.child (step_cases hcoh hs).1).2
      rw [trail_cons hs] at hmem
      rw [descend_cons hs]
      rcases List.mem_cons.mp hmem with rfl | hmem
      · exact ⟨id, fun h => descend_keeps hP rest h⟩
      · obtain ⟨hbefore, hafter⟩ := trail_keeps hP rest (position + 1) hchild visit hmem
        exact ⟨fun hw => hbefore (step_keeps hP hs hw), hafter⟩

/-! ### Why a pattern is visited -/

/-- **A step to a pattern child that is not passed over.** Its matcher matches
the segment, or the segment is its key. -/
theorem matched_of_step {n child : Node H} (hwell : n.WellFormed s) {segment : String}
    {w w' : Walk} (h : n.step segment w = some (child, w'))
    (hp : Template.isPattern child.key = true) (hopen : child.passedOver w = false) :
    ∃ m, child.matcher = some m ∧ Template.compile child.key = .ok m.regex ∧
      Visit.Matched ⟨segment, child, w, w'⟩ m := by
  obtain ⟨hmem, hcase⟩ := step_cases hwell.root_coherent h
  have hkeyed := (hwell.child hmem).1.keyed
  obtain ⟨m, hm⟩ := Option.isSome_iff_exists.mp (hkeyed.isSome_eq.trans hp)
  have hacc := isSome_accept hm segment w
  rw [hopen, Bool.not_false, Bool.true_and] at hacc
  refine ⟨m, hm, hkeyed.compile_eq m hm, ?_⟩
  rcases hcase with ⟨-, haccept⟩ | ⟨hkey, -, hnone⟩
  · rw [haccept] at hacc
    exact Or.inl ⟨hacc.symm, haccept⟩
  · rw [hnone child hmem hp] at hacc
    exact Or.inr ⟨hacc.symm, hkey.symm⟩

/-- **Why the patterns on a trail are visited.** If a walk reaches a node, the
matcher of every pattern on the way matches its segment, or the segment is the
key of the pattern. -/
theorem matched_of_mem_trail : ∀ (segments : List String) {position : Nat} {n m : Node H}
    {w w' : Walk}, n.WellFormed s → n.depth + segments.length = w.segments →
    n.descend segments position w = (.reached m, w') →
    ∀ visit ∈ n.trail segments w, Template.isPattern visit.node.key = true →
      ∃ m, visit.node.matcher = some m ∧ Template.compile visit.node.key = .ok m.regex ∧
        visit.Matched m
  | [], _, _, _, _, _, _, _, _, _, hmem, _ => by cases hmem
  | segment :: rest, position, n, m, w, w', hwell, hlen, h, visit, hmem, hp => by
    have hcoh := hwell.root_coherent
    obtain ⟨child, w₁, hs, hrest⟩ := step_of_reached h
    have hchild := hwell.child (step_cases hcoh hs).1
    have hdepth : child.depth + rest.length = w.segments := by
      rw [hchild.1.depth_eq, ← hlen, List.length_cons]
      omega
    have hlen' : child.depth + rest.length = w₁.segments := by
      rw [segments_step hs]
      exact hdepth
    rw [trail_cons hs] at hmem
    rcases List.mem_cons.mp hmem with rfl | hmem
    · refine matched_of_step hwell hs hp ?_
      -- the last segment is not below the child, and for another one a step follows
      cases rest with
      | nil =>
        have hle : ¬ child.depth < w.segments := by
          rw [List.length_nil] at hdepth
          omega
        rw [passedOver, decide_eq_false hle, Bool.false_and]
      | cons segment' rest =>
        obtain ⟨grandchild, w₂, hs', -⟩ := step_of_reached hrest
        have hne := List.ne_nil_of_mem (step_cases hchild.2.root_coherent hs').1
        rw [passedOver, List.isEmpty_eq_false_iff.mpr hne, Bool.and_false]
    · exact matched_of_mem_trail rest hchild.2 hlen' hrest visit hmem hp

end Node
end Signpost
