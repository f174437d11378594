/-
# One level of a walk

At a node the pattern children are tried in order and the child under the
segment itself is the fallback. On a node whose children agree with what it
keeps about them the positions can be left out: the patterns are tried among
the children (`step_eq`, `child_step_eq`). A child accepts a segment just if it is
not passed over and its matcher matches (`isSome_accept`). A step leads to a child,
in one of two ways (`step_cases`).

Key definitions: `Node.passedOver`.
Key theorems: `Node.step_eq`, `Node.isSome_accept`, `Node.child_step_eq`,
`Node.step_cases`.
-/
import Mathlib.Data.List.Sort
import Signpost.Proofs.Extra
import Signpost.Proofs.Trie.WellFormed
import Signpost.Trie.Walk

namespace Signpost

namespace Walk

@[simp] theorem segments_recordGroup (w : Walk) (name text : Option String) :
    (w.recordGroup name text).segments = w.segments := by
  unfold recordGroup
  split <;> rfl

/-- What recording one group keeps, a record keeps. -/
theorem record_keeps {P : Walk → Prop}
    (hP : ∀ w name text, P w → P (w.recordGroup name text)) (names texts : List (Option String))
    {w : Walk} (hw : P w) : P (w.record names texts) := by
  unfold record
  induction names.zip texts generalizing w with
  | nil => exact hw
  | cons g gs ih =>
    rw [List.foldl_cons]
    exact ih (hP w g.1 g.2 hw)

end Walk

namespace Node

variable {H : Type}

/-- A child is passed over if nothing follows below it but segments are
left. -/
def passedOver (child : Node H) (w : Walk) : Bool :=
  decide (child.depth < w.segments) && child.children.isEmpty

theorem Coherent.patterns_eq {n : Node H} (h : n.Coherent) :
    n.patterns = n.children.findIdxs fun child => Template.isPattern child.key := by
  have hmap : n.keys.findIdxs Template.isPattern =
      n.children.findIdxs fun child => Template.isPattern child.key := List.findIdxs_map
  rw [← hmap]
  refine List.Pairwise.eq_of_mem_iff h.pairwise_patterns List.pairwise_findIdxs fun position => ?_
  rw [h.mem_patterns, List.mem_findIdxs_iff_exists_getElem_pos]
  constructor
  · rintro ⟨key, hkey, hp⟩
    obtain ⟨hl, rfl⟩ := List.getElem?_eq_some_iff.mp hkey
    exact ⟨hl, hp⟩
  · rintro ⟨hl, hp⟩
    exact ⟨_, List.getElem?_eq_getElem hl, hp⟩

/-- A step tries the pattern children in their order, then the child under the
segment. -/
theorem step_eq {n : Node H} (h : n.Coherent) (segment : String) (w : Walk) :
    n.step segment w =
      ((n.children.filter fun child => Template.isPattern child.key).findSome? fun child =>
        (child.accept segment w).map fun w => (child, w)).or
      ((n.child? segment).map fun child => (child, w)) := by
  have accepted := List.findSome?_findIdxs (fun child => Template.isPattern child.key)
    (fun child => (child.accept segment w).map fun w => (child, w)) [] n.children
  rw [List.length_nil, List.nil_append] at accepted
  rw [← accepted, ← h.patterns_eq]
  rfl

theorem accept_of_matcher {child : Node H} {m : Matcher} (hm : child.matcher = some m)
    (segment : String) (w : Walk) :
    child.accept segment w =
      if child.passedOver w = true then none
      else
        match w.captures with
        | some _ => (m.regex.captures? segment).map fun found =>
            w.record m.regex.groupNames found.groups
        | none => if m.regex.isMatch segment then some w else none := by
  cases child
  cases hm
  rfl

/-- A child accepts a segment if it is not passed over and its matcher
matches, whether captures are wanted or not. -/
theorem isSome_accept {child : Node H} {m : Matcher} (hm : child.matcher = some m)
    (segment : String) (w : Walk) :
    (child.accept segment w).isSome = (!child.passedOver w && m.regex.isMatch segment) := by
  rw [accept_of_matcher hm]
  cases child.passedOver w with
  | true => rfl
  | false =>
    cases w.captures with
    | none => cases h : m.regex.isMatch segment <;> simp
    | some v => simp [Regex.isSome_captures?]

theorem isSome_accept_eq (child : Node H) (segment : String) (w : Walk) :
    (child.accept segment w).isSome =
      (!child.passedOver w && child.matcher.any (·.regex.isMatch segment)) := by
  cases hm : child.matcher with
  | some m => exact isSome_accept hm segment w
  | none => simp [accept, hm]

theorem child_step_eq {n : Node H} (h : n.Coherent) (segment : String) (w : Walk) :
    (n.step segment w).map (·.1) =
      (n.children.find? fun child => Template.isPattern child.key &&
        (child.accept segment w).isSome).or (n.child? segment) := by
  have haccepted := List.findSome?_filter_eq (p := fun child => Template.isPattern child.key)
    (q := fun child => (child.accept segment w).isSome)
    (g := fun child => (child.accept segment w).map fun w => (child, w)) (l := n.children)
    fun child _ _ => Option.isSome_map
  rw [step_eq h, haccepted, Option.map_or, Option.map_map, Function.comp_def, Option.map_id']
  cases hf : n.children.find? fun child => Template.isPattern child.key &&
      (child.accept segment w).isSome with
  | none => rfl
  | some child =>
    have hacc := List.find?_some hf
    obtain ⟨w', hw'⟩ := Option.isSome_iff_exists.mp (Bool.and_eq_true_iff.mp hacc).2
    simp [hw']

/-- **The two ways of a step.** It leads to a pattern child that accepts the
segment; or no pattern child does, and it leads to the child whose key is the
segment. -/
theorem step_cases {n child : Node H} (h : n.Coherent) {segment : String} {w w' : Walk}
    (hstep : n.step segment w = some (child, w')) :
    child ∈ n.children ∧
      ((Template.isPattern child.key = true ∧ child.accept segment w = some w') ∨
        (child.key = segment ∧ w' = w ∧
          ∀ c ∈ n.children, Template.isPattern c.key = true → c.accept segment w = none)) := by
  rw [step_eq h] at hstep
  rcases Option.or_eq_some_iff.mp hstep with hfound | ⟨hnone, hkey⟩
  · obtain ⟨c, hc, hw⟩ := List.exists_of_findSome?_eq_some hfound
    obtain ⟨hmem, hp⟩ := List.mem_filter.mp hc
    obtain ⟨w₁, hacc, heq⟩ := Option.map_eq_some_iff.mp hw
    cases heq
    exact ⟨hmem, Or.inl ⟨hp, hacc⟩⟩
  · obtain ⟨c, hc, heq⟩ := Option.map_eq_some_iff.mp hkey
    cases heq
    obtain ⟨hmem, hk⟩ := (child?_eq_some_iff h).mp hc
    refine ⟨hmem, Or.inr ⟨hk, rfl, fun c hc hp => ?_⟩⟩
    have := List.findSome?_eq_none_iff.mp hnone c (List.mem_filter.mpr ⟨hc, hp⟩)
    exact Option.map_eq_none_iff.mp this

theorem accept_keeps {P : Walk → Prop}
    (hP : ∀ w name text, P w → P (w.recordGroup name text)) {child : Node H}
    {segment : String} {w w' : Walk} (h : child.accept segment w = some w') (hw : P w) : P w' := by
  unfold accept at h
  split at h
  · cases h
  · split at h
    · cases h
    · split at h
      · obtain ⟨found, -, rfl⟩ := Option.map_eq_some_iff.mp h
        exact Walk.record_keeps hP _ _ hw
      · split at h
        · cases h
          exact hw
        · cases h

theorem exists_of_findSome?_patterns {β : Type} {n : Node H} {g : Node H → Option β} {b : β}
    (h : (n.patterns.findSome? fun position => n.children[position]?.bind g) = some b) :
    ∃ child ∈ n.children, g child = some b := by
  obtain ⟨position, -, hp⟩ := List.exists_of_findSome?_eq_some h
  obtain ⟨child, hget, hchild⟩ := Option.bind_eq_some_iff.mp hp
  exact ⟨child, List.mem_of_getElem? hget, hchild⟩

theorem mem_of_child? {n child : Node H} {key : String} (h : n.child? key = some child) :
    child ∈ n.children := by
  obtain ⟨position, -, hget⟩ := Option.bind_eq_some_iff.mp h
  exact List.mem_of_getElem? hget

theorem accept_of_step {n child : Node H} {segment : String} {w w' : Walk}
    (h : n.step segment w = some (child, w')) :
    child ∈ n.children ∧ (child.accept segment w = some w' ∨ w' = w) := by
  rcases Option.or_eq_some_iff.mp h with hfound | ⟨-, hkey⟩
  · obtain ⟨c, hmem, hw⟩ := exists_of_findSome?_patterns hfound
    obtain ⟨w₁, hacc, heq⟩ := Option.map_eq_some_iff.mp hw
    cases heq
    exact ⟨hmem, Or.inl hacc⟩
  · obtain ⟨c, hc, heq⟩ := Option.map_eq_some_iff.mp hkey
    cases heq
    exact ⟨mem_of_child? hc, Or.inr rfl⟩

/-- What recording one group keeps, a step keeps. -/
theorem step_keeps {P : Walk → Prop}
    (hP : ∀ w name text, P w → P (w.recordGroup name text)) {n child : Node H}
    {segment : String} {w w' : Walk} (h : n.step segment w = some (child, w'))
    (hw : P w) : P w' := by
  rcases (accept_of_step h).2 with hacc | rfl
  · exact accept_keeps hP hacc hw
  · exact hw

theorem segments_step {n child : Node H} {segment : String} {w w' : Walk}
    (hstep : n.step segment w = some (child, w')) : w'.segments = w.segments :=
  step_keeps (P := fun w' => w'.segments = w.segments)
    (fun w' name text h => (w'.segments_recordGroup name text).trans h) hstep rfl

end Node
end Signpost
