/-
# What a router has bound

Under the segments of a route the trie of a router has the handler of the last
definition that was taken for them (`handlerAt_after`), so it has an entry for
each route that was taken and no other (`isSome_handlerAt_after`,
`exists_accepted_of_mem`). The root of the trie, with all that is below it, is
what the entries make of an empty trie (`plant_entries_root`).

Key theorems: `Router.handlerAt_after`, `Router.isSome_handlerAt_after`,
`Router.exists_accepted_of_handlerAt`, `Router.handlerAt_of_untouched`,
`Router.exists_accepted_of_mem`, `Router.plant_entries_root`.
-/
import Signpost.Proofs.Router.Rejections
import Signpost.Proofs.Trie.Planting

namespace Signpost

-- what a segment is, is never looked into here; unfolding it is slow
attribute [local irreducible] Template.isPattern

variable {H : Type}

namespace Router

/-- **One definition.** If it is taken, its handler stands under its segments from
then on; nothing else is changed. -/
theorem handlerAt_add {r : Router H} (hsound : r.Sound) (d : RouteDefinition H)
    (segments : List String) :
    (r.add d).root.handlerAt segments =
      if d.fault? = none ∧ d.key.segments = segments then some d.handler
      else r.root.handlerAt segments := by
  obtain ⟨-, hext, hcase⟩ := register_cases hsound.faithful d.method d.path d.handler
  have htaken := outcome_register_eq_ok_iff hsound.faithful d
  rw [add]
  rcases hcase with ⟨keys, hout, hmap, hkeyed, hroot⟩ | ⟨e, hout, hroot, -⟩
  · have hfault : d.fault? = none := htaken.mp hout
    have hread := Node.handlerAt_insert d.handler keys (hsound.wellFormed.mono hext) hkeyed segments
    rw [hroot, hread, hmap]
    simp only [hfault, true_and, eq_comm (a := segments)]
    rfl
  · have hfault : d.fault? ≠ none := by
      rw [ne_eq, ← htaken, hout]
      exact nofun
    rw [hroot, if_neg fun h => hfault h.1]

/-- **All definitions.** Under some segments stands the handler of the last
definition that was taken for them, or else what stood there before. -/
theorem handlerAt_after : ∀ (ds : List (RouteDefinition H)) {r : Router H}, r.Sound →
    ∀ segments : List String, (after ds r).root.handlerAt segments =
      (((accepted ds r).filter fun d => d.key.segments = segments).getLast?.map (·.handler)).or
        (r.root.handlerAt segments)
  | [], _, _, _ => rfl
  | d :: ds, r, hsound, segments => by
    rw [after_cons_add, handlerAt_after ds (hsound.add d), handlerAt_add hsound,
      accepted_eq_filter ds (faithful_add hsound.faithful d),
      accepted_eq_filter (d :: ds) hsound.faithful]
    by_cases htaken : d.fault? = none
    · rw [List.filter_cons_of_pos (by simpa using htaken)]
      by_cases heq : d.key.segments = segments
      · rw [List.filter_cons_of_pos (by simpa using heq), if_pos ⟨htaken, heq⟩, List.getLast?_cons]
        cases (List.filter _ _).getLast? <;> rfl
      · rw [List.filter_cons_of_neg (by simpa using heq), if_neg fun h => heq h.2]
    · rw [List.filter_cons_of_neg (by simpa using htaken), if_neg fun h => htaken h.1]

theorem handlerAt_after_empty (ds : List (RouteDefinition H)) (segments : List String) :
    (after ds Router.empty).root.handlerAt segments =
      ((accepted ds Router.empty).filter fun d => d.key.segments = segments).getLast?.map
        (·.handler) := by
  have hempty : (Router.empty : Router H).root.handlerAt segments = none :=
    Node.handlerAt_leaf "" none 0 segments
  rw [handlerAt_after ds sound_empty, hempty, Option.or_none]

theorem isSome_handlerAt_after (ds : List (RouteDefinition H)) (segments : List String) :
    ((after ds Router.empty).root.handlerAt segments).isSome = true ↔
      ∃ d ∈ accepted ds Router.empty, d.key.segments = segments := by
  rw [handlerAt_after_empty, Option.isSome_map]
  simp

theorem exists_accepted_of_handlerAt {ds : List (RouteDefinition H)} {segments : List String}
    {handler : H} (h : (after ds Router.empty).root.handlerAt segments = some handler) :
    ∃ d ∈ accepted ds Router.empty, d.key.segments = segments ∧ d.handler = handler := by
  rw [handlerAt_after_empty, Option.map_eq_some_iff] at h
  obtain ⟨d, hlast, hhandler⟩ := h
  obtain ⟨hd, hsegments⟩ := List.mem_filter.mp (List.mem_of_getLast? hlast)
  exact ⟨d, hd, of_decide_eq_true hsegments, hhandler⟩

theorem handlerAt_of_untouched {ds : List (RouteDefinition H)} {r : Router H} (hsound : r.Sound)
    {segments : List String} (h : ∀ d ∈ accepted ds r, d.key.segments ≠ segments) :
    (after ds r).root.handlerAt segments = r.root.handlerAt segments := by
  have hnone : ((accepted ds r).filter fun d => d.key.segments = segments) = [] := by
    rw [List.filter_eq_nil_iff]
    intro d hd
    simpa using h d hd
  rw [handlerAt_after ds hsound, hnone]
  rfl

theorem exists_accepted_of_mem {ds : List (RouteDefinition H)} {e : Entry H}
    (he : e ∈ (after ds Router.empty).root.entries) :
    ∃ d ∈ accepted ds Router.empty, d.key.segments = e.segments := by
  have hread := (Node.handlerAt_eq_some_iff (sound_after ds).wellFormed).mpr ⟨e, he, rfl, rfl⟩
  obtain ⟨d, hd, hsegments, -⟩ := exists_accepted_of_handlerAt hread
  exact ⟨d, hd, hsegments⟩

/-- The trie of a router is what its entries make of an empty one. -/
theorem plant_entries_root (ds : List (RouteDefinition H)) :
    Node.plant (after ds Router.empty).root.entries Node.root = (after ds Router.empty).root := by
  have hsound := sound_after (H := H) ds
  have hindexed : (after ds (Router.empty : Router H)).root.Indexed :=
    root_after_keeps (P := Node.Indexed) (fun handler keys => Node.Indexed.insert handler keys) ds
      sound_empty (Node.indexed_leaf "" none 0)
  have hkey : (after ds (Router.empty : Router H)).root.key = "" := key_root_after ds sound_empty rfl
  have hplant := Node.plant_entries _ hsound.wellFormed hindexed
  rwa [hkey, matcher_root_after ds sound_empty rfl, hsound.depth_root] at hplant

end Router
end Signpost
