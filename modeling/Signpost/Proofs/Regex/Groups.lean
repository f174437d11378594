/-
# Groups that take part in a match

Marks are only ever added on a way through an expression (`Spans.marks_suffix`),
so what is known of a group in one part of a sequence is known of the whole: a
group that is one of the parts takes part in every match
(`isSome_groupSpan_of_mem`).

Key theorems: `Expr.Spans.marks_suffix`, `Expr.isSome_groupSpan_of_mem`,
`Expr.head?_groupNames`, `groups_of_captures?`.
-/
import Signpost.Proofs.Regex.Code
import Signpost.Regex.Basic

namespace Signpost
namespace Regex

variable {text : Array Char}

namespace Expr

theorem Spans.marks_suffix : ∀ {e : Expr} {a b : Spot}, Spans text e a b → a.marks <:+ b.marks
  | empty, a, b, h => by
    rw [show b = a from h]
  | set _ _, a, b, ⟨_, _, _, hb⟩ => by
    rw [hb]
    exact List.suffix_refl a.marks
  | assertion _, a, b, ⟨_, hb⟩ => by
    rw [hb]
  | seq e f, _, _, ⟨_, he, hf⟩ => he.marks_suffix.trans hf.marks_suffix
  | alt e f, _, _, h => by
    rcases h with h | h
    · exact h.marks_suffix
    · exact h.marks_suffix
  | rep e least most _, a, b, ⟨n, _, _, h⟩ =>
    h.keep (P := fun c => a.marks <:+ c.marks)
      (fun hcd hc => hc.trans (Spans.marks_suffix hcd)) (List.suffix_refl _)
  | group i _ e, a, b, ⟨c, hc, hb⟩ => by
    have hin : (a.mark (2 * i)).marks <:+ c.marks := hc.marks_suffix
    rw [hb]
    exact ((List.suffix_cons _ _).trans hin).trans (List.suffix_cons _ _)

theorem SpansAll.marks_suffix : ∀ {es : List Expr} {a b : Spot}, SpansAll text es a b →
    a.marks <:+ b.marks
  | [], a, b, h => by
    rw [show b = a from h]
  | _ :: _, _, _, ⟨_, hc, h⟩ => hc.marks_suffix.trans h.marks_suffix

theorem isSome_groupSpan {i : Nat} {u v : Nat} {marks : List (Nat × Nat)}
    (hstart : (2 * i, u) ∈ marks) (hstop : (2 * i + 1, v) ∈ marks) :
    (groupSpan marks i).isSome = true := by
  have hset : ∀ {k w : Nat}, (k, w) ∈ marks → ∃ w', marks.lookup k = some w' := fun hmem =>
    Option.isSome_iff_exists.mp (List.lookup_isSome_iff.mpr ⟨_, hmem, beq_self_eq_true _⟩)
  obtain ⟨start, hstart⟩ := hset hstart
  obtain ⟨stop, hstop⟩ := hset hstop
  unfold groupSpan
  rw [hstart, hstop]
  rfl

/-- A group that was passed holds a part of the text from then on. -/
theorem Spans.isSome_groupSpan {i : Nat} {name : Option String} {e : Expr} {a b : Spot}
    (h : Spans text (.group i name e) a b) {marks : List (Nat × Nat)} (hlater : b.marks <:+ marks) :
    (groupSpan marks i).isSome = true := by
  obtain ⟨c, hc, rfl⟩ := h
  have hstop : (2 * i + 1, c.position) ∈ (c.mark (2 * i + 1)).marks := List.mem_cons_self
  have hstart : (2 * i, a.position) ∈ (c.mark (2 * i + 1)).marks :=
    List.mem_cons_of_mem _ (hc.marks_suffix.subset List.mem_cons_self)
  exact Expr.isSome_groupSpan (hlater.subset hstart) (hlater.subset hstop)

/-- A group that is a part of a sequence takes part in every match. -/
theorem isSome_groupSpan_of_mem {i : Nat} {name : Option String} {e : Expr} :
    ∀ {es : List Expr} {a b : Spot}, SpansAll text es a b → .group i name e ∈ es →
      (groupSpan b.marks i).isSome = true
  | f :: fs, a, b, ⟨c, hc, h⟩, hmem => by
    rcases List.mem_cons.mp hmem with heq | hmem
    · rw [← heq] at hc
      exact hc.isSome_groupSpan h.marks_suffix
    · exact isSome_groupSpan_of_mem h hmem

theorem head?_groupNames {e : Expr} {name : Option String} {gs : List (Nat × Option String)}
    (h : e.groups = (1, name) :: gs) : e.groupNames.head? = some name := by
  have hle : 1 ≤ (e.groups.map (·.1)).foldl max 0 := by
    rw [h, List.map_cons, List.foldl_cons, List.foldl_max]
    exact Nat.le_max_left 1 _
  obtain ⟨k, hk⟩ := Nat.exists_eq_add_of_le' hle
  show ((List.range ((e.groups.map (·.1)).foldl max 0)).map
    fun i => (e.groups.lookup (i + 1)).join).head? = some name
  rw [hk, List.range_succ_eq_map, h]
  rfl

end Expr

/-- What a match says of the first group, if the expression has it as a part
and no other comes before it. -/
theorem groups_of_captures? {r : Regex} {es : List Expr} {name : Option String} {e : Expr}
    {gs : List (Nat × Option String)} (hexpr : r.expr = .sequence es) (hmem : .group 1 name e ∈ es)
    (hgroups : r.expr.groups = (1, name) :: gs) {text : String} {found : Match}
    (h : r.captures? text = some found) :
    ∃ names value values, r.groupNames = name :: names ∧ found.groups = some value :: values := by
  obtain ⟨names, hnames⟩ : ∃ names, r.groupNames = name :: names :=
    List.head?_eq_some_iff.mp (Expr.head?_groupNames hgroups)
  unfold captures? at h
  obtain ⟨⟨start, t⟩, hrun, rfl⟩ := Option.map_eq_some_iff.mp h
  rw [r.program_eq] at hrun
  obtain ⟨-, hspans⟩ := Expr.run_spans hrun
  rw [hexpr] at hspans
  have hgroup := Expr.isSome_groupSpan_of_mem (Expr.spans_sequence.mp hspans) hmem
  obtain ⟨span, hspan⟩ := Option.isSome_iff_exists.mp hgroup
  have hfirst : (matchOf text.toList.toArray (names.length + 1) start t).groups.head? =
      some (some (slice text.toList.toArray span.1 span.2)) := by
    unfold matchOf
    rw [List.range_succ_eq_map, List.map_cons, Nat.zero_add,
      show groupSpan t.marks 1 = some span from hspan]
    rfl
  obtain ⟨values, hvalues⟩ := List.head?_eq_some_iff.mp hfirst
  refine ⟨names, slice text.toList.toArray span.1 span.2, values, hnames, ?_⟩
  rw [hnames]
  exact hvalues

theorem length_groups {r : Regex} {text : String} {found : Match}
    (h : r.captures? text = some found) : found.groups.length = r.groupNames.length := by
  obtain ⟨⟨start, t⟩, -, rfl⟩ := Option.map_eq_some_iff.mp h
  simp [matchOf]

end Regex
end Signpost
