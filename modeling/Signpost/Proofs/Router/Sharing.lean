/-
# Routes with the same pattern share its matcher

When a definition is registered its patterns get their matchers, up to the first
segment that does not compile (`Template.patternsBeforeFault`), whether the
definition is taken then or not. So the store of a router has a matcher for just
these patterns of all its definitions (`isSome_get?_after`), and each node of the
trie has the very matcher that the store has for its key (`matcher_of_within`):
an existing node leaves the one that it is offered, which is the same.

Key definitions: `Template.patternsBeforeFault`.
Key theorems: `MatcherStore.isSome_get?_obtainAll`, `Router.isSome_get?_after`,
`Router.numbered_after`, `Node.keyed_of_within`, `Router.matcher_of_within`,
`Router.store_exact_and_shared`.
-/
import Signpost.Proofs.Matcher.Sharing
import Signpost.Proofs.Router.Rejections

namespace Signpost

-- what a segment is, is never looked into here; unfolding it is slow
attribute [local irreducible] Template.isPattern

variable {H : Type}

/-! ### What a store gains -/

namespace Template

/-- The patterns among some segments, up to the first segment that is a pattern and
does not compile. -/
def patternsBeforeFault (segments : List String) : List String :=
  (segments.takeWhile fun segment => (fault? segment).isNone).filter isPattern

theorem patternsBeforeFault_of_fault {segment : String} {e : TemplateError}
    (h : fault? segment = some e) (rest : List String) :
    patternsBeforeFault (segment :: rest) = [] := by
  rw [patternsBeforeFault, List.takeWhile_cons_of_neg (by simp [h]), List.filter_nil]

theorem mem_patternsBeforeFault_cons {segment : String} (h : fault? segment = none)
    (rest : List String) (template : String) :
    template ∈ patternsBeforeFault (segment :: rest) ↔
      (template = segment ∧ isPattern template = true) ∨ template ∈ patternsBeforeFault rest := by
  simp only [patternsBeforeFault, List.mem_filter]
  rw [List.takeWhile_cons_of_pos (by simp [h]), List.mem_cons, or_and_right]

end Template

namespace MatcherStore

theorem fault?_of_obtainFor {s : MatcherStore} (hs : s.Faithful) (segment : String) :
    Template.fault? segment =
      match (s.obtainFor segment).outcome with
      | .ok _ => none
      | .error e => some e := by
  have hanswer := outcome_obtainFor hs segment
  cases ho : (s.obtainFor segment).outcome with
  | error e =>
    rw [ho] at hanswer
    exact Template.compileSegment_eq_error_iff.mp hanswer.symm
  | ok m =>
    rw [ho] at hanswer
    cases hfault : Template.fault? segment with
    | none => rfl
    | some e =>
      rw [Template.compileSegment_eq_error_iff.mpr hfault] at hanswer
      cases hanswer

/-- **What a store gains.** Where some segments are to get their matchers, the store
gains the patterns before the first fault, and no other. -/
theorem isSome_get?_obtainAll : ∀ (segments : List String) {s : MatcherStore}, s.Faithful →
    ∀ template : String, ((s.obtainAll segments).store.get? template).isSome = true ↔
      (s.get? template).isSome = true ∨ template ∈ Template.patternsBeforeFault segments
  | [], s, _, template => (or_iff_left (List.not_mem_nil (a := template))).symm
  | segment :: rest, s, hs, template => by
    have hfault := fault?_of_obtainFor hs segment
    cases ho : (s.obtainFor segment).outcome with
    | error e =>
      rw [ho] at hfault
      rw [obtainAll_cons_error ho, store_obtainFor_of_error hs ho,
        Template.patternsBeforeFault_of_fault hfault]
      exact (or_iff_left List.not_mem_nil).symm
    | ok m =>
      rw [ho] at hfault
      have ih := isSome_get?_obtainAll rest (obtainFor_spec hs segment).1 template
      rw [obtainAll_cons_ok ho, ih, isSome_get?_obtainFor ho, or_assoc,
        Template.mem_patternsBeforeFault_cons hfault]

end MatcherStore

namespace Router

theorem store_add (r : Router H) (d : RouteDefinition H) :
    (r.add d).store = (r.store.obtainAll d.key.segments).store := by
  rw [add]
  cases ho : (r.store.obtainAll (RouteKey.ofRoute d.method d.path).segments).outcome with
  | error e =>
    rw [register_of_error ho]
    rfl
  | ok keys =>
    rw [register_eq_of_ok ho]
    rfl

theorem isSome_get?_after : ∀ (ds : List (RouteDefinition H)) {r : Router H}, r.store.Faithful →
    ∀ template : String, ((after ds r).store.get? template).isSome = true ↔
      (r.store.get? template).isSome = true ∨
        ∃ d ∈ ds, template ∈ Template.patternsBeforeFault d.key.segments
  | [], _, _, template => by simp
  | d :: ds, r, hs, template => by
    rw [after_cons_add, isSome_get?_after ds (faithful_add hs d), store_add,
      MatcherStore.isSome_get?_obtainAll _ hs, or_assoc]
    simp only [List.mem_cons, exists_eq_or_imp]

theorem numbered_after : ∀ (ds : List (RouteDefinition H)) {r : Router H}, r.store.Numbered →
    (after ds r).store.Numbered
  | [], _, h => h
  | d :: ds, r, h => by
    rw [after_cons_add]
    refine numbered_after ds ?_
    rw [store_add]
    exact MatcherStore.Numbered.obtainAll _ h

end Router

/-! ### What the nodes hold -/

/-- What holds of a root holds of every node: its matcher is the right one. -/
theorem Node.keyed_of_within {s : MatcherStore} {d n : Node H} (hd : Within d n)
    (hwell : n.WellFormed s) (hn : s.Keyed n.key n.matcher) : s.Keyed d.key d.matcher := by
  induction hd with
  | refl => exact hn
  | under hmem _ ih =>
    obtain ⟨hfits, hchild⟩ := hwell.child hmem
    exact ih hchild hfits.keyed

namespace Router

variable {ds : List (RouteDefinition H)}

theorem keyed_of_within {n : Node H} (hn : Node.Within n (after ds Router.empty).root) :
    (after ds Router.empty).store.Keyed n.key n.matcher := by
  have hliteral : Template.isPattern "" = false := by decide +kernel
  refine Node.keyed_of_within hn (sound_after ds).wellFormed ?_
  rw [key_root_after ds sound_empty rfl, matcher_root_after ds sound_empty rfl]
  exact MatcherStore.keyed_none _ hliteral

/-- **Each node has the matcher that the store has for its key**, or neither has
one. -/
theorem matcher_of_within {n : Node H} (hn : Node.Within n (after ds Router.empty).root) :
    n.matcher = (after ds Router.empty).store.get? n.key := by
  have hkeyed := keyed_of_within hn
  cases hm : n.matcher with
  | some m => exact (hkeyed.get?_eq m hm).symm
  | none =>
    have hliteral : Template.isPattern n.key = false := by
      rw [← hkeyed.isSome_eq, hm]
      rfl
    -- the store has matchers for patterns only
    cases hget : (after ds Router.empty).store.get? n.key with
    | none => rfl
    | some m =>
      have hsome := (isSome_get?_after ds MatcherStore.faithful_empty n.key).mp
        (Option.isSome_of_eq_some hget)
      rcases hsome with hempty | ⟨d, -, hmem⟩
      · cases hempty
      · have hpattern := (List.mem_filter.mp hmem).2
        rw [hliteral] at hpattern
        cases hpattern

/-- **The store is exact, keeps what it has, and shares it.** Let a new store be asked
for some templates, one after the other. Then it has, under a template, the very
matcher that was the answer each time the template was asked for, and nothing
else; the answer is the compiled template or the error of compiling it; matchers
are told apart by their numbers, and each belongs to one template; whatever is
asked later, nothing is changed or lost; and a template that does not compile
adds nothing.

Let some definitions be registered on the empty router, with whatever success.
Then the store has a matcher for just those patterns that compile and come before
the first fault of a definition, each with a number of its own; and each node of
the trie has a matcher just if its key is a pattern, and then it is the one that
the store has for this key. -/
theorem store_exact_and_shared (templates : List String) (ds : List (RouteDefinition H)) :
    let asked := MatcherStore.obtainEach templates MatcherStore.empty
    let r := after ds Router.empty
    (asked.store.table.keys.Nodup ∧
      (∀ template m,
        asked.store.get? template = some m ↔ (template, .ok m) ∈ asked.answers) ∧
      asked.answers.map (·.1) = templates ∧
      (∀ template outcome, (template, outcome) ∈ asked.answers →
        Template.compile template = outcome.map Matcher.regex) ∧
      (∀ template template' m m', asked.store.get? template = some m →
        asked.store.get? template' = some m' → m.serial = m'.serial → template = template') ∧
      (∀ later, (MatcherStore.obtainEach (templates ++ later) MatcherStore.empty).store.Extends
        asked.store) ∧
      (∀ template e, Template.compile template = .error e →
        asked.store.obtain template = ⟨asked.store, .error e⟩)) ∧
    ((∀ template, (r.store.get? template).isSome = true ↔
        ∃ d ∈ ds, template ∈ Template.patternsBeforeFault d.key.segments) ∧
      (∀ template template' m m', r.store.get? template = some m →
        r.store.get? template' = some m' → m.serial = m'.serial → template = template') ∧
      ∀ n, Node.Within n r.root →
        n.matcher.isSome = Template.isPattern n.key ∧ n.matcher = r.store.get? n.key) := by
  intro asked r
  constructor
  · have hfaith : asked.store.Faithful :=
      MatcherStore.faithful_obtainEach templates MatcherStore.faithful_empty
    have hnumbered : asked.store.Numbered :=
      MatcherStore.numbered_obtainEach templates MatcherStore.numbered_empty
    refine ⟨hnumbered.nodup_keys, fun template m => ?_,
      MatcherStore.map_answers_obtainEach templates _,
      fun template outcome hmem => MatcherStore.compile_of_answer MatcherStore.faithful_empty hmem,
      fun template template' m m' => hnumbered.template_eq, fun later => ?_,
      fun template e => MatcherStore.obtain_of_error hfaith⟩
    · have hget := MatcherStore.get?_obtainEach templates MatcherStore.empty template m
      have hempty : MatcherStore.empty.get? template = none := rfl
      simpa [hempty] using hget
    · rw [MatcherStore.store_obtainEach_append]
      exact MatcherStore.extends_obtainEach later asked.store
  · have hnumbered : r.store.Numbered := numbered_after ds MatcherStore.numbered_empty
    refine ⟨fun template => ?_, fun template template' m m' => hnumbered.template_eq,
      fun n hn => ⟨(keyed_of_within hn).isSome_eq, matcher_of_within hn⟩⟩
    have hget := isSome_get?_after ds (r := Router.empty) MatcherStore.faithful_empty template
    have hempty : (Router.empty : Router H).store.get? template = none := rfl
    simpa [hempty] using hget

/-- A route whose second pattern is of no kind there is, and two routes with the
first one. -/
def halfway : List (RouteDefinition Nat) :=
  [⟨"GET", "/\x7buint:id\x7d/\x7bage:n\x7d/*", 1⟩, ⟨"GET", "/\x7buint:id\x7d", 2⟩,
    ⟨"PUT", "/a/\x7buint:id\x7d", 3⟩]

/-- The pattern before the fault is in the store, and no other; the routes that are
taken share its matcher. -/
theorem store_exact_and_shared_halfway :
    ((after halfway Router.empty).store.get? "\x7buint:id\x7d").isSome = true ∧
      (after halfway Router.empty).store.get? "*" = none ∧
      ∀ n n', Node.Within n (after halfway Router.empty).root →
        Node.Within n' (after halfway Router.empty).root →
        n.key = "\x7buint:id\x7d" → n'.key = "\x7buint:id\x7d" →
        n.matcher = n'.matcher ∧ n.matcher.isSome = true := by
  obtain ⟨-, hstore, -, hnodes⟩ := store_exact_and_shared [] halfway
  have hstored : ((after halfway Router.empty).store.get? "\x7buint:id\x7d").isSome = true :=
    (hstore "\x7buint:id\x7d").mpr (by decide +kernel)
  refine ⟨hstored, ?_, ?_⟩
  · rw [← Option.not_isSome_iff_eq_none, hstore "*"]
    decide +kernel
  · intro n n' hn hn' hkey hkey'
    have hm := (hnodes n hn).2
    have hm' := (hnodes n' hn').2
    rw [hkey] at hm
    rw [hkey'] at hm'
    rw [hm, hm']
    exact ⟨rfl, hstored⟩

end Router
end Signpost
